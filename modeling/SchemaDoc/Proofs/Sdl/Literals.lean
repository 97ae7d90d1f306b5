-- SUMMARY: Strings and integers are read back from their literals.
import SchemaDoc.Proofs.Sdl.Lexing
import SchemaDoc.Sdl.Grammar

/-!
# Literals of one token

The literal of a string is one token, and the escapes in it stand for the
characters that were escaped, if they are read with the letters of the language.
The literal of an integer is one token too, and has its digits.
-/

namespace SchemaDoc.Sdl

/-! ## Escapes -/

/-- Whether a character stands for itself between quotes. -/
def isPlain (c : Char) : Bool :=
  c != '"' && c != '\\' && c != '\n'

/-- Codes are written for few characters, so that all of them can be checked. -/
theorem escapeCode_table : ∀ n < 128,
    decodeCode ((escapeCode (Char.ofNat n)).drop 2) = some (Char.ofNat n) ∧
      ((escapeCode (Char.ofNat n)).drop 2).all isPlain = true := by
  decide

theorem decodeCode_escapeCode {c : Char} (h : c.toNat < 128) :
    decodeCode ((escapeCode c).drop 2) = some c ∧ ((escapeCode c).drop 2).all isPlain = true := by
  have htable := escapeCode_table c.toNat h
  rw [Char.ofNat_toNat] at htable
  exact htable

/-- What escaping makes of a character. -/
inductive Escaped (c : Char) : List Char → Prop where
  | itself (h : isPlain c = true) : Escaped c [c]
  | letter {d : Char} (hd : d ≠ '\n') (hu : d ≠ 'u') (h : standardLetters d = some c) : Escaped c ['\\', d]
  | code {w x y z : Char} (h : decodeCode [w, x, y, z] = some c) (hplain : [w, x, y, z].all isPlain = true) :
    Escaped c ['\\', 'u', w, x, y, z]

theorem escaped_escapeChar (c : Char) : Escaped c (escapeChar c) := by
  unfold escapeChar
  split
  · next h => exact .letter (by decide) (by decide) (by rw [h]; rfl)
  split
  · next h => exact .letter (by decide) (by decide) (by rw [h]; rfl)
  split
  · next h => exact .letter (by decide) (by decide) (by rw [h]; rfl)
  split
  · next h => exact .letter (by decide) (by decide) (by rw [h]; rfl)
  split
  · next h => exact .letter (by decide) (by decide) (by rw [h]; rfl)
  split
  · next h => exact .letter (by decide) (by decide) (by rw [h]; rfl)
  split
  · next h => exact .letter (by decide) (by decide) (by rw [h]; rfl)
  split
  · next h =>
    have hlow : c.toNat < 128 := by
      simp only [Bool.or_eq_true, decide_eq_true_eq, beq_iff_eq] at h
      omega
    obtain ⟨hdecode, hplain⟩ := decodeCode_escapeCode hlow
    exact .code hdecode hplain
  · next hquote hbackslash hfeed _ _ _ _ _ => exact .itself (by simp [isPlain, hquote, hbackslash, hfeed])

/-- An escape is read as the character that was escaped. -/
theorem Escaped.unescape {c : Char} {cs : List Char} (h : Escaped c cs) (rest : List Char) :
    unescape standardLetters (cs ++ rest) = (unescape standardLetters rest).map (c :: ·) := by
  cases h with
  | itself h =>
    simp only [isPlain, Bool.and_eq_true, bne_iff_ne] at h
    rw [List.singleton_append, Sdl.unescape]
    · cases Sdl.unescape standardLetters rest <;> rfl
    all_goals simp [h]
  | letter hd hu h =>
    rw [List.cons_append, List.singleton_append, Sdl.unescape]
    · rw [h]
      cases Sdl.unescape standardLetters rest <;> rfl
    · simp [hu]
  | code h _ =>
    simp only [List.cons_append, List.nil_append, Sdl.unescape, h]
    cases Sdl.unescape standardLetters rest <;> rfl

theorem unescape_flatMap (cs : List Char) :
    unescape standardLetters (cs.flatMap escapeChar) = some cs := by
  induction cs with
  | nil => rfl
  | cons c cs ih =>
    rw [List.flatMap_cons, (escaped_escapeChar c).unescape, ih]
    rfl

/-! ## Strings -/

theorem stringBody_plain {c : Char} (h : isPlain c = true) (cs : List Char) :
    stringBody false (c :: cs) = (stringBody false cs).map (c :: ·) := by
  simp only [isPlain, Bool.and_eq_true, bne_iff_ne] at h
  obtain ⟨⟨hquote, hbackslash⟩, hfeed⟩ := h
  have hescape : (c == '\\') = false := beq_false_of_ne hbackslash
  simp only [stringBody, hquote, hfeed, hescape, false_and, if_false, Bool.and_false]

/-- The character after a backslash does not end a string. -/
theorem stringBody_escape {d : Char} (h : d ≠ '\n') (cs : List Char) :
    stringBody false ('\\' :: d :: cs) = (stringBody false cs).map ('\\' :: d :: ·) := by
  simp only [stringBody, h, if_false, Bool.not_false, Bool.not_true, Bool.false_eq_true, and_false,
    Bool.false_and, beq_self_eq_true, Bool.and_self, Option.map_map, show ¬ '\\' = '"' by decide,
    show ¬ '\\' = '\n' by decide, false_and]
  rfl

theorem Escaped.stringBody {c : Char} {cs : List Char} (h : Escaped c cs) (rest : List Char) :
    stringBody false (cs ++ rest) = (stringBody false rest).map (cs ++ ·) := by
  cases h with
  | itself h => exact stringBody_plain h rest
  | letter hd _ _ => exact stringBody_escape hd rest
  | code _ hplain =>
    simp only [List.all_cons, List.all_nil, Bool.and_true, Bool.and_eq_true] at hplain
    obtain ⟨hw, hx, hy, hz⟩ := hplain
    simp only [List.cons_append, List.nil_append]
    rw [stringBody_escape (by decide), stringBody_plain hw, stringBody_plain hx, stringBody_plain hy,
      stringBody_plain hz]
    simp only [Option.map_map, Function.comp_def]

theorem stringBody_flatMap (cs rest : List Char) :
    stringBody false (cs.flatMap escapeChar ++ '"' :: rest) = some (cs.flatMap escapeChar) := by
  induction cs with
  | nil => rfl
  | cons c cs ih =>
    rw [List.flatMap_cons, List.append_assoc, (escaped_escapeChar c).stringBody, ih]
    rfl

/-- No escape starts with a quote. -/
theorem Escaped.head?_ne_quote {c : Char} {cs : List Char} (h : Escaped c cs) : cs.head? ≠ some '"' := by
  cases h with
  | itself h =>
    simp only [isPlain, Bool.and_eq_true, bne_iff_ne] at h
    simpa using h.1.1
  | letter _ _ _ => simp
  | code _ _ => simp

theorem Writes.string (room : Nat) (cs : List Char) :
    Writes room (quoteChars cs) [.string (cs.flatMap escapeChar)] := by
  intro rest after hrest hafter
  -- Three quotes would start a block string: the empty string is followed by no quote.
  have hquotes : ∀ tail, cs.flatMap escapeChar ++ '"' :: rest ≠ '"' :: '"' :: tail := by
    intro tail heq
    cases cs with
    | nil =>
      cases rest with
      | nil => simp at heq
      | cons d rest =>
        simp only [List.flatMap_nil, List.nil_append, List.cons.injEq, true_and] at heq
        rw [heq.1] at hrest
        exact absurd (delimited_cons.1 hrest) (by decide)
    | cons c cs =>
      have hhead := (escaped_escapeChar c).head?_ne_quote
      cases hescape : escapeChar c with
      | nil => cases hescape ▸ escaped_escapeChar c
      | cons d tail' =>
        rw [hescape, List.head?_cons] at hhead
        rw [List.flatMap_cons, hescape, List.cons_append, List.cons_append, List.cons.injEq] at heq
        exact hhead (congrArg some heq.1)
  have hbody := stringBody_flatMap cs rest
  have hlexeme : lexeme? '"' ((cs.flatMap escapeChar ++ ['"']) ++ rest) =
      some (.string (cs.flatMap escapeChar), (cs.flatMap escapeChar ++ ['"']).length) := by
    rw [List.append_assoc, List.singleton_append]
    unfold lexeme?
    rw [if_neg (by decide), if_neg (by decide), if_pos rfl]
    split
    · next tail heq => exact absurd heq (hquotes tail)
    · rw [hbody]
      simp
  exact Scans.token (by decide) hlexeme rfl hafter

/-! ## Integers -/

/-- What the lexer asks of the first and the further characters of a number. -/
theorem digit_table : ∀ n < 58, (Char.ofNat n).isDigit = true →
    isNameStart (Char.ofNat n) = false ∧ isIgnored (Char.ofNat n) = false ∧
      endsNumber (Char.ofNat n) = false ∧
      (Char.ofNat n == '.' || isExponentMark (Char.ofNat n)) = false ∧
      Char.ofNat n ≠ '-' ∧ Char.ofNat n ≠ '+' := by
  decide

theorem digit_facts {c : Char} (h : c.isDigit = true) :
    isNameStart c = false ∧ isIgnored c = false ∧ endsNumber c = false ∧
      (c == '.' || isExponentMark c) = false ∧ c ≠ '-' ∧ c ≠ '+' := by
  have hlow : c.toNat < 58 := by
    simp only [Char.isDigit, Bool.and_eq_true, decide_eq_true_eq] at h
    exact Nat.lt_succ_of_le h.2
  have htable := digit_table c.toNat hlow
  rw [Char.ofNat_toNat] at htable
  exact htable h

/-- A run of characters that forms a number is one token. -/
theorem Writes.number (room : Nat) {c : Char} {body : List Char} {l : Lexeme} (hc : c = '-' ∨ c.isDigit = true)
    (hbody : ∀ d ∈ body, endsNumber d = false) (hnumber : Lexeme.ofNumber? (c :: body) = some l)
    (hroom : roomAfter room l = some room) : Writes room (c :: body) [l] := by
  intro rest after hrest hafter
  have hfacts : isNameStart c = false ∧ isIgnored c = false := by
    rcases hc with rfl | hc
    · decide
    · exact ⟨(digit_facts hc).1, (digit_facts hc).2.1⟩
  have hrun : (body ++ rest).takeWhile (!endsNumber ·) = body := by
    refine takeWhile_append_of_stop (fun d hd => ?_) (fun d hd => ?_)
    · rw [hbody d hd, Bool.not_false]
    · rw [hrest d hd, Bool.not_true]
  have hlexeme : lexeme? c (body ++ rest) = some (l, body.length) := by
    simp only [lexeme?, hfacts.1, Bool.false_eq_true, if_false, hc, if_true, hrun, hnumber, Option.map_some]
  exact Scans.token hfacts.2 hlexeme hroom hafter

theorem Lexeme.ofNumber?_int {cs : List Char} (hplain : ∀ c ∈ cs, (c == '.' || isExponentMark c) = false)
    (hint : isIntText cs = true) : Lexeme.ofNumber? cs = some (.int cs) := by
  have hnofraction : cs.any (fun c => c == '.' || isExponentMark c) = false := by
    rw [List.any_eq_false]
    intro c hc
    rw [hplain c hc]
    exact Bool.false_ne_true
  simp only [Lexeme.ofNumber?, hnofraction, Bool.false_eq_true, if_false, hint, if_true]

/-- A run of digits, before which a minus sign may stand, is one token. -/
theorem Writes.intText (room : Nat) {c : Char} {body : List Char} (hc : c = '-' ∨ c.isDigit = true)
    (hbody : ∀ d ∈ body, d.isDigit = true) (hint : isIntText (c :: body) = true) :
    Writes room (c :: body) [.int (c :: body)] := by
  have hfirst : (c == '.' || isExponentMark c) = false := by
    rcases hc with rfl | hc
    · rfl
    · exact (digit_facts hc).2.2.2.1
  have hplain : ∀ d ∈ c :: body, (d == '.' || isExponentMark d) = false :=
    List.forall_mem_cons.2 ⟨hfirst, fun d hd => (digit_facts (hbody d hd)).2.2.2.1⟩
  exact number room hc (fun d hd => (digit_facts (hbody d hd)).2.2.1) (Lexeme.ofNumber?_int hplain hint) rfl

/-- The digits of a positive number do not start with a zero. -/
theorem head?_toDigits {n : Nat} (h : 0 < n) : (Nat.toDigits 10 n).head? ≠ some '0' := by
  induction n using Nat.strongRecOn with
  | ind n ih =>
    rw [Nat.toDigits_eq_if (by decide)]
    split
    · next hlow =>
      have htable : ∀ m < 10, 0 < m → m.digitChar ≠ '0' := by decide
      simpa using htable n hlow h
    · next hhigh =>
      have hhead := ih (n / 10) (by omega) (by omega)
      obtain ⟨d, ds, hds⟩ := List.exists_cons_of_ne_nil (Nat.toDigits_ne_nil (n := n / 10) (b := 10))
      rw [hds] at hhead ⊢
      exact hhead

theorem isDigit_of_mem_toDigits {n : Nat} : ∀ d ∈ Nat.toDigits 10 n, d.isDigit = true :=
  fun _ hd => Nat.isDigit_of_mem_toDigits (by decide) (by decide) hd

/-- Digits are an integer after anything but a zero, and after a minus sign if they start with none. -/
theorem isIntText_cons {c : Char} {cs : List Char} (hzero : c ≠ '0')
    (hminus : c = '-' → cs ≠ [] ∧ cs.head? ≠ some '0') (hcs : ∀ d ∈ cs, d.isDigit = true) :
    isIntText (c :: cs) = true := by
  unfold isIntText
  split
  · rfl
  · rfl
  · next h => exact absurd (List.cons.inj h).1 hzero
  · next h =>
    obtain ⟨rfl, rfl⟩ := List.cons.inj h
    exact absurd rfl (hminus rfl).2
  · next h =>
    obtain ⟨rfl, rfl⟩ := List.cons.inj h
    exact absurd rfl (hminus rfl).1
  · next h =>
    obtain ⟨rfl, rfl⟩ := List.cons.inj h
    exact List.all_eq_true.2 hcs
  · next h => cases h

/-- The characters of an integer. -/
def intChars (n : Int) : List Char :=
  if 0 ≤ n then Nat.toDigits 10 n.toNat else '-' :: Nat.toDigits 10 (-n).toNat

theorem toList_toString_int (n : Int) : (toString n).toList = intChars n := by
  show n.repr.toList = _
  have hnat (m : Nat) : m.repr.toList = Nat.toDigits 10 m := by
    rw [← Nat.toString_eq_repr, Nat.toString_eq_ofList_toDigits, String.toList_ofList]
  rw [Int.repr_eq_if, intChars]
  split
  · exact hnat _
  · rw [String.toList_append, hnat]
    rfl

theorem Writes.int (room : Nat) (n : Int) : Writes room (intChars n) [.int (intChars n)] := by
  unfold intChars
  split
  · rcases Nat.eq_zero_or_pos n.toNat with hzero | hpos
    · rw [hzero]
      exact intText room (.inr rfl) (by simp) rfl
    · obtain ⟨d, ds, hds⟩ := List.exists_cons_of_ne_nil (Nat.toDigits_ne_nil (n := n.toNat) (b := 10))
      have hdigits := isDigit_of_mem_toDigits (n := n.toNat)
      have hhead := head?_toDigits hpos
      rw [hds, List.forall_mem_cons] at hdigits
      rw [hds, List.head?_cons] at hhead
      have hminus : d = '-' → ds ≠ [] ∧ ds.head? ≠ some '0' :=
        fun h => absurd h (digit_facts hdigits.1).2.2.2.2.1
      rw [hds]
      exact intText room (.inr hdigits.1) hdigits.2
        (isIntText_cons (fun h => hhead (congrArg some h)) hminus hdigits.2)
  · next hneg =>
    have hpos : 0 < (-n).toNat := by omega
    exact intText room (.inl rfl) isDigit_of_mem_toDigits
      (isIntText_cons (by decide) (fun _ => ⟨Nat.toDigits_ne_nil, head?_toDigits hpos⟩)
        isDigit_of_mem_toDigits)

theorem digitsValue_toDigits (n : Nat) : digitsValue (Nat.toDigits 10 n) = n :=
  Nat.ofDigitChars_ten_toDigits

/-- Digits have no sign. -/
theorem splitSign_digits {cs : List Char} (h : ∀ d ∈ cs, d.isDigit = true) : splitSign cs = (false, cs) := by
  unfold splitSign
  split
  · rw [List.forall_mem_cons] at h
    cases h.1
  · rw [List.forall_mem_cons] at h
    cases h.1
  · rfl

/-- An integer of 64 bits is read back from its characters. -/
theorem intValue_intChars {n : Int} (hlow : -0x8000000000000000 ≤ n) (hhigh : n < 0x8000000000000000) :
    intValue (intChars n) = some n := by
  have hvalue : signed (splitSign (intChars n)).1 (digitsValue (splitSign (intChars n)).2) = n := by
    unfold intChars
    split
    · next hpos =>
      rw [splitSign_digits isDigit_of_mem_toDigits, digitsValue_toDigits]
      exact Int.toNat_of_nonneg hpos
    · next hneg =>
      simp only [splitSign, digitsValue_toDigits, signed, if_true]
      omega
  simp only [intValue, hvalue, hlow, hhigh, and_self, if_true]

end SchemaDoc.Sdl
