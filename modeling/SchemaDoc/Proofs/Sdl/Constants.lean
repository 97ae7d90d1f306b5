-- SUMMARY: The grammar of constants on lexemes, and texts that are one constant.
import Mathlib.Tactic.Choose
import SchemaDoc.Proofs.Number.Positional
import SchemaDoc.Proofs.Sdl.ValueText

/-!
# Constants

A constant is a name, a number, a string, or a list or an object of constants. A
text is one constant if its lexemes are, from its first character to its last.
Texts of constants are put together like constants themselves: each law below
gives the text of one form from the texts of its parts.
-/

namespace SchemaDoc.Sdl

/-! ## The grammar -/

/-- The lexemes of one constant; a string has no control characters and no unreadable escapes. -/
inductive Constant : List Lexeme → Prop where
  | name (text : String) : Constant [.name text]
  | int (cs : List Char) : Constant [.int cs]
  | float (cs : List Char) : Constant [.float cs]
  | string {raw : List Char} (hplain : ∀ c ∈ raw, 0x20 ≤ c.toNat)
    (hescapes : (unescape standardLetters raw).isSome = true) : Constant [.string raw]
  | blockString (raw : List Char) : Constant [.blockString raw]
  | list {items : List (List Lexeme)} (h : ∀ item ∈ items, Constant item) :
    Constant (.mark '[' :: items.flatten ++ [.mark ']'])
  | object {entries : List (String × List Lexeme)} (h : ∀ entry ∈ entries, Constant entry.2) :
    Constant (.mark '\x7b' :: entries.flatMap (fun entry => .name entry.1 :: .mark ':' :: entry.2) ++
      [.mark '\x7d'])

/-- The text is read to its end, and is one constant. -/
structure IsConstant (text : String) : Prop where
  scans : Scans text.length text.toList (lexemesOf text)
  constant : Constant (lexemesOf text)

/-- The characters are those of one constant, wherever they stand. -/
def Spells (cs : List Char) (ls : List Lexeme) : Prop :=
  Constant ls ∧ ∀ room, ls.length ≤ room → Writes room cs ls

/-- A text opens no more brackets than it has characters. -/
theorem Spells.scans {text : String} {ls : List Lexeme} (h : Spells text.toList ls) :
    Scans text.length text.toList ls := by
  have hlength : ls.length ≤ text.length := by
    obtain ⟨-, htokens⟩ := (h.2 ls.length (Nat.le_refl _)).scans .start
    rw [← htokens, List.length_map]
    exact length_tokens_le ls.length .start text.toList
  exact (h.2 _ hlength).scans

theorem Spells.lexemesOf_eq {text : String} {ls : List Lexeme} (h : Spells text.toList ls) : lexemesOf text = ls :=
  (h.scans .start).2

theorem Spells.isConstant {text : String} {ls : List Lexeme} (h : Spells text.toList ls) : IsConstant text := by
  obtain rfl := h.lexemesOf_eq
  exact ⟨h.scans, h.1⟩

/-! ## Constants of one token -/

theorem Spells.name {text : String} (h : isName text = true) : Spells text.toList [.name text] :=
  ⟨.name text, fun _ _ => Writes.name h⟩

theorem Spells.int (n : Int) : Spells (intChars n) [.int (intChars n)] :=
  ⟨.int _, fun room _ => Writes.int room n⟩

/-- What holds of the first characters, one by one, and of all others at once, holds of every character. -/
theorem forall_char {P : Char → Prop} (hlow : ∀ n < 128, P (Char.ofNat n)) (hhigh : ∀ c, 128 ≤ c.toNat → P c)
    (c : Char) : P c := by
  rcases Nat.lt_or_ge c.toNat 128 with hc | hc
  · have htable := hlow c.toNat hc
    rwa [Char.ofNat_toNat] at htable
  · exact hhigh c hc

theorem escapeChar_of_high {c : Char} (h : 128 ≤ c.toNat) : escapeChar c = [c] := by
  have hne : ∀ d : Char, d.toNat < 128 → c ≠ d := by
    rintro d hd rfl
    omega
  have hcontrol : ¬ (c.toNat < 0x20 || c.toNat == 0x7F) = true := by
    simp only [Bool.or_eq_true, decide_eq_true_eq, beq_iff_eq]
    omega
  rw [escapeChar, if_neg (hne _ (by decide)), if_neg (hne _ (by decide)), if_neg (hne _ (by decide)),
    if_neg (hne _ (by decide)), if_neg (hne _ (by decide)), if_neg (hne _ (by decide)),
    if_neg (hne _ (by decide)), if_neg hcontrol]

/-- Escapes are written with printable characters only. -/
theorem printable_escapeChar (c : Char) : ∀ d ∈ escapeChar c, 0x20 ≤ d.toNat := by
  have hall : (escapeChar c).all (fun d => decide (0x20 ≤ d.toNat)) = true := by
    refine forall_char (P := fun c => (escapeChar c).all (fun d => decide (0x20 ≤ d.toNat)) = true) (by decide) ?_ c
    intro c hc
    rw [escapeChar_of_high hc, List.all_cons, List.all_nil, Bool.and_true, decide_eq_true_eq]
    omega
  exact fun d hd => of_decide_eq_true (List.all_eq_true.1 hall d hd)

theorem Spells.quote (s : String) : Spells (quote s).toList [.string (s.toList.flatMap escapeChar)] := by
  refine ⟨.string ?_ (by rw [unescape_flatMap]; rfl), fun room _ => ?_⟩
  · intro d hd
    obtain ⟨c, -, hc⟩ := List.mem_flatMap.1 hd
    exact printable_escapeChar c d hc
  · rw [Sdl.quote, String.toList_ofList]
    exact Writes.string room s.toList

/-! ### Numbers -/

open Binary64

theorem splitLast_eq_none {p : Char → Bool} {cs : List Char} (h : ∀ c ∈ cs, p c = false) :
    splitLast p cs = none := by
  induction cs with
  | nil => rfl
  | cons c cs ih =>
    rw [List.forall_mem_cons] at h
    rw [splitLast, ih h.2]
    simp only [h.1, Bool.false_eq_true, if_false]

/-- The last character of a kind is the one that none of the kind follows. -/
theorem splitLast_append {p : Char → Bool} {c : Char} (before : List Char) {after : List Char} (hc : p c = true)
    (hafter : ∀ d ∈ after, p d = false) : splitLast p (before ++ c :: after) = some (before, after) := by
  induction before with
  | nil =>
    rw [List.nil_append, splitLast, splitLast_eq_none hafter]
    simp only [hc, if_true]
  | cons d before ih => rw [List.cons_append, splitLast, ih]

/-- A numeral with a sign is an integer. -/
theorem isIntText_numeral (negative : Bool) {cs : List Char} (h : Numeral cs) :
    isIntText (signChars negative ++ cs) = true := by
  rcases h.leading with rfl | hhead
  · cases negative <;> rfl
  · cases negative
    · obtain ⟨d, ds, rfl⟩ := List.exists_cons_of_ne_nil h.nonempty
      have hdigits := List.forall_mem_cons.1 h.digits
      have hzero : d ≠ '0' := fun hd => hhead (congrArg some hd)
      have hminus : d = '-' → ds ≠ [] ∧ ds.head? ≠ some '0' :=
        fun hd => absurd hd (digit_facts hdigits.1).2.2.2.2.1
      exact isIntText_cons hzero hminus hdigits.2
    · exact isIntText_cons (by decide) (fun _ => ⟨h.nonempty, hhead⟩) h.digits

/-- A numeral with a sign has no character that marks a fraction. -/
theorem fractionless_numeral (negative : Bool) {cs : List Char} (h : Numeral cs) :
    ∀ c ∈ signChars negative ++ cs, (c == '.' || isExponentMark c) = false := by
  intro c hc
  rcases List.mem_append.1 hc with hsign | hdigit
  · cases negative
    · cases hsign
    · rw [List.mem_singleton.1 hsign]
      rfl
  · exact (digit_facts (h.digits c hdigit)).2.2.2.1

/-- A number in positional notation is an integer or has a fraction. -/
theorem exists_ofNumber?_positional (negative : Bool) {cs : List Char} (h : Positional cs) :
    ∃ l, Lexeme.ofNumber? (signChars negative ++ cs) = some l ∧ Constant [l] ∧
      ∀ room, roomAfter room l = some room := by
  cases h with
  | whole h =>
    have hnumber := Lexeme.ofNumber?_int (fractionless_numeral negative h) (isIntText_numeral negative h)
    exact ⟨_, hnumber, .int _, fun _ => rfl⟩
  | @fraction cs ds h hne hds =>
    have hpoint : (signChars negative ++ (cs ++ '.' :: ds)).any (fun c => c == '.' || isExponentMark c) = true :=
      List.any_eq_true.2 ⟨'.', by simp, rfl⟩
    have hdigits : ∀ d ∈ ds, (d == '.') = false ∧ isExponentMark d = false := fun d hd =>
      Bool.or_eq_false_iff.1 (digit_facts (hds d hd)).2.2.2.1
    have hexponent : splitLast isExponentMark (signChars negative ++ (cs ++ '.' :: ds)) = none := by
      rw [← List.append_assoc]
      refine splitLast_eq_none (List.forall_mem_append.2 ⟨fun c hc => ?_, ?_⟩)
      · exact (Bool.or_eq_false_iff.1 (fractionless_numeral negative h c hc)).2
      · exact List.forall_mem_cons.2 ⟨rfl, fun d hd => (hdigits d hd).2⟩
    have hmantissa : splitLast (· == '.') (signChars negative ++ (cs ++ '.' :: ds)) =
        some (signChars negative ++ cs, ds) := by
      rw [← List.append_assoc]
      exact splitLast_append _ rfl fun d hd => (hdigits d hd).1
    have hfraction : allDigits ds = true := List.all_eq_true.2 hds
    have hnonempty : ds.isEmpty = false := List.isEmpty_eq_false_iff.2 hne
    refine ⟨.float (signChars negative ++ (cs ++ '.' :: ds)), ?_, .float _, fun _ => rfl⟩
    simp only [Lexeme.ofNumber?, hpoint, if_true, isFloatText, hexponent, isMantissaText, hmantissa,
      isIntText_numeral negative h, hfraction, hnonempty, Bool.not_false, Bool.and_self]

/-- A number in positional notation starts with its sign or a digit and runs on to its end. -/
theorem exists_cons_positional (negative : Bool) {cs : List Char} (h : Positional cs) :
    ∃ c body, signChars negative ++ cs = c :: body ∧ (c = '-' ∨ c.isDigit = true) ∧
      ∀ d ∈ body, endsNumber d = false := by
  obtain ⟨whole, rest, rfl, hwhole, hrest⟩ := h.exists_append
  obtain ⟨d, ds, rfl⟩ := List.exists_cons_of_ne_nil hwhole.nonempty
  have hends : ∀ c ∈ d :: ds ++ rest, endsNumber c = false := by
    refine List.forall_mem_append.2 ⟨fun c hc => (digit_facts (hwhole.digits c hc)).2.2.1, fun c hc => ?_⟩
    rcases hrest c hc with rfl | hdigit
    · rfl
    · exact (digit_facts hdigit).2.2.1
  cases negative
  · exact ⟨d, ds ++ rest, rfl, .inr (hwhole.digits d List.mem_cons_self), (List.forall_mem_cons.1 hends).2⟩
  · exact ⟨'-', d :: ds ++ rest, rfl, .inl rfl, hends⟩

/-- The text of a finite number is one constant. -/
theorem exists_spells_finite (negative : Bool) (mantissa : Nat) (exponent : Int) :
    ∃ ls, Spells (Binary64.finite negative mantissa exponent).text.toList ls := by
  obtain ⟨cs, hcs, htext⟩ := exists_positional_text negative mantissa exponent
  obtain ⟨l, hnumber, hconstant, hroom⟩ := exists_ofNumber?_positional negative hcs
  obtain ⟨c, body, hchars, hc, hbody⟩ := exists_cons_positional negative hcs
  rw [htext, hchars]
  rw [hchars] at hnumber
  exact ⟨[l], hconstant, fun room _ => Writes.number room hc hbody hnumber (hroom room)⟩

/-! ## Lists and objects -/

/-- Constants between brackets, with commas between them. -/
theorem exists_spells_list {texts : List String} (h : ∀ text ∈ texts, ∃ ls, Spells text.toList ls) :
    ∃ ls, Spells ("[" ++ String.intercalate ", " texts ++ "]").toList ls := by
  choose! lexemes hlexemes using h
  have hconstant : Constant (.mark '[' :: (texts.map lexemes).flatten ++ [.mark ']']) := by
    refine .list fun item hitem => ?_
    obtain ⟨text, htext, rfl⟩ := List.mem_map.1 hitem
    exact (hlexemes text htext).1
  refine ⟨_, hconstant, fun room hroom => ?_⟩
  rw [← List.flatMap_def] at hroom ⊢
  simp only [List.cons_append, List.length_cons, List.length_append] at hroom
  obtain ⟨inner, rfl⟩ : ∃ inner, room = inner + 1 := ⟨room - 1, by omega⟩
  have htexts : ∀ text ∈ texts, Writes inner (id text).toList (lexemes text) := by
    intro text htext
    have hle := Value.length_le_length_flatMap (f := lexemes) htext
    exact (hlexemes text htext).2 inner (by omega)
  have hwrites := Writes.items htexts
  rwa [List.map_id] at hwrites

/-- Constants with names before them between braces, with commas between them. -/
theorem exists_spells_object {entries : List (String × String)} (hkeys : ∀ e ∈ entries, isName e.1 = true)
    (h : ∀ e ∈ entries, ∃ ls, Spells e.2.toList ls) :
    ∃ ls, Spells ("\x7b" ++ String.intercalate ", " (entries.map fun e => e.1 ++ ": " ++ e.2) ++ "\x7d").toList
      ls := by
  choose! lexemes hlexemes using h
  have hconstant : Constant (.mark '\x7b' :: (entries.map fun e => (e.1, lexemes e)).flatMap
      (fun entry => .name entry.1 :: .mark ':' :: entry.2) ++ [.mark '\x7d']) := by
    refine .object fun entry hentry => ?_
    obtain ⟨e, he, rfl⟩ := List.mem_map.1 hentry
    exact (hlexemes e he).1
  refine ⟨_, hconstant, fun room hroom => ?_⟩
  rw [List.flatMap_map] at hroom ⊢
  simp only [List.cons_append, List.length_cons, List.length_append] at hroom
  obtain ⟨inner, rfl⟩ : ∃ inner, room = inner + 1 := ⟨room - 1, by omega⟩
  refine Writes.entries Prod.fst hkeys fun e he => ?_
  have hle := Value.length_le_length_flatMap (f := fun e => Lexeme.name e.1 :: .mark ':' :: lexemes e) he
  simp only [List.length_cons] at hle
  exact (hlexemes e he).2 inner (by omega)

end SchemaDoc.Sdl
