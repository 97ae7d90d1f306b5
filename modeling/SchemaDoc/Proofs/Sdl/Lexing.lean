-- SUMMARY: The lexemes of a text, put together from those of its pieces.
import SchemaDoc.Sdl.Lexer

/-!
# Lexing what was written

A text is written piece by piece: names, marks, numbers, strings and the blanks
between them. Its lexemes are those of the pieces, as long as no name or number
runs into the next piece and no bracket is opened that there is no room for.
Pieces are put before a text whose lexemes are known, so each law takes the text
after the piece as it is.
-/

namespace SchemaDoc.Sdl

/-! ## Names -/

/-- Whether a text is a name: a letter or underscore, then letters, digits and underscores. -/
def isName (text : String) : Bool :=
  match text.toList with
  | [] => false
  | c :: cs => isNameStart c && cs.all isNameChar

theorem isName_iff {text : String} :
    isName text = true ↔
      ∃ c cs, text.toList = c :: cs ∧ isNameStart c = true ∧ ∀ d ∈ cs, isNameChar d = true := by
  unfold isName
  split
  · next htext => simp [htext]
  · next c cs htext => simp [htext, and_assoc]

/-- Nothing follows, or a character that ends both names and numbers. -/
def Delimited (cs : List Char) : Prop :=
  ∀ c ∈ cs.head?, endsNumber c = true

@[simp] theorem delimited_nil : Delimited [] := by
  simp [Delimited]

@[simp] theorem delimited_cons {c : Char} {cs : List Char} :
    Delimited (c :: cs) ↔ endsNumber c = true := by
  simp [Delimited]

/-- Names contain no character that ends a number. -/
theorem not_isNameChar_of_endsNumber {c : Char} (h : endsNumber c = true) : isNameChar c = false := by
  simp only [endsNumber, isMark, List.contains_eq_mem, Bool.or_eq_true, decide_eq_true_eq,
    List.mem_cons, List.not_mem_nil, or_false] at h
  rcases h with (rfl | rfl | rfl | rfl | rfl | rfl) |
    (rfl | rfl | rfl | rfl | rfl | rfl | rfl | rfl | rfl | rfl | rfl | rfl | rfl) <;> decide

/-- A run of characters ends where the text after it does not continue it. -/
theorem takeWhile_append_of_stop {α : Type} {p : α → Bool} {run rest : List α}
    (hrun : ∀ a ∈ run, p a = true) (hrest : ∀ a ∈ rest.head?, p a = false) :
    (run ++ rest).takeWhile p = run := by
  have hstop : rest.takeWhile p = [] := by
    cases rest with
    | nil => rfl
    | cons a rest => simp [hrest a rfl]
  rw [List.takeWhile_append_of_pos hrun, hstop, List.append_nil]

/-! ## Steps of the lexer -/

/-- The characters that are skipped between tokens, or that start a comment. -/
def isIgnored (c : Char) : Bool :=
  ['\n', ' ', ',', '\t', '\r', '\uFEFF', '#'].contains c

theorem skipIgnored_of_not_isIgnored {c : Char} (h : isIgnored c = false) (p : Position)
    (cs : List Char) : skipIgnored false p (c :: cs) = (p, c :: cs) := by
  simp only [isIgnored, List.contains_eq_mem, decide_eq_false_iff_not, List.mem_cons,
    List.not_mem_nil, or_false, not_or] at h
  simp [skipIgnored, h]

theorem lexFrom_of_skip_nil {room : Nat} {p q : Position} {cs : List Char}
    (h : skipIgnored false p cs = (q, [])) : lexFrom room p cs = ⟨[], q, true⟩ := by
  rw [lexFrom]
  split
  · next hskip =>
    rw [h] at hskip
    cases hskip
    rfl
  · next hskip =>
    rw [h] at hskip
    cases hskip

theorem lexFrom_of_skip_cons {room next : Nat} {p q : Position} {cs rest : List Char} {c : Char}
    {l : Lexeme} {n : Nat} (h : skipIgnored false p cs = (q, c :: rest))
    (hlexeme : lexeme? c rest = some (l, n)) (hroom : roomAfter room l = some next) :
    let lexed := lexFrom next (q.past (c :: rest.take n)) (rest.drop n)
    lexFrom room p cs = { lexed with tokens := ⟨l, q⟩ :: lexed.tokens } := by
  intro lexed
  rw [lexFrom]
  split
  · next hskip =>
    rw [h] at hskip
    cases hskip
  · next hskip =>
    rw [h] at hskip
    cases hskip
    simp only [hlexeme, hroom]
    rfl

/-- Only what is left after skipping matters. -/
theorem lexFrom_congr {room : Nat} {p q : Position} {cs cs' : List Char}
    (h : skipIgnored false p cs = skipIgnored false q cs') : lexFrom room p cs = lexFrom room q cs' := by
  rw [lexFrom, lexFrom, h]

/-! ## Lexemes of a text -/

/-- The text is read to its end and has these lexemes, wherever it stands. -/
def Scans (room : Nat) (cs : List Char) (ls : List Lexeme) : Prop :=
  ∀ p, (lexFrom room p cs).complete = true ∧ (lexFrom room p cs).tokens.map (·.lexeme) = ls

/-- The lexemes of a text on its own, in which brackets may nest as deep as it is long. -/
def lexemesOf (text : String) : List Lexeme :=
  (lexFrom text.length .start text.toList).tokens.map (·.lexeme)

namespace Scans

variable {room next : Nat} {rest : List Char} {ls : List Lexeme}

theorem nil : Scans room [] [] := by
  intro p
  rw [lexFrom_of_skip_nil (q := p) rfl]
  exact ⟨rfl, rfl⟩

/-- A blank or a comma before a text only moves it. -/
theorem gap {c : Char} (hc : c = ' ' ∨ c = '\n' ∨ c = ',') (h : Scans room rest ls) :
    Scans room (c :: rest) ls := by
  intro p
  obtain ⟨q, hskip⟩ : ∃ q, skipIgnored false p (c :: rest) = skipIgnored false q rest := by
    rcases hc with rfl | rfl | rfl
    · exact ⟨p.right 1, rfl⟩
    · exact ⟨p.nextLine, rfl⟩
    · exact ⟨p.right 1, rfl⟩
  rw [lexFrom_congr hskip]
  exact h q

/-- A token before a text is its first lexeme. -/
theorem token {c : Char} {body : List Char} {l : Lexeme} (hc : isIgnored c = false)
    (hlexeme : lexeme? c (body ++ rest) = some (l, body.length)) (hroom : roomAfter room l = some next)
    (h : Scans next rest ls) : Scans room (c :: body ++ rest) (l :: ls) := by
  intro p
  have hskip := skipIgnored_of_not_isIgnored hc p (body ++ rest)
  rw [List.cons_append, lexFrom_of_skip_cons hskip hlexeme hroom, List.drop_left]
  obtain ⟨hcomplete, htokens⟩ := h (p.past (c :: (body ++ rest).take body.length))
  exact ⟨hcomplete, congrArg (l :: ·) htokens⟩

theorem name {text : String} (hname : isName text = true) (hrest : Delimited rest)
    (h : Scans room rest ls) : Scans room (text.toList ++ rest) (.name text :: ls) := by
  obtain ⟨c, cs, htext, hstart, hcs⟩ := isName_iff.1 hname
  have hrun : (cs ++ rest).takeWhile isNameChar = cs :=
    takeWhile_append_of_stop hcs fun d hd => not_isNameChar_of_endsNumber (hrest d hd)
  have hignored : isIgnored c = false := by
    cases hc : isIgnored c with
    | false => rfl
    | true =>
      simp only [isIgnored, List.contains_eq_mem, decide_eq_true_eq, List.mem_cons, List.not_mem_nil,
        or_false] at hc
      rcases hc with rfl | rfl | rfl | rfl | rfl | rfl | rfl <;> cases hstart
  have hlexeme : lexeme? c (cs ++ rest) = some (.name text, cs.length) := by
    simp only [lexeme?, hstart, if_true, hrun]
    rw [← htext, String.ofList_toList]
  rw [htext]
  exact token hignored hlexeme rfl h

/-- A mark is a lexeme whatever follows it. -/
theorem mark {c : Char} (hc : isMark c = true) (hroom : roomAfter room (.mark c) = some next)
    (h : Scans next rest ls) : Scans room (c :: rest) (.mark c :: ls) := by
  have hmark := hc
  simp only [isMark, List.contains_eq_mem, decide_eq_true_eq, List.mem_cons, List.not_mem_nil,
    or_false] at hmark
  have hlexeme : lexeme? c ([] ++ rest) = some (.mark c, ([] : List Char).length) := by
    rcases hmark with rfl | rfl | rfl | rfl | rfl | rfl | rfl | rfl | rfl | rfl | rfl | rfl | rfl <;> rfl
  have hignored : isIgnored c = false := by
    rcases hmark with rfl | rfl | rfl | rfl | rfl | rfl | rfl | rfl | rfl | rfl | rfl | rfl | rfl <;> rfl
  have hscans := token hignored hlexeme hroom h
  exact hscans

end Scans

/-! ## Pieces of a text -/

/-- A piece that closes the brackets it opens adds these lexemes to a text that does not run into it. -/
def Writes (room : Nat) (cs : List Char) (ls : List Lexeme) : Prop :=
  ∀ rest ls', Delimited rest → Scans room rest ls' → Scans room (cs ++ rest) (ls ++ ls')

theorem Delimited.append {cs cs' : List Char} (h : Delimited cs) (h' : Delimited cs') :
    Delimited (cs ++ cs') := by
  cases cs with
  | nil => exact h'
  | cons c cs => exact delimited_cons.2 (delimited_cons.1 h)

namespace Writes

variable {room : Nat} {cs cs' : List Char} {ls ls' : List Lexeme}

theorem scans (h : Writes room cs ls) : Scans room cs ls := by
  have hend := h [] [] delimited_nil Scans.nil
  rw [List.append_nil, List.append_nil] at hend
  exact hend

theorem nil : Writes room [] [] :=
  fun _ _ _ h => h

theorem append (h : Writes room cs ls) (h' : Writes room cs' ls') (hcs' : Delimited cs') :
    Writes room (cs ++ cs') (ls ++ ls') := by
  intro rest after hrest hafter
  rw [List.append_assoc, List.append_assoc]
  exact h _ _ (hcs'.append hrest) (h' rest after hrest hafter)

theorem gap {c : Char} (hc : c = ' ' ∨ c = '\n' ∨ c = ',') (h : Writes room cs ls) :
    Writes room (c :: cs) ls :=
  fun rest after hrest hafter => Scans.gap hc (h rest after hrest hafter)

/-- Blanks and commas before a piece. -/
theorem gaps {blanks : List Char} (hblanks : ∀ c ∈ blanks, c = ' ' ∨ c = '\n' ∨ c = ',')
    (h : Writes room cs ls) : Writes room (blanks ++ cs) ls := by
  induction blanks with
  | nil => exact h
  | cons c blanks ih =>
    rw [List.forall_mem_cons] at hblanks
    exact gap hblanks.1 (ih hblanks.2)

theorem name {text : String} (hname : isName text = true) : Writes room text.toList [.name text] :=
  fun _ _ hrest hafter => Scans.name hname hrest hafter

/-- A mark that is no bracket, before a piece. -/
theorem mark {c : Char} (hc : isMark c = true) (hroom : roomAfter room (.mark c) = some room)
    (h : Writes room cs ls) : Writes room (c :: cs) (.mark c :: ls) :=
  fun rest after hrest hafter => Scans.mark hc hroom (h rest after hrest hafter)

/-- A piece between brackets, which take room for one more. -/
theorem bracket {opening closing : Char} (hopening : isOpening opening = true)
    (hclosing : isClosing closing = true) (h : Writes room cs ls) :
    Writes (room + 1) (opening :: cs ++ [closing]) (.mark opening :: ls ++ [.mark closing]) := by
  have hopens : isMark opening = true ∧ roomAfter (room + 1) (.mark opening) = some room := by
    simp only [isOpening, Bool.or_eq_true, beq_iff_eq] at hopening
    rcases hopening with (rfl | rfl) | rfl <;> exact ⟨rfl, rfl⟩
  have hcloses : isMark closing = true ∧ roomAfter room (.mark closing) = some (room + 1) ∧
      endsNumber closing = true := by
    simp only [isClosing, Bool.or_eq_true, beq_iff_eq] at hclosing
    rcases hclosing with (rfl | rfl) | rfl <;> exact ⟨rfl, rfl, rfl⟩
  intro rest after hrest hafter
  have hend : Scans room (closing :: rest) (.mark closing :: after) :=
    Scans.mark hcloses.1 hcloses.2.1 hafter
  have hinner := h _ _ (delimited_cons.2 hcloses.2.2) hend
  simp only [List.cons_append, List.append_assoc, List.nil_append]
  exact Scans.mark hopens.1 hopens.2 hinner

/-- Pieces with a separator between them. -/
theorem intercalate {α : Type} {text : α → List Char} {lexemes : α → List Lexeme}
    {separator : List Char} {between : List Lexeme} (hdelimited : Delimited separator)
    (hseparator : ∀ cs ls, Writes room cs ls → Writes room (separator ++ cs) (between ++ ls))
    (hne : separator ≠ []) {xs : List α} (h : ∀ x ∈ xs, Writes room (text x) (lexemes x)) :
    Writes room (separator.intercalate (xs.map text)) (between.intercalate (xs.map lexemes)) := by
  induction xs with
  | nil => exact nil
  | cons x xs ih =>
    rw [List.forall_mem_cons] at h
    have hrest := ih h.2
    cases xs with
    | nil => simpa using h.1
    | cons y ys =>
      simp only [List.map_cons, List.intercalate_cons_cons, List.append_assoc] at hrest ⊢
      obtain ⟨c, tail, rfl⟩ := List.exists_cons_of_ne_nil hne
      exact append h.1 (hseparator _ _ hrest) (delimited_cons.2 (delimited_cons.1 hdelimited))

/-- Pieces with blanks or commas between them. -/
theorem spaced {α : Type} {text : α → List Char} {lexemes : α → List Lexeme} {separator : List Char}
    (hblanks : ∀ c ∈ separator, c = ' ' ∨ c = '\n' ∨ c = ',') (hne : separator ≠ []) {xs : List α}
    (h : ∀ x ∈ xs, Writes room (text x) (lexemes x)) :
    Writes room (separator.intercalate (xs.map text)) (xs.flatMap lexemes) := by
  have hdelimited : Delimited separator := by
    intro c hc
    rcases hblanks c (List.mem_of_mem_head? hc) with rfl | rfl | rfl <;> rfl
  have hpieces : Writes room (separator.intercalate (xs.map text)) ([].intercalate (xs.map lexemes)) := by
    refine intercalate hdelimited (fun cs ls hwrites => ?_) hne h
    exact gaps hblanks hwrites
  have hflatten (lss : List (List Lexeme)) : [].intercalate lss = lss.flatten := by
    induction lss with
    | nil => rfl
    | cons ls lss ih =>
      cases lss with
      | nil => simp
      | cons ls' lss =>
        rw [List.intercalate_cons_cons, List.append_nil, ih]
        rfl
  rw [hflatten] at hpieces
  exact hpieces

end Writes

/-! ## Lists -/

/-- The lexemes of a bracketed list, which is left out if it is empty. -/
def bracketed {α : Type} (opening closing : Char) (lexemes : α → List Lexeme) (xs : List α) : List Lexeme :=
  if xs.isEmpty then [] else .mark opening :: xs.flatMap lexemes ++ [.mark closing]

theorem intercalate_cons_eq {α : Type} (separator first : List α) (rest : List (List α)) :
    separator.intercalate (first :: rest) = first ++ rest.flatMap (separator ++ ·) := by
  induction rest generalizing first with
  | nil => simp
  | cons next rest ih => simp [List.intercalate_cons_cons, ih]

/-- The lexemes of items with a mark between them. -/
def joined {α : Type} (separator : Char) (lexeme : α → Lexeme) : List α → List Lexeme
  | [] => []
  | x :: xs => lexeme x :: xs.flatMap fun x => [.mark separator, lexeme x]

theorem intercalate_eq_joined {α : Type} (separator : Char) (lexeme : α → Lexeme) (xs : List α) :
    [.mark separator].intercalate (xs.map fun x => [lexeme x]) = joined separator lexeme xs := by
  cases xs with
  | nil => rfl
  | cons x xs => rw [List.map_cons, intercalate_cons_eq, List.flatMap_map]; rfl

namespace Writes

variable {room : Nat}

/-- Blanks alone. -/
theorem blanks {cs : List Char} (h : ∀ c ∈ cs, c = ' ' ∨ c = '\n' ∨ c = ',') : Writes room cs [] := by
  have hgaps : Writes room (cs ++ []) [] := gaps h nil
  rw [List.append_nil] at hgaps
  exact hgaps

/-- A bracketed list with one item on a line. -/
theorem block {α : Type} {opening closing : Char} (hopening : isOpening opening = true)
    (hclosing : isClosing closing = true) {text : α → List Char} {lexemes : α → List Lexeme}
    {xs : List α} (hxs : xs ≠ []) {before : List Char}
    (hbefore : ∀ c ∈ before, c = ' ' ∨ c = '\n' ∨ c = ',')
    (h : ∀ x ∈ xs, Writes room (text x) (lexemes x)) :
    Writes (room + 1) (opening :: ('\n' :: (['\n'].intercalate (xs.map text) ++ '\n' :: before)) ++ [closing])
      (bracketed opening closing lexemes xs) := by
  have hlines : Writes room (['\n'].intercalate (xs.map text)) (xs.flatMap lexemes) :=
    spaced (by simp) (by simp) h
  have hbefore' : Writes room ('\n' :: before) [] := gap (.inr (.inl rfl)) (blanks hbefore)
  have hinner := append hlines hbefore' (delimited_cons.2 rfl)
  rw [List.append_nil] at hinner
  rw [bracketed, if_neg (by simpa using hxs)]
  exact bracket hopening hclosing (gap (.inr (.inl rfl)) hinner)

/-- Items with a mark between blanks between them. -/
theorem joined {α : Type} {separator : Char} (hmark : isMark separator = true)
    (hroom : roomAfter room (.mark separator) = some room) {text : α → List Char} {lexeme : α → Lexeme}
    {xs : List α} (h : ∀ x ∈ xs, Writes room (text x) [lexeme x]) :
    Writes room ([' ', separator, ' '].intercalate (xs.map text)) (joined separator lexeme xs) := by
  rw [← intercalate_eq_joined]
  refine intercalate (delimited_cons.2 rfl) (fun cs ls hpiece => ?_) (by simp) h
  exact gap (.inl rfl) (mark hmark hroom (gap (.inl rfl) hpiece))

end Writes

end SchemaDoc.Sdl
