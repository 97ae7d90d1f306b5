-- SUMMARY: The placeholders of a template are the words between braces at its positions, from left to right.
import SchemaDoc.Handler.Template
import SchemaDoc.Proofs.Text.Word

/-!
# Placeholders by position

Reading a template splits it into pieces. A placeholder can also be told from its
position alone: there stand an opening brace, a word and a closing brace. Braces
are no word characters, so placeholders never overlap and reading misses none.
-/

namespace SchemaDoc.Template

/-- A word between braces stands at the position. -/
structure HasAt (cs : List Char) (position : Nat) (word : String) : Prop where
  nonempty : word.toList ≠ []
  chars : ∀ c ∈ word.toList, Text.isWordChar c = true
  braces : ∃ rest, cs.drop position = '\x7b' :: word.toList ++ '\x7d' :: rest

/-- Some placeholder has the property, and none at an earlier position does. -/
def FirstWith (bad : String → Prop) (cs : List Char) (word : String) : Prop :=
  ∃ position, HasAt cs position word ∧ bad word ∧
    ∀ earlier < position, ∀ other, HasAt cs earlier other → ¬ bad other

/-! ## Reading one placeholder -/

theorem placeholder?_eq_some_iff {cs rest : List Char} {word : String} :
    placeholder? cs = some (word, rest) ↔
      word.toList ≠ [] ∧ (∀ c ∈ word.toList, Text.isWordChar c = true) ∧ cs = word.toList ++ '\x7d' :: rest := by
  constructor
  · intro h
    simp only [placeholder?] at h
    split at h
    · cases h
    · next run after hne hspan =>
      cases h
      obtain ⟨hrun, -, hcut⟩ := Text.spanWord_eq_iff.1 hspan
      rw [String.toList_ofList]
      exact ⟨hne, hrun, hcut⟩
    · cases h
  · rintro ⟨hne, hchars, rfl⟩
    have hspan : Text.spanWord (word.toList ++ '\x7d' :: rest) = (word.toList, '\x7d' :: rest) :=
      Text.spanWord_eq_iff.2 ⟨hchars, Text.stops_cons (by decide), rfl⟩
    simp only [placeholder?, hspan, String.ofList_toList]

/-! ## Positions -/

variable {cs rest : List Char} {word other : String} {position : Nat}

theorem not_hasAt_nil : ¬ HasAt [] position word := by
  rintro ⟨-, -, rest, h⟩
  rw [List.drop_nil] at h
  cases h

theorem hasAt_cons_zero {c : Char} :
    HasAt (c :: cs) 0 word ↔ c = '\x7b' ∧ ∃ rest, placeholder? cs = some (word, rest) := by
  simp only [placeholder?_eq_some_iff]
  constructor
  · rintro ⟨hne, hchars, rest, h⟩
    rw [List.drop_zero, List.cons_append, List.cons.injEq] at h
    exact ⟨h.1, rest, hne, hchars, h.2⟩
  · rintro ⟨rfl, rest, hne, hchars, rfl⟩
    exact ⟨hne, hchars, rest, rfl⟩

theorem hasAt_cons_succ {c : Char} : HasAt (c :: cs) (position + 1) word ↔ HasAt cs position word :=
  ⟨fun h => ⟨h.nonempty, h.chars, h.braces⟩, fun h => ⟨h.nonempty, h.chars, h.braces⟩⟩

/-- A character that does not open a placeholder only shifts those that follow. -/
theorem hasAt_cons_iff {c : Char} (h : c = '\x7b' → placeholder? cs = none) :
    HasAt (c :: cs) position word ↔ ∃ later, position = later + 1 ∧ HasAt cs later word := by
  cases position with
  | zero =>
    rw [hasAt_cons_zero]
    constructor
    · rintro ⟨hc, rest, hsome⟩
      rw [h hc] at hsome
      cases hsome
    · rintro ⟨later, hlater, -⟩
      cases hlater
  | succ later => simp [hasAt_cons_succ]

/-- Characters that are no opening braces shift what follows. -/
theorem hasAt_append_iff {run : List Char} (hrun : '\x7b' ∉ run) :
    HasAt (run ++ rest) position word ↔ ∃ later, position = later + run.length ∧ HasAt rest later word := by
  induction run generalizing position with
  | nil => simp
  | cons c run ih =>
    rw [List.mem_cons, not_or] at hrun
    have hopen : c = '\x7b' → placeholder? (run ++ rest) = none := fun hc => absurd hc.symm hrun.1
    rw [List.cons_append, hasAt_cons_iff hopen, List.length_cons]
    constructor
    · rintro ⟨next, rfl, hnext⟩
      obtain ⟨later, rfl, hlater⟩ := (ih hrun.2).1 hnext
      exact ⟨later, Nat.add_assoc .., hlater⟩
    · rintro ⟨later, rfl, hlater⟩
      exact ⟨later + run.length, (Nat.add_assoc ..).symm, (ih hrun.2).2 ⟨later, rfl, hlater⟩⟩

/-- A placeholder stands where it opens, and the next ones behind it. -/
theorem hasAt_placeholder_iff (h : placeholder? cs = some (word, rest)) :
    HasAt ('\x7b' :: cs) position other ↔
      (position = 0 ∧ word = other) ∨
        ∃ later, position = later + (word.toList.length + 2) ∧ HasAt rest later other := by
  have hrun : '\x7b' ∉ word.toList ++ ['\x7d'] := by
    intro hmem
    rcases List.mem_append.1 hmem with hword | hclose
    · have hchar := (placeholder?_eq_some_iff.1 h).2.1 _ hword
      revert hchar
      decide
    · cases List.mem_singleton.1 hclose
  have hcs : cs = (word.toList ++ ['\x7d']) ++ rest := by
    rw [(placeholder?_eq_some_iff.1 h).2.2, List.append_assoc, List.singleton_append]
  cases position with
  | zero =>
    have hlater : ¬ ∃ later, 0 = later + (word.toList.length + 2) ∧ HasAt rest later other := by
      rintro ⟨later, heq, -⟩
      omega
    simp only [hasAt_cons_zero, h, hlater, Option.some.injEq, Prod.mk.injEq, true_and, or_false,
      exists_and_left, exists_eq', and_true]
  | succ position =>
    rw [hasAt_cons_succ, hcs, hasAt_append_iff hrun, List.length_append, List.length_singleton]
    constructor
    · rintro ⟨later, rfl, hlater⟩
      exact .inr ⟨later, by omega, hlater⟩
    · rintro (⟨heq, -⟩ | ⟨later, heq, hlater⟩)
      · cases heq
      · exact ⟨later, by omega, hlater⟩

/-! ## The first placeholder with a property -/

variable {bad : String → Prop}

theorem not_firstWith_nil : ¬ FirstWith bad [] word := by
  rintro ⟨position, h, -⟩
  exact not_hasAt_nil h

/-- If all placeholders stand further on, so does the first one with a property. -/
theorem firstWith_shift {shift : Nat}
    (h : ∀ position other, HasAt cs position other ↔ ∃ later, position = later + shift ∧ HasAt rest later other) :
    FirstWith bad cs word ↔ FirstWith bad rest word := by
  constructor
  · rintro ⟨position, hat, hbad, hnone⟩
    obtain ⟨later, rfl, hlater⟩ := (h _ _).1 hat
    refine ⟨later, hlater, hbad, ?_⟩
    intro earlier hearlier other hother
    exact hnone (earlier + shift) (by omega) other ((h _ _).2 ⟨earlier, rfl, hother⟩)
  · rintro ⟨later, hlater, hbad, hnone⟩
    refine ⟨later + shift, (h _ _).2 ⟨later, rfl, hlater⟩, hbad, ?_⟩
    intro earlier hearlier other hother
    obtain ⟨before, rfl, hbefore⟩ := (h _ _).1 hother
    exact hnone before (by omega) other hbefore

/-- A placeholder is the first with a property if it has the property, otherwise the first is behind it. -/
theorem firstWith_placeholder_iff (h : placeholder? cs = some (word, rest)) :
    FirstWith bad ('\x7b' :: cs) other ↔ (bad word ∧ word = other) ∨ (¬ bad word ∧ FirstWith bad rest other) := by
  have hat : HasAt ('\x7b' :: cs) 0 word := (hasAt_placeholder_iff h).2 (.inl ⟨rfl, rfl⟩)
  have hshift : ∀ {later : Nat} {next : String}, HasAt rest later next →
      HasAt ('\x7b' :: cs) (later + (word.toList.length + 2)) next :=
    fun hlater => (hasAt_placeholder_iff h).2 (.inr ⟨_, rfl, hlater⟩)
  constructor
  · rintro ⟨position, hposition, hbad, hnone⟩
    rcases (hasAt_placeholder_iff h).1 hposition with ⟨-, rfl⟩ | ⟨later, rfl, hlater⟩
    · exact .inl ⟨hbad, rfl⟩
    · refine .inr ⟨hnone 0 (by omega) word hat, later, hlater, hbad, ?_⟩
      intro earlier hearlier next hnext
      exact hnone _ (by omega) next (hshift hnext)
  · rintro (⟨hbad, rfl⟩ | ⟨hgood, later, hlater, hbad, hnone⟩)
    · exact ⟨0, hat, hbad, fun earlier hearlier => absurd hearlier (Nat.not_lt_zero earlier)⟩
    · refine ⟨_, hshift hlater, hbad, ?_⟩
      intro earlier hearlier next hnext
      rcases (hasAt_placeholder_iff h).1 hnext with ⟨-, rfl⟩ | ⟨before, rfl, hbefore⟩
      · exact hgood
      · exact hnone before (by omega) next hbefore

/-- Where some placeholder has a property there is a first one. -/
theorem exists_firstWith (h : HasAt cs position word) (hbad : bad word) : ∃ first, FirstWith bad cs first := by
  induction position using Nat.strongRecOn generalizing word with
  | ind position ih =>
    by_cases hearlier : ∃ earlier < position, ∃ other, HasAt cs earlier other ∧ bad other
    · obtain ⟨earlier, hlt, other, hother, hbadOther⟩ := hearlier
      exact ih earlier hlt hother hbadOther
    · refine ⟨word, position, h, hbad, ?_⟩
      intro earlier hlt other hother hbadOther
      exact hearlier ⟨earlier, hlt, other, hother, hbadOther⟩

/-! ## All placeholders -/

/-- The word of a placeholder. -/
def Piece.word? : Piece → Option String
  | .placeholder word => some word
  | .char _ => none

theorem placeholders_eq (template : String) :
    placeholders template = (pieces template.toList).filterMap Piece.word? := by
  apply congrArg (List.filterMap · _)
  funext piece
  cases piece <;> rfl

theorem pieces_placeholder (h : placeholder? cs = some (word, rest)) :
    pieces ('\x7b' :: cs) = .placeholder word :: pieces rest := by
  rw [pieces, if_pos rfl]
  split
  · next heq =>
    rw [h] at heq
    cases heq
    rfl
  · next heq =>
    rw [h] at heq
    cases heq

theorem pieces_char {c : Char} (h : c = '\x7b' → placeholder? cs = none) :
    pieces (c :: cs) = .char c :: pieces cs := by
  rw [pieces]
  split
  · next hc =>
    split
    · next heq =>
      rw [h hc] at heq
      cases heq
    · rfl
  · rfl

/-- Reading finds the first placeholder with a property. -/
theorem find?_pieces_iff {p : String → Bool} :
    ((pieces cs).filterMap Piece.word?).find? p = some word ↔ FirstWith (p · = true) cs word := by
  have hchar : ∀ (c : Char) (cs : List Char), (c = '\x7b' → placeholder? cs = none) →
      (((pieces cs).filterMap Piece.word?).find? p = some word ↔ FirstWith (p · = true) cs word) →
        (((pieces (c :: cs)).filterMap Piece.word?).find? p = some word ↔ FirstWith (p · = true) (c :: cs) word) := by
    intro c cs hnone ih
    rw [pieces_char hnone, List.filterMap_cons, firstWith_shift fun _ _ => hasAt_cons_iff hnone]
    exact ih
  induction cs using pieces.induct with
  | case1 => simp [pieces, not_firstWith_nil]
  | case2 cs found rest hfound _ ih =>
    rw [pieces_placeholder hfound, List.filterMap_cons, firstWith_placeholder_iff hfound]
    simp only [Piece.word?, List.find?_cons]
    cases p found with
    | true => simp
    | false => simpa using ih
  | case3 cs hnone ih => exact hchar _ cs (fun _ => hnone) ih
  | case4 c cs hc ih => exact hchar c cs (fun h => absurd h hc) ih

/-- The first placeholder of a template that has a property is the one at the least position. -/
theorem find?_placeholders_iff {template : String} {p : String → Bool} :
    (placeholders template).find? p = some word ↔ FirstWith (p · = true) template.toList word := by
  rw [placeholders_eq]
  exact find?_pieces_iff

end SchemaDoc.Template
