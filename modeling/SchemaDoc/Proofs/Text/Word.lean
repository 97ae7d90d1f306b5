-- SUMMARY: Words, and cutting a text behind the word that it starts with.
import SchemaDoc.Proofs.Sdl.Lexing
import SchemaDoc.Text.Word

/-!
# Words

A word is a run of word characters that is not empty. The run that a text starts
with ends where a character stands that is none, or where the text ends.
-/

namespace SchemaDoc.Text

/-- A run of word characters that is not empty. -/
structure IsWord (word : String) : Prop where
  nonempty : word.toList ≠ []
  chars : ∀ c ∈ word.toList, isWordChar c = true

theorem isWord_iff {word : String} :
    IsWord word ↔ word.toList ≠ [] ∧ ∀ c ∈ word.toList, isWordChar c = true :=
  ⟨fun h => ⟨h.nonempty, h.chars⟩, fun h => ⟨h.1, h.2⟩⟩

instance (word : String) : Decidable (IsWord word) :=
  decidable_of_iff (word.toList ≠ [] ∧ word.toList.all isWordChar = true) (by rw [isWord_iff, List.all_eq_true])

/-- A text in front of which a word ends. -/
def Stops (rest : List Char) : Prop :=
  ∀ c ∈ rest.head?, isWordChar c = false

theorem stops_cons {c : Char} {rest : List Char} (h : isWordChar c = false) : Stops (c :: rest) := by
  intro d hd
  cases hd
  exact h

/-- A text has one leading run of word characters. -/
theorem spanWord_eq_iff {cs run rest : List Char} :
    spanWord cs = (run, rest) ↔ (∀ c ∈ run, isWordChar c = true) ∧ Stops rest ∧ cs = run ++ rest := by
  have hall : ∀ cs : List Char, cs.takeWhile isWordChar ++ cs.dropWhile isWordChar = cs :=
    fun _ => List.takeWhile_append_dropWhile
  constructor
  · rintro ⟨⟩
    refine ⟨List.all_eq_true.1 List.all_takeWhile, ?_, (hall cs).symm⟩
    intro c hc
    have hstop := List.head?_dropWhile_not isWordChar cs
    rw [Option.mem_def.1 hc] at hstop
    simpa using hstop
  · rintro ⟨hrun, hstop, rfl⟩
    have htake : (run ++ rest).takeWhile isWordChar = run := Sdl.takeWhile_append_of_stop hrun hstop
    have hcut := hall (run ++ rest)
    rw [htake] at hcut
    rw [spanWord, htake, List.append_cancel_left hcut]

/-- Two words that end where they stop are the same if the texts are. -/
theorem IsWord.append_inj {word other : String} {rest rest' : List Char} (hword : IsWord word)
    (hother : IsWord other) (hrest : Stops rest) (hrest' : Stops rest')
    (h : word.toList ++ rest = other.toList ++ rest') : word = other ∧ rest = rest' := by
  have hspan : spanWord (word.toList ++ rest) = (word.toList, rest) :=
    spanWord_eq_iff.2 ⟨hword.chars, hrest, rfl⟩
  have hspan' : spanWord (word.toList ++ rest) = (other.toList, rest') :=
    spanWord_eq_iff.2 ⟨hother.chars, hrest', h⟩
  rw [hspan, Prod.mk.injEq] at hspan'
  exact hspan'.imp_left fun hchars => String.toList_injective hchars

end SchemaDoc.Text
