-- SUMMARY: Texts joined by separators, where some of them are joined texts themselves.

/-!
# Joined texts

Texts that are joined by a separator, and then joined with others by the same
separator, are all joined by it.
-/

namespace SchemaDoc.Text

/-- What starts with a text that is not empty is not empty. -/
theorem intercalate_cons_ne_empty {separator first : String} {rest : List String}
    (h : first ≠ "") : separator.intercalate (first :: rest) ≠ "" := by
  cases rest with
  | nil => simpa using h
  | cons second rest => simp [String.intercalate_cons_cons, String.append_eq_empty_iff, h]

theorem intercalate_flatMap {α : Type} {separator : String} {texts : α → List String} {items : List α}
    (h : ∀ item ∈ items, texts item ≠ []) :
    separator.intercalate (items.flatMap texts) =
      separator.intercalate (items.map fun item => separator.intercalate (texts item)) := by
  induction items with
  | nil => rfl
  | cons item items ih =>
    rw [List.forall_mem_cons] at h
    cases items with
    | nil => simp
    | cons next rest =>
      have hrest : (next :: rest).flatMap texts ≠ [] := by simp [h.2 next List.mem_cons_self]
      rw [List.flatMap_cons, String.intercalate_append_of_ne_nil h.1 hrest, ih h.2]
      exact (String.intercalate_cons_of_ne_nil (List.cons_ne_nil _ _)).symm

/-- Texts that follow each other can be joined first. -/
theorem intercalate_append_append {separator : String} {before middle after : List String} (h : middle ≠ []) :
    separator.intercalate (before ++ middle ++ after) =
      separator.intercalate (before ++ separator.intercalate middle :: after) := by
  induction before with
  | nil =>
    cases after with
    | nil => simp
    | cons next rest =>
      rw [List.nil_append, List.nil_append, String.intercalate_append_of_ne_nil h (List.cons_ne_nil _ _),
        String.intercalate_cons_cons]
  | cons first before ih =>
    rw [List.cons_append, List.cons_append, List.cons_append, String.intercalate_cons_of_ne_nil (by simp [h]), ih,
      String.intercalate_cons_of_ne_nil (by simp)]

end SchemaDoc.Text
