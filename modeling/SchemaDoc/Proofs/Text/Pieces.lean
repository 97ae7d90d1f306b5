-- SUMMARY: Pieces joined by single separators, and where a text is cut: behind leading characters, and at the last separator.
import SchemaDoc.Text.Lines

/-!
# Joined pieces

Pieces that are not empty and have no separator in them are joined by single
separators. Splitting the joined text gives the pieces back. A separator at
either end of the text, or two side by side, would give an empty piece.

A text may also be cut in two: behind the run of one character that it starts with,
or at the last place where a character stands.
-/

namespace SchemaDoc.Text

variable {x : Char} {pieces : List (List Char)}

/-- Pieces which are told apart in a text where separators stand between them. -/
def Solid (x : Char) (pieces : List (List Char)) : Prop :=
  ∀ piece ∈ pieces, piece ≠ [] ∧ x ∉ piece

theorem Solid.splitOn_intercalate (h : Solid x pieces) (hne : pieces ≠ []) :
    ([x].intercalate pieces).splitOn x = pieces :=
  List.splitOn_intercalate x (fun piece hpiece => (h piece hpiece).2) hne

/-- A separator in the joined text has pieces before it and pieces after it. -/
theorem Solid.eq_splitOn_append (h : Solid x pieces) {before after : List Char}
    (heq : [x].intercalate pieces = before ++ x :: after) :
    pieces = before.splitOn x ++ after.splitOn x := by
  have hne : pieces ≠ [] := by
    rintro rfl
    simp at heq
  rw [← List.splitOn_append_cons_self, ← heq, h.splitOn_intercalate hne]

theorem Solid.nil_notMem (h : Solid x pieces) : [] ∉ pieces :=
  fun hmem => (h [] hmem).1 rfl

theorem Solid.head?_intercalate_ne (h : Solid x pieces) : ([x].intercalate pieces).head? ≠ some x := by
  intro hhead
  obtain ⟨after, heq⟩ := List.head?_eq_some_iff.1 hhead
  have hpieces : pieces = List.splitOn x [] ++ after.splitOn x := h.eq_splitOn_append heq
  rw [List.splitOn_nil] at hpieces
  exact h.nil_notMem (by simp [hpieces])

theorem Solid.getLast?_intercalate_ne (h : Solid x pieces) :
    ([x].intercalate pieces).getLast? ≠ some x := by
  intro hlast
  obtain ⟨before, heq⟩ := List.getLast?_eq_some_iff.1 hlast
  have hpieces : pieces = before.splitOn x ++ List.splitOn x [] := h.eq_splitOn_append heq
  rw [List.splitOn_nil] at hpieces
  exact h.nil_notMem (by simp [hpieces])

theorem Solid.not_infix_intercalate (h : Solid x pieces) : ¬[x, x] <:+: [x].intercalate pieces := by
  rintro ⟨before, after, heq⟩
  have hpieces : pieces = before.splitOn x ++ (x :: after).splitOn x :=
    h.eq_splitOn_append (by rw [← heq, List.append_assoc]; rfl)
  rw [List.splitOn_cons_eq_if_modifyHead, if_pos (beq_self_eq_true x)] at hpieces
  exact h.nil_notMem (by simp [hpieces])

/-! ## Splitting -/

/-- Splitting a text is splitting the list of its characters. -/
theorem splitChars_eq_splitOn (x : Char) (cs : List Char) : splitChars x cs = cs.splitOn x := by
  induction cs with
  | nil => rfl
  | cons c cs ih =>
    rw [splitChars, List.splitOn_cons_eq_if_modifyHead, ← ih]
    simp only [beq_iff_eq]
    split
    · rfl
    · have hne : splitChars x cs ≠ [] := by
        rw [ih]
        exact List.splitOn_ne_nil x cs
      cases hpieces : splitChars x cs with
      | nil => exact absurd hpieces hne
      | cons piece pieces => rfl

theorem notMem_of_mem_splitOn {cs piece : List Char} (h : piece ∈ cs.splitOn x) : x ∉ piece := by
  induction cs generalizing piece with
  | nil =>
    rw [List.splitOn_nil, List.mem_singleton] at h
    rw [h]
    exact List.not_mem_nil
  | cons c cs ih =>
    rw [List.splitOn_cons_eq_if_modifyHead] at h
    split at h
    · rcases List.mem_cons.1 h with rfl | hmem
      · exact List.not_mem_nil
      · exact ih hmem
    · next hne =>
      cases hpieces : cs.splitOn x with
      | nil => exact absurd hpieces (List.splitOn_ne_nil x cs)
      | cons first rest =>
        rw [hpieces, List.modifyHead_cons] at h
        rcases List.mem_cons.1 h with rfl | hmem
        · have hfirst : x ∉ first := ih (by simp [hpieces])
          have hfirst' : x ≠ c := fun heq => hne (beq_iff_eq.2 heq.symm)
          exact List.not_mem_cons_of_ne_of_not_mem hfirst' hfirst
        · exact ih (by simp [hpieces, hmem])

/-- What stands between the separators of a text. -/
theorem solid_filter_splitOn (x : Char) (cs : List Char) :
    Solid x ((cs.splitOn x).filter (!·.isEmpty)) := by
  intro piece hpiece
  obtain ⟨hmem, hne⟩ := List.mem_filter.1 hpiece
  exact ⟨by simpa using hne, notMem_of_mem_splitOn hmem⟩

/-! ## Cutting -/

/-- A text is cut behind the run of one character that it starts with. -/
theorem ofList_dropWhile_eq_iff {p : Char → Bool} (hp : ∀ c, p c = true ↔ c = x) {text rest : String} :
    String.ofList (text.toList.dropWhile p) = rest ↔
      rest.toList.head? ≠ some x ∧ ∃ run : String, text = run ++ rest ∧ ∀ c ∈ run.toList, c = x := by
  constructor
  · rintro rfl
    refine ⟨?_, String.ofList (text.toList.takeWhile p), String.toList_inj.1 ?_, ?_⟩
    · intro hhead
      have hnot := List.head?_dropWhile_not p text.toList
      rw [String.toList_ofList] at hhead
      rw [hhead] at hnot
      simp [(hp x).2 rfl] at hnot
    · rw [String.toList_append, String.toList_ofList, String.toList_ofList, List.takeWhile_append_dropWhile]
    · intro c hc
      rw [String.toList_ofList] at hc
      exact (hp c).1 (List.all_eq_true.1 List.all_takeWhile c hc)
  · rintro ⟨hhead, run, rfl, hrun⟩
    have hrest : rest.toList.dropWhile p = rest.toList := by
      cases hchars : rest.toList with
      | nil => rfl
      | cons c cs =>
        have hc : ¬p c = true := by
          intro hpc
          rw [hchars, (hp c).1 hpc] at hhead
          exact hhead rfl
        rw [List.dropWhile_cons_of_neg hc]
    rw [String.toList_append, List.dropWhile_append_of_pos fun c hc => (hp c).2 (hrun c hc), hrest,
      String.ofList_toList]

/-- A text is cut at the last place where a character stands, if it stands anywhere. -/
theorem cut_last (x : Char) (cs : List Char) :
    x ∉ (cs.reverse.takeWhile (· ≠ x)).reverse ∧
      (cs.reverse.dropWhile (· ≠ x) = [] ∧ cs = (cs.reverse.takeWhile (· ≠ x)).reverse ∨
        ∃ before, cs.reverse.dropWhile (· ≠ x) = x :: before.reverse ∧
          cs = before ++ x :: (cs.reverse.takeWhile (· ≠ x)).reverse) := by
  have hchars := congrArg List.reverse
    (List.takeWhile_append_dropWhile (p := (· ≠ x)) (l := cs.reverse))
  rw [List.reverse_append, List.reverse_reverse] at hchars
  constructor
  · rw [List.mem_reverse]
    intro hmem
    simpa using List.all_eq_true.1 List.all_takeWhile x hmem
  · cases hrest : cs.reverse.dropWhile (· ≠ x) with
    | nil =>
      rw [hrest] at hchars
      exact .inl ⟨rfl, hchars.symm⟩
    | cons c before =>
      have hc : c = x := by
        have hhead := List.head?_dropWhile_not (· ≠ x) cs.reverse
        rw [hrest] at hhead
        simpa using hhead
      rw [hrest, hc, List.reverse_cons, List.append_assoc, List.singleton_append] at hchars
      exact .inr ⟨before.reverse, by rw [hc, List.reverse_reverse], hchars.symm⟩

end SchemaDoc.Text
