-- SUMMARY: A badge shows its label and nothing else: the attribute is read back, whatever the label and the text behind it.
import Mathlib.Data.List.Infix
import SchemaDoc.Page.Section

/-!
# Badges

The label of a badge is any text, also one that a directive or a group supplies,
and it is written as an attribute between quotation marks. Ampersands are marked
before quotation marks, so that the ampersands of the marks stay as they are. A
reader who ends the attribute at the next quotation mark and resolves the marks
in one pass has the label.
-/

namespace SchemaDoc.Page

/-! ## Writing in two passes -/

/-- Every occurrence of a character gives way to some text. -/
def replaced (c : Char) (text : String) (cs : List Char) : List Char :=
  cs.flatMap fun d => if d = c then text.toList else [d]

/-- Marking both characters at once is the same as marking the ampersands first. -/
theorem flatMap_escapeAttribute (cs : List Char) :
    cs.flatMap escapeAttribute = replaced '"' "&quot;" (replaced '&' "&amp;" cs) := by
  rw [replaced, replaced, List.flatMap_assoc]
  apply List.flatMap_congr
  intro c _
  rw [escapeAttribute]
  by_cases hampersand : c = '&'
  · rw [if_pos hampersand, if_pos hampersand]
    decide
  · rw [if_neg hampersand, if_neg hampersand, List.flatMap_singleton]
    rfl

/-! ## Reading -/

/-- Resolves the marks of an attribute from left to right. -/
def unescaped : List Char → List Char
  | '&' :: 'a' :: 'm' :: 'p' :: ';' :: cs => '&' :: unescaped cs
  | '&' :: 'q' :: 'u' :: 'o' :: 't' :: ';' :: cs => '"' :: unescaped cs
  | c :: cs => c :: unescaped cs
  | [] => []

theorem unescaped_cons {c : Char} (hc : c ≠ '&') (cs : List Char) : unescaped (c :: cs) = c :: unescaped cs := by
  rw [unescaped]
  · rintro cs rfl
    exact absurd rfl hc
  · rintro cs rfl
    exact absurd rfl hc

theorem unescaped_flatMap (label : List Char) : unescaped (label.flatMap escapeAttribute) = label := by
  induction label with
  | nil => rfl
  | cons c label ih =>
    rw [List.flatMap_cons, escapeAttribute]
    split
    · next hampersand =>
      subst hampersand
      exact congrArg ('&' :: ·) ih
    · split
      · next hquote =>
        subst hquote
        exact congrArg ('"' :: ·) ih
      · next hampersand _ =>
        rw [List.singleton_append, unescaped_cons hampersand, ih]

theorem quote_notMem_escapeAttribute (c : Char) : '"' ∉ escapeAttribute c := by
  rw [escapeAttribute]
  split
  · decide
  · split
    · decide
    · next hquote =>
      rw [List.mem_singleton]
      exact fun heq => hquote heq.symm

theorem quote_notMem_flatMap (label : List Char) : '"' ∉ label.flatMap escapeAttribute := by
  intro hmem
  obtain ⟨c, -, hc⟩ := List.mem_flatMap.1 hmem
  exact quote_notMem_escapeAttribute c hc

/-- Every ampersand starts one of the marks. -/
theorem starts_mark {label after : List Char} (h : '&' :: after <:+ label.flatMap escapeAttribute) :
    "amp;".toList <+: after ∨ "quot;".toList <+: after := by
  induction label with
  | nil => simp at h
  | cons c label ih =>
    rw [List.flatMap_cons, escapeAttribute] at h
    split at h
    · simp only [List.cons_append, List.nil_append, List.suffix_cons_iff, List.cons.injEq, true_and,
        Char.reduceEq, false_and, false_or] at h
      rcases h with rfl | hrest
      · exact .inl (List.prefix_append "amp;".toList _)
      · exact ih hrest
    · split at h
      · simp only [List.cons_append, List.nil_append, List.suffix_cons_iff, List.cons.injEq, true_and,
          Char.reduceEq, false_and, false_or] at h
        rcases h with rfl | hrest
        · exact .inr (List.prefix_append "quot;".toList _)
        · exact ih hrest
      · next hampersand _ =>
        rw [List.singleton_append, List.suffix_cons_iff, List.cons.injEq] at h
        rcases h with ⟨hc, -⟩ | hrest
        · exact absurd hc.symm hampersand
        · exact ih hrest

/-! ## Badges in a text -/

/-- What stands before the label of a badge. -/
def badgeStart : String := "<Badge class=\"badge badge--secondary\" text=\""

/-- What stands behind the label, the closing quotation mark included. -/
def badgeEnd : String := "\"/>"

/-- The label of the badge that a text starts with, and what follows the badge. -/
def badge? (cs : List Char) : Option (List Char × List Char) := do
  let rest ← badgeStart.toList.isPrefixOf? cs
  let after ← badgeEnd.toList.isPrefixOf? (rest.dropWhile (· ≠ '"'))
  return (unescaped (rest.takeWhile (· ≠ '"')), after)

theorem toList_badge (label : String) :
    (badge label).toList = badgeStart.toList ++ (label.toList.flatMap escapeAttribute ++ badgeEnd.toList) := by
  have hbadge : badge label = badgeStart ++ escapedLabel label ++ badgeEnd := rfl
  rw [hbadge, escapedLabel, String.toList_append, String.toList_append, String.toList_ofList, List.append_assoc]

theorem badge?_badge (label : String) (rest : List Char) :
    badge? ((badge label).toList ++ rest) = some (label.toList, rest) := by
  have hvalue : ∀ c ∈ label.toList.flatMap escapeAttribute, decide (c ≠ '"') = true := by
    intro c hc
    rw [decide_eq_true_eq]
    rintro rfl
    exact quote_notMem_flatMap _ hc
  have htake : (label.toList.flatMap escapeAttribute ++ (badgeEnd.toList ++ rest)).takeWhile (· ≠ '"') =
      label.toList.flatMap escapeAttribute := by
    rw [List.takeWhile_append_of_pos hvalue]
    simp [badgeEnd]
  have hdrop : (label.toList.flatMap escapeAttribute ++ (badgeEnd.toList ++ rest)).dropWhile (· ≠ '"') =
      badgeEnd.toList ++ rest := by
    rw [List.dropWhile_append_of_pos hvalue]
    simp [badgeEnd]
  have hstart (front back : List Char) : front.isPrefixOf? (front ++ back) = some back := by
    induction front with
    | nil => rfl
    | cons c front ih => simp [List.isPrefixOf?, ih]
  rw [toList_badge, List.append_assoc, List.append_assoc, badge?, hstart, Option.bind_eq_bind,
    Option.bind_some, htake, hdrop, hstart, unescaped_flatMap]
  rfl

/--
The attribute of a badge is the label with its ampersands marked and then its
quotation marks. It has no quotation mark, every ampersand in it starts a mark, and
resolving the marks gives the label. So the badge is read back in front of any text,
and no two labels have the same badge.
-/
theorem badge_settled (label : String) :
    ∃ value : List Char,
      (badge label).toList = badgeStart.toList ++ (value ++ badgeEnd.toList) ∧
      value = replaced '"' "&quot;" (replaced '&' "&amp;" label.toList) ∧
      '"' ∉ value ∧
      (∀ after, '&' :: after <:+ value → "amp;".toList <+: after ∨ "quot;".toList <+: after) ∧
      unescaped value = label.toList ∧
      (∀ rest, badge? ((badge label).toList ++ rest) = some (label.toList, rest)) ∧
      ∀ other, badge other = badge label → other = label := by
  refine ⟨label.toList.flatMap escapeAttribute, toList_badge label, flatMap_escapeAttribute _,
    quote_notMem_flatMap _, fun after hafter => starts_mark hafter, unescaped_flatMap _,
    badge?_badge label, ?_⟩
  intro other hbadge
  have hlabel := badge?_badge label []
  rw [← hbadge, badge?_badge, Option.some.injEq, Prod.mk.injEq] at hlabel
  exact String.toList_injective hlabel.1

/-- A label that looks like a mark is told apart from what the mark stands for. -/
theorem badge_settled_marked :
    '&' :: "amp;quot;".toList <:+ "&amp;quot;".toList ∧
      ("amp;".toList <+: "amp;quot;".toList ∨ "quot;".toList <+: "amp;quot;".toList) ∧
      unescaped "&amp;quot;".toList = "&quot;".toList ∧ badge "\"" ≠ badge "&quot;" := by
  obtain ⟨value, -, hvalue, -, hmarks, hread, -, hinj⟩ := badge_settled "&quot;"
  have hmarked : value = "&amp;quot;".toList := hvalue.trans (by decide)
  subst hmarked
  refine ⟨List.suffix_refl _, hmarks _ (List.suffix_refl _), hread, fun hsame => ?_⟩
  have hlabel := hinj "\"" hsame
  exact absurd hlabel (by decide)

end SchemaDoc.Page
