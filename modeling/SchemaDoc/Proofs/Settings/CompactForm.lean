-- SUMMARY: The texts that are read as the compact form of a grouping, each in one way, and all others are reported.
import SchemaDoc.Proofs.Text.Word
import SchemaDoc.Settings.Reading

/-!
# The compact form of a grouping

The compact form names a directive and one of its arguments, and may name a
fallback. Any text may follow it. Its words are separated by characters that stand
in no word, so a text starts with one compact form at most.
-/

namespace SchemaDoc

/-! ## Forms -/

/-- A directive and its argument, with or without a fallback. -/
@[ext] structure CompactForm where
  directive : String
  field : String
  fallback? : Option String
  isWord_directive : Text.IsWord directive
  isWord_field : Text.IsWord field
  isWord_fallback : ∀ fallback ∈ fallback?, Text.IsWord fallback

namespace CompactForm

/-- The form as it is written. -/
def text (form : CompactForm) : String :=
  "@" ++ form.directive ++ "(" ++ form.field
    ++ (match form.fallback? with
      | some fallback => "|=" ++ fallback
      | none => "")
    ++ ")"

/-- What the form stands for. -/
def groupBy (form : CompactForm) : GroupBy where
  directive := form.directive
  field := form.field
  fallback := form.fallback?.getD "Miscellaneous"

/-- What stands behind the argument. -/
def closing : Option String → List Char
  | some fallback => '|' :: '=' :: (fallback.toList ++ [')'])
  | none => [')']

theorem toList_text (form : CompactForm) :
    form.text.toList =
      '@' :: (form.directive.toList ++ '(' :: (form.field.toList ++ closing form.fallback?)) := by
  cases hfallback : form.fallback? <;> simp [text, closing, hfallback]

theorem toList_text_append (form : CompactForm) (rest : String) :
    (form.text ++ rest).toList =
      '@' :: (form.directive.toList ++ '(' :: (form.field.toList ++ (closing form.fallback? ++ rest.toList))) := by
  simp [toList_text]

/-! ## One form at most -/

theorem stops_open (rest : List Char) : Text.Stops ('(' :: rest) :=
  Text.stops_cons (by decide)

theorem stops_close (rest : List Char) : Text.Stops (')' :: rest) :=
  Text.stops_cons (by decide)

theorem stops_closing (fallback? : Option String) (rest : List Char) : Text.Stops (closing fallback? ++ rest) := by
  cases fallback? with
  | none => exact stops_close rest
  | some fallback => exact Text.stops_cons (by decide)

theorem closing_append_inj {fallback? other? : Option String} {rest rest' : List Char}
    (hword : ∀ fallback ∈ fallback?, Text.IsWord fallback) (hother : ∀ other ∈ other?, Text.IsWord other)
    (h : closing fallback? ++ rest = closing other? ++ rest') : fallback? = other? ∧ rest = rest' := by
  cases fallback? with
  | none =>
    cases other? with
    | none => exact ⟨rfl, (List.cons.inj h).2⟩
    | some other => cases (List.cons.inj h).1
  | some fallback =>
    cases other? with
    | none => cases (List.cons.inj h).1
    | some other =>
      simp only [closing, List.cons_append, List.append_assoc, List.cons.injEq, true_and] at h
      obtain ⟨rfl, hrest⟩ := (hword _ rfl).append_inj (hother _ rfl) (stops_close rest) (stops_close rest') h
      exact ⟨rfl, (List.cons.inj hrest).2⟩

/-- A text starts with one compact form at most, and this ends in one place. -/
theorem text_append_inj {form other : CompactForm} {rest rest' : String}
    (h : form.text ++ rest = other.text ++ rest') : form = other ∧ rest = rest' := by
  have hchars := congrArg String.toList h
  rw [toList_text_append, toList_text_append, List.cons.injEq] at hchars
  obtain ⟨hdirective, hchars⟩ :=
    form.isWord_directive.append_inj other.isWord_directive (stops_open _) (stops_open _) hchars.2
  obtain ⟨hfield, hchars⟩ := form.isWord_field.append_inj other.isWord_field
    (stops_closing _ _) (stops_closing _ _) (List.cons.inj hchars).2
  obtain ⟨hfallback, hrest⟩ := closing_append_inj form.isWord_fallback other.isWord_fallback hchars
  exact ⟨CompactForm.ext hdirective hfield hfallback, String.toList_injective hrest⟩

end CompactForm

/-! ## Reading -/

namespace GroupBy

variable {cs rest : List Char} {word fallback option : String} {groupBy : GroupBy}

theorem word?_eq_some_iff :
    word? cs = some (word, rest) ↔ Text.IsWord word ∧ Text.Stops rest ∧ cs = word.toList ++ rest := by
  rw [word?]
  constructor
  · intro h
    split at h
    · cases h
    · next run after hne hspan =>
      cases h
      obtain ⟨hrun, hstops, hcut⟩ := Text.spanWord_eq_iff.1 hspan
      rw [Text.isWord_iff, String.toList_ofList]
      exact ⟨⟨hne, hrun⟩, hstops, hcut⟩
  · rintro ⟨hword, hstops, hcut⟩
    have hspan := Text.spanWord_eq_iff.2 ⟨hword.chars, hstops, hcut⟩
    split
    · next hnil => exact absurd (congrArg Prod.fst (hspan.symm.trans hnil)) hword.nonempty
    · next hsome =>
      cases hspan.symm.trans hsome
      rw [String.ofList_toList]

theorem fallback?_eq_some_iff :
    fallback? cs = some fallback ↔
      ∃ written? rest, (∀ written ∈ written?, Text.IsWord written) ∧
        cs = CompactForm.closing written? ++ rest ∧ fallback = written?.getD "Miscellaneous" := by
  constructor
  · intro h
    unfold fallback? at h
    split at h
    · next rest =>
      cases h
      exact ⟨none, rest, nofun, rfl, rfl⟩
    · split at h
      · next written rest hread =>
        cases h
        obtain ⟨hword, -, rfl⟩ := word?_eq_some_iff.1 hread
        refine ⟨some fallback, rest, ?_, by simp [CompactForm.closing], rfl⟩
        rintro written ⟨⟩
        exact hword
      · cases h
    · cases h
  · rintro ⟨written?, rest, hwords, rfl, rfl⟩
    cases written? with
    | none => rfl
    | some written =>
      have hread : word? (written.toList ++ ([')'] ++ rest)) = some (written, [')'] ++ rest) :=
        word?_eq_some_iff.2 ⟨hwords written rfl, CompactForm.stops_close rest, rfl⟩
      rw [CompactForm.closing, List.cons_append, List.cons_append, List.append_assoc, fallback?, hread]
      rfl

/-- What is read from a text is the compact form that it starts with. -/
theorem parse?_eq_some_iff :
    parse? option = some groupBy ↔
      ∃ form rest, option = CompactForm.text form ++ rest ∧ groupBy = form.groupBy := by
  constructor
  · intro h
    unfold parse? at h
    split at h
    · next cs hat =>
      split at h
      · next directive cs hdirective =>
        split at h
        · next field cs hfield =>
          obtain ⟨fallback, hfallback, rfl⟩ := Option.map_eq_some_iff.1 h
          obtain ⟨hwordDirective, -, rfl⟩ := word?_eq_some_iff.1 hdirective
          obtain ⟨hwordField, -, rfl⟩ := word?_eq_some_iff.1 hfield
          obtain ⟨written?, rest, hwords, rfl, rfl⟩ := fallback?_eq_some_iff.1 hfallback
          refine ⟨⟨directive, field, written?, hwordDirective, hwordField, hwords⟩, String.ofList rest, ?_, rfl⟩
          apply String.toList_injective
          rw [hat, CompactForm.toList_text_append, String.toList_ofList]
        · cases h
      · cases h
    · cases h
  · rintro ⟨form, rest, rfl, rfl⟩
    have hdirective := word?_eq_some_iff.2 ⟨form.isWord_directive, CompactForm.stops_open
      (form.field.toList ++ (CompactForm.closing form.fallback? ++ rest.toList)), rfl⟩
    have hfield := word?_eq_some_iff.2 ⟨form.isWord_field,
      CompactForm.stops_closing form.fallback? rest.toList, rfl⟩
    have hfallback := fallback?_eq_some_iff.2
      ⟨form.fallback?, rest.toList, form.isWord_fallback, rfl, rfl⟩
    unfold parse?
    rw [CompactForm.toList_text_append]
    simp only [hdirective, hfield, hfallback, Option.map_some]
    rfl

theorem parse?_eq_none_iff : parse? option = none ↔ ∀ form rest, option ≠ CompactForm.text form ++ rest := by
  rw [Option.eq_none_iff_forall_ne_some]
  constructor
  · intro hnone form rest heq
    exact hnone _ (parse?_eq_some_iff.2 ⟨form, rest, heq, rfl⟩)
  · intro hnot groupBy hsome
    obtain ⟨form, rest, heq, -⟩ := parse?_eq_some_iff.1 hsome
    exact hnot form rest heq

theorem parse_eq_ok_iff :
    parse option = .ok groupBy ↔
      ∃ form rest, option = CompactForm.text form ++ rest ∧ groupBy = form.groupBy := by
  rw [← parse?_eq_some_iff, parse]
  cases parse? option <;> simp

theorem parse_eq_error_iff {error : ConfigError} :
    parse option = .error error ↔
      error = .invalidGroupBy option ∧ ∀ form rest, option ≠ CompactForm.text form ++ rest := by
  rw [← parse?_eq_none_iff, parse]
  cases parse? option <;> simp [eq_comm]

/-- What is written of words is a compact form without anything behind it. -/
theorem exists_form_text (hdirective : Text.IsWord groupBy.directive) (hfield : Text.IsWord groupBy.field)
    (hfallback : Text.IsWord groupBy.fallback) :
    ∃ form : CompactForm, groupBy.text = form.text ++ "" ∧ groupBy = form.groupBy := by
  have hwritten : ∀ fallback ∈ some groupBy.fallback, Text.IsWord fallback := by
    rintro fallback ⟨⟩
    exact hfallback
  refine ⟨⟨groupBy.directive, groupBy.field, some groupBy.fallback, hdirective, hfield, hwritten⟩, ?_, rfl⟩
  rw [String.append_empty, text, CompactForm.text]
  simp only [String.append_assoc]

end GroupBy

/--
A text is read exactly if it starts with a compact form, and gives what this form
stands for; the form and what follows it are determined by the text. Every other text
is reported as it is. What is written of words is read back.
-/
theorem GroupBy.compact_settled (option : String) :
    (∀ groupBy, GroupBy.parse option = .ok groupBy ↔
      ∃ form rest, option = CompactForm.text form ++ rest ∧ groupBy = form.groupBy) ∧
    (∀ form other rest rest', option = CompactForm.text form ++ rest →
      option = CompactForm.text other ++ rest' → form = other ∧ rest = rest') ∧
    (∀ error, GroupBy.parse option = .error error ↔
      error = .invalidGroupBy option ∧ ∀ form rest, option ≠ CompactForm.text form ++ rest) ∧
    ∀ groupBy : GroupBy, Text.IsWord groupBy.directive → Text.IsWord groupBy.field →
      Text.IsWord groupBy.fallback → option = groupBy.text → GroupBy.parse option = .ok groupBy := by
  refine ⟨fun _ => parse_eq_ok_iff, ?_, fun _ => parse_eq_error_iff, ?_⟩
  · intro form other rest rest' hform hother
    exact CompactForm.text_append_inj (hform.symm.trans hother)
  · intro groupBy hdirective hfield hfallback htext
    obtain ⟨form, hform, hgroupBy⟩ := exists_form_text hdirective hfield hfallback
    exact parse_eq_ok_iff.2 ⟨form, "", htext.trans hform, hgroupBy⟩

/-- Letters beyond ASCII are read back, and what looks like a fallback behind the form is not read. -/
theorem GroupBy.compact_settled_trailing :
    (Text.IsWord "doc" ∧ Text.IsWord "category" ∧ Text.IsWord "Übriges" ∧
      GroupBy.parse (GroupBy.text ⟨"doc", "category", "Übriges"⟩) = .ok ⟨"doc", "category", "Übriges"⟩) ∧
    ∃ form : CompactForm, "@doc(category)|=misc)" = form.text ++ "|=misc)" ∧
      GroupBy.parse "@doc(category)|=misc)" = .ok form.groupBy ∧
      ∀ other rest, "@doc(category)|=misc)" = CompactForm.text other ++ rest → form = other ∧ "|=misc)" = rest := by
  have hdoc : Text.IsWord "doc" := by decide
  have hcategory : Text.IsWord "category" := by decide
  have hfallback : Text.IsWord "Übriges" := by decide
  obtain ⟨-, -, -, hback⟩ := GroupBy.compact_settled (GroupBy.text ⟨"doc", "category", "Übriges"⟩)
  obtain ⟨hok, hunique, -⟩ := GroupBy.compact_settled "@doc(category)|=misc)"
  refine ⟨⟨hdoc, hcategory, hfallback, hback _ hdoc hcategory hfallback rfl⟩, ?_⟩
  let form : CompactForm := ⟨"doc", "category", none, hdoc, hcategory, nofun⟩
  have hform : "@doc(category)|=misc)" = form.text ++ "|=misc)" := rfl
  exact ⟨form, hform, (hok _).2 ⟨form, _, hform, rfl⟩, fun other rest => hunique form other _ rest hform⟩

example : GroupBy.parse "@doc(category|misc)" = .error (.invalidGroupBy "@doc(category|misc)") := rfl

end SchemaDoc
