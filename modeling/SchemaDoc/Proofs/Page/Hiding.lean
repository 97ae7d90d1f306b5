-- SUMMARY: Skipping more directives only takes away: pages, what code blocks show, and links.
import Mathlib.Data.List.Forall2
import SchemaDoc.Page.Code
import SchemaDoc.Page.Link
import SchemaDoc.Proofs.Page.Context

/-!
# Hiding more

Settings can name directives whose items are left out. If they name more of them
and are the same otherwise, no page is added, code blocks lose members and
arguments but gain and change none, and a link stays as it is or becomes plain
code. The order of the names does not matter, nor whether they repeat.
-/

namespace SchemaDoc

/-! ## Parts of code blocks -/

namespace Code

/-- The same field with some of its arguments. -/
structure Field.Within (part whole : Field) : Prop where
  name : part.name = whole.name
  args : part.args.Sublist whole.args
  type : part.type = whole.type
  deprecated : part.deprecated = whole.deprecated

/-- The same definition with some of its members and arguments, in order. -/
inductive Within : Code → Code → Prop
  | enum {name : String} {part whole : List EnumValue} (h : part.Sublist whole) :
      Within (.enum name part) (.enum name whole)
  | input {name : String} {part whole : List Input} (h : part.Sublist whole) :
      Within (.input name part) (.input name whole)
  | interface {name : String} {interfaces : List String} {part whole : List Field}
      (h : part.SublistForall₂ Field.Within whole) :
      Within (.interface name interfaces part) (.interface name interfaces whole)
  | object {name : String} {interfaces : List String} {part whole : List Field}
      (h : part.SublistForall₂ Field.Within whole) :
      Within (.object name interfaces part) (.object name interfaces whole)
  | scalar {name : String} : Within (.scalar name) (.scalar name)
  | union {name : String} {part whole : List String} (h : part.Sublist whole) :
      Within (.union name part) (.union name whole)
  | directive {name : String} {repeatable : Bool} {places : List String} {part whole : List Input}
      (h : part.Sublist whole) :
      Within (.directive name part repeatable places) (.directive name whole repeatable places)
  | operation {part whole : Field} (h : part.Within whole) : Within (.operation part) (.operation whole)

end Code

/-! ## Skipping other directives -/

/-- The same settings, but items with other directives are left out. -/
def Settings.skipping (settings : Settings) (names : List String) : Settings :=
  { settings with skipDirectives := names }

/-- The same context, but items with other directives are left out. -/
def PageContext.skipping (ctx : PageContext) (names : List String) : PageContext :=
  { ctx with settings := ctx.settings.skipping names }

namespace PageContext

/-- Which directives are skipped has no part in making a context. -/
theorem ofSchema_skipping {schema : Schema} {settings : Settings} {ctx : PageContext}
    (h : ofSchema schema settings = .ok ctx) (names : List String) :
    ofSchema schema (settings.skipping names) = .ok (ctx.skipping names) := by
  obtain ⟨customs, hcustoms, rfl⟩ := ofSchema_eq_ok_iff.1 h
  exact ofSchema_eq_ok_iff.2 ⟨customs, hcustoms, rfl⟩

variable {ctx : PageContext} {names : List String}

/-! ## What is left out -/

theorem isSkipped_skipping (h : ctx.settings.skipDirectives ⊆ names) {item : Item}
    (hskipped : ctx.isSkipped item = true) : (ctx.skipping names).isSkipped item = true := by
  obtain ⟨name, hname, hcarries⟩ := List.any_eq_true.1 hskipped
  exact List.any_eq_true.2 ⟨name, h hname, hcarries⟩

theorem isTypeExcluded_skipping (h : ctx.settings.skipDirectives ⊆ names) {type : String}
    (hexcluded : ctx.isTypeExcluded type = true) : (ctx.skipping names).isTypeExcluded type = true := by
  obtain ⟨definition, hfind, hskipped⟩ := (Option.any_eq_true _ _).1 hexcluded
  exact (Option.any_eq_true _ _).2 ⟨definition, hfind, isSkipped_skipping h hskipped⟩

theorem isExcluded_skipping (h : ctx.settings.skipDirectives ⊆ names) {item : Item} {type : Option String}
    (hexcluded : ctx.isExcluded item type = true) : (ctx.skipping names).isExcluded item type = true := by
  rcases Bool.or_eq_true_iff.1 hexcluded with hskipped | htype
  · exact Bool.or_eq_true_iff.2 (.inl (isSkipped_skipping h hskipped))
  · obtain ⟨name, hname, hexcluded⟩ := (Option.any_eq_true _ _).1 htype
    exact Bool.or_eq_true_iff.2
      (.inr ((Option.any_eq_true _ _).2 ⟨name, hname, isTypeExcluded_skipping h hexcluded⟩))

/-- What is not left out although more is skipped is not left out. -/
theorem not_isExcluded_of_skipping (h : ctx.settings.skipDirectives ⊆ names) {item : Item}
    {type : Option String} (hshown : (!(ctx.skipping names).isExcluded item type) = true) :
    (!ctx.isExcluded item type) = true := by
  rw [Bool.not_eq_true', ← Bool.not_eq_true] at hshown ⊢
  exact mt (isExcluded_skipping h) hshown

theorem isPrinted_of_skipping (h : ctx.settings.skipDirectives ⊆ names) {item : Item} {type : Option String}
    (hprinted : (ctx.skipping names).isPrinted item type = true) : ctx.isPrinted item type = true := by
  obtain ⟨hmode, hshown⟩ := Bool.and_eq_true_iff.1 hprinted
  exact Bool.and_eq_true_iff.2 ⟨hmode, not_isExcluded_of_skipping h hshown⟩

theorem isDocumented_of_skipping (h : ctx.settings.skipDirectives ⊆ names) {entity : Entity}
    (hdocumented : (ctx.skipping names).isDocumented entity = true) : ctx.isDocumented entity = true := by
  obtain ⟨hshown, honly⟩ := Bool.and_eq_true_iff.1 hdocumented
  exact Bool.and_eq_true_iff.2 ⟨not_isExcluded_of_skipping h hshown, honly⟩

/-- The pages that are left stand in their order. -/
theorem documented_skipping (h : ctx.settings.skipDirectives ⊆ names) :
    (ctx.skipping names).documented.Sublist ctx.documented :=
  List.monotone_filter_right _ fun _ => isDocumented_of_skipping h

/-! ## What code blocks show -/

theorem codeInputs_skipping (h : ctx.settings.skipDirectives ⊆ names) (inputs : OrderedMap InputValue) :
    ((ctx.skipping names).codeInputs inputs).Sublist (ctx.codeInputs inputs) :=
  (List.monotone_filter_right _ fun _ => isPrinted_of_skipping h).map ctx.codeInput

theorem codeValues_skipping (h : ctx.settings.skipDirectives ⊆ names) (values : OrderedMap EnumValue) :
    ((ctx.skipping names).codeValues values).Sublist (ctx.codeValues values) :=
  (List.monotone_filter_right _ fun _ => isPrinted_of_skipping h).map _

theorem codeField_skipping (h : ctx.settings.skipDirectives ⊆ names) (field : Field) :
    ((ctx.skipping names).codeField field).Within (ctx.codeField field) :=
  ⟨rfl, codeInputs_skipping h field.args, rfl, rfl⟩

/-- Fields that are left are fields that were there, each with some of its arguments. -/
theorem codeFields_skipping (h : ctx.settings.skipDirectives ⊆ names) (fields : OrderedMap Field) :
    ((ctx.skipping names).codeFields fields).SublistForall₂ Code.Field.Within (ctx.codeFields fields) := by
  apply List.sublistForall₂_iff.2
  refine ⟨(fields.values.filter (ctx.skipping names).isFieldPrinted).map ctx.codeField, ?_, ?_⟩
  · rw [codeFields, List.forall₂_map_left_iff, List.forall₂_map_right_iff, List.forall₂_same]
    exact fun field _ => codeField_skipping h field
  · exact (List.monotone_filter_right _ fun _ => isPrinted_of_skipping h).map ctx.codeField

theorem members_skipping (h : ctx.settings.skipDirectives ⊆ names) (members : List String) :
    (members.filter (!(ctx.skipping names).isTypeExcluded ·)).Sublist
      (members.filter (!ctx.isTypeExcluded ·)) := by
  apply List.monotone_filter_right
  intro member hshown
  rw [Bool.not_eq_true', ← Bool.not_eq_true] at hshown ⊢
  exact mt (isTypeExcluded_skipping h) hshown

theorem code_skipping (h : ctx.settings.skipDirectives ⊆ names) (entity : Entity) :
    ((ctx.skipping names).code entity).Within (ctx.code entity) := by
  cases entity with
  | operation kind field => exact .operation (codeField_skipping h field)
  | directive directive => exact .directive (codeInputs_skipping h directive.args)
  | type type =>
    obtain ⟨name, description, location, applied, body⟩ := type
    cases body with
    | enum values => exact .enum (codeValues_skipping h values)
    | input fields => exact .input (codeInputs_skipping h fields)
    | interface interfaces fields => exact .interface (codeFields_skipping h fields)
    | object interfaces fields => exact .object (codeFields_skipping h fields)
    | scalar => exact .scalar
    | union members => exact .union (members_skipping h members)

/-! ## Links -/

/-- A link loses its target if the page is gone; addresses stay. -/
theorem link_skipping (h : ctx.settings.skipDirectives ⊆ names) (display type : String) :
    (ctx.skipping names).link display type = ctx.link display type ∨
      (ctx.skipping names).link display type = ⟨display, none⟩ := by
  unfold link
  cases hfind : ctx.catalog.findType? type with
  | none =>
    have hfind' : (ctx.skipping names).catalog.findType? type = none := hfind
    exact .inl (by rw [hfind'])
  | some entry =>
    obtain ⟨slot, entity⟩ := entry
    have hfind' : (ctx.skipping names).catalog.findType? type = some (slot, entity) := hfind
    rw [hfind']
    cases hshown : (ctx.skipping names).isDocumented entity with
    | false => exact .inr (by simp [hshown])
    | true =>
      have hpath : (ctx.skipping names).path slot type = ctx.path slot type := rfl
      exact .inl (by simp [hshown, isDocumented_of_skipping h hshown, hpath])

end PageContext

/--
If settings skip more directives and are the same otherwise, pages are only lost,
code blocks show part of what they showed, and the text of a link is the same or
plain code.
-/
theorem Schema.hiding_monotone {schema : Schema} {settings : Settings} {names : List String}
    (h : settings.skipDirectives ⊆ names) {ctx : PageContext}
    (hctx : PageContext.ofSchema schema settings = .ok ctx) :
    ∃ hidden, PageContext.ofSchema schema { settings with skipDirectives := names } = .ok hidden ∧
      (∀ entity, hidden.isDocumented entity = true → ctx.isDocumented entity = true) ∧
      hidden.documented.Sublist ctx.documented ∧
      (∀ entity, (hidden.code entity).Within (ctx.code entity)) ∧
      ∀ display type, (hidden.link display type).text = (ctx.link display type).text ∨
        (hidden.link display type).text = "`" ++ display ++ "`" := by
  have hskip : ctx.settings.skipDirectives ⊆ names := by
    obtain ⟨customs, -, rfl⟩ := PageContext.ofSchema_eq_ok_iff.1 hctx
    exact h
  refine ⟨ctx.skipping names, PageContext.ofSchema_skipping hctx names,
    fun _ => PageContext.isDocumented_of_skipping hskip, PageContext.documented_skipping hskip,
    PageContext.code_skipping hskip, ?_⟩
  intro display type
  exact (PageContext.link_skipping hskip display type).imp (congrArg Page.Link.text)
    (congrArg Page.Link.text)

/-- A type with a field that is left out at first, and an argument and a field of another type that is not. -/
def Document.hiding : List Document :=
  [⟨some "a.graphql", "type Dog { id: ID age: Int @beta friend(like: Toy): Dog toys(last: Int): Toy }"⟩,
    ⟨some "b.graphql", "scalar Toy @noDoc"⟩]

theorem Schema.hiding_monotone_dog :
    ∃ schema ctx hidden dog, Schema.ofDocuments Document.hiding = .ok schema ∧
      PageContext.ofSchema schema { Settings.default with skipDirectives := ["beta"] } = .ok ctx ∧
      PageContext.ofSchema schema { Settings.default with skipDirectives := ["noDoc", "beta"] } = .ok hidden ∧
      (hidden.code dog).Within (ctx.code dog) ∧
      (ctx.code dog).text =
        "type Dog \x7b\n  id: ID\n  friend(\n    like: Toy\n  ): Dog\n  toys(\n    last: Int\n  ): Toy\n\x7d" ∧
      (hidden.code dog).text = "type Dog \x7b\n  id: ID\n  friend: Dog\n\x7d" ∧
      (ctx.link "Toy!" "Toy").text = "[`Toy!`](/schema/types/scalars/toy)" ∧
      (hidden.link "Toy!" "Toy").text = "`Toy!`" := by
  have hpasses : PageContext.passes Document.hiding { Settings.default with skipDirectives := ["beta"] }
      (fun ctx => decide ((∃ entry ∈ ctx.documented,
        (ctx.code entry.2).text =
          "type Dog \x7b\n  id: ID\n  friend(\n    like: Toy\n  ): Dog\n  toys(\n    last: Int\n  ): Toy\n\x7d" ∧
        ((ctx.skipping ["noDoc", "beta"]).code entry.2).text = "type Dog \x7b\n  id: ID\n  friend: Dog\n\x7d") ∧
        (ctx.link "Toy!" "Toy").text = "[`Toy!`](/schema/types/scalars/toy)" ∧
        ((ctx.skipping ["noDoc", "beta"]).link "Toy!" "Toy").text = "`Toy!`")) = true := by
    decide +kernel
  obtain ⟨schema, ctx, hschema, hctx, htest⟩ := PageContext.exists_of_passes hpasses
  obtain ⟨⟨⟨slot, dog⟩, -, hcode, hhidden⟩, hlink, hplain⟩ := of_decide_eq_true htest
  have hnames : { Settings.default with skipDirectives := ["beta"] }.skipDirectives ⊆ ["noDoc", "beta"] := by
    decide
  obtain ⟨hidden, hmore, -, -, hwithin, -⟩ := Schema.hiding_monotone hnames hctx
  cases (PageContext.ofSchema_skipping hctx ["noDoc", "beta"]).symm.trans hmore
  exact ⟨schema, ctx, _, dog, hschema, hctx, hmore, hwithin dog, hcode, hhidden, hlink, hplain⟩

end SchemaDoc
