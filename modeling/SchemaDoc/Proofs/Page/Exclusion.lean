-- SUMMARY: Code blocks name no type that is left out, except as an interface.
import SchemaDoc.Proofs.Page.Context
import SchemaDoc.Proofs.Page.Outline

/-!
# Types that are left out

What has a type that is left out does not show: fields, arguments and input
fields are filtered by their types, members of unions by their names, and an
operation that returns such a type has no page. Interfaces pass no filter, so the
code block of a type names all that it implements.
-/

namespace SchemaDoc

/-! ## Types in code blocks -/

namespace Code

/-- The types of a field and of its arguments. -/
def Field.typeNames (field : Field) : List String :=
  field.type.name :: field.args.map (·.type.name)

/-- The types of fields, arguments and input fields, the return types and the members of unions. -/
def typeNames : Code → List String
  | .enum .. | .scalar _ => []
  | .input _ fields => fields.map (·.type.name)
  | .interface _ _ fields | .object _ _ fields => fields.flatMap Field.typeNames
  | .union _ members => members
  | .directive _ args _ _ => args.map (·.type.name)
  | .operation field => field.typeNames

end Code

/-! ## What shows -/

namespace PageContext

variable {ctx : PageContext}

/-- An item shows only if its type does. -/
theorem isTypeExcluded_of_isPrinted {item : Item} {type : String}
    (h : ctx.isPrinted item (some type) = true) : ctx.isTypeExcluded type = false := by
  simp only [isPrinted, isExcluded, Bool.and_eq_true, Bool.not_eq_true', Bool.or_eq_false_iff,
    Option.any_some] at h
  exact h.2.2

theorem typeNames_codeInputs (ctx : PageContext) (inputs : OrderedMap InputValue) :
    ∀ type ∈ (ctx.codeInputs inputs).map (·.type.name), ctx.isTypeExcluded type = false := by
  intro type htype
  rw [codeInputs, List.map_map] at htype
  obtain ⟨input, hinput, rfl⟩ := List.mem_map.1 htype
  exact isTypeExcluded_of_isPrinted (List.mem_filter.1 hinput).2

theorem typeNames_codeField {field : Field} (h : ctx.isTypeExcluded field.type.name = false) :
    ∀ type ∈ (ctx.codeField field).typeNames, ctx.isTypeExcluded type = false :=
  List.forall_mem_cons.2 ⟨h, ctx.typeNames_codeInputs field.args⟩

theorem typeNames_codeFields (ctx : PageContext) (fields : OrderedMap Field) :
    ∀ type ∈ (ctx.codeFields fields).flatMap Code.Field.typeNames, ctx.isTypeExcluded type = false := by
  intro type htype
  obtain ⟨shown, hshown, hname⟩ := List.mem_flatMap.1 htype
  obtain ⟨field, hfield, rfl⟩ := List.mem_map.1 hshown
  exact typeNames_codeField (isTypeExcluded_of_isPrinted (List.mem_filter.1 hfield).2) type hname

/-- An operation has a page only if its type is not left out. -/
theorem isTypeExcluded_of_isDocumented {kind : OperationKind} {field : Field}
    (h : ctx.isDocumented (.operation kind field) = true) :
    ctx.isTypeExcluded field.type.name = false := by
  simp only [isDocumented, isExcluded, Bool.and_eq_true, Bool.not_eq_true', Bool.or_eq_false_iff,
    Option.any_some] at h
  exact h.1.2

/--
The code block of a documented entity names no type that is left out as that of a
field, an argument or an input field, as one that is returned or as a member. It
has all interfaces, whether they are left out or not.
-/
theorem typeNames_code {entity : Entity} (h : ctx.isDocumented entity = true) :
    (∀ type ∈ (ctx.code entity).typeNames, ctx.isTypeExcluded type = false) ∧
      (ctx.code entity).interfaces = entity.outline.interfaces := by
  cases entity with
  | operation kind field => exact ⟨typeNames_codeField (isTypeExcluded_of_isDocumented h), rfl⟩
  | directive directive => exact ⟨ctx.typeNames_codeInputs directive.args, rfl⟩
  | type type =>
    obtain ⟨name, description, location, applied, body⟩ := type
    cases body with
    | enum values => exact ⟨nofun, rfl⟩
    | scalar => exact ⟨nofun, rfl⟩
    | input fields => exact ⟨ctx.typeNames_codeInputs fields, rfl⟩
    | interface interfaces fields => exact ⟨ctx.typeNames_codeFields fields, rfl⟩
    | object interfaces fields => exact ⟨ctx.typeNames_codeFields fields, rfl⟩
    | union members =>
      refine ⟨fun member hmember => ?_, rfl⟩
      simpa using (List.mem_filter.1 hmember).2

end PageContext

/-- A type that implements an interface and has a field with it, where the interface is left out. -/
def Document.concealed : List Document :=
  [⟨some "a.graphql",
    "directive @noDoc on INTERFACE interface Hidden @noDoc { id: ID } type Dog implements Hidden { id: ID twin: Hidden }"⟩]

/-- Leaves out what carries the directive. -/
def Settings.concealing : Settings :=
  { Settings.default with skipDirectives := ["noDoc"] }

theorem PageContext.typeNames_code_concealed :
    ∃ schema ctx dog, Schema.ofDocuments Document.concealed = .ok schema ∧
      PageContext.ofSchema schema Settings.concealing = .ok ctx ∧ ctx.isDocumented dog = true ∧
        dog.outline.typeNames = ["ID", "Hidden"] ∧ ctx.isTypeExcluded "Hidden" = true ∧
          "Hidden" ∉ (ctx.code dog).typeNames := by
  have hpasses : PageContext.passes Document.concealed Settings.concealing (fun ctx =>
      decide (ctx.isTypeExcluded "Hidden" = true ∧ ∃ entry ∈ ctx.documented,
        entry.2.outline.typeNames = ["ID", "Hidden"])) = true := by
    decide +kernel
  obtain ⟨schema, ctx, hschema, hctx, htest⟩ := PageContext.exists_of_passes hpasses
  obtain ⟨hexcluded, ⟨slot, dog⟩, hdog, houtline⟩ := of_decide_eq_true htest
  have hdocumented := (PageContext.mem_documented_iff.1 hdog).2
  refine ⟨schema, ctx, dog, hschema, hctx, hdocumented, houtline, hexcluded, fun hshown => ?_⟩
  rw [(PageContext.typeNames_code hdocumented).1 "Hidden" hshown] at hexcluded
  cases hexcluded

/-- The field does not show, but the interface does. -/
theorem PageContext.interfaces_code_concealed :
    ∃ schema ctx slot dog, Schema.ofDocuments Document.concealed = .ok schema ∧
      PageContext.ofSchema schema Settings.concealing = .ok ctx ∧ (slot, dog) ∈ ctx.documented ∧
        ctx.isTypeExcluded "Hidden" = true ∧ "Hidden" ∈ (ctx.code dog).interfaces ∧
          (ctx.code dog).text = "type Dog implements Hidden \x7b\n  id: ID\n\x7d" := by
  have hpasses : PageContext.passes Document.concealed Settings.concealing (fun ctx =>
      decide (ctx.isTypeExcluded "Hidden" = true ∧ ∃ entry ∈ ctx.documented,
        "Hidden" ∈ (ctx.code entry.2).interfaces ∧
          (ctx.code entry.2).text = "type Dog implements Hidden \x7b\n  id: ID\n\x7d")) = true := by
    decide +kernel
  obtain ⟨schema, ctx, hschema, hctx, htest⟩ := PageContext.exists_of_passes hpasses
  obtain ⟨hexcluded, ⟨slot, dog⟩, hdog, hinterface, htext⟩ := of_decide_eq_true htest
  exact ⟨schema, ctx, slot, dog, hschema, hctx, hdog, hexcluded, hinterface, htext⟩

end SchemaDoc
