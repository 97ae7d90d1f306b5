-- SUMMARY: Which types the items of a schema mention, said apart from the lists in which they are collected.
import SchemaDoc.Schema.Basic

/-!
# Mentioned types

A field mentions its own type and those of its arguments, a type mentions those
of its fields, its interfaces and its members, and a directive mentions those of
its arguments. Lists and nullability around a type make no difference.
-/

namespace SchemaDoc

/-- The name of the type under all lists, whether or not the levels admit null. -/
inductive TypeRef.Wraps (name : String) : TypeRef → Prop where
  | named (nullable : Bool) : Wraps name (.named name nullable)
  | list {item : TypeRef} (nullable : Bool) : Wraps name item → Wraps name (.list item nullable)

theorem TypeRef.wraps_iff {type : TypeRef} {name : String} : type.Wraps name ↔ type.name = name := by
  constructor
  · intro h
    induction h with
    | named nullable => rfl
    | list nullable _ ih => exact ih
  · intro h
    induction type with
    | named other nullable =>
      obtain rfl : other = name := h
      exact .named nullable
    | list item nullable ih => exact .list nullable (ih h)

/-- Some input has the type, under any lists. -/
def OrderedMap.Mentions (inputs : OrderedMap InputValue) (name : String) : Prop :=
  ∃ input ∈ inputs.values, input.type.Wraps name

/-- The field or one of its arguments has the type. -/
def Field.Mentions (field : Field) (name : String) : Prop :=
  field.type.Wraps name ∨ field.args.Mentions name

/-- A type mentions the types of its fields, its interfaces and its members. -/
def TypeBody.Mentions (name : String) : TypeBody → Prop
  | .enum _ | .scalar => False
  | .input fields => fields.Mentions name
  | .interface interfaces fields | .object interfaces fields =>
    name ∈ interfaces ∨ ∃ field ∈ fields.values, field.Mentions name
  | .union members => name ∈ members

/-- Some type or some argument of a directive mentions the type. -/
def Schema.Mentions (schema : Schema) (name : String) : Prop :=
  (∃ type ∈ schema.types.values, type.body.Mentions name) ∨
    ∃ directive ∈ schema.directives.values, directive.args.Mentions name

/-! ## The collected names -/

theorem OrderedMap.mentions_iff {inputs : OrderedMap InputValue} {name : String} :
    inputs.Mentions name ↔ name ∈ inputs.values.map (·.type.name) := by
  simp only [Mentions, TypeRef.wraps_iff, List.mem_map]

theorem Field.mentions_iff {field : Field} {name : String} :
    field.Mentions name ↔ name ∈ field.referenced := by
  rw [Mentions, OrderedMap.mentions_iff, TypeRef.wraps_iff, referenced, List.mem_cons, eq_comm]

theorem TypeBody.mentions_iff {body : TypeBody} {name : String} :
    body.Mentions name ↔ name ∈ body.referenced := by
  have hfields : ∀ (interfaces : List String) (fields : OrderedMap Field),
      (name ∈ interfaces ∨ ∃ field ∈ fields.values, field.Mentions name) ↔
        name ∈ interfaces ++ fields.values.flatMap Field.referenced := by
    intro interfaces fields
    simp only [List.mem_append, List.mem_flatMap, Field.mentions_iff]
  cases body with
  | enum values => exact (iff_false_intro List.not_mem_nil).symm
  | input fields => exact OrderedMap.mentions_iff
  | interface interfaces fields => exact hfields interfaces fields
  | object interfaces fields => exact hfields interfaces fields
  | scalar => exact (iff_false_intro List.not_mem_nil).symm
  | union members => exact Iff.rfl

instance (body : TypeBody) (name : String) : Decidable (body.Mentions name) :=
  decidable_of_iff (name ∈ body.referenced) TypeBody.mentions_iff.symm

end SchemaDoc
