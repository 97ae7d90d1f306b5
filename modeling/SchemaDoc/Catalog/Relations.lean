-- SUMMARY: Which entities of a catalog are related to a type.
import SchemaDoc.Catalog.Basic

/-!
# Relations

An entity is related to a type by returning it, by having a field or argument of
it, by listing it as a member or by implementing it. A relation lists the related
entities of each slot it looks at, in catalog order and one of each name; slots
without any are left out.
-/

namespace SchemaDoc

/-- The related entities of each slot that has some. -/
abbrev Relation := List (Slot × List Entity)

namespace Entity

/-- Whether the entity is an operation that returns the type, under any lists. -/
def returns (type : String) : Entity → Bool
  | .operation _ f => f.type.name == type
  | _ => false

def anyOf (type : String) (inputs : OrderedMap InputValue) : Bool :=
  inputs.values.any (·.type.name == type)

/-- Whether a field or an argument of the entity has the type, under any lists. -/
def mentions (type : String) : Entity → Bool
  | .operation _ f => f.references type
  | .directive d => anyOf type d.args
  | .type t =>
    match t.body with
    | .object _ fields => fields.values.any (·.references type)
    | .interface _ fields => fields.values.any (·.references type)
    | .input fields => anyOf type fields
    | _ => false

/-- Whether the entity is a union with the type as a member. -/
def hasMember (type : String) : Entity → Bool
  | .type ⟨_, _, _, _, .union members⟩ => members.contains type
  | _ => false

/-- Whether the entity is an object or interface that implements the type. -/
def implements (type : String) : Entity → Bool
  | .type ⟨_, _, _, _, .object interfaces _⟩ => interfaces.contains type
  | .type ⟨_, _, _, _, .interface interfaces _⟩ => interfaces.contains type
  | _ => false

end Entity

/-- The first entity of each name, apart from the names seen before. -/
def Entity.unseen (seen : List String) : List Entity → List Entity
  | [] => []
  | entity :: rest =>
    if seen.contains entity.name then unseen seen rest
    else entity :: unseen (entity.name :: seen) rest

namespace Catalog

/-- The entities of some slots that satisfy a condition, the first of each name. -/
def related (catalog : Catalog) (slots : List Slot) (holds : Entity → Bool) : Relation :=
  (slots.map fun slot => (slot, Entity.unseen [] ((catalog.slot slot).values.filter holds))).filter
    (!·.2.isEmpty)

/-- The operations that return the type. -/
def returning (catalog : Catalog) (type : String) : Relation :=
  catalog.related [.queries, .mutations, .subscriptions] (·.returns type)

/-- The entities with a field or argument of the type. -/
def mentioning (catalog : Catalog) (type : String) : Relation :=
  catalog.related
    [.queries, .mutations, .subscriptions, .objects, .interfaces, .inputs, .directives]
    (·.mentions type)

/-- The unions with the type as a member. -/
def unionsOf (catalog : Catalog) (type : String) : Relation :=
  catalog.related [.unions] (·.hasMember type)

/-- The objects and interfaces that implement the type. -/
def implementing (catalog : Catalog) (type : String) : Relation :=
  catalog.related [.objects, .interfaces] (·.implements type)

/-- The objects, interfaces and unions for which the type stands in an `implements` or member list. -/
def extending (catalog : Catalog) (type : String) : Relation :=
  catalog.related [.objects, .interfaces, .unions] fun entity =>
    entity.implements type || entity.hasMember type

end Catalog

end SchemaDoc
