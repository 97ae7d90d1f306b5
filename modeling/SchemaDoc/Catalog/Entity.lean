-- SUMMARY: What gets a page of its own, and the categories of pages.
import SchemaDoc.Schema.Basic

/-!
# Entities

An entity is a type, a directive or a field of a root type. Each belongs to one
of ten slots, which are also the categories of pages. Entities and their members
are items: things with a name that carry directives.
-/

namespace SchemaDoc

/-! ## Slots -/

/-- The ten categories into which entities are filed. -/
inductive Slot where
  | queries
  | mutations
  | subscriptions
  | directives
  | objects
  | unions
  | interfaces
  | enums
  | inputs
  | scalars
  deriving DecidableEq, Repr, Inhabited

namespace Slot

/-- All slots in the order of the documentation. -/
def all : List Slot :=
  [.queries, .mutations, .subscriptions, .directives, .objects, .unions, .interfaces, .enums,
    .inputs, .scalars]

/-- The slots in which a name is looked up, in order. -/
def lookupOrder : List Slot :=
  [.enums, .unions, .interfaces, .objects, .inputs, .scalars, .directives]

/-- The slot of the operations of a kind. -/
def ofOperation : OperationKind → Slot
  | .query => .queries
  | .mutation => .mutations
  | .subscription => .subscriptions

/-- The slot of the types of a kind. -/
def ofKind : TypeKind → Slot
  | .enum => .enums
  | .input => .inputs
  | .interface => .interfaces
  | .object => .objects
  | .scalar => .scalars
  | .union => .unions

/-- Whether the slot holds operations. -/
def isOperation : Slot → Bool
  | .queries | .mutations | .subscriptions => true
  | _ => false

/-- The name of the slot, which is the category of its pages. -/
def name : Slot → String
  | .queries => "queries"
  | .mutations => "mutations"
  | .subscriptions => "subscriptions"
  | .directives => "directives"
  | .objects => "objects"
  | .unions => "unions"
  | .interfaces => "interfaces"
  | .enums => "enums"
  | .inputs => "inputs"
  | .scalars => "scalars"

/-- One entity of the slot, as badges call it. -/
def singular : Slot → String
  | .queries => "query"
  | .mutations => "mutation"
  | .subscriptions => "subscription"
  | .directives => "directive"
  | .objects => "object"
  | .unions => "union"
  | .interfaces => "interface"
  | .enums => "enum"
  | .inputs => "input"
  | .scalars => "scalar"

end Slot

/-! ## Items -/

/-- Something with a name that carries directives. -/
structure Item where
  name : String
  applied : List AppliedDirective
  deriving Inhabited

/-- Whether a directive of that name is applied to the item. -/
def Item.carries (item : Item) (directive : String) : Bool :=
  AppliedDirective.carries item.applied directive

/-- Why the item is deprecated, if it is. -/
def Item.deprecation? (item : Item) : Option String :=
  AppliedDirective.deprecation? item.applied

/-- Whether the item is deprecated. -/
def Item.isDeprecated (item : Item) : Bool :=
  AppliedDirective.isDeprecated item.applied

def InputValue.item (input : InputValue) : Item := ⟨input.name, input.applied⟩

def Field.item (field : Field) : Item := ⟨field.name, field.applied⟩

def EnumValue.item (value : EnumValue) : Item := ⟨value.name, value.applied⟩

def TypeDef.item (type : TypeDef) : Item := ⟨type.name, type.applied⟩

/-! ## Entities -/

/-- What gets a page of its own. -/
inductive Entity where
  | type (type : TypeDef)
  | operation (kind : OperationKind) (field : Field)
  | directive (directive : DirectiveDef)
  deriving Inhabited

namespace Entity

def name : Entity → String
  | .type t => t.name
  | .operation _ f => f.name
  | .directive d => d.name

def description : Entity → Option String
  | .type t => t.description
  | .operation _ f => f.description
  | .directive d => d.description

def location : Entity → Location
  | .type t => t.location
  | .operation _ f => f.location
  | .directive d => d.location

/-- The directives applied to the entity; none can be applied to the definition of a directive. -/
def applied : Entity → List AppliedDirective
  | .type t => t.applied
  | .operation _ f => f.applied
  | .directive _ => []

def item (entity : Entity) : Item := ⟨entity.name, entity.applied⟩

/-- The slot to which the entity belongs. -/
def slot : Entity → Slot
  | .type t => .ofKind t.kind
  | .operation kind _ => .ofOperation kind
  | .directive _ => .directives

end Entity

end SchemaDoc
