-- SUMMARY: Schemas: types, directives and the root types of operations.
import SchemaDoc.Schema.TypeDef

/-!
# Schemas

A schema lists its types and directives in order: declared ones first, then what
the language defines. A root type gives an operation its fields; its name need
not be the name of an object type.
-/

namespace SchemaDoc

/-! ## Operations -/

namespace OperationKind

/-- All kinds, in the order in which a schema names them. -/
def all : List OperationKind := [.query, .mutation, .subscription]

/-- The lower-case word for the kind. -/
def keyword : OperationKind → String
  | .query => "query"
  | .mutation => "mutation"
  | .subscription => "subscription"

/-- The name of the root type where no schema block gives one. -/
def defaultRoot : OperationKind → String
  | .query => "Query"
  | .mutation => "Mutation"
  | .subscription => "Subscription"

end OperationKind

/-- One value for each kind of operation. -/
structure PerOperation (α : Type) where
  query : α
  mutation : α
  subscription : α
  deriving Inhabited, DecidableEq, Repr

namespace PerOperation

variable {α β : Type}

def get (values : PerOperation α) : OperationKind → α
  | .query => values.query
  | .mutation => values.mutation
  | .subscription => values.subscription

def set (values : PerOperation α) : OperationKind → α → PerOperation α
  | .query, a => { values with query := a }
  | .mutation, a => { values with mutation := a }
  | .subscription, a => { values with subscription := a }

/-- The values that `f` gives. -/
def ofFn (f : OperationKind → α) : PerOperation α :=
  ⟨f .query, f .mutation, f .subscription⟩

@[simp] theorem get_ofFn (f : OperationKind → α) (kind : OperationKind) : (ofFn f).get kind = f kind := by
  cases kind <;> rfl

theorem get_set (values : PerOperation α) (kind other : OperationKind) (a : α) :
    (values.set kind a).get other = if other = kind then a else values.get other := by
  cases kind <;> cases other <;> simp [set, get]

end PerOperation

/-! ## Schemas -/

/-- The types, the directives and the names of the root types. -/
structure Schema where
  types : OrderedMap TypeDef
  directives : OrderedMap DirectiveDef
  roots : PerOperation (Option String)
  deriving Inhabited

namespace Schema

/-- The root object type of an operation: its fields are what the operation offers. -/
def rootFields? (schema : Schema) (kind : OperationKind) : Option (TypeDef × OrderedMap Field) := do
  let name ← schema.roots.get kind
  let type ← schema.types.find? name
  match type.body with
  | .object _ fields => some (type, fields)
  | _ => none

end Schema

end SchemaDoc
