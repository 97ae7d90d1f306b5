-- SUMMARY: All entities of a schema, slot by slot.
import SchemaDoc.Catalog.Entity
import SchemaDoc.Text.Pattern

/-!
# Catalogs

A catalog files every entity of a schema under its name in one of ten slots. The
root types have no entry of their own, their fields do; the types through which
a schema describes itself have none at all. Each slot keeps the order of the
schema.
-/

namespace SchemaDoc

/-- The entities of each slot by name. -/
structure Catalog where
  queries : OrderedMap Entity
  mutations : OrderedMap Entity
  subscriptions : OrderedMap Entity
  directives : OrderedMap Entity
  objects : OrderedMap Entity
  unions : OrderedMap Entity
  interfaces : OrderedMap Entity
  enums : OrderedMap Entity
  inputs : OrderedMap Entity
  scalars : OrderedMap Entity
  deriving Inhabited

namespace Catalog

/-- The entities of one slot. -/
def slot (catalog : Catalog) : Slot → OrderedMap Entity
  | .queries => catalog.queries
  | .mutations => catalog.mutations
  | .subscriptions => catalog.subscriptions
  | .directives => catalog.directives
  | .objects => catalog.objects
  | .unions => catalog.unions
  | .interfaces => catalog.interfaces
  | .enums => catalog.enums
  | .inputs => catalog.inputs
  | .scalars => catalog.scalars

/-- Nothing is filed yet. -/
def empty : Catalog :=
  ⟨.empty, .empty, .empty, .empty, .empty, .empty, .empty, .empty, .empty, .empty⟩

/-- Files an entity under a name in a slot. -/
def enter (catalog : Catalog) (slot : Slot) (name : String) (entity : Entity) : Catalog :=
  match slot with
  | .queries => { catalog with queries := catalog.queries.insert name entity }
  | .mutations => { catalog with mutations := catalog.mutations.insert name entity }
  | .subscriptions => { catalog with subscriptions := catalog.subscriptions.insert name entity }
  | .directives => { catalog with directives := catalog.directives.insert name entity }
  | .objects => { catalog with objects := catalog.objects.insert name entity }
  | .unions => { catalog with unions := catalog.unions.insert name entity }
  | .interfaces => { catalog with interfaces := catalog.interfaces.insert name entity }
  | .enums => { catalog with enums := catalog.enums.insert name entity }
  | .inputs => { catalog with inputs := catalog.inputs.insert name entity }
  | .scalars => { catalog with scalars := catalog.scalars.insert name entity }

/-- Every entity with its slot, in the order of the slots and then of the schema. -/
def entities (catalog : Catalog) : List (Slot × Entity) :=
  Slot.all.flatMap fun slot => (catalog.slot slot).values.map (slot, ·)

/-- The entity that a reference to a type means, with its slot. -/
def findType? (catalog : Catalog) (name : String) : Option (Slot × Entity) :=
  Slot.lookupOrder.findSome? fun slot => ((catalog.slot slot).find? name).map (slot, ·)

end Catalog

namespace Schema

/-- What is left out of a catalog: names that begin with two underscores, and those of root types. -/
def excludedNames (schema : Schema) : Text.Pattern :=
  match OperationKind.all.filterMap schema.roots.get with
  | [] => .seq .start (.literal "__")
  | first :: rest =>
    .seq .start (.either (.literal "__")
      (.seq (.anyOf (.literal first) (rest.map .literal)) .stop))

/-- Files the operations of a kind: the fields of its root type. -/
def enterOperations (schema : Schema) (catalog : Catalog) (kind : OperationKind) : Catalog :=
  match schema.rootFields? kind with
  | some (_, fields) =>
    fields.entries.foldl
      (fun catalog entry => catalog.enter (.ofOperation kind) entry.1 (.operation kind entry.2)) catalog
  | none => catalog

/-- Files a type in the slot of its kind unless its name is left out. -/
def enterType (excluded : Text.Pattern) (catalog : Catalog) (entry : String × TypeDef) : Catalog :=
  if excluded.isMatch entry.1 then catalog
  else catalog.enter (.ofKind entry.2.kind) entry.1 (.type entry.2)

/-- The catalog of a schema. -/
def catalog (schema : Schema) : Catalog :=
  let catalog := OperationKind.all.foldl schema.enterOperations .empty
  let catalog := schema.types.entries.foldl (enterType schema.excludedNames) catalog
  schema.directives.entries.foldl
    (fun catalog entry => catalog.enter .directives entry.1 (.directive entry.2)) catalog

end Schema

end SchemaDoc
