-- SUMMARY: Assigning entities to groups by the argument of a directive.
import SchemaDoc.Catalog.Basic
import SchemaDoc.Text.Word

/-!
# Groups

A directive argument can assign each entity to a group, which becomes a folder of
the documentation. The compact form `@directive(argument|=fallback)` says which;
the fallback is the group of the entities to which the directive gives none.
-/

namespace SchemaDoc

/-- The directive argument that names the group, and the group where it is missing. -/
structure GroupBy where
  directive : String
  field : String
  fallback : String
  deriving DecidableEq, Repr, Inhabited

namespace GroupBy

/-- The fallback where none is given. -/
def defaultFallback : String := "Miscellaneous"

/-- A word that is not empty, and what follows it. -/
def word? (cs : List Char) : Option (String × List Char) :=
  match Text.spanWord cs with
  | ([], _) => none
  | (word, rest) => some (String.ofList word, rest)

/-- What stands after the argument name: a closing parenthesis or first a fallback. -/
def fallback? : List Char → Option String
  | ')' :: _ => some defaultFallback
  | '|' :: '=' :: cs =>
    match word? cs with
    | some (fallback, ')' :: _) => some fallback
    | _ => none
  | _ => none

/-- Reads the compact form, which any text may follow. -/
def parse? (option : String) : Option GroupBy :=
  match option.toList with
  | '@' :: cs =>
    match word? cs with
    | some (directive, '(' :: cs) =>
      match word? cs with
      | some (field, rest) => (fallback? rest).map fun fallback => ⟨directive, field, fallback⟩
      | none => none
    | _ => none
  | _ => none

/-- The compact form. -/
def text (groupBy : GroupBy) : String :=
  "@" ++ groupBy.directive ++ "(" ++ groupBy.field ++ "|=" ++ groupBy.fallback ++ ")"

/-- The group of an entity: the string argument where the directive is first applied, or the fallback. -/
def groupOf (groupBy : GroupBy) (entity : Entity) : String :=
  if entity.location.isDeclared then
    (AppliedDirective.stringArg? entity.applied groupBy.directive groupBy.field).getD groupBy.fallback
  else groupBy.fallback

end GroupBy

/-- The group of every entity, by slot and name. -/
abbrev Groups := List (Slot × OrderedMap String)

/-- The group of every entity of a catalog. -/
def Catalog.groups (catalog : Catalog) (groupBy : GroupBy) : Groups :=
  Slot.all.map fun slot => (slot, (catalog.slot slot).map groupBy.groupOf)

/-- The group of an entity. -/
def Groups.find? (groups : Groups) (slot : Slot) (name : String) : Option String :=
  (groups.lookup slot).bind (·.find? name)

end SchemaDoc
