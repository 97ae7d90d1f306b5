-- SUMMARY: Directives applied to items of a schema.
import SchemaDoc.OrderedMap
import SchemaDoc.Value

/-!
# Applied directives

A directive applied to an item, with the arguments written there. Two directives
have a meaning of their own: `@deprecated` gives the reason why an item should
not be used, `@specifiedBy` the address of a scalar's specification. Where a
directive is applied several times the first application counts.
-/

namespace SchemaDoc

/-- The name of a directive and the arguments written at its application. -/
structure AppliedDirective where
  name : String
  args : OrderedMap Value
  deriving Inhabited

namespace AppliedDirective

/-- The first application of the directive. -/
def first? (applied : List AppliedDirective) (name : String) : Option AppliedDirective :=
  applied.find? (·.name == name)

/-- Whether an item with these carries the directive. -/
def carries (applied : List AppliedDirective) (name : String) : Bool :=
  applied.any (·.name == name)

/-- The string given for an argument where the directive is first applied. -/
def stringArg? (applied : List AppliedDirective) (name arg : String) : Option String := do
  let application ← first? applied name
  let value ← application.args.find? arg
  value.asString

/-- The reason of a `@deprecated` that gives none. -/
def defaultReason : String := "No longer supported"

/-- Why the item is deprecated, if it is. -/
def deprecation? (applied : List AppliedDirective) : Option String :=
  if carries applied "deprecated" then
    some ((stringArg? applied "deprecated" "reason").getD defaultReason)
  else none

/-- Whether an item with these is deprecated. -/
def isDeprecated (applied : List AppliedDirective) : Bool :=
  carries applied "deprecated"

/-- The address of the specification, if one is given. -/
def specification? (applied : List AppliedDirective) : Option String :=
  stringArg? applied "specifiedBy" "url"

end AppliedDirective

end SchemaDoc
