-- SUMMARY: References to types, with lists and nullability.

/-!
# Type references

The declared type of a field or argument: a name or a list of such a reference.
Each level says whether it admits null; in text, a level that does not is marked
with an exclamation mark.
-/

namespace SchemaDoc

/-- A reference to a type; each level says whether it admits null. -/
inductive TypeRef where
  | named (name : String) (nullable : Bool)
  | list (item : TypeRef) (nullable : Bool)
  deriving DecidableEq, Repr, Inhabited

namespace TypeRef

/-- Whether the outermost level admits null. -/
def nullable : TypeRef → Bool
  | .named _ nullable => nullable
  | .list _ nullable => nullable

/-- Whether the outermost level is a list. -/
def isList : TypeRef → Bool
  | .named .. => false
  | .list .. => true

/-- The same reference with the outermost level not admitting null. -/
def nonNull : TypeRef → TypeRef
  | .named name _ => .named name false
  | .list item _ => .list item false

/-- The name under all lists. -/
def name : TypeRef → String
  | .named name _ => name
  | .list item _ => item.name

/-- Whether the name under all lists admits null. -/
def nameNullable : TypeRef → Bool
  | .named _ nullable => nullable
  | .list item _ => item.nameNullable

/-- The reference as written: items in brackets, an exclamation mark where null is not admitted. -/
def text : TypeRef → String
  | .named name nullable => name ++ (if nullable then "" else "!")
  | .list item nullable => "[" ++ item.text ++ "]" ++ (if nullable then "" else "!")

end TypeRef

end SchemaDoc
