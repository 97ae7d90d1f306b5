-- SUMMARY: Constant values, as written in defaults and directive arguments.
import SchemaDoc.Number.Shortest
import SchemaDoc.Sdl.StringLiteral

/-!
# Values

A value is what a schema document may write as the default of an argument or as
the argument of an applied directive. `Value.text` writes it as a literal on one
line.
-/

namespace SchemaDoc

/-- A constant, as a schema document may write it. -/
inductive Value where
  | null
  | bool (value : Bool)
  | int (value : Int)
  | float (value : Binary64)
  | string (value : String)
  | enum (name : String)
  /-- A variable has no meaning in a schema, but may be written in one. -/
  | var (name : String)
  | list (items : List Value)
  /-- The keys differ and are sorted by code point. -/
  | object (entries : List (String × Value))
  deriving Inhabited, Repr

namespace Value

mutual

/-- The literal of a value. -/
def text : Value → String
  | .null => "null"
  | .bool value => if value then "true" else "false"
  | .int value => toString value
  | .float value => value.text
  | .string value => Sdl.quote value
  | .enum name => name
  | .var name => "$" ++ name
  | .list items => "[" ++ String.intercalate ", " (itemTexts items) ++ "]"
  | .object entries => "\x7b" ++ String.intercalate ", " (entryTexts entries) ++ "\x7d"

def itemTexts : List Value → List String
  | [] => []
  | item :: items => text item :: itemTexts items

def entryTexts : List (String × Value) → List String
  | [] => []
  | (key, value) :: entries => (key ++ ": " ++ text value) :: entryTexts entries

end

/-- The content of a string value. -/
def asString : Value → Option String
  | .string value => some value
  | _ => none

/-- Content of a string, literal of every other value: how a value shows in running text. -/
def plainText (v : Value) : String :=
  v.asString.getD v.text

/-- Enters a key into sorted entries; a key that is there gets the new value. -/
def insertSorted (key : String) (value : Value) : List (String × Value) → List (String × Value)
  | [] => [(key, value)]
  | entry :: entries =>
    if key < entry.1 then (key, value) :: entry :: entries
    else if key = entry.1 then (key, value) :: entries
    else entry :: insertSorted key value entries

/-- The object with these entries, of which the last of each key counts. -/
def ofEntries (entries : List (String × Value)) : Value :=
  .object (entries.foldl (fun sorted entry => insertSorted entry.1 entry.2 sorted) [])

end Value

end SchemaDoc
