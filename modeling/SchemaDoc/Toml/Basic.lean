-- SUMMARY: Configuration files: sections of keys and values.
import SchemaDoc.Toml.Reader

/-!
# Configuration files

A configuration file assigns values to keys, line by line, in sections that a
header names. No key is assigned twice and no section is opened twice; dotted
keys make tables that no section can open again.
-/

namespace SchemaDoc.Toml

/-- The header of a section, between brackets. -/
def header : Reader (List String) := do
  char '['
  spaces
  let path ← key
  spaces
  char ']'
  return path

/-- Reads line by line, knowing the open section; `bound` limits the number of lines. -/
def readLines (bound : Nat) (sectionPath : List String) (nodes : Nodes) (cs : List Char) :
    Option Nodes :=
  match bound, skipBlanks false cs with
  | _, [] => some nodes
  | 0, _ => none
  | bound + 1, '[' :: rest => do
    let (path, rest) ← header ('[' :: rest)
    if endsLine rest then readLines bound path (← openSection path nodes) rest else none
  | bound + 1, c :: rest => do
    let ((path, v), rest) ← keyValue value (c :: rest)
    if endsLine rest then readLines bound sectionPath (← assignIn path v sectionPath nodes) rest
    else none

/-- The data of a configuration file, which may start with a byte order mark. -/
def parse (content : String) : Option RawSetting :=
  let cs := match content.toList with
    | '\uFEFF' :: cs => cs
    | cs => cs
  (readLines cs.length [] [] cs).map fun nodes => .table (settingEntries nodes)

end SchemaDoc.Toml
