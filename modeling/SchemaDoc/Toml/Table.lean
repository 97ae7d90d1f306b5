-- SUMMARY: Tables of a configuration file while their keys are being assigned.
import SchemaDoc.Settings.Reading

/-!
# Tables under construction

A table remembers how it came about, because that decides what may be added to
it: a value is never replaced, and a dotted key only reaches into tables that
came about by dotted keys or are implied by the header of a section.
-/

namespace SchemaDoc.Toml

/-- How a table came about. -/
inductive Origin where
  /-- By the header of a section inside it. -/
  | implied
  /-- By a header of its own. -/
  | header
  /-- By a dotted key. -/
  | dotted
  deriving DecidableEq, Repr

inductive Node where
  | value (value : RawSetting)
  | table (origin : Origin) (entries : List (String × Node))
  deriving Inhabited

abbrev Nodes := List (String × Node)

/-- Replaces the entry of that name, or adds one. -/
def put (key : String) (node : Node) : Nodes → Nodes
  | [] => [(key, node)]
  | entry :: entries =>
    if entry.1 = key then (key, node) :: entries else entry :: put key node entries

/-- Assigns a value to a dotted key of a table. -/
def assign : List String → RawSetting → Nodes → Option Nodes
  | [], _, _ => none
  | [key], value, nodes =>
    if (nodes.lookup key).isSome then none else some (put key (.value value) nodes)
  | key :: path, value, nodes =>
    match nodes.lookup key with
    | none => (assign path value []).map fun sub => put key (.table .dotted sub) nodes
    | some (.table .dotted sub) => (assign path value sub).map fun sub => put key (.table .dotted sub) nodes
    | some (.table .implied sub) =>
      if path.length ≤ 1 then none
      else (assign path value sub).map fun sub => put key (.table .implied sub) nodes
    | some _ => none

/-- Opens the section of that name, unless it was opened before. -/
def openSection : List String → Nodes → Option Nodes
  | [], _ => none
  | [key], nodes =>
    match nodes.lookup key with
    | none => some (put key (.table .header []) nodes)
    | some (.table .implied sub) => some (put key (.table .header sub) nodes)
    | some _ => none
  | key :: path, nodes =>
    match nodes.lookup key with
    | none => (openSection path []).map fun sub => put key (.table .implied sub) nodes
    | some (.table origin sub) => (openSection path sub).map fun sub => put key (.table origin sub) nodes
    | some (.value _) => none

/-- Assigns a value to a key of the section of that name. -/
def assignIn (path : List String) (value : RawSetting) : List String → Nodes → Option Nodes
  | [], nodes => assign path value nodes
  | key :: header, nodes =>
    match nodes.lookup key with
    | some (.table origin sub) =>
      (assignIn path value header sub).map fun sub => put key (.table origin sub) nodes
    | _ => none

mutual

/-- The finished data. -/
def Node.setting : Node → RawSetting
  | .value value => value
  | .table _ entries => .table (settingEntries entries)

def settingEntries : List (String × Node) → List (String × RawSetting)
  | [] => []
  | (key, node) :: entries => (key, node.setting) :: settingEntries entries

end

end SchemaDoc.Toml
