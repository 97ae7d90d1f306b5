-- SUMMARY: Commands, and what keeps arguments from giving one.

/-!
# Commands

The command line lists the pages of a schema or prints them. Arguments that give
no command, help and version among them, have a reason for it.
-/

namespace SchemaDoc.CommandLine

/-- What a command does with the pages of the schema. -/
inductive Action where
  /-- One line for each page. -/
  | list
  /-- The pages themselves; if names are given, only those of entities with these names. -/
  | render (only : List String)
  deriving DecidableEq, Repr, Inhabited

/-- Where the schema and the settings come from. -/
structure Sources where
  /-- The path of the configuration file. -/
  config : Option String
  /-- The extensions of schema files in folders. -/
  extensions : List String
  /-- The files and folders of the schema. -/
  paths : List String
  deriving DecidableEq, Repr, Inhabited

/-- What the arguments ask for. -/
structure Command where
  verbose : Bool
  action : Action
  sources : Sources
  deriving DecidableEq, Repr, Inhabited

/-- Why arguments give no command. -/
inductive Usage where
  | help
  /-- There are no arguments at all. -/
  | helpByDefault
  | version
  | unknownArgument
  | unknownCommand
  | missingCommand
  /-- A command without any path. -/
  | missingPath
  /-- An option without its value, or an empty path. -/
  | badValue
  /-- A value for a flag, which takes none. -/
  | surplusValue
  /-- A flag or an option given twice that can only be given once. -/
  | repeated
  deriving DecidableEq, Repr, Inhabited

/-- The extensions looked for where none are given. -/
def Sources.defaultExtensions : List String := ["graphql", "graphqls"]

end SchemaDoc.CommandLine
