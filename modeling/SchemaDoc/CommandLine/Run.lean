-- SUMMARY: Running commands, and how a run can fail.
import SchemaDoc.CommandLine.Discovery
import SchemaDoc.Rendering
import SchemaDoc.Settings.Reading
import SchemaDoc.Text.Quoted
import SchemaDoc.Toml.Basic

/-!
# Running commands

A run reads the settings, finds and loads the schema, and renders it. The first
of these steps that fails ends the run.
-/

namespace SchemaDoc.CommandLine

/-! ## Failures -/

/-- Why a configuration file could not be read. -/
inductive ConfigReadError where
  | absent (cause : PathError)
  | isFolder
  | notText
  deriving DecidableEq, Repr

def ConfigReadError.message : ConfigReadError → String
  | .absent cause => cause.message
  | .isFolder => "Is a directory (os error 21)"
  | .notText => "stream did not contain valid UTF-8"

/-- Why a run fails. -/
inductive Failure where
  | unreadableConfig (path : String) (cause : ConfigReadError)
  | invalidConfig (path : String)
  | unscannable (path : String) (cause : PathError)
  | noSchemaFiles (sources : Sources)
  | build (cause : BuildError)
  | settings (cause : ConfigError)
  deriving DecidableEq, Repr

def Failure.message : Failure → String
  | .unreadableConfig path cause =>
    "Failed to read configuration file " ++ Text.shown path ++ ": " ++ cause.message
  | .invalidConfig path => "Invalid configuration file " ++ Text.shown path
  | .unscannable path cause =>
    "Failed to scan " ++ Text.shown path ++ ": IO error for operation on " ++ path ++ ": "
      ++ cause.message ++ ": " ++ cause.message
  | .noSchemaFiles sources =>
    "No schema files with extension " ++ String.intercalate ", " sources.extensions ++ " found under ["
      ++ String.intercalate ", " (sources.paths.map Text.shown) ++ "]"
  | .build cause => "Failed to build the schema: " ++ cause.message
  | .settings cause => cause.message

/-- The text that reports a failure to the user. -/
def Failure.report (failure : Failure) : String :=
  "❌ " ++ failure.message

/-! ## Steps -/

/-- The content of the configuration file at a path, as text. -/
def configText (disk : Disk) (path : String) : Except ConfigReadError String :=
  match disk path with
  | .error cause => .error (.absent cause)
  | .ok (.folder _) => .error .isFolder
  | .ok (.file content) =>
    match String.fromUTF8? content with
    | some text => .ok text
    | none => .error .notText

namespace Sources

/-- The settings of the configuration file, or the defaults if there is none. -/
def settings (sources : Sources) (disk : Disk) : Except Failure Settings :=
  match sources.config with
  | none => .ok .default
  | some path =>
    match configText disk path with
    | .error cause => .error (.unreadableConfig path cause)
    | .ok text =>
      match (Toml.parse text).bind (RawSetting.settings? .file) with
      | some settings => .ok settings
      | none => .error (.invalidConfig path)

/-- The schema of all schema files together. -/
def schema (sources : Sources) (disk : Disk) : Except Failure Schema :=
  match sources.schemaFiles disk with
  | .error (path, cause) => .error (.unscannable path cause)
  | .ok [] => .error (.noSchemaFiles sources)
  | .ok files => (Schema.ofContents files).mapError .build

/-- The pages of the schema. -/
def pages (sources : Sources) (disk : Disk) : Except Failure (List Rendered) := do
  let settings ← sources.settings disk
  let schema ← sources.schema disk
  (schema.render settings).mapError .settings

end Sources

/-! ## Output -/

/-- A page as a line: category, group, slug and name between tabs. -/
def listLine (page : Rendered) : String :=
  page.category.name ++ "\t" ++ page.group.getD "-" ++ "\t" ++ page.slug ++ "\t" ++ page.name

/-- A page under a comment that says where it belongs. -/
def placedPage (page : Rendered) : String :=
  "<!-- " ++ page.category.name ++ "/" ++ page.slug ++ " -->\n" ++ page.body

/-- What an action prints of the pages. -/
def Action.output (action : Action) (pages : List Rendered) : String :=
  match action with
  | .list => String.intercalate "\n" (pages.map listLine)
  | .render only =>
    let wanted := pages.filter fun page => only.isEmpty || only.contains page.name
    String.intercalate "\n" (wanted.map placedPage)

/-- What a command prints, without the final line break. -/
def Command.run (command : Command) (disk : Disk) : Except Failure String := do
  return command.action.output (← command.sources.pages disk)

end SchemaDoc.CommandLine
