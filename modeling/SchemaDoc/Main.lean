-- SUMMARY: The program: files are read, a command runs, and its output is printed.
import SchemaDoc.CommandLine.Arguments
import SchemaDoc.CommandLine.LogLevel
import SchemaDoc.CommandLine.Run

/-!
# The program

Takes a snapshot of what lies at the paths that the command names, and runs the
command on it. Output goes to standard output, and all else to standard error.
-/

namespace SchemaDoc.CommandLine

/-! ## Usage -/

def helpText : String := String.intercalate "\n" [
  "Generates Markdown documentation from GraphQL schema files.",
  "",
  "Usage: schema-doc [-v] list [OPTIONS] <FILE_OR_DIR_PATHS>...",
  "       schema-doc [-v] render [OPTIONS] [--only <NAMES>] <FILE_OR_DIR_PATHS>...",
  "",
  "Commands:",
  "  list    Print the documents that would be generated, and where they belong",
  "  render  Render the schema and print the documents",
  "  help    Print this message",
  "",
  "Options:",
  "  -c, --config <FILE>              A configuration file",
  "      --graphql-file-exts <EXTS>   Extensions of schema files [default: graphql,graphqls]",
  "      --only <NAMES>               Only print the documents of entities with these names",
  "  -v, --verbose                    Log at debug level. Overrides LOG_LEVEL",
  "  -h, --help                       Print help",
  "  -V, --version                    Print version"]

def versionText : String := "schema-doc 0.1.0"

def Usage.text : Usage → String
  | .help | .helpByDefault => helpText
  | .version => versionText
  | .unknownArgument => "error: unexpected argument found"
  | .unknownCommand => "error: unrecognized subcommand"
  | .missingCommand => "error: a subcommand is required"
  | .missingPath => "error: no paths were given"
  | .badValue => "error: a value is required but none was supplied"
  | .surplusValue => "error: unexpected value for a flag"
  | .repeated => "error: an argument cannot be used multiple times"

/-- Help and version are answers that were asked for; all else is a fault. -/
def Usage.isAnswer : Usage → Bool
  | .help | .version => true
  | _ => false

/-! ## Files -/

/-- What lies at a path. Files below a folder are read only if they are wanted. -/
partial def snapshot (wanted : String → Bool) (path : String) : IO FileTree := do
  let place := (← IO.currentDir) / path
  if ← place.isDir then
    let mut entries := []
    for entry in ← place.readDir do
      let child := FileTree.childPath path entry.fileName
      let isFolder ← (place / entry.fileName).isDir
      let tree ← if isFolder || wanted child then snapshot wanted child else pure (.file .empty)
      entries := FileTree.insertSorted entry.fileName tree entries
    return .folder entries
  else return .file (← IO.FS.readBinFile place)

/-- The snapshot of a path, or why there is nothing at it. -/
def lookAt (wanted : String → Bool) (path : String) : IO (Except PathError FileTree) := do
  try
    return .ok (← snapshot wanted path)
  catch
    | .inappropriateType .. => return .error .notAFolder
    | .invalidArgument .. => return .error .tooLong
    | _ => return .error .notFound

/-- Snapshots of all paths that a command names. -/
def diskFor (sources : Sources) : IO Disk := do
  let mut seen := []
  for path in sources.config.toList ++ sources.paths do
    seen := (path, ← lookAt sources.accepts path) :: seen
  let found := seen
  return fun path => (found.lookup path).getD (.error .notFound)

end SchemaDoc.CommandLine

open SchemaDoc.CommandLine in
/-- Exits with 0 if the command succeeds, 1 if it fails, and 2 if there is no command. -/
def main (args : List String) : IO UInt32 := do
  match Command.ofArgs args with
  | .error usage =>
    if usage.isAnswer then IO.println usage.text else IO.eprintln usage.text
    return if usage.isAnswer then 0 else 2
  | .ok command =>
    if let some warning := (command.logLevel (← IO.getEnv "LOG_LEVEL")).2 then
      IO.eprintln warning
    match command.run (← diskFor command.sources) with
    | .ok text =>
      IO.println text
      return 0
    | .error failure =>
      IO.eprintln failure.report
      return 1
