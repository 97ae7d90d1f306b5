-- SUMMARY: Finding the schema files at or under given paths.
import SchemaDoc.CommandLine.Command
import SchemaDoc.Schema.Files

/-!
# Finding schema files

A single path to a file names a schema file, whatever its extension. Otherwise
the schema files are the files at or under the given paths that have one of the
given extensions: path by path, and within a folder in the order of the tree. A
file that several paths reach is found each time.
-/

namespace SchemaDoc

/-- The name of the file at a path: what follows the last slash. -/
def FileTree.fileName (path : String) : List Char :=
  (path.toList.reverse.takeWhile (· ≠ '/')).reverse

/-- What follows the last point of a file name, unless the name starts with that point. -/
def FileTree.extension? (path : String) : Option String :=
  let reversed := (fileName path).reverse
  match reversed.dropWhile (· ≠ '.') with
  | _ :: _ :: _ => some (String.ofList (reversed.takeWhile (· ≠ '.')).reverse)
  | _ => none

namespace CommandLine.Sources

/-- An extension may be given with points before it. -/
def bareExtension (text : String) : String :=
  String.ofList (text.toList.dropWhile (· = '.'))

/-- Whether the file at a path has one of the extensions. -/
def accepts (sources : Sources) (path : String) : Bool :=
  match FileTree.extension? path with
  | none => false
  | some ext => sources.extensions.any fun text => bareExtension text == ext

/-- The schema files at or under a path, with their contents. -/
def filesUnder (sources : Sources) (disk : Disk) (path : String) :
    Except (String × PathError) (List (String × ByteArray)) :=
  match disk path with
  | .error cause => .error (path, cause)
  | .ok tree => .ok ((tree.files path).filter fun file => sources.accepts file.1)

/-- The schema files with their contents, or the first path at which there is nothing. -/
def schemaFiles (sources : Sources) (disk : Disk) :
    Except (String × PathError) (List (String × ByteArray)) :=
  let scan := do return (← sources.paths.mapM (sources.filesUnder disk)).flatten
  match sources.paths with
  | [path] =>
    match disk path with
    | .ok (.file content) => .ok [(path, content)]
    | _ => scan
  | _ => scan

end CommandLine.Sources

end SchemaDoc
