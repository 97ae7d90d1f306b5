-- SUMMARY: Files and folders, and finding them by path.
import SchemaDoc.Text.Lines

/-!
# File trees

A file tree is a snapshot of a file or of a folder with everything in it. The
entries of a folder are sorted by name, so listing a tree gives its files in a
fixed order: depth first, and by name within a folder.

A path leads from folder to folder. It starts at the working folder, or at the
top of the tree if it starts with a slash; the folder above the top is the top.
-/

namespace SchemaDoc

/-- A file, or a folder with everything in it. -/
inductive FileTree where
  | file (content : ByteArray)
  | folder (entries : List (String × FileTree))
  deriving Inhabited

/-- Why there is nothing at a path. -/
inductive PathError where
  | notFound
  | notAFolder
  /-- The path, or a name in it, has too many bytes. -/
  | tooLong
  /-- The path contains U+0000. -/
  | containsNull
  deriving DecidableEq, Repr

/-- The message of the file system. -/
def PathError.message : PathError → String
  | .notFound => "No such file or directory (os error 2)"
  | .notAFolder => "Not a directory (os error 20)"
  | .tooLong => "File name too long (os error 36)"
  | .containsNull => "file name contained an unexpected NUL byte"

namespace FileTree

/-- A folder with nothing in it. -/
def empty : FileTree := .folder []

/-- The path of an entry of a folder. -/
def childPath (path name : String) : String :=
  if path.isEmpty then name
  else if path.toList.getLast? == some '/' then path ++ name
  else path ++ "/" ++ name

mutual

/-- The files of a tree that lies at a path, with their paths. -/
def files (path : String) : FileTree → List (String × ByteArray)
  | .file content => [(path, content)]
  | .folder entries => filesBelow path entries

/-- The files below the entries of a folder that lies at a path. -/
def filesBelow (path : String) : List (String × FileTree) → List (String × ByteArray)
  | [] => []
  | (name, tree) :: entries => files (childPath path name) tree ++ filesBelow path entries

end

/-- Puts an entry where it belongs by name, in place of one of the same name. -/
def insertSorted (name : String) (tree : FileTree) :
    List (String × FileTree) → List (String × FileTree)
  | [] => [(name, tree)]
  | entry :: entries =>
    if name < entry.1 then (name, tree) :: entry :: entries
    else if name = entry.1 then (name, tree) :: entries
    else entry :: insertSorted name tree entries

/-- The entries of a folder. -/
def entries : FileTree → List (String × FileTree)
  | .file _ => []
  | .folder entries => entries

/-- Puts a tree at a path below this one, making folders on the way. -/
def insert (tree : FileTree) : List String → FileTree → FileTree
  | [], new => new
  | name :: path, new =>
    let child := (tree.entries.lookup name).getD empty
    .folder (insertSorted name (child.insert path new) tree.entries)

/-- The most bytes that the name of an entry may have. -/
def longestName : Nat := 255

/-- The most bytes that a path may have. -/
def longestPath : Nat := 4095

/-- Follows the components of a path, knowing the folders passed so far. -/
def follow (passed : List FileTree) (tree : FileTree) : List String → Except PathError FileTree
  | [] => .ok tree
  | name :: path =>
    match tree with
    | .file _ => .error .notAFolder
    | .folder entries =>
      if name.isEmpty || name == "." then follow passed tree path
      else if name == ".." then
        match passed with
        | [] => follow [] tree path
        | parent :: passed => follow passed parent path
      else if longestName < name.utf8ByteSize then .error .tooLong
      else match entries.lookup name with
        | some child => follow (tree :: passed) child path
        | none => .error .notFound

/-- What lies at a path for someone who works in a folder of the tree. -/
def at? (tree : FileTree) (workingFolder : List String) (path : String) :
    Except PathError FileTree :=
  if path.toList.contains '\x00' then .error .containsNull
  else if path.isEmpty then .error .notFound
  else if longestPath < path.utf8ByteSize then .error .tooLong
  else
    let components := Text.split '/' path
    let isAbsolute := path.toList.head? == some '/'
    follow [] tree (if isAbsolute then components else workingFolder ++ components)

end FileTree

end SchemaDoc
