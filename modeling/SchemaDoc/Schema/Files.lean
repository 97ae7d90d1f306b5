-- SUMMARY: Building a schema from files.
import SchemaDoc.FileTree
import SchemaDoc.Schema.Loading

/-!
# Schema files

A schema file is a document named by its path. It has to be a file and hold text
in UTF-8.
-/

namespace SchemaDoc

/-- What lies at each path. -/
abbrev Disk := String → Except PathError FileTree

namespace Draft

/-- Loads the content of the file at a path. -/
def loadContent (draft : Draft) (path : String) (content : ByteArray) : Except BuildError Draft :=
  match String.fromUTF8? content with
  | some sdl => draft.load (some path) sdl
  | none => .error (.unreadable path .notText)

/-- Loads files with their contents in order. -/
def loadContents (draft : Draft) (files : List (String × ByteArray)) : Except BuildError Draft :=
  files.foldlM (fun draft file => draft.loadContent file.1 file.2) draft

/-- Loads the file at a path. -/
def loadFile (draft : Draft) (disk : Disk) (path : String) : Except BuildError Draft :=
  match disk path with
  | .ok (.file content) => draft.loadContent path content
  | _ => .error (.unreadable path .notAFile)

end Draft

/-- The schema of the files at some paths, loaded in order. -/
def Schema.ofFiles (disk : Disk) (paths : List String) : Except BuildError Schema := do
  let draft ← paths.foldlM (fun draft path => draft.loadFile disk path) Draft.empty
  draft.finish

/-- The schema of some files with their contents, loaded in order. -/
def Schema.ofContents (files : List (String × ByteArray)) : Except BuildError Schema := do
  (← Draft.empty.loadContents files).finish

end SchemaDoc
