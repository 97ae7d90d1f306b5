-- SUMMARY: Building a schema from documents, and why building can fail.
import SchemaDoc.Schema.Basic
import SchemaDoc.Schema.Builtin
import SchemaDoc.Sdl.Grammar
import SchemaDoc.Text.Quoted

/-!
# Loading documents

Documents are loaded one after the other into a draft. A draft holds the types
and directives declared so far, the root types that schema blocks named, and the
extensions, which wait until all documents are loaded. Finishing a draft adds
the extensions and what the language defines, and settles the root types.
-/

namespace SchemaDoc

/-! ## Failures -/

/-- The root type that a schema block names, and where the block stands. -/
structure RootChoice where
  type : String
  location : Location
  deriving DecidableEq, Repr, Inhabited

/-- Why a schema file could not be read. -/
inductive ReadFailure where
  | notAFile
  | notText
  deriving DecidableEq, Repr

/-- Why no schema could be built. -/
inductive BuildError where
  | malformed (file : String) (position : Sdl.Position)
  | duplicateType (name : String) (first second : Location)
  | duplicateDirective (name : String) (first second : Location)
  | duplicateOperation (kind : OperationKind) (first second : RootChoice)
  | extensionOfUndefined (name : String) (location : Location)
  | extensionOfOtherKind (name : String) (existing extension : TypeKind) (location : Location)
  | unreadable (path : String) (cause : ReadFailure)
  deriving DecidableEq, Repr

def ReadFailure.message (path : String) : ReadFailure → String
  | .notAFile => "schema path " ++ Text.shown path ++ " is not a file"
  | .notText => "could not read schema file " ++ Text.shown path
      ++ ": stream did not contain valid UTF-8"

def BuildError.message : BuildError → String
  | .malformed .. => "Error parsing schema string"
  | .duplicateType name .. => "Multiple GraphQL types with the name `" ++ name ++ "` were defined"
  | .duplicateDirective name .. =>
    "Multiple directives were defined with the name `@" ++ name ++ "`"
  | .duplicateOperation kind .. =>
    "The " ++ kind.defaultRoot ++ " root operation type was defined more than once"
  | .extensionOfUndefined name _ =>
    "Attempted to extend `" ++ name ++ "`, which is not defined elsewhere"
  | .extensionOfOtherKind name existing extension _ =>
    "`" ++ name ++ "` is defined as `" ++ existing.keyword ++ "` but extended with `extend "
      ++ extension.keyword ++ "`"
  | .unreadable path cause =>
    "Failure while trying to read a schema file from disk: " ++ cause.message path

/-! ## Drafts -/

/-- Something declared, and the file it stands in. -/
structure Placed (α : Type) where
  file : String
  decl : α

/-- An extension and the file it stands in. -/
abbrev Extension := Placed Sdl.TypeDecl

/-- What the documents loaded so far declare. -/
structure Draft where
  types : OrderedMap TypeDef
  directives : OrderedMap DirectiveDef
  roots : PerOperation (Option RootChoice)
  extensions : List Extension
  /-- How many documents without a name were loaded; the count has 16 bits. -/
  unnamed : UInt16

namespace Draft

/-- Nothing is loaded yet. -/
def empty : Draft where
  types := .empty
  directives := .empty
  roots := ⟨none, none, none⟩
  extensions := []
  unnamed := 0

instance : Inhabited Draft := ⟨empty⟩

/-- Takes up a type, unless its name is taken. -/
def declareType (draft : Draft) (type : TypeDef) : Except BuildError Draft :=
  match draft.types.find? type.name with
  | some existing => .error (.duplicateType type.name existing.location type.location)
  | none => .ok { draft with types := draft.types.insert type.name type }

/-- Takes up a directive, unless its name is taken. -/
def declareDirective (draft : Draft) (directive : DirectiveDef) : Except BuildError Draft :=
  match draft.directives.find? directive.name with
  | some existing =>
    .error (.duplicateDirective directive.name existing.location directive.location)
  | none => .ok { draft with directives := draft.directives.insert directive.name directive }

/-- Takes note of the root type that a schema block names for an operation, if it names one. -/
def declareRoot (draft : Draft) (location : Location) (kind : OperationKind) :
    Option String → Except BuildError Draft
  | none => .ok draft
  | some type =>
    match draft.roots.get kind with
    | some existing => .error (.duplicateOperation kind existing ⟨type, location⟩)
    | none => .ok { draft with roots := draft.roots.set kind (some ⟨type, location⟩) }

/-- Takes up one definition from a file. -/
def declare (draft : Draft) (file : String) : Sdl.Definition → Except BuildError Draft
  | .type decl => draft.declareType (.ofDecl file decl)
  | .directive decl => draft.declareDirective (.ofDecl file decl)
  | .extension decl => .ok { draft with extensions := draft.extensions ++ [⟨file, decl⟩] }
  | .roots decl => do
    let location := Location.inFile file decl.position
    let draft ← draft.declareRoot location .query decl.query
    let draft ← draft.declareRoot location .mutation decl.mutation
    draft.declareRoot location .subscription decl.subscription

/-- Takes up the definitions of a document in order. -/
def declareAll (draft : Draft) (file : String) (definitions : List Sdl.Definition) :
    Except BuildError Draft :=
  definitions.foldlM (fun draft definition => draft.declare file definition) draft

/-- Loads a document under the name of its file; nothing is declared unless all of it can be read. -/
def loadNamed (draft : Draft) (file sdl : String) : Except BuildError Draft :=
  match Sdl.parse sdl with
  | .ok definitions => draft.declareAll file definitions
  | .error position => .error (.malformed file position)

/-- The name of the unnamed document with that number. -/
def unnamedFile (number : UInt16) : String :=
  "str://" ++ toString number.toNat

/-- Loads a document; one without a name is called by the number of unnamed ones before it. -/
def load (draft : Draft) (file? : Option String) (sdl : String) : Except BuildError Draft :=
  match file? with
  | some file => draft.loadNamed file sdl
  | none => { draft with unnamed := draft.unnamed + 1 }.loadNamed (unnamedFile draft.unnamed) sdl

/-! ## Finishing -/

/-- Adds an extension to the type it names. -/
def extendType (types : OrderedMap TypeDef) (extension : Extension) :
    Except BuildError (OrderedMap TypeDef) :=
  let location := Location.inFile extension.file extension.decl.position
  match types.find? extension.decl.name with
  | none => .error (.extensionOfUndefined extension.decl.name location)
  | some type =>
    match type.extend extension.file extension.decl with
    | some extended => .ok (types.insert extension.decl.name extended)
    | none =>
      .error (.extensionOfOtherKind extension.decl.name type.kind extension.decl.body.kind location)

/-- The declared types with all extensions added in the order in which they were loaded. -/
def extendedTypes (draft : Draft) : Except BuildError (OrderedMap TypeDef) :=
  draft.extensions.foldlM extendType draft.types

/-- The declared directives, then the built-in ones that were not declared. -/
def allDirectives (draft : Draft) : OrderedMap DirectiveDef :=
  Builtin.directives.foldl (fun directives d => directives.insertNew d.name d) draft.directives

/-- Adds a built-in scalar when it is mentioned and neither declared nor added before. -/
def addScalar (declared types : OrderedMap TypeDef) (mentioned : String) : OrderedMap TypeDef :=
  if declared.contains mentioned then types
  else match Builtin.scalar? mentioned with
    | some scalar => types.insertNew mentioned scalar
    | none => types

/-- Adds the built-in scalars among some names. -/
def addScalars (declared types : OrderedMap TypeDef) (mentioned : List String) : OrderedMap TypeDef :=
  mentioned.foldl (addScalar declared) types

/--
All types in order: each declared type followed by the built-in scalars that it
is the first to mention, then the scalars mentioned by directives only, then the
introspection types.
-/
def arrangeTypes (declared : OrderedMap TypeDef) (directives : OrderedMap DirectiveDef) :
    OrderedMap TypeDef :=
  let types := declared.entries.foldl
    (fun types entry =>
      addScalars declared (types.insert entry.1 entry.2) entry.2.body.referenced) .empty
  let types := directives.values.foldl
    (fun types directive => addScalars declared types (directive.args.values.map (·.type.name))) types
  Builtin.introspection.foldl
    (fun types type => addScalars declared (types.insertNew type.name type) type.body.referenced) types

/-- The root type that a schema block names, or else the object type with the customary name. -/
def resolveRoot (types : OrderedMap TypeDef) (kind : OperationKind) : Option RootChoice → Option String
  | some choice => some choice.type
  | none =>
    match (types.find? kind.defaultRoot).map TypeDef.kind with
    | some .object => some kind.defaultRoot
    | _ => none

/-- The schema of the loaded documents. -/
def finish (draft : Draft) : Except BuildError Schema := do
  let declared ← draft.extendedTypes
  let directives := draft.allDirectives
  let types := arrangeTypes declared directives
  return { types, directives, roots := .ofFn fun kind => resolveRoot types kind (draft.roots.get kind) }

end Draft

/-- A document, with the name of its file if it has one. -/
structure Document where
  file? : Option String
  sdl : String
  deriving Inhabited, Repr, DecidableEq

/-- The schema of some documents, loaded in order. -/
def Schema.ofDocuments (documents : List Document) : Except BuildError Schema := do
  let draft ← documents.foldlM (fun draft document => draft.load document.file? document.sdl) Draft.empty
  draft.finish

end SchemaDoc
