-- SUMMARY: What a sequence of definitions declares, and which definitions a list of documents consists of.
import SchemaDoc.Schema.Loading

/-!
# Declarations

The definitions of all documents form one sequence, in which each stands with
the file it was read from. Types, directives, schema blocks and extensions are
four subsequences of it. Nothing here speaks of drafts: this is what the result
of loading is compared with.
-/

namespace SchemaDoc

/-! ## Sequences of definitions -/

/-- A definition and the file it stands in. -/
abbrev Declaration := Placed Sdl.Definition

abbrev Declarations := List Declaration

/-- The type as it is defined, without its extensions. -/
def Placed.typeDef (p : Placed Sdl.TypeDecl) : TypeDef :=
  .ofDecl p.file p.decl

def Placed.directiveDef (p : Placed Sdl.DirectiveDecl) : DirectiveDef :=
  .ofDecl p.file p.decl

/-- The name that a schema block gives for an operation. -/
def Sdl.RootsDecl.root (decl : Sdl.RootsDecl) : OperationKind → Option String
  | .query => decl.query
  | .mutation => decl.mutation
  | .subscription => decl.subscription

/-- The root type that a schema block names for an operation, and where it does. -/
def Placed.root? (block : Placed Sdl.RootsDecl) (kind : OperationKind) : Option RootChoice :=
  (block.decl.root kind).map fun type => ⟨type, .inFile block.file block.decl.position⟩

namespace Declarations

/-- The type definitions. -/
def types (ds : Declarations) : List (Placed Sdl.TypeDecl) :=
  ds.filterMap fun
    | ⟨file, .type decl⟩ => some ⟨file, decl⟩
    | _ => none

/-- The directive definitions. -/
def directives (ds : Declarations) : List (Placed Sdl.DirectiveDecl) :=
  ds.filterMap fun
    | ⟨file, .directive decl⟩ => some ⟨file, decl⟩
    | _ => none

/-- The schema blocks. -/
def blocks (ds : Declarations) : List (Placed Sdl.RootsDecl) :=
  ds.filterMap fun
    | ⟨file, .roots decl⟩ => some ⟨file, decl⟩
    | _ => none

/-- The type extensions. -/
def extensions (ds : Declarations) : List Extension :=
  ds.filterMap fun
    | ⟨file, .extension decl⟩ => some ⟨file, decl⟩
    | _ => none

/-- The root types named for an operation. -/
def roots (ds : Declarations) (kind : OperationKind) : List RootChoice :=
  ds.blocks.filterMap (·.root? kind)

/-- The extensions of one type. -/
def extensionsOf (ds : Declarations) (name : String) : List Extension :=
  ds.extensions.filter (·.decl.name == name)

/-- The kind with which a type is defined. -/
def kindOf (ds : Declarations) (name : String) : Option TypeKind :=
  (ds.types.find? (·.decl.name == name)).map (·.decl.body.kind)

/-- No two types share a name, no two directives do, and each operation gets at most one root type. -/
structure Distinct (ds : Declarations) : Prop where
  types : (ds.types.map (·.decl.name)).Nodup
  directives : (ds.directives.map (·.decl.name)).Nodup
  roots : ∀ kind, (ds.roots kind).length ≤ 1

/-- Every extension extends a type that is defined, before or after it, with the same kind. -/
def Extensible (ds : Declarations) : Prop :=
  ∀ extension ∈ ds.extensions, ∃ type ∈ ds.types,
    type.decl.name = extension.decl.name ∧ type.decl.body.kind = extension.decl.body.kind

variable (ds more : Declarations)

@[simp] theorem types_append : types (ds ++ more) = types ds ++ types more :=
  List.filterMap_append

@[simp] theorem directives_append : directives (ds ++ more) = directives ds ++ directives more :=
  List.filterMap_append

@[simp] theorem blocks_append : blocks (ds ++ more) = blocks ds ++ blocks more :=
  List.filterMap_append

@[simp] theorem extensions_append : extensions (ds ++ more) = extensions ds ++ extensions more :=
  List.filterMap_append

@[simp] theorem roots_append (kind : OperationKind) :
    roots (ds ++ more) kind = roots ds kind ++ roots more kind := by
  simp [roots]

/-- Distinctness of a sequence passes to what stands before any point of it. -/
theorem Distinct.of_append {ds more : Declarations} (h : Distinct (ds ++ more)) : Distinct ds where
  types := by
    have htypes := h.types
    rw [types_append, List.map_append] at htypes
    exact (List.nodup_append.1 htypes).1
  directives := by
    have hdirectives := h.directives
    rw [directives_append, List.map_append] at hdirectives
    exact (List.nodup_append.1 hdirectives).1
  roots := by
    intro kind
    have hroots := h.roots kind
    rw [roots_append, List.length_append] at hroots
    omega

end Declarations

/-! ## Documents -/

/-- What is met in documents: one definition after the other, or a text that cannot be read. -/
inductive Step where
  | malformed (file : String) (position : Sdl.Position)
  | declares (declaration : Declaration)

/-- The declaration of a step, if it has one. -/
def Step.declared : Step → Declarations
  | .malformed .. => []
  | .declares declaration => [declaration]

/-- A text is read as a whole: it is malformed, or each of its definitions is a step. -/
def Placed.steps (source : Placed String) : List Step :=
  match Sdl.parse source.decl with
  | .ok definitions => definitions.map fun definition => .declares ⟨source.file, definition⟩
  | .error position => [.malformed source.file position]

namespace Document

/-- The texts of documents under the names of their files; unnamed ones are numbered. -/
def sources : UInt16 → List Document → List (Placed String)
  | _, [] => []
  | unnamed, ⟨some file, sdl⟩ :: rest => ⟨file, sdl⟩ :: sources unnamed rest
  | unnamed, ⟨none, sdl⟩ :: rest => ⟨Draft.unnamedFile unnamed, sdl⟩ :: sources (unnamed + 1) rest

/-- The steps of documents, in load order. -/
def steps (documents : List Document) : List Step :=
  (sources 0 documents).flatMap Placed.steps

/-- The definitions of documents, in load order. -/
def declarations (documents : List Document) : Declarations :=
  (steps documents).flatMap Step.declared

end Document

end SchemaDoc
