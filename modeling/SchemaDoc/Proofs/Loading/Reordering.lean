-- SUMMARY: Where extensions and schema blocks stand, and how definitions are split over documents, does not matter.
import SchemaDoc.Proofs.Loading.Verdict

/-!
# Reordering definitions

A schema depends on its types in order, its directives in order, the extensions
of each type in order, and its schema blocks in any order. All else is
arrangement: two arrangements of the same definitions have the same schema.
-/

namespace SchemaDoc

/-! ## Arrangements of the same definitions -/

/-- The same types, directives and extensions of each type in the same order, and the same blocks. -/
structure Declarations.SameParts (ds others : Declarations) : Prop where
  types : others.types = ds.types
  directives : others.directives = ds.directives
  extensions : ∀ name, others.extensionsOf name = ds.extensionsOf name
  blocks : others.blocks.Perm ds.blocks

theorem Declarations.SameParts.rfl {ds : Declarations} : ds.SameParts ds :=
  ⟨.refl _, .refl _, fun _ => .refl _, .refl _⟩

namespace Declarations.SameParts

variable {ds others : Declarations}

theorem perm_roots (h : ds.SameParts others) (kind : OperationKind) :
    (others.roots kind).Perm (ds.roots kind) :=
  List.Perm.filterMap (fun block : Placed Sdl.RootsDecl => block.root? kind) h.blocks

/-- There is at most one root type for an operation, so the order of blocks shows nowhere. -/
theorem roots (h : ds.SameParts others) (hdistinct : ds.Distinct) (kind : OperationKind) :
    others.roots kind = ds.roots kind := by
  have hperm := h.perm_roots kind
  have hlength := hdistinct.roots kind
  cases hroots : ds.roots kind with
  | nil =>
    rw [hroots] at hperm
    exact hperm.eq_nil
  | cons root rest =>
    rw [hroots, List.length_cons] at hlength
    have hrest : rest = [] := List.eq_nil_of_length_eq_zero (by omega)
    subst hrest
    rw [hroots] at hperm
    exact List.perm_singleton.1 hperm

theorem distinct (h : ds.SameParts others) (hdistinct : ds.Distinct) : others.Distinct where
  types := h.types ▸ hdistinct.types
  directives := h.directives ▸ hdistinct.directives
  roots := fun kind => (h.perm_roots kind).length_eq ▸ hdistinct.roots kind

theorem mem_extensions (h : ds.SameParts others) {extension : Extension} (hext : extension ∈ others.extensions) :
    extension ∈ ds.extensions := by
  have hof : extension ∈ others.extensionsOf extension.decl.name := List.mem_filter.2 ⟨hext, beq_self_eq_true _⟩
  rw [h.extensions] at hof
  exact (List.mem_filter.1 hof).1

theorem extensible (h : ds.SameParts others) (hextensible : ds.Extensible) : others.Extensible := by
  intro extension hext
  rw [h.types]
  exact hextensible extension (h.mem_extensions hext)

end Declarations.SameParts

/-- A schema is determined by the parts of its declarations. -/
theorem Schema.Completes.unique {schema other : Schema} {ds others : Declarations} {draft draft' : Draft}
    {declared declared' : OrderedMap TypeDef} (h : schema.Completes ds draft declared)
    (h' : other.Completes others draft' declared') (hsame : ds.SameParts others) : other = schema := by
  obtain ⟨_, hrecords⟩ := h.records
  obtain ⟨_, hrecords'⟩ := h'.records
  have htypes : draft'.types = draft.types := by
    apply OrderedMap.ext
    rw [hrecords'.types, hrecords.types, hsame.types]
  have hdirectives : draft'.directives = draft.directives := by
    apply OrderedMap.ext
    rw [hrecords'.directives, hrecords.directives, hsame.directives]
  have hroots : ∀ kind, draft'.roots.get kind = draft.roots.get kind := by
    intro kind
    rw [← hrecords'.head?_roots, ← hrecords.head?_roots, hsame.roots hrecords.distinct]
  -- The extensions themselves may differ in order; only those of each type are the same.
  have hdeclared : declared' = declared := by
    apply OrderedMap.ext_find?
    · rw [h'.extends_types.keys, h.extends_types.keys, htypes]
    · intro name
      have hexts : others.extensions.filter (·.decl.name == name) =
          ds.extensions.filter (·.decl.name == name) := hsame.extensions name
      rw [h'.extends_types.find, h.extends_types.find, htypes, hexts]
  have hall : draft'.allDirectives = draft.allDirectives := by
    rw [Draft.allDirectives, Draft.allDirectives, hdirectives]
  rw [h'.eq, h.eq, Draft.complete, Draft.complete]
  simp only [hall, hdeclared, hroots]

theorem Schema.Outcome.unique {result result' : Except BuildError Schema} {fault? : Option BuildError}
    {ds : Declarations} (h : Schema.Outcome result fault? ds) (h' : Schema.Outcome result' fault? ds) :
    result = result' := by
  cases fault? with
  | some e => exact Eq.trans h (Eq.symm h')
  | none =>
    obtain ⟨schema, draft, declared, hresult, hcompletes⟩ := h
    obtain ⟨schema', draft', declared', hresult', hcompletes'⟩ := h'
    rw [hresult, hresult', hcompletes.unique hcompletes' .rfl]

/-! ## Documents that have been read -/

/-- The definitions of a document that has been read, under the name of its file. -/
abbrev Parsed := Placed (List Sdl.Definition)

/-- The definitions of documents in load order. -/
def Parsed.declarations (documents : List Parsed) : Declarations :=
  documents.flatMap fun document => document.decl.map (Placed.mk document.file)

/-- The schema of documents that have been read, loaded in order. -/
def Schema.ofParsed (documents : List Parsed) : Except BuildError Schema := do
  let draft ← documents.foldlM (fun draft document => draft.declareAll document.file document.decl) Draft.empty
  draft.finish

/-- Splitting definitions over documents is the same as declaring them one after the other. -/
theorem Schema.ofParsed_eq (documents : List Parsed) :
    Schema.ofParsed documents = Draft.empty.declareEach (Parsed.declarations documents) >>= Draft.finish := by
  have hload : ∀ draft : Draft,
      documents.foldlM (fun draft document => draft.declareAll document.file document.decl) draft =
        draft.declareEach (Parsed.declarations documents) := by
    induction documents with
    | nil => exact fun draft => rfl
    | cons document rest ih =>
      intro draft
      rw [List.foldlM_cons, Parsed.declarations, List.flatMap_cons, Draft.declareEach_append,
        Draft.declareAll_eq_declareEach]
      congr 1
      funext next
      exact ih next
  rw [Schema.ofParsed, hload]

theorem Schema.ofParsed_outcome (documents : List Parsed) :
    Schema.Outcome (Schema.ofParsed documents)
      ((Step.faults [] ((Parsed.declarations documents).map .declares)).head?.or
        (Parsed.declarations documents).extensionFault?)
      (Parsed.declarations documents) := by
  rw [Schema.ofParsed_eq]
  exact (Draft.declareEach_outcome (Parsed.declarations documents) Draft.records_empty).finish

/-- Definitions without a fault make a schema. -/
theorem Schema.exists_ofParsed {documents : List Parsed}
    (hdistinct : (Parsed.declarations documents).Distinct)
    (hextensible : (Parsed.declarations documents).Extensible) :
    ∃ schema draft declared, Schema.ofParsed documents = .ok schema ∧
      schema.Completes (Parsed.declarations documents) draft declared := by
  have houtcome := Schema.ofParsed_outcome documents
  have hread : ∀ step ∈ (Parsed.declarations documents).map Step.declares, ∃ d, step = .declares d := by
    intro step hstep
    obtain ⟨d, -, rfl⟩ := List.mem_map.1 hstep
    exact ⟨d, rfl⟩
  have hdeclared := Step.declared_declares (Parsed.declarations documents)
  have hsteps : Step.faults [] ((Parsed.declarations documents).map .declares) = [] :=
    Step.faults_eq_nil hread (hdeclared.symm ▸ hdistinct)
  rw [hsteps, (Declarations.extensible_iff_extensionFault? hdistinct).1 hextensible] at houtcome
  exact houtcome

/-- Documents make the schema of what they read as. -/
theorem Schema.ofDocuments_eq_ofParsed {documents : List Document} {parsed : List Parsed}
    (h : (Document.sources 0 documents).map (fun source => (source.file, Sdl.parse source.decl)) =
      parsed.map fun p => (p.file, .ok p.decl)) :
    Schema.ofDocuments documents = Schema.ofParsed parsed := by
  have hsteps : ∀ sources : List (Placed String),
      sources.map (fun source => (source.file, Sdl.parse source.decl)) =
        parsed.map (fun p => (p.file, .ok p.decl)) →
      sources.flatMap Placed.steps = (Parsed.declarations parsed).map .declares := by
    clear h
    induction parsed with
    | nil =>
      intro sources hsources
      rw [List.map_nil, List.map_eq_nil_iff] at hsources
      rw [hsources]
      rfl
    | cons p rest ih =>
      intro sources hsources
      obtain ⟨source, more, rfl, hsource, hmore⟩ := List.map_eq_cons_iff.1 hsources
      rw [Prod.mk.injEq] at hsource
      rw [List.flatMap_cons, ih more hmore, Placed.steps_of_parse hsource.2, hsource.1,
        Parsed.declarations, Parsed.declarations, List.flatMap_cons, List.map_append]
  have hdocuments : Document.steps documents = (Parsed.declarations parsed).map .declares := hsteps _ h
  have hdeclarations : Document.declarations documents = Parsed.declarations parsed := by
    rw [Document.declarations, hdocuments, Step.declared_declares]
  have houtcome := Schema.ofDocuments_outcome documents
  rw [Document.faults, List.head?_append, List.head?_filterMap, hdocuments, hdeclarations] at houtcome
  exact houtcome.unique (Schema.ofParsed_outcome parsed)

/-! ## Two arrangements -/

/-- All arrangements of the same definitions, over any documents, have one schema, or none has. -/
theorem Schema.ofParsed_of_sameParts {documents others : List Parsed} {schema : Schema}
    (h : Schema.ofParsed documents = .ok schema)
    (hsame : (Parsed.declarations documents).SameParts (Parsed.declarations others)) :
    Schema.ofParsed others = .ok schema := by
  obtain ⟨-, draft, declared, hcompletes⟩ := (Schema.ofParsed_outcome documents).completes h
  obtain ⟨_, hrecords⟩ := hcompletes.records
  obtain ⟨other, draft', declared', hother, hcompletes'⟩ := Schema.exists_ofParsed
    (hsame.distinct hrecords.distinct) (hsame.extensible hcompletes.extensible)
  rw [hother, hcompletes.unique hcompletes' hsame]

namespace Parsed

/-- A part of an object type that declares a field. -/
def objectPart (name field type : String) (line : Nat) : Sdl.TypeDecl :=
  ⟨⟨line, 1⟩, none, name, [], .object [] [⟨⟨line, 3⟩, none, field, [], .named type true, []⟩]⟩

/-- A part of an enum that declares a value. -/
def enumPart (name value : String) (line : Nat) : Sdl.TypeDecl :=
  ⟨⟨line, 1⟩, none, name, [], .enum [⟨⟨line, 3⟩, none, value, []⟩]⟩

def queryRoot : Sdl.RootsDecl := ⟨⟨8, 1⟩, some "Root", none, none⟩

def mutationRoot : Sdl.RootsDecl := ⟨⟨9, 1⟩, none, some "Pet", none⟩

/-- Two types that are defined in one file and extended in another, with a block for each of two operations. -/
def extended : List Parsed :=
  [⟨"a.graphql", [.type (objectPart "Root" "pet" "Pet" 1), .type (objectPart "Pet" "name" "ID" 3),
      .type (enumPart "Kind" "CAT" 5), .roots queryRoot, .roots mutationRoot]⟩,
    ⟨"b.graphql", [.extension (objectPart "Pet" "kind" "Kind" 1), .extension (enumPart "Kind" "DOG" 3),
      .extension (objectPart "Pet" "peer" "Pet" 5)]⟩]

/--
The same definitions with the blocks the other way round, and with the extensions before
what they extend: those of different types the other way round, too.
-/
def extendedBefore : List Parsed :=
  [⟨"b.graphql", [.extension (enumPart "Kind" "DOG" 3)]⟩,
    ⟨"a.graphql", [.roots mutationRoot, .type (objectPart "Root" "pet" "Pet" 1)]⟩,
    ⟨"b.graphql", [.extension (objectPart "Pet" "kind" "Kind" 1), .extension (objectPart "Pet" "peer" "Pet" 5)]⟩,
    ⟨"a.graphql", [.type (objectPart "Pet" "name" "ID" 3), .roots queryRoot, .type (enumPart "Kind" "CAT" 5)]⟩]

end Parsed

/-- The names of the fields, values or members of a type. -/
def TypeBody.memberNames : TypeBody → List String
  | .enum values => values.keys
  | .input fields => fields.keys
  | .interface _ fields | .object _ fields => fields.keys
  | .scalar => []
  | .union members => members

theorem Schema.ofParsed_extendedBefore :
    ∃ schema, Schema.ofParsed Parsed.extended = .ok schema ∧ Schema.ofParsed Parsed.extendedBefore = .ok schema ∧
      (schema.types.find? "Pet").map (·.body.memberNames) = some ["name", "kind", "peer"] ∧
        (schema.types.find? "Kind").map (·.body.memberNames) = some ["CAT", "DOG"] ∧
          OperationKind.all.map schema.roots.get = [some "Root", some "Pet", none] := by
  have hbuilt : (Schema.ofParsed Parsed.extended).toOption.any (fun schema => decide (
      (schema.types.find? "Pet").map (·.body.memberNames) = some ["name", "kind", "peer"] ∧
        (schema.types.find? "Kind").map (·.body.memberNames) = some ["CAT", "DOG"] ∧
          OperationKind.all.map schema.roots.get = [some "Root", some "Pet", none])) = true := by
    decide +kernel
  have hsame : (Parsed.declarations Parsed.extended).SameParts (Parsed.declarations Parsed.extendedBefore) := by
    refine ⟨rfl, rfl, fun name => ?_, .swap _ _ _⟩
    by_cases hpet : "Pet" = name
    · subst hpet
      rfl
    by_cases hkind : "Kind" = name
    · subst hkind
      rfl
    have hnone (ds : Declarations) (h : ds.extensions.map (·.decl.name) ⊆ ["Pet", "Kind"]) :
        ds.extensionsOf name = [] := by
      refine List.filter_eq_nil_iff.2 fun extension hextension hname => ?_
      have hmem := h (List.mem_map_of_mem hextension)
      rw [beq_iff_eq.1 hname] at hmem
      simp [Ne.symm hpet, Ne.symm hkind] at hmem
    rw [hnone _ (by decide), hnone _ (by decide)]
  obtain ⟨schema, hschema, hparts⟩ := Schema.exists_of_any hbuilt
  exact ⟨schema, hschema, Schema.ofParsed_of_sameParts hschema hsame, of_decide_eq_true hparts⟩

end SchemaDoc
