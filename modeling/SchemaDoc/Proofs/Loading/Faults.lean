-- SUMMARY: When documents make a schema, and which of their faults is reported otherwise.
import Mathlib.Data.List.Basic
import SchemaDoc.Proofs.Loading.Extending

/-!
# Faults of documents

A draft records the declarations loaded so far, so the checks that loading makes
can be said of these declarations. Every fault of the documents is listed in the
order in which it would be noticed. Loading reports the first of the list, and
succeeds if there is none: exactly if all texts can be read, nothing is declared
twice and every extension fits.
-/

namespace SchemaDoc

/-! ## Faults -/

/-- The fault of a declaration, given the declarations before it. -/
def Declaration.fault? (before : Declarations) : Declaration → Option BuildError
  | ⟨file, .type decl⟩ =>
    (before.types.find? (·.decl.name == decl.name)).map fun first =>
      .duplicateType decl.name (.inFile first.file first.decl.position) (.inFile file decl.position)
  | ⟨file, .directive decl⟩ =>
    (before.directives.find? (·.decl.name == decl.name)).map fun first =>
      .duplicateDirective decl.name (.inFile first.file first.decl.position) (.inFile file decl.position)
  | ⟨file, .roots decl⟩ =>
    OperationKind.all.findSome? fun kind => do
      let first ← (before.roots kind).head?
      let second ← Placed.root? ⟨file, decl⟩ kind
      return .duplicateOperation kind first second
  | ⟨_, .extension _⟩ => none

def Step.fault? (before : Declarations) : Step → Option BuildError
  | .malformed file position => some (.malformed file position)
  | .declares declaration => declaration.fault? before

/-- The faults of steps in order, given the declarations before them. -/
def Step.faults (before : Declarations) : List Step → List BuildError
  | [] => []
  | step :: rest => (step.fault? before).toList ++ Step.faults (before ++ step.declared) rest

/-- The faults of documents: those of their steps in load order, then those of the extensions. -/
def Document.faults (documents : List Document) : List BuildError :=
  let declarations := Document.declarations documents
  Step.faults [] (Document.steps documents)
    ++ declarations.extensions.filterMap (·.fault? declarations.kindOf)

/-- What documents have to be to make a schema. -/
structure Document.Consistent (documents : List Document) : Prop where
  read : ∀ document ∈ documents, ∃ definitions, Sdl.parse document.sdl = .ok definitions
  distinct : (Document.declarations documents).Distinct
  extensible : (Document.declarations documents).Extensible

theorem Step.declared_declares (ds : Declarations) : (ds.map Step.declares).flatMap Step.declared = ds := by
  induction ds with
  | nil => rfl
  | cons d rest ih => rw [List.map_cons, List.flatMap_cons, ih, Step.declared, List.singleton_append]

theorem Placed.steps_of_parse {source : Placed String} {definitions : List Sdl.Definition}
    (h : Sdl.parse source.decl = .ok definitions) :
    source.steps = (definitions.map (Placed.mk source.file)).map .declares := by
  rw [Placed.steps, h, List.map_map]
  rfl

theorem Step.faults_append (before : Declarations) (steps more : List Step) :
    Step.faults before (steps ++ more) =
      Step.faults before steps ++ Step.faults (before ++ steps.flatMap Step.declared) more := by
  induction steps generalizing before with
  | nil => simp [Step.faults]
  | cons step rest ih => simp [Step.faults, ih]

/-! ## What a draft records -/

/-- The draft holds these declarations, and as many documents without a name were loaded. -/
structure Draft.Records (draft : Draft) (ds : Declarations) (unnamed : UInt16) : Prop where
  types : draft.types.entries = ds.types.map fun p => (p.decl.name, p.typeDef)
  directives : draft.directives.entries = ds.directives.map fun p => (p.decl.name, p.directiveDef)
  roots : ∀ kind, ds.roots kind = (draft.roots.get kind).toList
  extensions : draft.extensions = ds.extensions
  unnamed : draft.unnamed = unnamed

/-- Loading either reports the fault or leads to a draft that records the declarations. -/
def Draft.Outcome (result : Except BuildError Draft) (fault? : Option BuildError) (ds : Declarations)
    (unnamed : UInt16) : Prop :=
  match fault? with
  | some e => result = .error e
  | none => ∃ draft, result = .ok draft ∧ draft.Records ds unnamed

theorem Draft.Outcome.bind {result : Except BuildError Draft} {load : Draft → Except BuildError Draft}
    {first? second? : Option BuildError} {ds ds' : Declarations} {unnamed unnamed' : UInt16}
    (h : Draft.Outcome result first? ds unnamed)
    (hload : ∀ draft : Draft, draft.Records ds unnamed → Draft.Outcome (load draft) second? ds' unnamed') :
    Draft.Outcome (result >>= load) (first?.or second?) ds' unnamed' := by
  cases first? with
  | some e =>
    have hresult : result = .error e := h
    rw [hresult]
    rfl
  | none =>
    obtain ⟨draft, hresult, hrecords⟩ := h
    rw [hresult]
    exact hload draft hrecords

theorem Draft.records_empty : Draft.empty.Records [] 0 :=
  ⟨rfl, rfl, fun kind => by cases kind <;> rfl, rfl, rfl⟩

namespace Draft.Records

variable {draft : Draft} {ds : Declarations} {unnamed : UInt16}

theorem find?_types (h : draft.Records ds unnamed) (name : String) :
    draft.types.find? name = (ds.types.find? (·.decl.name == name)).map Placed.typeDef := by
  rw [OrderedMap.find?, h.types, OrderedMap.lookup_map]

theorem find?_directives (h : draft.Records ds unnamed) (name : String) :
    draft.directives.find? name =
      (ds.directives.find? (·.decl.name == name)).map Placed.directiveDef := by
  rw [OrderedMap.find?, h.directives, OrderedMap.lookup_map]

theorem head?_roots (h : draft.Records ds unnamed) (kind : OperationKind) :
    (ds.roots kind).head? = draft.roots.get kind := by
  rw [h.roots kind]
  cases draft.roots.get kind <;> rfl

theorem kindOf_types (h : draft.Records ds unnamed) : draft.types.kindOf = ds.kindOf := by
  funext name
  rw [OrderedMap.kindOf, h.find?_types, Declarations.kindOf, Option.map_map]
  congr 1
  funext p
  exact TypeBody.kind_ofDecl p.file p.decl.name p.decl.body

/-- Names in a map differ, and a draft has room for one root type of each kind. -/
theorem distinct (h : draft.Records ds unnamed) : ds.Distinct where
  types := by
    have hnodup := draft.types.nodup
    rw [h.types, List.map_map] at hnodup
    exact hnodup
  directives := by
    have hnodup := draft.directives.nodup
    rw [h.directives, List.map_map] at hnodup
    exact hnodup
  roots := by
    intro kind
    rw [h.roots kind]
    cases draft.roots.get kind <;> simp

/-- A draft that adds to each part what some declarations add to it records these too. -/
theorem append {next : Draft} {more : Declarations} (h : draft.Records ds unnamed)
    (htypes : next.types.entries =
      draft.types.entries ++ more.types.map fun p => (p.decl.name, p.typeDef))
    (hdirectives : next.directives.entries =
      draft.directives.entries ++ more.directives.map fun p => (p.decl.name, p.directiveDef))
    (hroots : ∀ kind, (next.roots.get kind).toList = (draft.roots.get kind).toList ++ more.roots kind)
    (hextensions : next.extensions = draft.extensions ++ more.extensions)
    (hunnamed : next.unnamed = draft.unnamed) : next.Records (ds ++ more) unnamed where
  types := by rw [htypes, h.types, Declarations.types_append, List.map_append]
  directives := by rw [hdirectives, h.directives, Declarations.directives_append, List.map_append]
  roots := fun kind => by rw [Declarations.roots_append, h.roots, hroots]
  extensions := by rw [hextensions, h.extensions, Declarations.extensions_append]
  unnamed := hunnamed.trans h.unnamed

end Draft.Records

/-! ## One definition -/

namespace Draft

variable {draft : Draft} {ds : Declarations} {unnamed : UInt16}

theorem declare_type_outcome (h : draft.Records ds unnamed) (file : String) (decl : Sdl.TypeDecl) :
    Outcome (draft.declare file (.type decl)) (Declaration.fault? ds ⟨file, .type decl⟩)
      (ds ++ [⟨file, .type decl⟩]) unnamed := by
  have hfind := h.find?_types decl.name
  cases hfirst : ds.types.find? (·.decl.name == decl.name) with
  | some first =>
    rw [hfirst, Option.map_some] at hfind
    simp only [Declaration.fault?, hfirst, Option.map_some]
    show draft.declareType (.ofDecl file decl) = _
    simp only [declareType, TypeDef.ofDecl, hfind]
    rfl
  | none =>
    rw [hfirst, Option.map_none] at hfind
    simp only [Declaration.fault?, hfirst, Option.map_none]
    refine ⟨{ draft with types := draft.types.insert decl.name (.ofDecl file decl) }, ?_, ?_⟩
    · show draft.declareType (.ofDecl file decl) = _
      simp only [declareType, TypeDef.ofDecl, hfind]
    · have hnew := OrderedMap.find?_eq_none_iff.1 hfind
      exact h.append (OrderedMap.entries_insert_of_notMem _ hnew) (List.append_nil _).symm
        (fun _ => (List.append_nil _).symm) (List.append_nil _).symm rfl

theorem declare_directive_outcome (h : draft.Records ds unnamed) (file : String)
    (decl : Sdl.DirectiveDecl) :
    Outcome (draft.declare file (.directive decl)) (Declaration.fault? ds ⟨file, .directive decl⟩)
      (ds ++ [⟨file, .directive decl⟩]) unnamed := by
  have hfind := h.find?_directives decl.name
  cases hfirst : ds.directives.find? (·.decl.name == decl.name) with
  | some first =>
    rw [hfirst, Option.map_some] at hfind
    simp only [Declaration.fault?, hfirst, Option.map_some]
    show draft.declareDirective (.ofDecl file decl) = _
    simp only [declareDirective, DirectiveDef.ofDecl, hfind]
    rfl
  | none =>
    rw [hfirst, Option.map_none] at hfind
    simp only [Declaration.fault?, hfirst, Option.map_none]
    refine ⟨{ draft with directives := draft.directives.insert decl.name (.ofDecl file decl) }, ?_, ?_⟩
    · show draft.declareDirective (.ofDecl file decl) = _
      simp only [declareDirective, DirectiveDef.ofDecl, hfind]
    · have hnew := OrderedMap.find?_eq_none_iff.1 hfind
      exact h.append (List.append_nil _).symm (OrderedMap.entries_insert_of_notMem _ hnew)
        (fun _ => (List.append_nil _).symm) (List.append_nil _).symm rfl

theorem declare_extension_outcome (h : draft.Records ds unnamed) (file : String)
    (decl : Sdl.TypeDecl) :
    Outcome (draft.declare file (.extension decl)) (Declaration.fault? ds ⟨file, .extension decl⟩)
      (ds ++ [⟨file, .extension decl⟩]) unnamed :=
  ⟨_, rfl, h.append (List.append_nil _).symm (List.append_nil _).symm
    (fun _ => (List.append_nil _).symm) rfl rfl⟩

/-! ## Schema blocks -/

/-- The fault of a schema block that names a second root type for an operation. -/
def rootFault? (draft : Draft) (block : Placed Sdl.RootsDecl) (kind : OperationKind) :
    Option BuildError := do
  let first ← draft.roots.get kind
  let second ← block.root? kind
  return .duplicateOperation kind first second

/-- Takes note of what a schema block names for an operation. -/
def declareRootOf (block : Placed Sdl.RootsDecl) (draft : Draft) (kind : OperationKind) :
    Except BuildError Draft :=
  draft.declareRoot (.inFile block.file block.decl.position) kind (block.decl.root kind)

variable {block : Placed Sdl.RootsDecl}

theorem declareRootOf_of_fault {kind : OperationKind} {e : BuildError}
    (h : draft.rootFault? block kind = some e) : draft.declareRootOf block kind = .error e := by
  obtain ⟨first, hfirst, hsecond⟩ := Option.bind_eq_some_iff.1 h
  obtain ⟨second, hnamed, he⟩ := Option.bind_eq_some_iff.1 hsecond
  obtain ⟨type, htype, rfl⟩ := Option.map_eq_some_iff.1 hnamed
  cases he
  simp only [declareRootOf, declareRoot, htype, hfirst]

theorem declareRootOf_of_fits {kind : OperationKind} (h : draft.rootFault? block kind = none) :
    ∃ roots, draft.declareRootOf block kind = .ok { draft with roots } ∧
      ∀ other, roots.get other =
        (draft.roots.get other).or (if other = kind then block.root? kind else none) := by
  cases htype : block.decl.root kind with
  | none =>
    refine ⟨draft.roots, by simp only [declareRootOf, declareRoot, htype], ?_⟩
    intro other
    simp [Placed.root?, htype]
  | some type =>
    cases hfirst : draft.roots.get kind with
    | some first => simp [rootFault?, Placed.root?, htype, hfirst] at h
    | none =>
      refine ⟨_, by simp only [declareRootOf, declareRoot, htype, hfirst]; rfl, ?_⟩
      intro other
      rw [PerOperation.get_set]
      by_cases hother : other = kind
      · simp [hother, hfirst, Placed.root?, htype]
      · simp [hother]

/-- A block names root types in turn: the first for an operation that has one is reported. -/
theorem foldlM_declareRootOf (block : Placed Sdl.RootsDecl) (kinds : List OperationKind)
    (hkinds : kinds.Nodup) (draft : Draft) :
    match kinds.findSome? (draft.rootFault? block) with
    | some e => kinds.foldlM (declareRootOf block) draft = .error e
    | none => ∃ roots, kinds.foldlM (declareRootOf block) draft = .ok { draft with roots } ∧
      ∀ kind, roots.get kind =
        (draft.roots.get kind).or (if kind ∈ kinds then block.root? kind else none) := by
  induction kinds generalizing draft with
  | nil => exact ⟨draft.roots, rfl, by simp⟩
  | cons kind rest ih =>
    rw [List.nodup_cons] at hkinds
    rw [List.findSome?_cons, List.foldlM_cons]
    cases hfault : draft.rootFault? block kind with
    | some e =>
      rw [declareRootOf_of_fault hfault]
      rfl
    | none =>
      obtain ⟨roots, hstep, hroots⟩ := declareRootOf_of_fits hfault
      have hrest := ih hkinds.2 { draft with roots }
      -- The operations that follow are other ones, so for them nothing has changed.
      have hfaults : rest.findSome? (rootFault? { draft with roots } block) =
          rest.findSome? (draft.rootFault? block) := by
        rw [← List.head?_filterMap, ← List.head?_filterMap]
        congr 1
        apply List.filterMap_congr
        intro other hmem
        have hne : other ≠ kind := fun e => hkinds.1 (e ▸ hmem)
        simp only [rootFault?, hroots other, if_neg hne, Option.or_none]
      rw [hfaults] at hrest
      simp only [hstep]
      cases hfirst : rest.findSome? (draft.rootFault? block) with
      | some e =>
        rw [hfirst] at hrest
        exact hrest
      | none =>
        rw [hfirst] at hrest
        obtain ⟨final, hfinal, hget⟩ := hrest
        refine ⟨final, hfinal, ?_⟩
        intro other
        rw [hget, hroots]
        by_cases hkind : other = kind
        · subst hkind
          simp [hkinds.1]
        · simp [hkind]

theorem declare_roots_outcome (h : draft.Records ds unnamed) (file : String) (decl : Sdl.RootsDecl) :
    Outcome (draft.declare file (.roots decl)) (Declaration.fault? ds ⟨file, .roots decl⟩)
      (ds ++ [⟨file, .roots decl⟩]) unnamed := by
  have hloop : draft.declare file (.roots decl) =
      OperationKind.all.foldlM (declareRootOf ⟨file, decl⟩) draft := by
    simp [declare, OperationKind.all, declareRootOf, Sdl.RootsDecl.root]
  have hfault : Declaration.fault? ds ⟨file, .roots decl⟩ =
      OperationKind.all.findSome? (draft.rootFault? ⟨file, decl⟩) := by
    simp only [Declaration.fault?, h.head?_roots]
    rfl
  have hrun := foldlM_declareRootOf ⟨file, decl⟩ OperationKind.all (by decide) draft
  rw [hloop, hfault]
  cases hfirst : OperationKind.all.findSome? (draft.rootFault? ⟨file, decl⟩) with
  | some e =>
    rw [hfirst] at hrun
    exact hrun
  | none =>
    rw [hfirst] at hrun
    obtain ⟨roots, hresult, hroots⟩ := hrun
    refine ⟨_, hresult, h.append (List.append_nil _).symm (List.append_nil _).symm ?_
      (List.append_nil _).symm rfl⟩
    intro kind
    have hall : kind ∈ OperationKind.all := by cases kind <;> decide
    have hkind := List.findSome?_eq_none_iff.1 hfirst kind hall
    have hnew : Declarations.roots [⟨file, .roots decl⟩] kind = (Placed.root? ⟨file, decl⟩ kind).toList := by
      simp only [Declarations.roots, Declarations.blocks, List.filterMap_cons, List.filterMap_nil]
      cases Placed.root? ⟨file, decl⟩ kind <;> rfl
    simp only [hroots, if_pos hall, hnew]
    cases hold : draft.roots.get kind with
    | none => rfl
    | some first =>
      cases hsecond : Placed.root? ⟨file, decl⟩ kind with
      | none => rfl
      | some second => simp [rootFault?, hold, hsecond] at hkind

/-! ## All documents -/

theorem declare_outcome (h : draft.Records ds unnamed) (d : Declaration) :
    Outcome (draft.declare d.file d.decl) (d.fault? ds) (ds ++ [d]) unnamed := by
  obtain ⟨file, definition⟩ := d
  cases definition with
  | roots decl => exact declare_roots_outcome h file decl
  | type decl => exact declare_type_outcome h file decl
  | extension decl => exact declare_extension_outcome h file decl
  | directive decl => exact declare_directive_outcome h file decl

/-- Takes up declarations from any files in order. -/
def declareEach (draft : Draft) (more : Declarations) : Except BuildError Draft :=
  more.foldlM (fun draft d => draft.declare d.file d.decl) draft

theorem declareEach_append (draft : Draft) (ds more : Declarations) :
    draft.declareEach (ds ++ more) = draft.declareEach ds >>= (·.declareEach more) := by
  simp [declareEach]

theorem declareAll_eq_declareEach (draft : Draft) (file : String) (definitions : List Sdl.Definition) :
    draft.declareAll file definitions = draft.declareEach (definitions.map (Placed.mk file)) := by
  rw [declareAll, declareEach, List.foldlM_map]

theorem declareEach_outcome (more : Declarations) (h : draft.Records ds unnamed) :
    Outcome (draft.declareEach more) (Step.faults ds (more.map .declares)).head? (ds ++ more) unnamed := by
  induction more generalizing draft ds with
  | nil => exact ⟨draft, rfl, by simpa using h⟩
  | cons d rest ih =>
    have hstep := (declare_outcome h d).bind fun next hnext => ih hnext
    have hcons : draft.declareEach (d :: rest) =
        draft.declare d.file d.decl >>= fun next => next.declareEach rest := rfl
    rw [hcons]
    simpa [Step.faults, Step.fault?, Step.declared, List.head?_append] using hstep

theorem loadNamed_outcome (h : draft.Records ds unnamed) (source : Placed String) :
    Outcome (draft.loadNamed source.file source.decl) (Step.faults ds source.steps).head?
      (ds ++ source.steps.flatMap Step.declared) unnamed := by
  cases hparse : Sdl.parse source.decl with
  | error position =>
    simp only [loadNamed, Placed.steps, hparse]
    rfl
  | ok definitions =>
    have hall := declareEach_outcome (definitions.map (Placed.mk source.file)) h
    rw [Placed.steps_of_parse hparse, Step.declared_declares]
    simpa only [loadNamed, hparse, declareAll_eq_declareEach] using hall

/-- A document is loaded under the name that it has among the sources. -/
theorem load_eq_loadNamed (h : draft.Records ds unnamed) (document : Document) (rest : List Document) :
    ∃ (source : Placed String) (before : Draft) (next : UInt16),
      Document.sources unnamed (document :: rest) = source :: Document.sources next rest ∧
      draft.load document.file? document.sdl = before.loadNamed source.file source.decl ∧
      before.Records ds next := by
  obtain ⟨file?, sdl⟩ := document
  cases file? with
  | some file => exact ⟨⟨file, sdl⟩, draft, unnamed, rfl, rfl, h⟩
  | none =>
    refine ⟨⟨unnamedFile unnamed, sdl⟩, { draft with unnamed := draft.unnamed + 1 }, unnamed + 1,
      rfl, ?_, h.types, h.directives, h.roots, h.extensions, ?_⟩
    · rw [← h.unnamed]
      rfl
    · rw [← h.unnamed]

/-- Loading documents reports the first fault of their steps, or records all declarations. -/
theorem load_outcome (documents : List Document) (h : draft.Records ds unnamed) :
    ∃ unnamed', Outcome
      (documents.foldlM (fun draft document => draft.load document.file? document.sdl) draft)
      (Step.faults ds ((Document.sources unnamed documents).flatMap Placed.steps)).head?
      (ds ++ ((Document.sources unnamed documents).flatMap Placed.steps).flatMap Step.declared)
      unnamed' := by
  induction documents generalizing draft ds unnamed with
  | nil => exact ⟨unnamed, draft, rfl, by simpa [Document.sources] using h⟩
  | cons document rest ih =>
    obtain ⟨source, before, next, hsources, hload, hbefore⟩ := load_eq_loadNamed h document rest
    have hnamed := loadNamed_outcome hbefore source
    rw [List.foldlM_cons, hload, hsources, List.flatMap_cons, Step.faults_append, List.head?_append,
      List.flatMap_append, ← List.append_assoc]
    cases hfault : (Step.faults ds source.steps).head? with
    | some e =>
      rw [hfault] at hnamed
      have herror : before.loadNamed source.file source.decl = .error e := hnamed
      exact ⟨unnamed, by rw [herror]; rfl⟩
    | none =>
      rw [hfault] at hnamed
      obtain ⟨loaded, hloaded, hrecords⟩ := hnamed
      rw [hloaded]
      exact ih hrecords

end Draft

end SchemaDoc
