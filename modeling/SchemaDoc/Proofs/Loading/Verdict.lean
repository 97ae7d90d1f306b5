-- SUMMARY: Documents make a schema exactly if they are consistent; otherwise their first fault is reported.
import SchemaDoc.Proofs.Loading.Faults

/-!
# The verdict on documents

Loading and finishing together report the first of all faults. There is none
exactly if all texts can be read, no name is declared twice, no operation gets
two root types, and each extension finds a type of its kind among the declared
ones. The types of the language itself play no part in either.
-/

namespace SchemaDoc

/-! ## Consistent declarations have no faults -/

namespace Declarations

variable {ds : Declarations}

/-- Among distinct names an item is the first of its name. -/
theorem find?_eq_of_nodup {α : Type} (name : α → String) {items : List α} {item : α}
    (hnodup : (items.map name).Nodup) (hmem : item ∈ items) :
    items.find? (name · == name item) = some item := by
  induction items with
  | nil => cases hmem
  | cons first rest ih =>
    rw [List.map_cons, List.nodup_cons] at hnodup
    rcases List.mem_cons.1 hmem with rfl | hrest
    · simp
    · have hne : name first ≠ name item := by
        intro heq
        exact hnodup.1 (heq ▸ List.mem_map_of_mem hrest)
      rw [List.find?_cons, beq_false_of_ne hne]
      exact ih hnodup.2 hrest

theorem kindOf_eq_some_iff (h : ds.Distinct) {name : String} {kind : TypeKind} :
    ds.kindOf name = some kind ↔ ∃ type ∈ ds.types, type.decl.name = name ∧ type.decl.body.kind = kind := by
  rw [kindOf, Option.map_eq_some_iff]
  constructor
  · rintro ⟨type, hfind, hkind⟩
    exact ⟨type, List.mem_of_find?_eq_some hfind, by simpa using List.find?_some hfind, hkind⟩
  · rintro ⟨type, hmem, rfl, hkind⟩
    exact ⟨type, find?_eq_of_nodup (·.decl.name) h.types hmem, hkind⟩

theorem extensible_iff (h : ds.Distinct) :
    ds.Extensible ↔ ds.extensions.filterMap (·.fault? ds.kindOf) = [] := by
  simp only [Extensible, List.filterMap_eq_nil_iff, Extension.fault?_eq_none_iff, kindOf_eq_some_iff h]

/-- The fault of extensions that is noticed when all else is declared. -/
def extensionFault? (ds : Declarations) : Option BuildError :=
  ds.extensions.findSome? (·.fault? ds.kindOf)

theorem extensible_iff_extensionFault? (h : ds.Distinct) : ds.Extensible ↔ ds.extensionFault? = none := by
  rw [extensible_iff h, extensionFault?, ← List.head?_filterMap, List.head?_eq_none_iff]

/-- A name that stands before cannot be declared again. -/
theorem find?_eq_none_of_nodup {α : Type} (name : α → String) {before : List α} {item : α}
    (h : ((before ++ [item]).map name).Nodup) : before.find? (name · == name item) = none := by
  rw [List.find?_eq_none]
  intro first hmem
  rw [List.map_append, List.nodup_append] at h
  have hne := h.2.2 (name first) (List.mem_map_of_mem hmem) (name item) (by simp)
  simpa using hne

end Declarations

theorem Declaration.fault?_eq_none_of_distinct {before : Declarations} {d : Declaration}
    (h : Declarations.Distinct (before ++ [d])) : d.fault? before = none := by
  obtain ⟨file, definition⟩ := d
  cases definition with
  | type decl =>
    have htypes := h.types
    rw [Declarations.types_append] at htypes
    have hnone := Declarations.find?_eq_none_of_nodup (fun type : Placed Sdl.TypeDecl => type.decl.name)
      htypes
    simp only [Declaration.fault?, hnone, Option.map_none]
  | directive decl =>
    have hdirectives := h.directives
    rw [Declarations.directives_append] at hdirectives
    have hnone := Declarations.find?_eq_none_of_nodup
      (fun directive : Placed Sdl.DirectiveDecl => directive.decl.name) hdirectives
    simp only [Declaration.fault?, hnone, Option.map_none]
  | extension decl => rfl
  | roots decl =>
    rw [Declaration.fault?, List.findSome?_eq_none_iff]
    intro kind _
    have hroots := h.roots kind
    rw [Declarations.roots_append, List.length_append] at hroots
    cases hfirst : (before.roots kind).head? with
    | none => rfl
    | some first =>
      cases hsecond : Placed.root? ⟨file, decl⟩ kind with
      | none => rfl
      | some second =>
        -- One root type before and one of the block are two.
        have hbefore : 0 < (before.roots kind).length := by
          apply List.length_pos_of_mem
          exact List.mem_of_mem_head? hfirst
        have hnew : (Declarations.roots [⟨file, .roots decl⟩] kind).length = 1 := by
          simp [Declarations.roots, Declarations.blocks, hsecond]
        omega

/-- Steps that can all be read and declare nothing twice have no faults. -/
theorem Step.faults_eq_nil {before : Declarations} {steps : List Step}
    (hread : ∀ step ∈ steps, ∃ d, step = .declares d)
    (hdistinct : Declarations.Distinct (before ++ steps.flatMap Step.declared)) :
    Step.faults before steps = [] := by
  -- The declarations before a step grow with each step, and all of them stay distinct.
  induction steps generalizing before with
  | nil => rfl
  | cons step rest ih =>
    obtain ⟨d, rfl⟩ := hread step List.mem_cons_self
    have hassoc : before ++ (Step.declares d :: rest).flatMap Step.declared =
        (before ++ [d]) ++ rest.flatMap Step.declared := by
      simp [Step.declared]
    rw [hassoc] at hdistinct
    have hhead := Declaration.fault?_eq_none_of_distinct hdistinct.of_append
    have hrest := ih (fun step hstep => hread step (List.mem_cons_of_mem _ hstep)) hdistinct
    simp only [Step.faults, Step.fault?, Step.declared, hhead, hrest, Option.toList_none, List.append_nil]

/-- A step that cannot be read is a fault. -/
theorem Step.declares_of_faults_eq_nil {before : Declarations} {steps : List Step}
    (h : Step.faults before steps = []) : ∀ step ∈ steps, ∃ d, step = .declares d := by
  induction steps generalizing before with
  | nil =>
    intro step hstep
    cases hstep
  | cons first rest ih =>
    rw [Step.faults, List.append_eq_nil_iff] at h
    intro step hstep
    rcases List.mem_cons.1 hstep with rfl | hrest
    · cases step with
      | malformed file position => simp [Step.fault?] at h
      | declares d => exact ⟨d, rfl⟩
    · exact ih h.2 step hrest

/-- All steps are declarations exactly if all texts can be read. -/
theorem Document.read_iff (unnamed : UInt16) (documents : List Document) :
    (∀ document ∈ documents, ∃ definitions, Sdl.parse document.sdl = .ok definitions) ↔
      ∀ step ∈ (Document.sources unnamed documents).flatMap Placed.steps, ∃ d, step = .declares d := by
  induction documents generalizing unnamed with
  | nil => simp [Document.sources]
  | cons document rest ih =>
    obtain ⟨source, next, hsources, hsdl⟩ : ∃ (source : Placed String) (next : UInt16),
        Document.sources unnamed (document :: rest) = source :: Document.sources next rest ∧
        source.decl = document.sdl := by
      obtain ⟨file?, sdl⟩ := document
      cases file? <;> exact ⟨_, _, rfl, rfl⟩
    have hhead : (∃ definitions, Sdl.parse document.sdl = .ok definitions) ↔
        ∀ step ∈ source.steps, ∃ d, step = .declares d := by
      unfold Placed.steps
      rw [hsdl]
      cases hparse : Sdl.parse document.sdl with
      | ok definitions => simp
      | error position => simp
    simp only [hsources, List.flatMap_cons, List.forall_mem_append, List.forall_mem_cons, hhead, ih next]

/-! ## Finishing -/

/-- The schema of a draft whose types, with their extensions, are given. -/
def Draft.complete (draft : Draft) (declared : OrderedMap TypeDef) : Schema :=
  let directives := draft.allDirectives
  let types := Draft.arrangeTypes declared directives
  { types, directives, roots := .ofFn fun kind => Draft.resolveRoot types kind (draft.roots.get kind) }

theorem Draft.finish_eq (draft : Draft) : draft.finish = draft.extendedTypes.map draft.complete := by
  unfold Draft.finish
  cases draft.extendedTypes <;> rfl

/-- The schema is that of a draft that records the declarations, with all types extended. -/
structure Schema.Completes (schema : Schema) (ds : Declarations) (draft : Draft)
    (declared : OrderedMap TypeDef) : Prop where
  records : ∃ unnamed, draft.Records ds unnamed
  extensible : ds.Extensible
  extends_types : Draft.Extends draft.types ds.extensions declared
  eq : schema = draft.complete declared

/-- Building either reports the fault or leads to the schema of the declarations. -/
def Schema.Outcome (result : Except BuildError Schema) (fault? : Option BuildError) (ds : Declarations) :
    Prop :=
  match fault? with
  | some e => result = .error e
  | none => ∃ schema draft declared, result = .ok schema ∧ schema.Completes ds draft declared

theorem Schema.Outcome.completes {result : Except BuildError Schema} {fault? : Option BuildError}
    {ds : Declarations} {schema : Schema} (h : Schema.Outcome result fault? ds)
    (hresult : result = .ok schema) :
    fault? = none ∧ ∃ draft declared, schema.Completes ds draft declared := by
  cases fault? with
  | some e =>
    have herror : result = .error e := h
    rw [hresult] at herror
    cases herror
  | none =>
    obtain ⟨other, draft, declared, hother, hcompletes⟩ := h
    rw [hresult] at hother
    cases hother
    exact ⟨rfl, draft, declared, hcompletes⟩

/-- Finishing reports the first extension that does not fit, and otherwise extends every type. -/
theorem Draft.finish_outcome {draft : Draft} {ds : Declarations} {unnamed : UInt16}
    (h : draft.Records ds unnamed) : Schema.Outcome draft.finish ds.extensionFault? ds := by
  have hrun := Draft.foldlM_extendType ds.extensions draft.types
  rw [h.kindOf_types, ← Declarations.extensionFault?] at hrun
  rw [Draft.finish_eq, Draft.extendedTypes, h.extensions]
  cases hfault : ds.extensionFault? with
  | some e =>
    rw [hfault] at hrun
    simp only [Schema.Outcome, hrun, Except.map]
  | none =>
    rw [hfault] at hrun
    obtain ⟨declared, hdeclared, hextends⟩ := hrun
    have hfits := (Declarations.extensible_iff_extensionFault? h.distinct).2 hfault
    exact ⟨_, draft, declared, by simp only [hdeclared, Except.map], ⟨unnamed, h⟩, hfits, hextends, rfl⟩

theorem Draft.Outcome.finish {result : Except BuildError Draft} {fault? : Option BuildError}
    {ds : Declarations} {unnamed : UInt16} (h : Draft.Outcome result fault? ds unnamed) :
    Schema.Outcome (result >>= Draft.finish) (fault?.or ds.extensionFault?) ds := by
  cases fault? with
  | some e =>
    have hresult : result = .error e := h
    rw [hresult]
    rfl
  | none =>
    obtain ⟨draft, hresult, hrecords⟩ := h
    rw [hresult, Option.none_or]
    exact Draft.finish_outcome hrecords

/-! ## The verdict -/

theorem Schema.ofDocuments_outcome (documents : List Document) :
    Schema.Outcome (Schema.ofDocuments documents) (Document.faults documents).head?
      (Document.declarations documents) := by
  obtain ⟨unnamed, hload⟩ := Draft.load_outcome documents Draft.records_empty
  rw [Document.faults, List.head?_append, List.head?_filterMap]
  exact hload.finish

/-- What is known of documents that make a schema. -/
theorem Schema.completes_of_ofDocuments {documents : List Document} {schema : Schema}
    (h : Schema.ofDocuments documents = .ok schema) :
    ∃ draft declared, schema.Completes (Document.declarations documents) draft declared :=
  ((Schema.ofDocuments_outcome documents).completes h).2

theorem Schema.exists_of_isOk {result : Except BuildError Schema} (h : result.isOk = true) :
    ∃ schema, result = .ok schema := by
  cases result with
  | error e => cases h
  | ok schema => exact ⟨schema, rfl⟩

/-- What is checked of the result of building holds of a schema. -/
theorem Schema.exists_of_any {result : Except BuildError Schema} {check : Schema → Bool}
    (h : result.toOption.any check = true) : ∃ schema, result = .ok schema ∧ check schema = true := by
  cases result with
  | error e => cases h
  | ok schema => exact ⟨schema, rfl, h⟩

theorem Document.faults_eq_nil_iff (documents : List Document) :
    Document.faults documents = [] ↔ Document.Consistent documents := by
  constructor
  · intro h
    have houtcome := Schema.ofDocuments_outcome documents
    rw [h] at houtcome
    obtain ⟨schema, draft, declared, -, hcompletes⟩ := houtcome
    obtain ⟨unnamed, hrecords⟩ := hcompletes.records
    have hsteps := (List.append_eq_nil_iff.1 h).1
    exact ⟨(Document.read_iff 0 documents).2 (Step.declares_of_faults_eq_nil hsteps), hrecords.distinct,
      hcompletes.extensible⟩
  · intro h
    have hsteps : Step.faults [] (Document.steps documents) = [] :=
      Step.faults_eq_nil ((Document.read_iff 0 documents).1 h.read) h.distinct
    have hextensions := (Declarations.extensible_iff h.distinct).1 h.extensible
    exact List.append_eq_nil_iff.2 ⟨hsteps, hextensions⟩

theorem Document.Consistent.exists_schema {documents : List Document} (h : Document.Consistent documents) :
    ∃ schema, Schema.ofDocuments documents = .ok schema := by
  have houtcome := Schema.ofDocuments_outcome documents
  rw [(Document.faults_eq_nil_iff documents).2 h] at houtcome
  obtain ⟨schema, draft, declared, hok, -⟩ := houtcome
  exact ⟨schema, hok⟩

/-- Consistent documents make a schema; for all others the first of their faults is reported. -/
theorem Schema.ofDocuments_verdict (documents : List Document) :
    ((∃ schema, Schema.ofDocuments documents = .ok schema) ↔ Document.Consistent documents) ∧
      ∀ e, Schema.ofDocuments documents = .error e ↔ (Document.faults documents).head? = some e := by
  have houtcome := Schema.ofDocuments_outcome documents
  rw [← Document.faults_eq_nil_iff, ← List.head?_eq_none_iff]
  cases hfault : (Document.faults documents).head? with
  | some first =>
    rw [hfault] at houtcome
    have herror : Schema.ofDocuments documents = .error first := houtcome
    simp [herror]
  | none =>
    rw [hfault] at houtcome
    obtain ⟨schema, draft, declared, hok, -⟩ := houtcome
    simp [hok]

end SchemaDoc
