-- SUMMARY: Unnamed documents are called by their numbers, which start again after 65536 of them, and everything reported of a document bears its name.
import SchemaDoc.Proofs.Loading.Locations
import SchemaDoc.Proofs.Loading.Reordering
import SchemaDoc.Proofs.Results

/-!
# Names of documents

An unnamed document is called by the number of unnamed documents before it, as far
as 16 bits hold it. Loading knows a document by this name alone: locations and
errors bear it, and nothing changes when the name is given from outside. As long as
the numbers do not start again, no two unnamed documents share a name.
-/

namespace SchemaDoc

/-! ## Numbers -/

namespace Document

/-- How many of some documents have no name. -/
def unnamedIn (documents : List Document) : Nat :=
  documents.countP (·.file?.isNone)

/-- The name of a document behind others: its own, or that of its number. -/
def fileAfter (before : List Document) (document : Document) : String :=
  document.file?.getD ("str://" ++ toString (unnamedIn before % 65536))

/-- The same documents, all with names. -/
def named (documents : List Document) : List Document :=
  documents.mapIdx fun i document => ⟨some (document.fileAfter (documents.take i)), document.sdl⟩

variable {documents : List Document} {document other : Document} {i j : Nat}

theorem unnamedFile_ofNat (n : Nat) : Draft.unnamedFile (.ofNat n) = "str://" ++ toString (n % 65536) := by
  rw [Draft.unnamedFile, UInt16.toNat_ofNat']

theorem sources_eq_mapIdx (before documents : List Document) :
    sources (.ofNat (unnamedIn before)) documents =
      documents.mapIdx fun i document => ⟨document.fileAfter (before ++ documents.take i), document.sdl⟩ := by
  -- Each document moves from the list to those before it, and is counted there if it is unnamed.
  induction documents generalizing before with
  | nil => rfl
  | cons document rest ih =>
    obtain ⟨file?, sdl⟩ := document
    have hrest := ih (before ++ [⟨file?, sdl⟩])
    simp only [List.append_assoc, List.singleton_append] at hrest
    rw [List.mapIdx_cons]
    cases file? with
    | some file =>
      have hcount : unnamedIn (before ++ [⟨some file, sdl⟩]) = unnamedIn before := by simp [unnamedIn]
      rw [hcount] at hrest
      simp only [sources, hrest, List.take_succ_cons]
      rfl
    | none =>
      have hcount : UInt16.ofNat (unnamedIn (before ++ [⟨none, sdl⟩])) = .ofNat (unnamedIn before) + 1 := by
        simp [unnamedIn, UInt16.ofNat_add]
      rw [hcount] at hrest
      simp only [sources, hrest, List.take_succ_cons, unnamedFile_ofNat, List.take_zero, List.append_nil]
      rfl

theorem sources_eq (documents : List Document) :
    sources 0 documents =
      documents.mapIdx fun i document => ⟨document.fileAfter (documents.take i), document.sdl⟩ :=
  sources_eq_mapIdx [] documents

/-- With all names given there is nothing to count. -/
theorem sources_map_some (unnamed : UInt16) (sources : List (Placed String)) :
    Document.sources unnamed (sources.map fun source => ⟨some source.file, source.decl⟩) = sources := by
  induction sources with
  | nil => rfl
  | cons source rest ih => exact congrArg (source :: ·) ih

theorem sources_named (documents : List Document) : sources 0 (named documents) = sources 0 documents := by
  have hnamed : named documents =
      (sources 0 documents).map fun source => ⟨some source.file, source.decl⟩ := by
    rw [sources_eq, named, List.mapIdx_eq_zipIdx_map, List.mapIdx_eq_zipIdx_map, List.map_map]
    rfl
  rw [hnamed, sources_map_some]

/-- What can be read of a document. -/
def definitions (document : Document) : List Sdl.Definition :=
  match Sdl.parse document.sdl with
  | .ok definitions => definitions
  | .error _ => []

/-- The definitions of all documents in load order, each under the name of its document. -/
def placed (documents : List Document) : Declarations :=
  (documents.mapIdx fun i document =>
    document.definitions.map (Placed.mk (document.fileAfter (documents.take i)))).flatten

theorem declared_steps (file : String) (document : Document) :
    (Placed.steps ⟨file, document.sdl⟩).flatMap Step.declared = document.definitions.map (Placed.mk file) := by
  rw [Placed.steps, definitions]
  dsimp only
  cases Sdl.parse document.sdl with
  | error position => rfl
  | ok definitions =>
    rw [← Step.declared_declares (definitions.map (Placed.mk file)), List.map_map]
    rfl

theorem declarations_eq_placed (documents : List Document) : declarations documents = placed documents := by
  rw [declarations, steps, sources_eq, List.flatMap_assoc, List.flatMap_def, placed,
    List.mapIdx_eq_zipIdx_map, List.mapIdx_eq_zipIdx_map, List.map_map]
  congr 2
  funext p
  exact declared_steps _ p.1

/-! ## Names of unnamed documents -/

theorem fileAfter_of_unnamed (hunnamed : document.file? = none) (before : List Document) :
    document.fileAfter before = "str://" ++ toString (unnamedIn before % 65536) := by
  rw [fileAfter, hunnamed, Option.getD_none]

theorem toString_inj {m n : Nat} (h : toString m = toString n) : m = n := by
  rw [Nat.toString_eq_ofList_toDigits, Nat.toString_eq_ofList_toDigits, String.ofList_inj] at h
  rw [← Nat.ofDigitChars_ten_toDigits (n := m), h, Nat.ofDigitChars_ten_toDigits]

/-- Names of unnamed documents are the same where their numbers are, up to what 16 bits hold. -/
theorem fileAfter_eq_iff (hdocument : document.file? = none) (hother : other.file? = none)
    (before before' : List Document) :
    document.fileAfter before = other.fileAfter before' ↔
      unnamedIn before % 65536 = unnamedIn before' % 65536 := by
  rw [fileAfter_of_unnamed hdocument, fileAfter_of_unnamed hother]
  constructor
  · intro hnames
    have hchars := congrArg String.toList hnames
    rw [String.toList_append, String.toList_append] at hchars
    exact toString_inj (String.toList_injective (List.append_cancel_left hchars))
  · intro hnumbers
    rw [hnumbers]

/-- The number of an unnamed document is less than that of all documents behind it. -/
theorem unnamedIn_take_lt (hi : documents[i]? = some document) (hunnamed : document.file? = none)
    (hlt : i < j) : unnamedIn (documents.take i) < unnamedIn (documents.take j) := by
  have hnext : unnamedIn (documents.take (i + 1)) = unnamedIn (documents.take i) + 1 := by
    rw [List.take_add_one, hi, unnamedIn, unnamedIn, List.countP_append]
    simp [hunnamed]
  have hle : unnamedIn (documents.take (i + 1)) ≤ unnamedIn (documents.take j) :=
    (List.take_sublist_take_left hlt).countP_le
  omega

theorem unnamedIn_take_lt_all (hi : documents[i]? = some document) (hunnamed : document.file? = none) :
    unnamedIn (documents.take i) < unnamedIn documents := by
  obtain ⟨hlength, -⟩ := List.getElem?_eq_some_iff.1 hi
  have hlt := unnamedIn_take_lt hi hunnamed hlength
  rwa [List.take_length] at hlt

/-- Unnamed documents are told apart by their numbers. -/
theorem eq_of_unnamedIn_eq (hi : documents[i]? = some document) (hj : documents[j]? = some other)
    (hdocument : document.file? = none) (hother : other.file? = none)
    (heq : unnamedIn (documents.take i) = unnamedIn (documents.take j)) : i = j := by
  rcases Nat.lt_trichotomy i j with hlt | heq' | hlt
  · have := unnamedIn_take_lt hi hdocument hlt
    omega
  · exact heq'
  · have := unnamedIn_take_lt hj hother hlt
    omega

end Document

/-! ## Definitions given twice -/

/-- An error on what is defined twice tells where: at one of the definitions, and at a later one. -/
def BuildError.Repeats (ds : Declarations) : BuildError → Prop
  | .duplicateType name first second =>
    ∃ p q, [p, q].Sublist ds.types ∧ p.decl.name = name ∧ q.decl.name = name ∧
      first = .inFile p.file p.decl.position ∧ second = .inFile q.file q.decl.position
  | .duplicateDirective name first second =>
    ∃ p q, [p, q].Sublist ds.directives ∧ p.decl.name = name ∧ q.decl.name = name ∧
      first = .inFile p.file p.decl.position ∧ second = .inFile q.file q.decl.position
  | .duplicateOperation kind first second => [first, second].Sublist (ds.roots kind)
  | _ => True

theorem Step.exists_of_mem_faults {before : Declarations} {steps : List Step} {e : BuildError}
    (h : e ∈ Step.faults before steps) :
    ∃ earlier step later, steps = earlier ++ step :: later ∧
      step.fault? (before ++ earlier.flatMap Step.declared) = some e := by
  induction steps generalizing before with
  | nil => cases h
  | cons step rest ih =>
    rcases List.mem_append.1 h with hhere | hlater
    · exact ⟨[], step, rest, rfl, by simpa using hhere⟩
    · obtain ⟨earlier, other, later, rfl, hfault⟩ := ih hlater
      refine ⟨step :: earlier, other, later, rfl, ?_⟩
      rwa [List.flatMap_cons, ← List.append_assoc]

/-- A member comes before whatever stands behind the list. -/
theorem pair_sublist {α : Type} {xs ys : List α} {x y : α} (hx : x ∈ xs) (hy : y ∈ ys) :
    [x, y].Sublist (xs ++ ys) :=
  (List.singleton_sublist.2 hx).append (List.singleton_sublist.2 hy)

/-- What is at fault with a declaration is that something before it declares the same. -/
theorem Declaration.repeats_of_fault {before after : Declarations} {d : Declaration} {e : BuildError}
    (h : d.fault? before = some e) : e.Repeats (before ++ d :: after) := by
  obtain ⟨file, definition⟩ := d
  cases definition with
  | type decl =>
    obtain ⟨first, hfirst, rfl⟩ := Option.map_eq_some_iff.1 h
    have hname : first.decl.name = decl.name := by simpa using List.find?_some hfirst
    refine ⟨first, ⟨file, decl⟩, ?_, hname, rfl, rfl, rfl⟩
    rw [Declarations.types_append]
    exact pair_sublist (List.mem_of_find?_eq_some hfirst) List.mem_cons_self
  | directive decl =>
    obtain ⟨first, hfirst, rfl⟩ := Option.map_eq_some_iff.1 h
    have hname : first.decl.name = decl.name := by simpa using List.find?_some hfirst
    refine ⟨first, ⟨file, decl⟩, ?_, hname, rfl, rfl, rfl⟩
    rw [Declarations.directives_append]
    exact pair_sublist (List.mem_of_find?_eq_some hfirst) List.mem_cons_self
  | roots decl =>
    obtain ⟨kind, -, hkind⟩ := List.exists_of_findSome?_eq_some h
    obtain ⟨first, hfirst, hsecond⟩ := Option.bind_eq_some_iff.1 hkind
    obtain ⟨second, hroot, he⟩ := Option.bind_eq_some_iff.1 hsecond
    cases he
    have hlater : second ∈ Declarations.roots (⟨file, .roots decl⟩ :: after) kind :=
      List.mem_filterMap.2 ⟨⟨file, decl⟩, List.mem_cons_self, hroot⟩
    show [first, second].Sublist _
    rw [Declarations.roots_append]
    exact pair_sublist (List.mem_of_mem_head? hfirst) hlater
  | extension decl => cases h

theorem Extension.repeats_of_fault {kindOf : String → Option TypeKind} {extension : Extension} {e : BuildError}
    (h : extension.fault? kindOf = some e) (ds : Declarations) : e.Repeats ds := by
  unfold Extension.fault? at h
  split at h
  · cases h
    trivial
  · split at h
    · cases h
    · cases h
      trivial

theorem Document.repeats_of_mem_faults {documents : List Document} {e : BuildError}
    (h : e ∈ Document.faults documents) : e.Repeats (Document.declarations documents) := by
  rcases List.mem_append.1 h with hstep | hextension
  · obtain ⟨earlier, step, later, hsteps, hfault⟩ := Step.exists_of_mem_faults hstep
    cases step with
    | malformed file position =>
      cases hfault
      trivial
    | declares d =>
      rw [Document.declarations, hsteps, List.flatMap_append]
      exact Declaration.repeats_of_fault hfault
  · obtain ⟨extension, -, hfault⟩ := List.mem_filterMap.1 hextension
    exact Extension.repeats_of_fault hfault _

/-! ## Loading under names -/

/-- Whether names are given or made makes no difference. -/
theorem Schema.ofDocuments_eq_of_sources {documents others : List Document}
    (h : Document.sources 0 documents = Document.sources 0 others) :
    Schema.ofDocuments documents = Schema.ofDocuments others := by
  have houtcome := Schema.ofDocuments_outcome documents
  have hother := Schema.ofDocuments_outcome others
  rw [Document.faults, Document.declarations, Document.steps, h] at houtcome
  exact houtcome.unique hother

/--
A document is known by its name alone, so an unnamed one may as well be given the
name that is made of its number. All that is located, and both places of what is
defined twice, bear the names of their documents. Unnamed documents share a name
exactly where 16 bits do not tell their numbers apart; with no more than 65536 of
them, each has the name of its number and no other has the same.
-/
theorem Schema.documents_named (documents : List Document) :
    Schema.ofDocuments documents = Schema.ofDocuments (Document.named documents) ∧
    (∀ schema, Schema.ofDocuments documents = .ok schema → schema.Located (Document.placed documents)) ∧
    (∀ e, Schema.ofDocuments documents = .error e → e.Repeats (Document.placed documents)) ∧
    (∀ (i j : Nat) (document other : Document), documents[i]? = some document → document.file? = none →
      documents[j]? = some other → other.file? = none →
      (document.fileAfter (documents.take i) = other.fileAfter (documents.take j) ↔
        Document.unnamedIn (documents.take i) % 65536 = Document.unnamedIn (documents.take j) % 65536)) ∧
    (Document.unnamedIn documents ≤ 65536 →
      ∀ (i : Nat) (document : Document), documents[i]? = some document → document.file? = none →
        document.fileAfter (documents.take i) =
          "str://" ++ toString (Document.unnamedIn (documents.take i)) ∧
        ∀ (j : Nat) (other : Document), documents[j]? = some other → other.file? = none →
          other.fileAfter (documents.take j) = document.fileAfter (documents.take i) → j = i) := by
  have hplaced := Document.declarations_eq_placed documents
  refine ⟨Schema.ofDocuments_eq_of_sources (Document.sources_named documents).symm, ?_, ?_, ?_, ?_⟩
  · intro schema hschema
    obtain ⟨draft, declared, hcompletes⟩ := Schema.completes_of_ofDocuments hschema
    exact hplaced ▸ hcompletes.located
  · intro e herror
    have hfirst := ((Schema.ofDocuments_verdict documents).2 e).1 herror
    exact hplaced ▸ Document.repeats_of_mem_faults (List.mem_of_mem_head? hfirst)
  · intro i j document other _ hdocument _ hother
    exact Document.fileAfter_eq_iff hdocument hother _ _
  · intro hfew i document hi hdocument
    have hlt := Document.unnamedIn_take_lt_all hi hdocument
    have hnumber : Document.unnamedIn (documents.take i) % 65536 = Document.unnamedIn (documents.take i) :=
      Nat.mod_eq_of_lt (by omega)
    refine ⟨by rw [Document.fileAfter_of_unnamed hdocument, hnumber], ?_⟩
    intro j other hj hother hname
    have hltOther := Document.unnamedIn_take_lt_all hj hother
    rw [Document.fileAfter_eq_iff hother hdocument, hnumber, Nat.mod_eq_of_lt (by omega)] at hname
    exact Document.eq_of_unnamedIn_eq hj hi hother hdocument hname

/-- A named document stands between unnamed ones and is not counted. -/
def Document.mixed : List Document :=
  [⟨none, "scalar A"⟩, ⟨some "b.graphql", "scalar B"⟩, ⟨none, "scalar C"⟩]

/-- Two unnamed documents define the same type. -/
def Document.repeated : List Document :=
  [⟨none, "scalar A"⟩, ⟨none, " scalar A"⟩]

theorem Schema.documents_named_mixed :
    (∃ schema, Schema.ofDocuments Document.mixed = .ok schema ∧ schema.Located (Document.placed Document.mixed)) ∧
    (∃ e, Schema.ofDocuments Document.repeated = .error e ∧ e.Repeats (Document.placed Document.repeated)) ∧
    Document.unnamedIn Document.mixed ≤ 65536 ∧
    Document.fileAfter (Document.mixed.take 2) ⟨none, "scalar C"⟩ = "str://1" := by
  have hmixed : (Schema.ofDocuments Document.mixed).isOk = true := by decide +kernel
  have hrepeated : (Schema.ofDocuments Document.repeated).isOk = false := by decide +kernel
  obtain ⟨schema, hschema⟩ := Schema.exists_of_isOk hmixed
  obtain ⟨-, hlocated, -, -, hnames⟩ := Schema.documents_named Document.mixed
  obtain ⟨-, -, herrors, -⟩ := Schema.documents_named Document.repeated
  refine ⟨⟨schema, hschema, hlocated schema hschema⟩, ?_, by decide, (hnames (by decide) 2 _ rfl rfl).1⟩
  cases herror : Schema.ofDocuments Document.repeated with
  | error e => exact ⟨e, rfl, herrors e herror⟩
  | ok other =>
    rw [herror] at hrepeated
    cases hrepeated

/-! ## Numbers that start again -/

/-- A schema block that names no root, and nothing else. -/
def Sdl.isEmptyBlock : List Sdl.Definition → Bool
  | [.roots ⟨_, none, none, none⟩] => true
  | _ => false

/-- A schema block that names nothing declares nothing. -/
def Document.empty : Document := ⟨none, "schema{}"⟩

theorem Draft.load_empty (draft : Draft) :
    draft.load Document.empty.file? Document.empty.sdl = .ok { draft with unnamed := draft.unnamed + 1 } := by
  have hcheck : (Sdl.parse "schema{}").toOption.any Sdl.isEmptyBlock = true := by decide +kernel
  obtain ⟨definitions, hparse, hempty⟩ := Result.exists_of_any hcheck
  unfold Sdl.isEmptyBlock at hempty
  split at hempty
  · simp only [Document.empty, Draft.load, Draft.loadNamed, hparse]
    rfl
  · cases hempty

theorem Draft.load_replicate_empty (n : Nat) (draft : Draft) :
    (List.replicate n Document.empty).foldlM (fun draft document => draft.load document.file? document.sdl) draft =
      .ok { draft with unnamed := draft.unnamed + .ofNat n } := by
  induction n generalizing draft with
  | zero => simp [pure, Except.pure]
  | succ n ih =>
    rw [List.replicate_succ, List.foldlM_cons, Draft.load_empty]
    have hrest := ih { draft with unnamed := draft.unnamed + 1 }
    have hnumber : draft.unnamed + 1 + .ofNat n = draft.unnamed + .ofNat (n + 1) := by
      rw [UInt16.ofNat_add, UInt16.add_assoc, UInt16.add_comm 1]
      rfl
    rw [hnumber] at hrest
    exact hrest

/-- One document more than 16 bits can number. -/
def Document.overflowing : List Document :=
  ⟨none, "scalar A"⟩ :: (List.replicate 65535 Document.empty ++ [⟨none, "scalar B"⟩])

/-- The last document has the number 65536 and the name of the first. -/
theorem Schema.unnamed_renumbered :
    Document.unnamedIn (Document.overflowing.take 65536) = 65536 ∧
    ∃ schema, Schema.ofDocuments Document.overflowing = .ok schema ∧
      (schema.types.find? "A").map (·.location) = some (.inFile "str://0" ⟨1, 1⟩) ∧
      (schema.types.find? "B").map (·.location) = some (.inFile "str://0" ⟨1, 1⟩) := by
  constructor
  · have hlength : (⟨none, "scalar A"⟩ :: List.replicate 65535 Document.empty).length = 65536 := by
      rw [List.length_cons, List.length_replicate]
    have hall : (⟨none, "scalar A"⟩ :: List.replicate 65535 Document.empty).countP (·.file?.isNone) =
        65535 + 1 := by
      rw [List.countP_cons_of_pos rfl, List.countP_replicate, if_pos (by decide)]
    rw [Document.overflowing, ← List.cons_append, List.take_left' hlength]
    exact hall
  · have hcheck : (Draft.empty.load none "scalar A").toOption.any (fun draft => draft.unnamed = 1 ∧
        ({ draft with unnamed := 0 }.load none "scalar B" >>= Draft.finish).toOption.any (fun schema =>
          (schema.types.find? "A").map (·.location) = some (.inFile "str://0" ⟨1, 1⟩) ∧
            (schema.types.find? "B").map (·.location) = some (.inFile "str://0" ⟨1, 1⟩))) = true := by
      decide +kernel
    obtain ⟨draft, hdraft, hrest⟩ := Result.exists_of_any hcheck
    obtain ⟨hone, hrest⟩ := of_decide_eq_true hrest
    obtain ⟨schema, hschema, hlocations⟩ := Result.exists_of_any hrest
    obtain ⟨last, hlast, hfinish⟩ := Result.bind_eq_ok_iff.1 hschema
    refine ⟨schema, Result.bind_eq_ok_iff.2 ⟨last, ?_, hfinish⟩, of_decide_eq_true hlocations⟩
    have hzero : draft.unnamed + .ofNat 65535 = 0 := by
      rw [hone]
      decide
    have hempty := Draft.load_replicate_empty 65535 draft
    rw [hzero] at hempty
    rw [Document.overflowing, List.foldlM_cons]
    refine Result.bind_eq_ok_iff.2 ⟨draft, hdraft, ?_⟩
    rw [List.foldlM_append]
    refine Result.bind_eq_ok_iff.2 ⟨_, hempty, ?_⟩
    rw [List.foldlM_cons]
    exact Result.bind_eq_ok_iff.2 ⟨last, hlast, rfl⟩

end SchemaDoc
