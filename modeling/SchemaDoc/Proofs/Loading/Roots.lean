-- SUMMARY: The root type of an operation is the one that a schema block names, or else the object type with the customary name.
import SchemaDoc.Proofs.Loading.Merging

/-!
# Root types

A schema block may name root types for some kinds of operations only, and all
blocks together name at most one for each kind. Where they name none, the object
type with the customary name is the root, whether or not there are blocks for
other kinds.
-/

namespace SchemaDoc

/-- Without a root type of its own an operation has the object type with the customary name, if there is one. -/
theorem Draft.resolveRoot_none_iff {types : OrderedMap TypeDef} {kind : OperationKind} {name : String} :
    Draft.resolveRoot types kind none = some name ↔
      name = kind.defaultRoot ∧ ∃ type, types.find? name = some type ∧ type.kind = .object := by
  unfold Draft.resolveRoot
  cases hfind : types.find? kind.defaultRoot with
  | none =>
    simp only [Option.map_none, reduceCtorEq, false_iff, not_and]
    rintro rfl ⟨type, htype, -⟩
    cases hfind.symm.trans htype
  | some found =>
    simp only [Option.map_some]
    constructor
    · intro h
      split at h
      · next hkind =>
        cases h
        exact ⟨rfl, found, hfind, Option.some.inj hkind⟩
      · cases h
    · rintro ⟨rfl, type, htype, hkind⟩
      cases hfind.symm.trans htype
      simp only [hkind]

namespace Declarations

variable {ds : Declarations} {kind : OperationKind}

/-- What a block names is among the root types that the blocks name. -/
theorem mem_roots_of_block {block : Placed Sdl.RootsDecl} {name : String} (hblock : block ∈ ds.blocks)
    (hname : block.decl.root kind = some name) :
    ⟨name, .inFile block.file block.decl.position⟩ ∈ ds.roots kind := by
  apply List.mem_filterMap.2
  refine ⟨block, hblock, ?_⟩
  rw [Placed.root?, hname]
  rfl

theorem roots_eq_nil (h : ∀ block ∈ ds.blocks, block.decl.root kind = none) : ds.roots kind = [] := by
  apply List.filterMap_eq_nil_iff.2
  intro block hblock
  rw [Placed.root?, h block hblock]
  rfl

end Declarations

namespace Schema.Completes

variable {schema : Schema} {ds : Declarations} {draft : Draft} {declared : OrderedMap TypeDef}

theorem roots_eq (h : schema.Completes ds draft declared) (kind : OperationKind) :
    schema.roots.get kind = Draft.resolveRoot schema.types kind (ds.roots kind).head? := by
  obtain ⟨unnamed, hrecords⟩ := h.records
  rw [hrecords.head?_roots, h.eq]
  exact PerOperation.get_ofFn _ kind

/-- A draft has room for one root type of each kind, so a root that is named is the first. -/
theorem head?_roots (h : schema.Completes ds draft declared) {kind : OperationKind} {root : RootChoice}
    (hroot : root ∈ ds.roots kind) : (ds.roots kind).head? = some root := by
  obtain ⟨unnamed, hrecords⟩ := h.records
  rw [hrecords.head?_roots]
  rw [hrecords.roots] at hroot
  exact Option.mem_toList.1 hroot

end Schema.Completes

/-- The root type of an operation is named by a block, or has the customary name and is an object type. -/
theorem Schema.roots_settled {documents : List Document} {schema : Schema}
    (h : Schema.ofDocuments documents = .ok schema) (kind : OperationKind) :
    let blocks := (Document.declarations documents).blocks
    (∀ block ∈ blocks, ∀ name, block.decl.root kind = some name → schema.roots.get kind = some name) ∧
      ((∀ block ∈ blocks, block.decl.root kind = none) → ∀ name, schema.roots.get kind = some name ↔
        name = kind.defaultRoot ∧ ∃ type, schema.types.find? name = some type ∧ type.kind = .object) := by
  intro blocks
  obtain ⟨draft, declared, hcompletes⟩ := Schema.completes_of_ofDocuments h
  rw [hcompletes.roots_eq]
  constructor
  · intro block hblock name hname
    rw [hcompletes.head?_roots (Declarations.mem_roots_of_block hblock hname)]
    rfl
  · intro hnone name
    rw [Declarations.roots_eq_nil hnone]
    exact Draft.resolveRoot_none_iff

/-- A schema block that names the root type of queries only, beside an object type that is called `Mutation`. -/
def Document.queriesOnly : List Document :=
  [⟨some "a.graphql", "schema { query: Root } type Root { last: Mutation } type Mutation { id: ID }"⟩]

theorem Schema.roots_settled_queriesOnly :
    ∃ schema, Schema.ofDocuments Document.queriesOnly = .ok schema ∧
      schema.roots.get .query = some "Root" ∧ schema.roots.get .subscription = none := by
  have hquery : ∃ block ∈ (Document.declarations Document.queriesOnly).blocks,
      block.decl.root .query = some "Root" := by
    decide +kernel
  have hothers : ∀ block ∈ (Document.declarations Document.queriesOnly).blocks,
      block.decl.root .subscription = none := by
    decide +kernel
  have htypes : (Schema.ofDocuments Document.queriesOnly).toOption.any (fun schema =>
      (schema.types.find? "Subscription").isNone) = true := by
    decide +kernel
  obtain ⟨schema, hschema, hunnamed⟩ := Schema.exists_of_any htypes
  obtain ⟨block, hblock, hname⟩ := hquery
  refine ⟨schema, hschema, (Schema.roots_settled hschema .query).1 block hblock "Root" hname, ?_⟩
  apply Option.eq_none_iff_forall_ne_some.2
  intro name hroot
  obtain ⟨rfl, type, htype, -⟩ := ((Schema.roots_settled hschema .subscription).2 hothers name).1 hroot
  have hnone : schema.types.find? "Subscription" = none := Option.isNone_iff_eq_none.1 hunnamed
  cases hnone.symm.trans htype

/-- A block that names no root type for mutations does not keep the type called `Mutation` from being it. -/
theorem Schema.root_beside_block :
    ∃ schema, Schema.ofDocuments Document.queriesOnly = .ok schema ∧
      (Document.declarations Document.queriesOnly).blocks ≠ [] ∧
      (∀ block ∈ (Document.declarations Document.queriesOnly).blocks, block.decl.root .mutation = none) ∧
      schema.roots.get .mutation = some "Mutation" := by
  have hroots : (Schema.ofDocuments Document.queriesOnly).toOption.any
      (·.roots.get .mutation = some "Mutation") = true := by
    decide +kernel
  obtain ⟨schema, hschema, hroot⟩ := Schema.exists_of_any hroots
  exact ⟨schema, hschema, by decide +kernel, by decide +kernel, of_decide_eq_true hroot⟩

end SchemaDoc
