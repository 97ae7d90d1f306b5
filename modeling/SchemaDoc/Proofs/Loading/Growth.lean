-- SUMMARY: Documents that only extend types leave roots as they are and add to the end of what types carry.
import SchemaDoc.Proofs.Loading.Roots

/-!
# Growth by extensions

Documents that hold nothing but extensions can be appended to others. All
definitions and schema blocks stay; the extensions of a type get others after
them. So a type that is defined keeps its head, carries what it carried before
and then more, and does not become a root type if it was none.
-/

namespace SchemaDoc

/-! ## Documents that only extend -/

/-- The document can be read, and all that it holds are extensions of types. -/
def Document.ExtendsOnly (document : Document) : Prop :=
  ∃ definitions, Sdl.parse document.sdl = .ok definitions ∧
    ∀ definition ∈ definitions, ∃ decl, definition = .extension decl

instance : (definition : Sdl.Definition) → Decidable (∃ decl, definition = .extension decl)
  | .extension decl => isTrue ⟨decl, rfl⟩
  | .type _ | .directive _ | .roots _ => isFalse nofun

instance : DecidablePred Document.ExtendsOnly := fun document =>
  match hparse : Sdl.parse document.sdl with
  | .ok definitions =>
    decidable_of_iff (∀ definition ∈ definitions, ∃ decl, definition = .extension decl)
      ⟨fun hextends => ⟨definitions, hparse, hextends⟩, by
        rintro ⟨others, hothers, hextends⟩
        cases hparse.symm.trans hothers
        exact hextends⟩
  | .error _ => isFalse fun ⟨_, hothers, _⟩ => nomatch hparse.symm.trans hothers

/-- The definitions of one sequence, with more extensions of each type after those that it has. -/
structure Declarations.Grows (ds others : Declarations) : Prop where
  types : others.types = ds.types
  blocks : others.blocks = ds.blocks
  extensions : ∀ name, ∃ more, others.extensionsOf name = ds.extensionsOf name ++ more

theorem Declarations.grows_append (ds : Declarations) {more : Declarations}
    (h : ∀ declaration ∈ more, ∃ decl, declaration.decl = .extension decl) : ds.Grows (ds ++ more) where
  types := by
    have hnone : types more = [] := by
      apply List.filterMap_eq_nil_iff.2
      rintro ⟨file, definition⟩ hmem
      obtain ⟨decl, rfl⟩ := h _ hmem
      rfl
    rw [types_append, hnone, List.append_nil]
  blocks := by
    have hnone : blocks more = [] := by
      apply List.filterMap_eq_nil_iff.2
      rintro ⟨file, definition⟩ hmem
      obtain ⟨decl, rfl⟩ := h _ hmem
      rfl
    rw [blocks_append, hnone, List.append_nil]
  extensions := by
    intro name
    refine ⟨extensionsOf more name, ?_⟩
    rw [extensionsOf, extensions_append, List.filter_append]
    rfl

namespace Document

/-- What stands before decides only on the number at which unnamed documents go on. -/
theorem sources_append (unnamed : UInt16) (documents more : List Document) :
    ∃ next, sources unnamed (documents ++ more) = sources unnamed documents ++ sources next more := by
  induction documents generalizing unnamed with
  | nil => exact ⟨unnamed, rfl⟩
  | cons document rest ih =>
    obtain ⟨file?, sdl⟩ := document
    cases file? with
    | none =>
      obtain ⟨next, hrest⟩ := ih (unnamed + 1)
      exact ⟨next, congrArg (List.cons _) hrest⟩
    | some file =>
      obtain ⟨next, hrest⟩ := ih unnamed
      exact ⟨next, congrArg (List.cons _) hrest⟩

theorem map_decl_sources (unnamed : UInt16) (documents : List Document) :
    (sources unnamed documents).map (·.decl) = documents.map (·.sdl) := by
  induction documents generalizing unnamed with
  | nil => rfl
  | cons document rest ih =>
    obtain ⟨file?, sdl⟩ := document
    cases file? with
    | none => exact congrArg (List.cons sdl) (ih (unnamed + 1))
    | some file => exact congrArg (List.cons sdl) (ih unnamed)

/-- What is declared in a text that only extends is an extension. -/
theorem ExtendsOnly.declared {document : Document} (h : document.ExtendsOnly) {source : Placed String}
    (hsource : source.decl = document.sdl) :
    ∀ declaration ∈ source.steps.flatMap Step.declared, ∃ decl, declaration.decl = .extension decl := by
  obtain ⟨definitions, hparse, hextends⟩ := h
  intro declaration hdeclaration
  rw [Placed.steps, hsource, hparse, List.flatMap_map] at hdeclaration
  obtain ⟨definition, hdefinition, hdeclared⟩ := List.mem_flatMap.1 hdeclaration
  rw [List.mem_singleton.1 hdeclared]
  exact hextends definition hdefinition

theorem grows_append (documents : List Document) {more : List Document}
    (h : ∀ document ∈ more, document.ExtendsOnly) :
    (declarations documents).Grows (declarations (documents ++ more)) := by
  obtain ⟨next, hsources⟩ := sources_append 0 documents more
  rw [declarations, declarations, steps, steps, hsources, List.flatMap_append, List.flatMap_append]
  apply Declarations.grows_append
  intro declaration hdeclaration
  rw [List.flatMap_assoc] at hdeclaration
  obtain ⟨source, hsource, hdeclared⟩ := List.mem_flatMap.1 hdeclaration
  have htext : source.decl ∈ more.map (·.sdl) := map_decl_sources next more ▸ List.mem_map_of_mem hsource
  obtain ⟨document, hdocument, heq⟩ := List.mem_map.1 htext
  exact (h document hdocument).declared heq.symm declaration hdeclared

end Document

/-! ## Schemas of more extensions -/

namespace Schema.Completes

variable {schema grown : Schema} {ds others : Declarations} {draft draft' : Draft}
  {declared declared' : OrderedMap TypeDef} {definition : Placed Sdl.TypeDecl}

/-- A defined type keeps its head, and what it carries stays in front. -/
theorem find?_grown (h : schema.Completes ds draft declared) (h' : grown.Completes others draft' declared')
    (hgrows : ds.Grows others) (hdefinition : definition ∈ ds.types) :
    ∃ type type' more, schema.types.find? definition.decl.name = some type ∧
      grown.types.find? definition.decl.name = some type' ∧ type.SameHead type' ∧
      type'.applied = type.applied ++ more := by
  obtain ⟨type, hfind, hextend⟩ := h.find?_declared hdefinition
  obtain ⟨type', hfind', hextend'⟩ := h'.find?_declared (hgrows.types.symm ▸ hdefinition)
  obtain ⟨more, hmore⟩ := hgrows.extensions definition.decl.name
  have hjoins : type.Joins definition (ds.extensionsOf definition.decl.name) :=
    (TypeDef.joins_typeDef definition).extendAll hextend
  have hjoins' : type'.Joins definition (others.extensionsOf definition.decl.name) :=
    (TypeDef.joins_typeDef definition).extendAll hextend'
  refine ⟨type, type', more.flatMap (·.decl.applied), hfind, hfind', ⟨?_, ?_, ?_, ?_⟩, ?_⟩
  · rw [hjoins'.name, hjoins.name]
  · rw [hjoins'.description, hjoins.description]
  · rw [hjoins'.location, hjoins.location]
  · rw [← hjoins'.kind definition List.mem_cons_self, ← hjoins.kind definition List.mem_cons_self]
  · rw [hjoins'.applied, hmore, List.flatMap_append, ← List.append_assoc, ← hjoins.applied]

/-- Extensions make no type the root of an operation. -/
theorem root_of_grown (h : schema.Completes ds draft declared) (h' : grown.Completes others draft' declared')
    (hgrows : ds.Grows others) (hdefinition : definition ∈ ds.types) {kind : OperationKind}
    (hroot : grown.roots.get kind = some definition.decl.name) :
    schema.roots.get kind = some definition.decl.name := by
  have hroots : others.roots kind = ds.roots kind := congrArg _ hgrows.blocks
  rw [h'.roots_eq, hroots] at hroot
  rw [h.roots_eq]
  cases hchoice : (ds.roots kind).head? with
  | some choice =>
    rw [hchoice] at hroot
    exact hroot
  | none =>
    rw [hchoice] at hroot
    obtain ⟨hname, found, hfound, hobject⟩ := Draft.resolveRoot_none_iff.1 hroot
    obtain ⟨type, type', -, hfind, hfind', hhead, -⟩ := h.find?_grown h' hgrows hdefinition
    cases hfound.symm.trans hfind'
    exact Draft.resolveRoot_none_iff.2 ⟨hname, type, hfind, hhead.kind.symm.trans hobject⟩

end Schema.Completes

end SchemaDoc
