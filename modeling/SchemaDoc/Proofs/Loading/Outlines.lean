-- SUMMARY: What the entities of a schema consist of can be written down.
import SchemaDoc.Proofs.Loading.Keyed
import SchemaDoc.Proofs.Sdl.Wellformed

/-!
# Outlines of the entities of a schema

Documents define only what fits between the brackets they may open, and merging
definitions with extensions adds nothing else. So the outlines of all types and
directives of a schema fit, and no two members of one have the same name.
-/

namespace SchemaDoc

/-! ## Merging -/

/-- What holds of the outlines of old and new entries holds of those of all of them. -/
theorem OrderedMap.forall_insertAll {α β : Type} {m : OrderedMap α} {entries : List (String × α)}
    {outline : α → β} {P : β → Prop} (hm : ∀ b ∈ m.values.map outline, P b)
    (hentries : ∀ entry ∈ entries, P (outline entry.2)) :
    ∀ b ∈ (m.insertAll entries).values.map outline, P b := by
  intro b hb
  obtain ⟨value, hvalue, rfl⟩ := List.mem_map.1 hb
  obtain ⟨name, hfind⟩ := mem_values_iff.1 hvalue
  rw [find?_insertAll, Option.or_eq_some_iff] at hfind
  rcases hfind with hnew | ⟨-, hold⟩
  · exact hentries _ (List.mem_reverse.1 (mem_of_lookup_eq_some hnew))
  · exact hm _ (List.mem_map_of_mem (mem_values_iff.2 ⟨name, hold⟩))

theorem OrderedMap.forall_ofList {α β : Type} {entries : List (String × α)} {outline : α → β}
    {P : β → Prop} (h : ∀ entry ∈ entries, P (outline entry.2)) :
    ∀ b ∈ (OrderedMap.ofList entries).values.map outline, P b :=
  forall_insertAll (by simp [values]) h

theorem forall_mem_appendNew {names more : List String} {P : String → Prop}
    (h : ∀ name ∈ names, P name) (hmore : ∀ name ∈ more, P name) :
    ∀ name ∈ appendNew names more, P name := by
  unfold appendNew
  induction more generalizing names with
  | nil => exact h
  | cons next more ih =>
    rw [List.forall_mem_cons] at hmore
    refine ih ?_ hmore.2
    dsimp only
    split
    · exact h
    · simpa [or_imp, forall_and] using ⟨h, hmore.1⟩

theorem InputValue.fits_entries {file : String} {decls : List Sdl.InputDecl} {P : Code.Input → Prop}
    (h : ∀ input ∈ decls.map Sdl.InputDecl.outline, P input) :
    ∀ entry ∈ InputValue.entries file decls, P entry.2.outline := by
  intro entry hentry
  obtain ⟨decl, hdecl, rfl⟩ := List.mem_map.1 hentry
  exact h _ (List.mem_map_of_mem hdecl)

theorem Field.fits_ofDecl {file parent : String} {decl : Sdl.FieldDecl} {room : Nat}
    (h : decl.outline.Fits room) : (Field.ofDecl file parent decl).outline.Fits room where
  name := h.name
  type := h.type
  args := OrderedMap.forall_ofList (InputValue.fits_entries h.args)

theorem Field.fits_entries {file parent : String} {decls : List Sdl.FieldDecl} {room inner : Nat}
    (h : ∀ field ∈ decls.map Sdl.FieldDecl.outline, 0 < room ∧ field.Fits inner) :
    ∀ entry ∈ Field.entries file parent decls, 0 < room ∧ entry.2.outline.Fits inner := by
  intro entry hentry
  obtain ⟨decl, hdecl, rfl⟩ := List.mem_map.1 hentry
  obtain ⟨hroom, hfield⟩ := h _ (List.mem_map_of_mem hdecl)
  exact ⟨hroom, Field.fits_ofDecl hfield⟩

theorem EnumValue.fits_entries {file enum : String} {decls : List Sdl.EnumValueDecl}
    {P : Code.EnumValue → Prop} (h : ∀ value ∈ decls.map Sdl.EnumValueDecl.outline, P value) :
    ∀ entry ∈ EnumValue.entries file enum decls, P entry.2.outline := by
  intro entry hentry
  obtain ⟨decl, hdecl, rfl⟩ := List.mem_map.1 hentry
  exact h _ (List.mem_map_of_mem hdecl)

theorem TypeBody.fits_ofDecl {file name : String} {body : Sdl.TypeDeclBody} {room : Nat}
    (h : (body.outline name).Fits room) : ((TypeBody.ofDecl file name body).outline name).Fits room := by
  cases body with
  | enum values =>
    obtain ⟨hname, hvalues⟩ := h
    exact ⟨hname, OrderedMap.forall_ofList (EnumValue.fits_entries hvalues)⟩
  | input fields =>
    obtain ⟨hname, hfields⟩ := h
    exact ⟨hname, OrderedMap.forall_ofList (InputValue.fits_entries hfields)⟩
  | interface interfaces fields =>
    obtain ⟨hname, hinterfaces, hfields⟩ := h
    exact ⟨hname, hinterfaces, OrderedMap.forall_ofList (Field.fits_entries hfields)⟩
  | object interfaces fields =>
    obtain ⟨hname, hinterfaces, hfields⟩ := h
    exact ⟨hname, hinterfaces, OrderedMap.forall_ofList (Field.fits_entries hfields)⟩
  | scalar => exact h
  | union members => exact ⟨h.1, forall_mem_appendNew (by simp) h.2⟩

theorem TypeBody.fits_extend {file name other : String} {body extended : TypeBody}
    {more : Sdl.TypeDeclBody} {room : Nat} (h : (body.outline name).Fits room)
    (hmore : (more.outline other).Fits room) (hextend : body.extend file name more = some extended) :
    (extended.outline name).Fits room := by
  cases body <;> cases more <;>
    simp only [TypeBody.extend, Option.some.injEq, reduceCtorEq] at hextend <;> subst hextend
  case enum.enum values more =>
    exact ⟨h.1, OrderedMap.forall_insertAll h.2 (EnumValue.fits_entries hmore.2)⟩
  case input.input fields more =>
    exact ⟨h.1, OrderedMap.forall_insertAll h.2 (InputValue.fits_entries hmore.2)⟩
  case interface.interface interfaces fields others more =>
    exact ⟨h.1, forall_mem_appendNew h.2.1 hmore.2.1,
      OrderedMap.forall_insertAll h.2.2 (Field.fits_entries hmore.2.2)⟩
  case object.object interfaces fields others more =>
    exact ⟨h.1, forall_mem_appendNew h.2.1 hmore.2.1,
      OrderedMap.forall_insertAll h.2.2 (Field.fits_entries hmore.2.2)⟩
  case scalar.scalar => exact h
  case union.union members more => exact ⟨h.1, forall_mem_appendNew h.2 hmore.2⟩

theorem TypeDef.fits_extendAll {type extended : TypeDef} {exts : List Extension} {room : Nat}
    (h : (Entity.type type).outline.Fits room) (hexts : ∀ e ∈ exts, e.decl.outline.Fits room)
    (hextend : type.extendAll exts = some extended) : (Entity.type extended).outline.Fits room := by
  induction exts generalizing type with
  | nil =>
    cases hextend
    exact h
  | cons extension exts ih =>
    rw [List.forall_mem_cons] at hexts
    rw [TypeDef.extendAll_cons] at hextend
    obtain ⟨next, hnext, hrest⟩ := Option.bind_eq_some_iff.1 hextend
    obtain ⟨body, hbody, rfl⟩ := Option.map_eq_some_iff.1 hnext
    have hnext : (body.outline type.name).Fits room := TypeBody.fits_extend h hexts.1 hbody
    exact @ih { type with applied := type.applied ++ extension.decl.applied, body } hnext hexts.2 hrest

/-! ## Documents -/

theorem Document.wellformed_declarations (documents : List Document) :
    ∀ d ∈ Document.declarations documents, d.decl.Fits Sdl.nestingLimit ∧ d.decl.Loadable := by
  intro d hd
  obtain ⟨step, hstep, hdeclared⟩ := List.mem_flatMap.1 hd
  obtain ⟨source, -, hsource⟩ := List.mem_flatMap.1 hstep
  unfold Placed.steps at hsource
  split at hsource
  · next definitions hparse =>
    obtain ⟨definition, hdefinition, rfl⟩ := List.mem_map.1 hsource
    rw [Step.declared, List.mem_singleton] at hdeclared
    subst hdeclared
    exact Sdl.wellformed_of_parse hparse definition hdefinition
  · rw [List.mem_singleton] at hsource
    subst hsource
    cases hdeclared

theorem Document.fits_declarations (documents : List Document) :
    ∀ d ∈ Document.declarations documents, d.decl.Fits Sdl.nestingLimit :=
  fun d hd => (wellformed_declarations documents d hd).1

namespace Declarations

variable {ds : Declarations}

/-- What holds of all that is declared holds of the definitions of types. -/
theorem forall_types {P : Sdl.Definition → Prop} (h : ∀ d ∈ ds, P d.decl) : ∀ p ∈ ds.types, P (.type p.decl) := by
  intro p hp
  obtain ⟨⟨file, definition⟩, hd, hdefinition⟩ := List.mem_filterMap.1 hp
  cases definition <;> cases hdefinition
  exact h _ hd

theorem forall_extensions {P : Sdl.Definition → Prop} (h : ∀ d ∈ ds, P d.decl) :
    ∀ p ∈ ds.extensions, P (.extension p.decl) := by
  intro p hp
  obtain ⟨⟨file, definition⟩, hd, hdefinition⟩ := List.mem_filterMap.1 hp
  cases definition <;> cases hdefinition
  exact h _ hd

theorem forall_directives {P : Sdl.Definition → Prop} (h : ∀ d ∈ ds, P d.decl) :
    ∀ p ∈ ds.directives, P (.directive p.decl) := by
  intro p hp
  obtain ⟨⟨file, definition⟩, hd, hdefinition⟩ := List.mem_filterMap.1 hp
  cases definition <;> cases hdefinition
  exact h _ hd

end Declarations

/-! ## What the language defines -/

theorem Builtin.fits_types : ∀ type ∈ Builtin.scalars ++ Builtin.introspection,
    (Entity.type type).outline.Fits Sdl.nestingLimit := by
  decide +kernel

theorem Builtin.fits_directives : ∀ directive ∈ Builtin.directives,
    (Entity.directive directive).outline.Fits Sdl.nestingLimit := by
  decide +kernel

/-! ## Schemas -/

/-- The types and directives of a schema: its entities besides the operations. -/
def Schema.Defines (schema : Schema) : Entity → Prop
  | .type t => t ∈ schema.types.values
  | .operation .. => False
  | .directive d => d ∈ schema.directives.values

/-- Outlines that keep names have different ones. -/
theorem OrderedMap.Keyed.nodup_outlines {α β : Type} {m : OrderedMap α} {key : α → String}
    (h : m.Keyed key) {outline : α → β} {name : β → String} (hname : ∀ a, name (outline a) = key a) :
    ((m.values.map outline).map name).Nodup := by
  have hkeys : (m.values.map outline).map name = m.keys := by
    rw [List.map_map, ← h.map_values]
    exact List.map_congr_left fun a _ => hname a
  rw [hkeys]
  exact m.nodup

theorem TypeBody.Keyed.distinct_outline {name : String} {body : TypeBody} (h : body.Keyed name)
    (hmembers : ∀ members, body = .union members → members.Nodup) : (body.outline name).Distinct := by
  have hfields {fields : OrderedMap Field}
      (hkeyed : fields.Keyed (·.name) ∧ ∀ field ∈ fields.values, field.Of name) :
      ((fields.values.map Field.outline).map (·.name)).Nodup ∧
        ∀ field ∈ fields.values.map Field.outline, (field.args.map (·.name)).Nodup := by
    refine ⟨hkeyed.1.nodup_outlines fun _ => rfl, List.forall_mem_map.2 fun field hfield => ?_⟩
    exact (hkeyed.2 field hfield).2.nodup_outlines fun _ => rfl
  cases body with
  | enum values => exact h.1.nodup_outlines fun _ => rfl
  | input fields => exact OrderedMap.Keyed.nodup_outlines h fun _ => rfl
  | interface interfaces fields => exact hfields h
  | object interfaces fields => exact hfields h
  | scalar => trivial
  | union members => exact hmembers members rfl

namespace Schema.Completes

variable {schema : Schema} {ds : Declarations} {draft : Draft} {declared : OrderedMap TypeDef}

theorem fits (h : schema.Completes ds draft declared) (hds : ∀ d ∈ ds, d.decl.Fits Sdl.nestingLimit)
    {entity : Entity} (hentity : schema.Defines entity) : entity.outline.Fits Sdl.nestingLimit := by
  cases entity with
  | type type =>
    obtain ⟨name, hmem⟩ := OrderedMap.exists_mem_entries hentity
    rcases h.types_cases hmem with ⟨definition, hdefinition, rfl, -⟩ | ⟨-, hscalar | ⟨hintrospection, -⟩⟩
    · obtain ⟨other, hfind, hextend⟩ := h.find?_declared hdefinition
      rw [OrderedMap.find?_eq_some_iff.2 hmem] at hfind
      cases hfind
      have hfits : (Entity.type definition.typeDef).outline.Fits Sdl.nestingLimit :=
        TypeBody.fits_ofDecl (Declarations.forall_types (P := (·.Fits _)) hds definition hdefinition)
      have hexts := Declarations.forall_extensions (P := (·.Fits _)) hds
      exact TypeDef.fits_extendAll hfits (fun e he => hexts e (List.mem_filter.1 he).1) hextend
    · exact Builtin.fits_types type (List.mem_append_left _ (List.mem_of_find?_eq_some hscalar))
    · exact Builtin.fits_types type (List.mem_append_right _ hintrospection)
  | operation kind field => cases hentity
  | directive directive =>
    obtain ⟨name, hmem⟩ := OrderedMap.exists_mem_entries hentity
    rcases h.directives_cases hmem with ⟨definition, hdefinition, rfl, rfl⟩ | ⟨-, hbuiltin, -⟩
    · obtain ⟨hname, hargs, hplaces⟩ := Declarations.forall_directives (P := (·.Fits _)) hds definition hdefinition
      exact ⟨hname, OrderedMap.forall_ofList (InputValue.fits_entries hargs), hplaces⟩
    · exact Builtin.fits_directives directive hbuiltin

/-- The members of a union are named once. -/
theorem nodup_members (h : schema.Completes ds draft declared) {type : TypeDef}
    (htype : type ∈ schema.types.values) {members : List String} (hbody : type.body = .union members) :
    members.Nodup := by
  obtain ⟨name, hmem⟩ := OrderedMap.exists_mem_entries htype
  rcases h.types_cases hmem with ⟨definition, -, -, hjoins⟩ | ⟨-, hscalar | ⟨hintrospection, -⟩⟩
  · have hmembers := hjoins.body
    rw [hbody] at hmembers
    simp only [TypeBody.Joins] at hmembers
    rw [hmembers]
    exact nodup_eraseDups _
  · rw [Builtin.body_of_scalar? hscalar] at hbody
    cases hbody
  · have hnone : ∀ type ∈ Builtin.introspection, type.kind ≠ .union := by decide +kernel
    exact absurd (congrArg TypeBody.kind hbody) (hnone type hintrospection)

theorem distinct (h : schema.Completes ds draft declared) {entity : Entity}
    (hentity : schema.Defines entity) : entity.outline.Distinct := by
  cases entity with
  | type type =>
    exact (h.keyed.members type hentity).distinct_outline fun members => h.nodup_members hentity
  | operation kind field => cases hentity
  | directive directive => exact (h.keyed.args directive hentity).nodup_outlines fun _ => rfl

end Schema.Completes

end SchemaDoc
