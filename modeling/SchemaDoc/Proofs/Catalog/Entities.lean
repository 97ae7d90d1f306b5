-- SUMMARY: The entities of a schema have proper names, and defaults as documents can hold them.
import SchemaDoc.Proofs.Catalog.Lookup
import SchemaDoc.Proofs.Loading.Outlines

/-!
# Entities of a schema

The entities of a schema are its types and directives, those without a page
included, and the fields of its root types. Whatever they consist of was read from
a document or is defined by the language. So it can be written down again, and
every default is a value that a document can hold.
-/

namespace SchemaDoc

open Value

/-! ## Merged defaults -/

theorem OrderedMap.Merges.forall_values {α : Type} {m : OrderedMap α} {entries : List (String × α)}
    {P : α → Prop} (h : m.Merges entries) (hentries : ∀ entry ∈ entries, P entry.2) :
    ∀ value ∈ m.values, P value := by
  intro value hvalue
  obtain ⟨name, hmem⟩ := exists_mem_entries hvalue
  exact hentries _ (h.mem_of_mem hmem)

/-- All arguments and input fields of a type. -/
def TypeBody.inputs : TypeBody → List InputValue
  | .input fields => fields.values
  | .interface _ fields | .object _ fields => fields.values.flatMap (·.args.values)
  | .enum _ | .scalar | .union _ => []

theorem InputValue.loadable_entries {file : String} {decls : List Sdl.InputDecl}
    (h : ∀ decl ∈ decls, LoadableDefault decl.default?) :
    ∀ entry ∈ InputValue.entries file decls, LoadableDefault entry.2.default? := by
  intro entry hentry
  obtain ⟨decl, hdecl, rfl⟩ := List.mem_map.1 hentry
  exact h decl hdecl

theorem InputValue.loadable_ofList {file : String} {decls : List Sdl.InputDecl}
    (h : ∀ decl ∈ decls, LoadableDefault decl.default?) :
    ∀ input ∈ (OrderedMap.ofList (InputValue.entries file decls)).values, LoadableDefault input.default? :=
  (OrderedMap.merges_ofList _).forall_values (InputValue.loadable_entries h)

theorem Field.loadable_entries {file parent : String} {decls : List Sdl.FieldDecl}
    (h : ∀ decl ∈ decls, ∀ arg ∈ decl.args, LoadableDefault arg.default?) :
    ∀ entry ∈ Field.entries file parent decls, ∀ arg ∈ entry.2.args.values, LoadableDefault arg.default? := by
  intro entry hentry
  obtain ⟨decl, hdecl, rfl⟩ := List.mem_map.1 hentry
  exact InputValue.loadable_ofList (h decl hdecl)

theorem Sdl.TypeDeclBody.mem_inputs_of_inputFields {body : Sdl.TypeDeclBody} {decl : Sdl.InputDecl}
    (h : decl ∈ body.inputFields) : decl ∈ body.inputs := by
  cases body with
  | input fields => exact h
  | enum | interface | object | scalar | union => cases h

theorem Sdl.TypeDeclBody.mem_inputs_of_fields {body : Sdl.TypeDeclBody} {field : Sdl.FieldDecl}
    {arg : Sdl.InputDecl} (h : field ∈ body.fields) (harg : arg ∈ field.args) : arg ∈ body.inputs := by
  cases body with
  | interface interfaces fields => exact List.mem_flatMap.2 ⟨field, h, harg⟩
  | object interfaces fields => exact List.mem_flatMap.2 ⟨field, h, harg⟩
  | enum | input | scalar | union => cases h

/-- The defaults of a type are those of its definition and its extensions. -/
theorem TypeBody.Joins.loadable {name : String} {parts : List (Placed Sdl.TypeDecl)} {body : TypeBody}
    (h : body.Joins name parts)
    (hparts : ∀ part ∈ parts, ∀ input ∈ part.decl.body.inputs, LoadableDefault input.default?) :
    ∀ input ∈ body.inputs, LoadableDefault input.default? := by
  have hfields {fields : OrderedMap Field}
      (hmerges : fields.Merges (parts.flatMap fun p => Field.entries p.file name p.decl.body.fields)) :
      ∀ input ∈ fields.values.flatMap (·.args.values), LoadableDefault input.default? := by
    have hargs : ∀ field ∈ fields.values, ∀ arg ∈ field.args.values, LoadableDefault arg.default? := by
      refine hmerges.forall_values fun entry hentry => ?_
      obtain ⟨part, hpart, hmem⟩ := List.mem_flatMap.1 hentry
      exact Field.loadable_entries (fun decl hdecl arg harg =>
        hparts part hpart arg (Sdl.TypeDeclBody.mem_inputs_of_fields hdecl harg)) entry hmem
    intro input hinput
    obtain ⟨field, hfield, harg⟩ := List.mem_flatMap.1 hinput
    exact hargs field hfield input harg
  cases body with
  | input fields =>
    have hmerges : fields.Merges (parts.flatMap fun p => InputValue.entries p.file p.decl.body.inputFields) := h
    refine hmerges.forall_values fun entry hentry => ?_
    obtain ⟨part, hpart, hmem⟩ := List.mem_flatMap.1 hentry
    exact InputValue.loadable_entries (fun decl hdecl =>
      hparts part hpart decl (Sdl.TypeDeclBody.mem_inputs_of_inputFields hdecl)) entry hmem
  | interface interfaces fields => exact hfields h.2
  | object interfaces fields => exact hfields h.2
  | enum values => simp [TypeBody.inputs]
  | scalar => simp [TypeBody.inputs]
  | union members => simp [TypeBody.inputs]

/-- Whether a default of the language is of a form that documents can hold. -/
def isPlainDefault : Option Value → Bool
  | none | some (.bool _) | some (.string _) => true
  | _ => false

theorem loadable_of_isPlainDefault {default? : Option Value} (h : isPlainDefault default? = true) :
    LoadableDefault default? := by
  rintro v rfl
  cases v with
  | bool b => exact .bool b
  | string s => exact .string s
  | null | int | float | enum | var | list | object => cases h

theorem Builtin.plain_types : ∀ type ∈ Builtin.scalars ++ Builtin.introspection,
    ∀ input ∈ type.body.inputs, isPlainDefault input.default? = true := by
  decide +kernel

theorem Builtin.plain_directives : ∀ directive ∈ Builtin.directives,
    ∀ arg ∈ directive.args.values, isPlainDefault arg.default? = true := by
  decide +kernel

/-! ## Entities -/

/-- The types and directives of a schema, and the fields of its root types. -/
inductive Schema.Has (schema : Schema) : Entity → Prop where
  | defined {entity : Entity} (h : schema.Defines entity) : schema.Has entity
  | operation {kind : OperationKind} {entry : String × Field} (h : entry ∈ schema.operationFields kind) :
    schema.Has (.operation kind entry.2)

theorem TypeBody.isName_of_fits {room : Nat} {name : String} {body : TypeBody}
    (h : (body.outline name).Fits room) : Sdl.isName name = true := by
  cases body with
  | scalar => exact h
  | enum values => exact h.1
  | input fields => exact h.1
  | interface interfaces fields => exact h.1
  | object interfaces fields => exact h.1
  | union members => exact h.1

theorem Entity.isName_of_fits {room : Nat} {entity : Entity} (h : entity.outline.Fits room) :
    Sdl.isName entity.name = true := by
  cases entity with
  | type type => exact TypeBody.isName_of_fits h
  | operation kind field => exact h.name
  | directive directive => exact h.1

namespace Schema

variable {schema : Schema}

/-- What is in the catalog is an entity of the schema. -/
theorem has_of_mem_entities {slot : Slot} {entity : Entity} (h : (slot, entity) ∈ schema.catalog.entities) :
    schema.Has entity := by
  obtain ⟨name, hentry⟩ := OrderedMap.exists_mem_entries (Catalog.mem_entities_iff.1 h)
  rcases slot.cases_of with ⟨kind, rfl⟩ | ⟨kind, rfl⟩ | rfl
  · rw [entries_slot_ofKind] at hentry
    obtain ⟨⟨key, type⟩, hlisted, heq⟩ := List.mem_map.1 hentry
    cases heq
    exact .defined (List.mem_map_of_mem (f := Prod.snd) (List.mem_filter.1 hlisted).1)
  · rw [entries_slot_ofOperation] at hentry
    obtain ⟨⟨key, field⟩, hfield, heq⟩ := List.mem_map.1 hentry
    cases heq
    exact .operation hfield
  · rw [entries_slot_directives] at hentry
    obtain ⟨⟨key, directive⟩, hdirective, heq⟩ := List.mem_map.1 hentry
    cases heq
    exact .defined (List.mem_map_of_mem (f := Prod.snd) hdirective)

namespace Completes

variable {ds : Declarations} {draft : Draft} {declared : OrderedMap TypeDef}

theorem exists_fits (h : schema.Completes ds draft declared) (hds : ∀ d ∈ ds, d.decl.Fits Sdl.nestingLimit)
    {entity : Entity} (hentity : schema.Has entity) : ∃ room, entity.outline.Fits room := by
  cases hentity with
  | defined hdefined => exact ⟨_, h.fits hds hdefined⟩
  | @operation kind entry hentry =>
    obtain ⟨type, htype, interfaces, fields, hbody, hmem⟩ := exists_root_of_mem_operationFields hentry
    have hfits : (Entity.type type).outline.Fits Sdl.nestingLimit := h.fits hds htype
    rw [Entity.outline, hbody] at hfits
    have hshown : entry.2.outline ∈ fields.values.map Field.outline :=
      List.mem_map_of_mem (List.mem_map_of_mem (f := Prod.snd) hmem)
    exact ⟨_, (hfits.2.2 _ hshown).2⟩

/-- Operations, types and directives of a schema have proper names. -/
theorem isName (h : schema.Completes ds draft declared) (hds : ∀ d ∈ ds, d.decl.Fits Sdl.nestingLimit)
    {slot : Slot} {entity : Entity} (hentity : (slot, entity) ∈ schema.catalog.entities) :
    Sdl.isName entity.name = true := by
  obtain ⟨room, hfits⟩ := h.exists_fits hds (has_of_mem_entities hentity)
  exact Entity.isName_of_fits hfits

/-! ### Defaults -/

theorem loadable_type (h : schema.Completes ds draft declared)
    (hds : ∀ d ∈ ds, d.decl.Loadable) {type : TypeDef}
    (htype : type ∈ schema.types.values) : ∀ input ∈ type.body.inputs, LoadableDefault input.default? := by
  obtain ⟨name, hmem⟩ := OrderedMap.exists_mem_entries htype
  have hbuiltin (hbuiltin : type ∈ Builtin.scalars ++ Builtin.introspection) :
      ∀ input ∈ type.body.inputs, LoadableDefault input.default? :=
    fun input hinput => loadable_of_isPlainDefault (Builtin.plain_types type hbuiltin input hinput)
  rcases h.types_cases hmem with ⟨definition, hdefinition, rfl, hjoins⟩ | ⟨-, hscalar | ⟨hintrospection, -⟩⟩
  · have hexts := Declarations.forall_extensions (P := (·.Loadable)) hds
    refine hjoins.body.loadable (List.forall_mem_cons.2 ⟨?_, fun e he => hexts e (List.mem_filter.1 he).1⟩)
    exact Declarations.forall_types (P := (·.Loadable)) hds definition hdefinition
  · exact hbuiltin (List.mem_append_left _ (List.mem_of_find?_eq_some hscalar))
  · exact hbuiltin (List.mem_append_right _ hintrospection)

theorem loadable_directive (h : schema.Completes ds draft declared)
    (hds : ∀ d ∈ ds, d.decl.Loadable) {directive : DirectiveDef}
    (hdirective : directive ∈ schema.directives.values) :
    ∀ arg ∈ directive.args.values, LoadableDefault arg.default? := by
  obtain ⟨name, hmem⟩ := OrderedMap.exists_mem_entries hdirective
  rcases h.directives_cases hmem with ⟨definition, hdefinition, rfl, rfl⟩ | ⟨-, hbuiltin, -⟩
  · exact InputValue.loadable_ofList (Declarations.forall_directives (P := (·.Loadable)) hds definition hdefinition)
  · exact fun arg harg => loadable_of_isPlainDefault (Builtin.plain_directives directive hbuiltin arg harg)

theorem loadable_operation (h : schema.Completes ds draft declared)
    (hds : ∀ d ∈ ds, d.decl.Loadable) {kind : OperationKind}
    {entry : String × Field} (hentry : entry ∈ schema.operationFields kind) :
    ∀ arg ∈ entry.2.args.values, LoadableDefault arg.default? := by
  obtain ⟨type, htype, interfaces, fields, hbody, hmem⟩ := exists_root_of_mem_operationFields hentry
  intro arg harg
  refine h.loadable_type hds htype arg ?_
  rw [hbody]
  exact List.mem_flatMap.2 ⟨entry.2, List.mem_map_of_mem (f := Prod.snd) hmem, harg⟩

end Completes

end Schema

end SchemaDoc
