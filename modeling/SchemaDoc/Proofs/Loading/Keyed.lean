-- SUMMARY: In a schema built from documents everything stands under its own name.
import SchemaDoc.Proofs.Loading.Merging

/-!
# Names under which items stand

Types, directives and members are looked up by names. In a built schema the name
of an entry is always that of the item under it, and members name the type that
they belong to, whether a definition, an extension or the language declares them.
-/

namespace SchemaDoc

/-- Every item of a map stands under its own name. -/
def OrderedMap.Keyed {α : Type} (m : OrderedMap α) (name : α → String) : Prop :=
  ∀ entry ∈ m.entries, name entry.2 = entry.1

theorem OrderedMap.Keyed.map_values {α : Type} {m : OrderedMap α} {name : α → String} (h : m.Keyed name) :
    m.values.map name = m.keys := by
  rw [values, keys, List.map_map]
  exact List.map_congr_left h

theorem OrderedMap.Keyed.entries_eq {α : Type} {m : OrderedMap α} {name : α → String} (h : m.Keyed name) :
    m.entries = m.values.map fun value => (name value, value) := by
  rw [values, List.map_map]
  refine (List.map_id _).symm.trans (List.map_congr_left fun entry hentry => ?_)
  exact Prod.ext (h entry hentry).symm rfl

theorem OrderedMap.Merges.keyed {α : Type} {m : OrderedMap α} {entries : List (String × α)}
    {name : α → String} (h : m.Merges entries) (hkeyed : ∀ entry ∈ entries, name entry.2 = entry.1) :
    m.Keyed name :=
  fun entry hmem => hkeyed entry (h.mem_of_mem hmem)

theorem OrderedMap.keyed_ofList {α : Type} (name : α → String) (items : List α) :
    (OrderedMap.ofList (items.map fun item => (name item, item))).Keyed name := by
  apply (OrderedMap.merges_ofList _).keyed
  intro entry hentry
  obtain ⟨item, -, rfl⟩ := List.mem_map.1 hentry
  rfl

theorem OrderedMap.exists_mem_entries {α : Type} {m : OrderedMap α} {value : α}
    (h : value ∈ m.values) : ∃ name, (name, value) ∈ m.entries := by
  obtain ⟨⟨name, _⟩, hmem, rfl⟩ := List.mem_map.1 h
  exact ⟨name, hmem⟩

/-- What holds of the entries holds of the values. -/
theorem OrderedMap.keyed_and_values {α : Type} {m : OrderedMap α} {name : α → String} {P : α → Prop}
    (h : ∀ entry ∈ m.entries, name entry.2 = entry.1 ∧ P entry.2) :
    m.Keyed name ∧ ∀ value ∈ m.values, P value := by
  refine ⟨fun entry hmem => (h entry hmem).1, ?_⟩
  intro value hvalue
  obtain ⟨key, hmem⟩ := OrderedMap.exists_mem_entries hvalue
  exact (h (key, value) hmem).2

/-! ## Members -/

/-- A field of a type names it as its parent, and its arguments stand under their names. -/
def Field.Of (type : String) (field : Field) : Prop :=
  field.parent = type ∧ field.args.Keyed (·.name)

/-- The members of a type stand under their names, and name the type if they name any. -/
def TypeBody.Keyed (type : String) : TypeBody → Prop
  | .enum values => values.Keyed (·.name) ∧ ∀ value ∈ values.values, value.enum = type
  | .input fields => fields.Keyed (·.name)
  | .interface _ fields | .object _ fields =>
    fields.Keyed (·.name) ∧ ∀ field ∈ fields.values, field.Of type
  | .scalar | .union _ => True

theorem InputValue.keyed_entries (file : String) (decls : List Sdl.InputDecl) :
    ∀ entry ∈ InputValue.entries file decls, entry.2.name = entry.1 := by
  intro entry hentry
  obtain ⟨decl, -, rfl⟩ := List.mem_map.1 hentry
  rfl

theorem InputValue.keyed_ofList (file : String) (decls : List Sdl.InputDecl) :
    (OrderedMap.ofList (InputValue.entries file decls)).Keyed (·.name) :=
  (OrderedMap.merges_ofList _).keyed (InputValue.keyed_entries file decls)

theorem Field.of_mem_entries {file parent : String} {decls : List Sdl.FieldDecl}
    {entry : String × Field} (h : entry ∈ Field.entries file parent decls) :
    entry.2.name = entry.1 ∧ entry.2.Of parent := by
  obtain ⟨decl, -, rfl⟩ := List.mem_map.1 h
  exact ⟨rfl, rfl, InputValue.keyed_ofList file decl.args⟩

theorem EnumValue.of_mem_entries {file enum : String} {decls : List Sdl.EnumValueDecl}
    {entry : String × EnumValue} (h : entry ∈ EnumValue.entries file enum decls) :
    entry.2.name = entry.1 ∧ entry.2.enum = enum := by
  obtain ⟨decl, -, rfl⟩ := List.mem_map.1 h
  exact ⟨rfl, rfl⟩

/-- Merged entries are entries of some part, so what holds in every part holds of them. -/
theorem OrderedMap.Merges.of_parts {α β : Type} {m : OrderedMap α} {parts : List β}
    {entries : β → List (String × α)} {P : String × α → Prop} (h : m.Merges (parts.flatMap entries))
    (hparts : ∀ part ∈ parts, ∀ entry ∈ entries part, P entry) : ∀ entry ∈ m.entries, P entry := by
  intro entry hmem
  obtain ⟨part, hpart, hentry⟩ := List.mem_flatMap.1 (h.mem_of_mem hmem)
  exact hparts part hpart entry hentry

theorem TypeBody.Joins.keyed {name : String} {parts : List (Placed Sdl.TypeDecl)} {body : TypeBody}
    (h : body.Joins name parts) : body.Keyed name := by
  have hfields : ∀ {fields : OrderedMap Field},
      fields.Merges (parts.flatMap fun p => Field.entries p.file name p.decl.body.fields) →
      fields.Keyed (·.name) ∧ ∀ field ∈ fields.values, field.Of name :=
    fun hmerges => OrderedMap.keyed_and_values
      (hmerges.of_parts fun part _ entry hentry => Field.of_mem_entries hentry)
  cases body with
  | enum values =>
    have hmerges : values.Merges
      (parts.flatMap fun p => EnumValue.entries p.file name p.decl.body.enumValues) := h
    exact OrderedMap.keyed_and_values
      (hmerges.of_parts fun part _ entry hentry => EnumValue.of_mem_entries hentry)
  | input fields =>
    have hmerges : fields.Merges
      (parts.flatMap fun p => InputValue.entries p.file p.decl.body.inputFields) := h
    exact hmerges.of_parts fun part _ => InputValue.keyed_entries part.file part.decl.body.inputFields
  | interface interfaces fields => exact hfields h.2
  | object interfaces fields => exact hfields h.2
  | scalar => trivial
  | union members => trivial

/-! ## What the language defines -/

theorem Builtin.name_of_scalar? {name : String} {type : TypeDef}
    (h : Builtin.scalar? name = some type) : type.name = name := by
  have hname := List.find?_some h
  exact beq_iff_eq.1 hname

theorem Builtin.body_of_scalar? {name : String} {type : TypeDef}
    (h : Builtin.scalar? name = some type) : type.body = .scalar := by
  have hmem : type ∈ Builtin.scalars := List.mem_of_find?_eq_some h
  simp only [Builtin.scalars, List.mem_cons, List.not_mem_nil, or_false] at hmem
  rcases hmem with rfl | rfl | rfl | rfl | rfl <;> rfl

theorem Builtin.of_field (parent name : String) (description : Option String) (type : TypeRef)
    (args : List InputValue) : (Builtin.field parent name description type args).Of parent :=
  ⟨rfl, OrderedMap.keyed_ofList InputValue.name args⟩

theorem Builtin.keyed_object (name description : String) {fields : List (String → Field)}
    (h : ∀ field ∈ fields, (field name).Of name) : (Builtin.object name description fields).body.Keyed name := by
  apply OrderedMap.keyed_and_values
  intro entry hmem
  obtain ⟨field, hfield, rfl⟩ := List.mem_map.1 ((OrderedMap.merges_ofList _).mem_of_mem hmem)
  obtain ⟨make, hmake, rfl⟩ := List.mem_map.1 hfield
  exact ⟨rfl, h make hmake⟩

theorem Builtin.keyed_enum (name description : String) (values : List String) :
    (Builtin.enum name description values).body.Keyed name := by
  apply OrderedMap.keyed_and_values
  intro entry hmem
  obtain ⟨value, hvalue, rfl⟩ := List.mem_map.1 ((OrderedMap.merges_ofList _).mem_of_mem hmem)
  obtain ⟨word, -, rfl⟩ := List.mem_map.1 hvalue
  exact ⟨rfl, rfl⟩

theorem Builtin.keyed_introspection : ∀ type ∈ Builtin.introspection, type.body.Keyed type.name := by
  intro type htype
  simp only [Builtin.introspection, List.mem_cons, List.not_mem_nil, or_false] at htype
  rcases htype with rfl | rfl | rfl | rfl | rfl | rfl | rfl | rfl
  · exact Builtin.keyed_object _ _ (by simp [Builtin.of_field])
  · exact Builtin.keyed_object _ _ (by simp [Builtin.of_field])
  · exact Builtin.keyed_enum _ _ _
  · exact Builtin.keyed_object _ _ (by simp [Builtin.of_field])
  · exact Builtin.keyed_object _ _ (by simp [Builtin.of_field])
  · exact Builtin.keyed_object _ _ (by simp [Builtin.of_field])
  · exact Builtin.keyed_object _ _ (by simp [Builtin.of_field])
  · exact Builtin.keyed_enum _ _ _

theorem Builtin.keyed_directives : ∀ directive ∈ Builtin.directives, directive.args.Keyed (·.name) := by
  intro directive hdirective
  simp only [Builtin.directives, List.mem_cons, List.not_mem_nil, or_false] at hdirective
  rcases hdirective with rfl | rfl | rfl | rfl <;> exact OrderedMap.keyed_ofList _ _

/-! ## Schemas -/

/-- Types, directives and members stand under their names. -/
structure Schema.Keyed (schema : Schema) : Prop where
  types : schema.types.Keyed (·.name)
  members : ∀ type ∈ schema.types.values, type.body.Keyed type.name
  directives : schema.directives.Keyed (·.name)
  args : ∀ directive ∈ schema.directives.values, directive.args.Keyed (·.name)

namespace Schema.Completes

variable {schema : Schema} {ds : Declarations} {draft : Draft} {declared : OrderedMap TypeDef}

/-- Where an entry of the types comes from. -/
theorem types_cases (h : schema.Completes ds draft declared) {name : String} {type : TypeDef}
    (hmem : (name, type) ∈ schema.types.entries) :
    (∃ definition ∈ ds.types, definition.decl.name = name ∧ type.Joins definition (ds.extensionsOf name)) ∨
      (name ∉ ds.types.map (·.decl.name) ∧
        (Builtin.scalar? name = some type ∨ (type ∈ Builtin.introspection ∧ type.name = name))) := by
  have hfind := OrderedMap.find?_eq_some_iff.2 hmem
  have hentry := hmem
  rw [h.types_eq] at hentry
  rw [← h.keys_declared]
  rcases Draft.mem_entries_arrangeTypes hentry with hdeclared | ⟨hnew, hscalar | hintrospection⟩
  -- A declared type is the one found under its name, so it has the extensions of that name.
  · have hname : name ∈ ds.types.map (·.decl.name) := by
      rw [← h.keys_declared]
      exact List.mem_map_of_mem hdeclared
    obtain ⟨definition, hdefinition, rfl⟩ := List.mem_map.1 hname
    obtain ⟨other, hother, hextend⟩ := h.find?_declared hdefinition
    rw [hfind, Option.some.injEq] at hother
    subst hother
    exact .inl ⟨definition, hdefinition, rfl, (TypeDef.joins_typeDef definition).extendAll hextend⟩
  · exact .inr ⟨hnew, .inl hscalar⟩
  · obtain ⟨other, hother, heq⟩ := List.mem_map.1 hintrospection
    cases heq
    exact .inr ⟨hnew, .inr ⟨hother, rfl⟩⟩

/-- Where an entry of the directives comes from. -/
theorem directives_cases (h : schema.Completes ds draft declared) {name : String}
    {directive : DirectiveDef} (hmem : (name, directive) ∈ schema.directives.entries) :
    (∃ definition ∈ ds.directives, definition.decl.name = name ∧ directive = definition.directiveDef) ∨
      (name ∉ ds.directives.map (·.decl.name) ∧ directive ∈ Builtin.directives ∧ directive.name = name) := by
  obtain ⟨_, hrecords⟩ := h.records
  rw [h.directives_eq] at hmem
  rw [← h.keys_directives]
  rcases Draft.mem_entries_allDirectives hmem with hdeclared | hbuiltin
  · rw [hrecords.directives] at hdeclared
    obtain ⟨definition, hdefinition, heq⟩ := List.mem_map.1 hdeclared
    cases heq
    exact .inl ⟨definition, hdefinition, rfl, rfl⟩
  · exact .inr hbuiltin

theorem keyed (h : schema.Completes ds draft declared) : schema.Keyed where
  types := by
    rintro ⟨name, type⟩ hmem
    rcases h.types_cases hmem with ⟨definition, -, rfl, hjoins⟩ | ⟨-, hscalar | ⟨-, hname⟩⟩
    · exact hjoins.name
    · exact Builtin.name_of_scalar? hscalar
    · exact hname
  members := by
    intro type htype
    obtain ⟨name, hmem⟩ := OrderedMap.exists_mem_entries htype
    rcases h.types_cases hmem with ⟨definition, -, rfl, hjoins⟩ | ⟨-, hscalar | ⟨hintrospection, -⟩⟩
    · rw [hjoins.name]
      exact hjoins.body.keyed
    · rw [Builtin.body_of_scalar? hscalar]
      trivial
    · exact Builtin.keyed_introspection type hintrospection
  directives := by
    rintro ⟨name, directive⟩ hmem
    rcases h.directives_cases hmem with ⟨definition, -, rfl, rfl⟩ | ⟨-, -, hname⟩
    · rfl
    · exact hname
  args := by
    intro directive hdirective
    obtain ⟨name, hmem⟩ := OrderedMap.exists_mem_entries hdirective
    rcases h.directives_cases hmem with ⟨definition, -, rfl, rfl⟩ | ⟨-, hbuiltin, -⟩
    · exact InputValue.keyed_ofList definition.file definition.decl.args
    · exact Builtin.keyed_directives directive hbuiltin

end Schema.Completes

end SchemaDoc
