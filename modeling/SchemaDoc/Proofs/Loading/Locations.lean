-- SUMMARY: Every item stands under its name and where it is written: the last declaration of its name in the definition and the extensions.
import SchemaDoc.Proofs.Loading.Keyed

/-!
# Where items are written

An item of a declared type or directive is located in the file of the part that
declares it, which for an extended type need not be the file of the definition.
A member that several parts declare is located at the last of them. Items that
the language defines have no place in a file, and types and directives that no
document declares consist of such items only.
-/

namespace SchemaDoc

/-! ## All locations of an item -/

/-- The locations of a field and of its arguments. -/
def Field.locations (field : Field) : List Location :=
  field.location :: field.args.values.map (·.location)

/-- The locations of all members of a type, and of their arguments. -/
def TypeBody.locations : TypeBody → List Location
  | .enum values => values.values.map (·.location)
  | .input fields => fields.values.map (·.location)
  | .interface _ fields | .object _ fields => fields.values.flatMap Field.locations
  | .scalar | .union _ => []

/-- The locations of a type and of everything in it. -/
def TypeDef.locations (type : TypeDef) : List Location :=
  type.location :: type.body.locations

/-- The locations of a directive and of its arguments. -/
def DirectiveDef.locations (directive : DirectiveDef) : List Location :=
  directive.location :: directive.args.values.map (·.location)

/-! ## The last declaration of a name -/

/-- No declaration of the same name follows. -/
def Placed.LastOf {α : Type} (name : α → String) (decls : List (Placed α)) (p : Placed α) : Prop :=
  ∃ before after, decls = before ++ p :: after ∧ ∀ other ∈ after, name other.decl ≠ name p.decl

/-- What the parts of a type declare, each in the file of its part. -/
def Placed.declared {α β : Type} (select : α → List β) (parts : List (Placed α)) : List (Placed β) :=
  parts.flatMap fun part => (select part.decl).map (⟨part.file, ·⟩)

/-- Each input is located at the last declaration of its name. -/
def OrderedMap.WrittenAt (inputs : OrderedMap InputValue) (decls : List (Placed Sdl.InputDecl)) : Prop :=
  ∀ input ∈ inputs.values, ∃ p, Placed.LastOf (·.name) decls p ∧
    input.name = p.decl.name ∧ input.location = .inFile p.file p.decl.position

/-- Each field is located at the last declaration of its name, with its arguments in the same file. -/
def OrderedMap.FieldsWrittenAt (fields : OrderedMap Field) (decls : List (Placed Sdl.FieldDecl)) : Prop :=
  ∀ field ∈ fields.values, ∃ p, Placed.LastOf (·.name) decls p ∧
    field.name = p.decl.name ∧ field.location = .inFile p.file p.decl.position ∧
      field.args.WrittenAt (Placed.declared (·.args) [p])

/-- Each value of an enum is located at the last declaration of its name. -/
def OrderedMap.ValuesWrittenAt (values : OrderedMap EnumValue) (decls : List (Placed Sdl.EnumValueDecl)) : Prop :=
  ∀ value ∈ values.values, ∃ p, Placed.LastOf (·.name) decls p ∧
    value.name = p.decl.name ∧ value.location = .inFile p.file p.decl.position

/-- The members of a type are located where its parts declare them. -/
def TypeBody.WrittenIn (parts : List (Placed Sdl.TypeDecl)) : TypeBody → Prop
  | .enum values => values.ValuesWrittenAt (Placed.declared (·.body.enumValues) parts)
  | .input fields => fields.WrittenAt (Placed.declared (·.body.inputFields) parts)
  | .interface _ fields | .object _ fields =>
    fields.FieldsWrittenAt (Placed.declared (·.body.fields) parts)
  | .scalar | .union _ => True

/-- Types and directives are located where they are declared if they are, and so is everything in them. -/
structure Schema.Located (schema : Schema) (ds : Declarations) : Prop where
  types : ∀ type ∈ schema.types.values, ∀ location ∈ type.locations,
    location = .builtin ↔ type.name ∉ ds.types.map (·.decl.name)
  directives : ∀ directive ∈ schema.directives.values, ∀ location ∈ directive.locations,
    location = .builtin ↔ directive.name ∉ ds.directives.map (·.decl.name)
  types_written : ∀ definition ∈ ds.types, ∃ type,
    schema.types.find? definition.decl.name = some type ∧
      type.location = .inFile definition.file definition.decl.position ∧
      type.body.WrittenIn (definition :: ds.extensionsOf definition.decl.name)
  directives_written : ∀ definition ∈ ds.directives, ∃ directive,
    schema.directives.find? definition.decl.name = some directive ∧
      directive.location = .inFile definition.file definition.decl.position ∧
      directive.args.WrittenAt (Placed.declared (·.args) [definition])

/-! ## Merged members -/

/-- The item under a name is made from the last declaration of that name, in whichever part that stands. -/
theorem OrderedMap.Merges.exists_last {α β γ : Type} {m : OrderedMap γ} {parts : List (Placed α)}
    (select : α → List β) (name : β → String) (make : String → β → γ)
    (h : m.Merges (parts.flatMap fun part => (select part.decl).map fun decl => (name decl, make part.file decl)))
    {value : γ} (hvalue : value ∈ m.values) :
    ∃ p, Placed.LastOf name (Placed.declared select parts) p ∧ value = make p.file p.decl := by
  have hdeclared : (parts.flatMap fun part => (select part.decl).map fun decl => (name decl, make part.file decl)) =
      (Placed.declared select parts).map fun p => (name p.decl, make p.file p.decl) := by
    rw [Placed.declared, List.map_flatMap]
    simp only [List.map_map, Function.comp_def]
  obtain ⟨key, hfind⟩ := OrderedMap.mem_values_iff.1 hvalue
  rw [h.find, hdeclared, List.lookup_eq_some_iff] at hfind
  obtain ⟨later, earlier, hreverse, hlater⟩ := hfind
  have hentries := congrArg List.reverse hreverse
  rw [List.reverse_reverse, List.reverse_append, List.reverse_cons, List.append_assoc,
    List.singleton_append] at hentries
  obtain ⟨before, rest, hcut, -, hrest⟩ := List.map_eq_append_iff.1 hentries
  obtain ⟨p, after, rfl, hp, hafter⟩ := List.map_eq_cons_iff.1 hrest
  rw [Prod.mk.injEq] at hp
  refine ⟨p, ⟨before, after, hcut, ?_⟩, hp.2.symm⟩
  intro other hother hname
  have hmem : (name other.decl, make other.file other.decl) ∈ later := by
    rw [← List.mem_reverse, ← hafter]
    exact List.mem_map_of_mem hother
  have hne := hlater _ hmem
  rw [hname, hp.1, bne_self_eq_false] at hne
  cases hne

theorem InputValue.writtenAt {α : Type} {parts : List (Placed α)} {select : α → List Sdl.InputDecl}
    {inputs : OrderedMap InputValue}
    (h : inputs.Merges (parts.flatMap fun part => InputValue.entries part.file (select part.decl))) :
    inputs.WrittenAt (Placed.declared select parts) := by
  intro input hinput
  obtain ⟨p, hlast, rfl⟩ := h.exists_last select (·.name) InputValue.ofDecl hinput
  exact ⟨p, hlast, rfl, rfl⟩

/-- The arguments of one declaration are located in its file. -/
theorem InputValue.writtenAt_ofList {α : Type} (p : Placed α) (select : α → List Sdl.InputDecl) :
    (OrderedMap.ofList (InputValue.entries p.file (select p.decl))).WrittenAt
      (Placed.declared select [p]) := by
  apply InputValue.writtenAt
  rw [List.flatMap_singleton]
  exact OrderedMap.merges_ofList _

theorem Field.writtenAt {name : String} {parts : List (Placed Sdl.TypeDecl)} {fields : OrderedMap Field}
    (h : fields.Merges (parts.flatMap fun part => Field.entries part.file name part.decl.body.fields)) :
    fields.FieldsWrittenAt (Placed.declared (·.body.fields) parts) := by
  intro field hfield
  obtain ⟨p, hlast, rfl⟩ := h.exists_last (fun decl : Sdl.TypeDecl => decl.body.fields) (·.name) (Field.ofDecl · name) hfield
  exact ⟨p, hlast, rfl, rfl, InputValue.writtenAt_ofList p (·.args)⟩

theorem EnumValue.writtenAt {name : String} {parts : List (Placed Sdl.TypeDecl)} {values : OrderedMap EnumValue}
    (h : values.Merges (parts.flatMap fun part => EnumValue.entries part.file name part.decl.body.enumValues)) :
    values.ValuesWrittenAt (Placed.declared (·.body.enumValues) parts) := by
  intro value hvalue
  obtain ⟨p, hlast, rfl⟩ := h.exists_last (fun decl : Sdl.TypeDecl => decl.body.enumValues) (·.name) (EnumValue.ofDecl · name) hvalue
  exact ⟨p, hlast, rfl, rfl⟩

theorem TypeBody.Joins.writtenIn {name : String} {parts : List (Placed Sdl.TypeDecl)} {body : TypeBody}
    (h : body.Joins name parts) : body.WrittenIn parts := by
  cases body with
  | enum values => exact EnumValue.writtenAt h
  | input fields => exact InputValue.writtenAt h
  | interface interfaces fields => exact Field.writtenAt h.2
  | object interfaces fields => exact Field.writtenAt h.2
  | scalar => trivial
  | union members => trivial

/-! ## Declared items -/

theorem OrderedMap.WrittenAt.ne_builtin {inputs : OrderedMap InputValue} {decls : List (Placed Sdl.InputDecl)}
    (h : inputs.WrittenAt decls) : ∀ location ∈ inputs.values.map (·.location), location ≠ .builtin := by
  intro location hmem
  obtain ⟨input, hinput, rfl⟩ := List.mem_map.1 hmem
  obtain ⟨p, -, -, hlocation⟩ := h input hinput
  rw [hlocation]
  exact Location.noConfusion

theorem OrderedMap.FieldsWrittenAt.ne_builtin {fields : OrderedMap Field} {decls : List (Placed Sdl.FieldDecl)}
    (h : fields.FieldsWrittenAt decls) : ∀ location ∈ fields.values.flatMap Field.locations, location ≠ .builtin := by
  intro location hmem
  obtain ⟨field, hfield, hlocation⟩ := List.mem_flatMap.1 hmem
  obtain ⟨p, -, -, hwritten, hargs⟩ := h field hfield
  rcases List.mem_cons.1 hlocation with rfl | harg
  · rw [hwritten]
    exact Location.noConfusion
  · exact hargs.ne_builtin location harg

/-- What is written in a part of a type is not defined by the language. -/
theorem TypeBody.WrittenIn.ne_builtin {parts : List (Placed Sdl.TypeDecl)} {body : TypeBody}
    (h : body.WrittenIn parts) : ∀ location ∈ body.locations, location ≠ .builtin := by
  cases body with
  | enum values =>
    intro location hmem
    obtain ⟨value, hvalue, rfl⟩ := List.mem_map.1 hmem
    obtain ⟨p, -, -, hlocation⟩ := h value hvalue
    rw [hlocation]
    exact Location.noConfusion
  | input fields => exact OrderedMap.WrittenAt.ne_builtin h
  | interface interfaces fields => exact OrderedMap.FieldsWrittenAt.ne_builtin h
  | object interfaces fields => exact OrderedMap.FieldsWrittenAt.ne_builtin h
  | scalar => exact fun _ hmem => nomatch hmem
  | union members => exact fun _ hmem => nomatch hmem

theorem TypeDef.Joins.ne_builtin {type : TypeDef} {definition : Placed Sdl.TypeDecl} {exts : List Extension}
    (h : type.Joins definition exts) : ∀ location ∈ type.locations, location ≠ .builtin := by
  intro location hmem
  rcases List.mem_cons.1 hmem with rfl | hbody
  · rw [h.location]
    exact Location.noConfusion
  · exact h.body.writtenIn.ne_builtin location hbody

theorem Placed.ne_builtin_directiveDef (definition : Placed Sdl.DirectiveDecl) :
    ∀ location ∈ definition.directiveDef.locations, location ≠ .builtin := by
  intro location hmem
  rcases List.mem_cons.1 hmem with rfl | harg
  · exact Location.noConfusion
  · exact (InputValue.writtenAt_ofList definition (·.args)).ne_builtin location harg

/-! ## Items of the language -/

theorem Builtin.locations_scalars : ∀ type ∈ Builtin.scalars, ∀ location ∈ type.locations, location = .builtin := by
  decide

theorem Builtin.locations_introspection :
    ∀ type ∈ Builtin.introspection, ∀ location ∈ type.locations, location = .builtin := by
  decide

theorem Builtin.locations_directives :
    ∀ directive ∈ Builtin.directives, ∀ location ∈ directive.locations, location = .builtin := by
  decide

/-! ## Schemas -/

namespace Schema.Completes

variable {schema : Schema} {ds : Declarations} {draft : Draft} {declared : OrderedMap TypeDef}

theorem type_location_iff (h : schema.Completes ds draft declared) {type : TypeDef}
    (htype : type ∈ schema.types.values) {location : Location} (hlocation : location ∈ type.locations) :
    location = .builtin ↔ type.name ∉ ds.types.map (·.decl.name) := by
  obtain ⟨name, hmem⟩ := OrderedMap.exists_mem_entries htype
  have hname : type.name = name := h.keyed.types (name, type) hmem
  rcases h.types_cases hmem with ⟨definition, hdefinition, rfl, hjoins⟩ | ⟨hnew, hbuiltin⟩
  · have hdeclared : type.name ∈ ds.types.map (·.decl.name) := hname ▸ List.mem_map_of_mem hdefinition
    exact iff_of_false (hjoins.ne_builtin location hlocation) (not_not_intro hdeclared)
  · refine iff_of_true ?_ (hname ▸ hnew)
    rcases hbuiltin with hscalar | ⟨hintrospection, -⟩
    · exact Builtin.locations_scalars type (List.mem_of_find?_eq_some hscalar) location hlocation
    · exact Builtin.locations_introspection type hintrospection location hlocation

theorem directive_location_iff (h : schema.Completes ds draft declared) {directive : DirectiveDef}
    (hdirective : directive ∈ schema.directives.values) {location : Location}
    (hlocation : location ∈ directive.locations) :
    location = .builtin ↔ directive.name ∉ ds.directives.map (·.decl.name) := by
  obtain ⟨name, hmem⟩ := OrderedMap.exists_mem_entries hdirective
  rcases h.directives_cases hmem with ⟨definition, hdefinition, rfl, rfl⟩ | ⟨hnew, hbuiltin, rfl⟩
  · have hdeclared : definition.directiveDef.name ∈ ds.directives.map (·.decl.name) :=
      List.mem_map_of_mem hdefinition
    exact iff_of_false (definition.ne_builtin_directiveDef location hlocation) (not_not_intro hdeclared)
  · exact iff_of_true (Builtin.locations_directives directive hbuiltin location hlocation) hnew

/-- A directive counts as built-in exactly if no document declares it. -/
theorem isBuiltin_iff (h : schema.Completes ds draft declared) {directive : DirectiveDef}
    (hdirective : directive ∈ schema.directives.values) :
    directive.isBuiltin = true ↔ directive.name ∉ ds.directives.map (·.decl.name) := by
  rw [← h.directive_location_iff hdirective List.mem_cons_self, DirectiveDef.isBuiltin]
  cases directive.location <;> simp [Location.isDeclared]

theorem located (h : schema.Completes ds draft declared) : schema.Located ds where
  types := fun type htype location hlocation => h.type_location_iff htype hlocation
  directives := fun directive hdirective location hlocation => h.directive_location_iff hdirective hlocation
  types_written := by
    intro definition hdefinition
    obtain ⟨type, hfind, hextend⟩ := h.find?_declared hdefinition
    have hjoins := (TypeDef.joins_typeDef definition).extendAll hextend
    exact ⟨type, hfind, hjoins.location, hjoins.body.writtenIn⟩
  directives_written := fun definition hdefinition =>
    ⟨_, h.find?_directive hdefinition, rfl, InputValue.writtenAt_ofList definition (·.args)⟩

end Schema.Completes

/--
In a built schema everything stands under its own name, members name the type
that they belong to, and each item is located where it is written: in no file if
and only if its type or directive is declared in none.
-/
theorem Schema.items_placed {documents : List Document} {schema : Schema}
    (h : Schema.ofDocuments documents = .ok schema) :
    schema.Keyed ∧ schema.Located (Document.declarations documents) := by
  obtain ⟨draft, declared, hcompletes⟩ := Schema.completes_of_ofDocuments h
  exact ⟨hcompletes.keyed, hcompletes.located⟩

/-- An extension in another file declares a field anew and adds one, between two others of the definition. -/
def Document.scattered : List Document :=
  [⟨some "b.graphql", "extend type T { x(b: ID): ID z: ID }"⟩,
    ⟨some "a.graphql", "type T { x(a: Int): Int y: Int } directive @mark(by: Int) on FIELD"⟩]

theorem Schema.items_placed_scattered :
    ∃ schema type, Schema.ofDocuments Document.scattered = .ok schema ∧
      schema.Keyed ∧ schema.Located (Document.declarations Document.scattered) ∧
      schema.types.find? "T" = some type ∧
      type.locations.map Location.text =
        ["a.graphql:1:1", "b.graphql:1:17", "b.graphql:1:19", "a.graphql:1:25", "b.graphql:1:30"] := by
  have hbuilt : (Schema.ofDocuments Document.scattered).toOption.any (fun schema =>
      (schema.types.find? "T").any fun type => type.locations.map Location.text =
        ["a.graphql:1:1", "b.graphql:1:17", "b.graphql:1:19", "a.graphql:1:25", "b.graphql:1:30"]) = true := by
    decide +kernel
  obtain ⟨schema, hschema, hany⟩ := Schema.exists_of_any hbuilt
  obtain ⟨type, hfind, htexts⟩ := (Option.any_eq_true _ _).1 hany
  obtain ⟨hkeyed, hlocated⟩ := Schema.items_placed hschema
  exact ⟨schema, type, hschema, hkeyed, hlocated, hfind, of_decide_eq_true htexts⟩

end SchemaDoc
