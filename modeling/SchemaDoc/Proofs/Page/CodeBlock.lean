-- SUMMARY: The code block of an entity, as a document of its own, defines that entity.
import SchemaDoc.Proofs.Loading.Outlines
import SchemaDoc.Proofs.Page.Context
import SchemaDoc.Proofs.Sdl.Definitions

/-!
# Code blocks as documents

Where nothing is left out and nothing has a default, the code block of a type or
directive can be loaded on its own, and gives a schema whose only definition has
the same outline: the same members in the same order, with the same types,
arguments and deprecation. An object or interface may implement one interface;
more of them are not written as the grammar has it.
-/

namespace SchemaDoc

/-! ## What the code block shows -/

namespace PageContext

variable {ctx : PageContext}

/-- Where nothing is skipped, everything shows. -/
theorem isPrinted_of_unskipped (hskip : ctx.settings.skipDirectives = [])
    (hdeprecated : ctx.settings.page.deprecated ≠ .skip) (item : Item) (type : Option String) :
    ctx.isPrinted item type = true := by
  have hskipped (item : Item) : ctx.isSkipped item = false := by rw [isSkipped, hskip, List.any_nil]
  have hexcluded (type : String) : ctx.isTypeExcluded type = false := by
    unfold isTypeExcluded
    cases ctx.schema.types.find? type with
    | none => rfl
    | some t => exact hskipped t.item
  have htype : type.any ctx.isTypeExcluded = false := by
    cases type with
    | none => rfl
    | some type => exact hexcluded type
  have hmode : (ctx.settings.page.deprecated == .skip) = false := beq_false_of_ne hdeprecated
  rw [isPrinted, isExcluded, hmode, hskipped, htype]
  rfl

theorem codeInputs_eq (hskip : ctx.settings.skipDirectives = [])
    (hdeprecated : ctx.settings.page.deprecated ≠ .skip) {inputs : OrderedMap InputValue}
    (hdefaults : ∀ input ∈ inputs.values.map InputValue.outline, input.default? = none) :
    ctx.codeInputs inputs = inputs.values.map InputValue.outline := by
  have hall : inputs.values.filter ctx.isInputPrinted = inputs.values :=
    List.filter_eq_self.2 fun input _ => isPrinted_of_unskipped hskip hdeprecated _ _
  rw [codeInputs, hall]
  refine List.map_congr_left fun input hinput => ?_
  have hnone : input.default? = none :=
    Option.map_eq_none_iff.1 (hdefaults _ (List.mem_map_of_mem hinput))
  simp only [codeInput, InputValue.outline, hnone, Option.map_none]

theorem codeField_eq (hskip : ctx.settings.skipDirectives = [])
    (hdeprecated : ctx.settings.page.deprecated ≠ .skip) {field : Field}
    (hdefaults : ∀ arg ∈ field.outline.args, arg.default? = none) : ctx.codeField field = field.outline := by
  rw [codeField, codeInputs_eq hskip hdeprecated hdefaults]
  rfl

theorem codeFields_eq (hskip : ctx.settings.skipDirectives = [])
    (hdeprecated : ctx.settings.page.deprecated ≠ .skip) {fields : OrderedMap Field}
    (hdefaults : ∀ input ∈ (fields.values.map Field.outline).flatMap (·.args), input.default? = none) :
    ctx.codeFields fields = fields.values.map Field.outline := by
  have hall : fields.values.filter ctx.isFieldPrinted = fields.values :=
    List.filter_eq_self.2 fun field _ => isPrinted_of_unskipped hskip hdeprecated _ _
  rw [codeFields, hall]
  refine List.map_congr_left fun field hfield => codeField_eq hskip hdeprecated fun arg harg => ?_
  exact hdefaults arg (List.mem_flatMap.2 ⟨field.outline, List.mem_map_of_mem hfield, harg⟩)

theorem codeValues_eq (hskip : ctx.settings.skipDirectives = [])
    (hdeprecated : ctx.settings.page.deprecated ≠ .skip) (values : OrderedMap EnumValue) :
    ctx.codeValues values = values.values.map EnumValue.outline := by
  have hall : values.values.filter ctx.isValuePrinted = values.values :=
    List.filter_eq_self.2 fun value _ => isPrinted_of_unskipped hskip hdeprecated _ _
  rw [codeValues, hall]
  rfl

/-- Where nothing is left out, a code block without defaults is the outline of its entity. -/
theorem code_eq_outline (hskip : ctx.settings.skipDirectives = [])
    (hdeprecated : ctx.settings.page.deprecated ≠ .skip) {entity : Entity}
    (hdefaults : ∀ input ∈ entity.outline.inputs, input.default? = none) : ctx.code entity = entity.outline := by
  cases entity with
  | type t =>
    obtain ⟨name, description, location, applied, body⟩ := t
    cases body with
    | enum values => exact congrArg (Code.enum name) (codeValues_eq hskip hdeprecated values)
    | input fields => exact congrArg (Code.input name) (codeInputs_eq hskip hdeprecated hdefaults)
    | interface interfaces fields =>
      exact congrArg (Code.interface name interfaces) (codeFields_eq hskip hdeprecated hdefaults)
    | object interfaces fields =>
      exact congrArg (Code.object name interfaces) (codeFields_eq hskip hdeprecated hdefaults)
    | scalar => rfl
    | union members =>
      have hall : members.filter (!ctx.isTypeExcluded ·) = members := by
        refine List.filter_eq_self.2 fun member _ => ?_
        have hprinted := isPrinted_of_unskipped hskip hdeprecated ⟨"", []⟩ (some member)
        simp only [isPrinted, isExcluded, Option.any_some, Bool.and_eq_true, Bool.not_eq_true',
          Bool.or_eq_false_iff] at hprinted
        rw [hprinted.2.2, Bool.not_false]
      exact congrArg (Code.union name) hall
  | operation kind field => exact congrArg Code.operation (codeField_eq hskip hdeprecated hdefaults)
  | directive d =>
    have hargs := codeInputs_eq hskip hdeprecated hdefaults
    exact congrArg (Code.directive d.name · d.repeatable d.places) hargs

end PageContext

/-! ## What a document of one definition defines -/

/-- Items whose outlines have different names are a map as they are. -/
theorem OrderedMap.outlines_ofList {α β γ : Type} {name : α → String} {value : α → β} {outline : β → γ}
    {declared : α → γ} {key : γ → String} {items : List α} (h : ((items.map declared).map key).Nodup)
    (hname : ∀ a, key (declared a) = name a) (hvalue : ∀ a ∈ items, outline (value a) = declared a) :
    (OrderedMap.ofList (items.map fun a => (name a, value a))).values.map outline = items.map declared := by
  have hnodup : ((OrderedMap.empty : OrderedMap β).keys ++
      (items.map fun a => (name a, value a)).map Prod.fst).Nodup := by
    rw [List.map_map] at h ⊢
    exact (List.map_congr_left fun a _ => hname a : items.map (key ∘ declared) = items.map name) ▸ h
  rw [OrderedMap.ofList, OrderedMap.values, OrderedMap.entries_insertAll_of_nodup hnodup,
    OrderedMap.entries_empty, List.nil_append, List.map_map, List.map_map]
  exact List.map_congr_left hvalue

theorem InputValue.outline_entries {file : String} {decls : List Sdl.InputDecl}
    (h : ((decls.map Sdl.InputDecl.outline).map (·.name)).Nodup) :
    (OrderedMap.ofList (InputValue.entries file decls)).values.map InputValue.outline =
      decls.map Sdl.InputDecl.outline :=
  OrderedMap.outlines_ofList h (fun _ => rfl) fun _ _ => rfl

theorem Field.outline_ofDecl {file parent : String} {decl : Sdl.FieldDecl}
    (h : (decl.outline.args.map (·.name)).Nodup) : (Field.ofDecl file parent decl).outline = decl.outline := by
  simp only [Field.outline, Field.ofDecl, InputValue.outline_entries h]
  rfl

theorem Field.outline_entries {file parent : String} {decls : List Sdl.FieldDecl}
    (h : ((decls.map Sdl.FieldDecl.outline).map (·.name)).Nodup)
    (hargs : ∀ field ∈ decls.map Sdl.FieldDecl.outline, (field.args.map (·.name)).Nodup) :
    (OrderedMap.ofList (Field.entries file parent decls)).values.map Field.outline =
      decls.map Sdl.FieldDecl.outline :=
  OrderedMap.outlines_ofList h (fun _ => rfl) fun _ hdecl => outline_ofDecl (hargs _ (List.mem_map_of_mem hdecl))

theorem EnumValue.outline_entries {file enum : String} {decls : List Sdl.EnumValueDecl}
    (h : ((decls.map Sdl.EnumValueDecl.outline).map (·.name)).Nodup) :
    (OrderedMap.ofList (EnumValue.entries file enum decls)).values.map EnumValue.outline =
      decls.map Sdl.EnumValueDecl.outline :=
  OrderedMap.outlines_ofList h (fun _ => rfl) fun _ _ => rfl

/-- A definition in which no name is repeated makes an entity of the same outline. -/
theorem TypeDef.outline_ofDecl {file : String} {decl : Sdl.TypeDecl} (h : decl.outline.Distinct) :
    (Entity.type (.ofDecl file decl)).outline = decl.outline := by
  obtain ⟨position, description, name, applied, body⟩ := decl
  cases body with
  | enum values => exact congrArg (Code.enum name) (EnumValue.outline_entries h)
  | input fields => exact congrArg (Code.input name) (InputValue.outline_entries h)
  | interface interfaces fields =>
    exact congrArg (Code.interface name interfaces) (Field.outline_entries h.1 h.2)
  | object interfaces fields =>
    exact congrArg (Code.object name interfaces) (Field.outline_entries h.1 h.2)
  | scalar => rfl
  | union members =>
    have hmembers : appendNew [] members = members := by
      rw [appendNew_of_nodup List.nodup_nil, List.nil_append, eraseDups_of_nodup h]
    exact congrArg (Code.union name) hmembers

theorem DirectiveDef.outline_ofDecl {file : String} {decl : Sdl.DirectiveDecl} (h : decl.outline.Distinct) :
    (Entity.directive (.ofDecl file decl)).outline = decl.outline :=
  congrArg (Code.directive decl.name · decl.repeatable decl.locations) (InputValue.outline_entries h)

/-- The types and directives that are defined, without their extensions. -/
def Declarations.entities (ds : Declarations) : List Entity :=
  ds.types.map (fun p => .type p.typeDef) ++ ds.directives.map fun p => .directive p.directiveDef

/-- The documents of a schema define the entity and no other. -/
def Schema.DefinesOnly (schema : Schema) (entity : Entity) : Prop :=
  ∀ other, (schema.Defines other ∧ other.location.isDeclared = true) ↔ other = entity

/-- The definitions of a document without a name that consists of one definition. -/
theorem Document.declarations_of_parse {text : String} {definition : Sdl.Definition}
    (h : Sdl.parse text = .ok [definition]) :
    Document.declarations [⟨none, text⟩] = [⟨Draft.unnamedFile 0, definition⟩] := by
  have hsteps : Placed.steps ⟨Draft.unnamedFile 0, text⟩ = [.declares ⟨Draft.unnamedFile 0, definition⟩] := by
    rw [Placed.steps, h]
    rfl
  rw [Document.declarations, Document.steps, Document.sources, Document.sources, List.flatMap_singleton, hsteps]
  rfl

/-- What the language defines is not declared. -/
theorem Builtin.isDeclared_types : ∀ type ∈ Builtin.scalars ++ Builtin.introspection,
    type.location.isDeclared = false := by
  decide

theorem Builtin.isDeclared_directives : ∀ directive ∈ Builtin.directives,
    directive.location.isDeclared = false := by
  decide

namespace Schema.Completes

variable {schema : Schema} {ds : Declarations} {draft : Draft} {declared : OrderedMap TypeDef}

/-- A declared type that no extension changes is the one that is defined. -/
theorem types_of_unextended (h : schema.Completes ds draft declared) (hexts : ds.extensions = [])
    (type : TypeDef) : (type ∈ schema.types.values ∧ type.location.isDeclared = true) ↔
      ∃ definition ∈ ds.types, definition.typeDef = type := by
  have hfind (definition : Placed Sdl.TypeDecl) (hdefinition : definition ∈ ds.types) :
      schema.types.find? definition.decl.name = some definition.typeDef := by
    obtain ⟨type, hfind, hextend⟩ := h.find?_declared hdefinition
    rw [Declarations.extensionsOf, hexts, List.filter_nil] at hextend
    cases hextend
    exact hfind
  constructor
  · rintro ⟨htype, hdeclared⟩
    obtain ⟨name, hmem⟩ := OrderedMap.exists_mem_entries htype
    rcases h.types_cases hmem with ⟨definition, hdefinition, rfl, -⟩ | ⟨-, hscalar | ⟨hintrospection, -⟩⟩
    · have hsame := hfind definition hdefinition
      rw [OrderedMap.find?_eq_some_iff.2 hmem] at hsame
      exact ⟨definition, hdefinition, (Option.some.inj hsame).symm⟩
    · have hnot := Builtin.isDeclared_types type (List.mem_append_left _ (List.mem_of_find?_eq_some hscalar))
      rw [hnot] at hdeclared
      cases hdeclared
    · have hnot := Builtin.isDeclared_types type (List.mem_append_right _ hintrospection)
      rw [hnot] at hdeclared
      cases hdeclared
  · rintro ⟨definition, hdefinition, rfl⟩
    exact ⟨OrderedMap.mem_values_iff.2 ⟨_, hfind definition hdefinition⟩, rfl⟩

theorem directives_declared (h : schema.Completes ds draft declared) (directive : DirectiveDef) :
    (directive ∈ schema.directives.values ∧ directive.location.isDeclared = true) ↔
      ∃ definition ∈ ds.directives, definition.directiveDef = directive := by
  constructor
  · rintro ⟨hdirective, hdeclared⟩
    obtain ⟨name, hmem⟩ := OrderedMap.exists_mem_entries hdirective
    rcases h.directives_cases hmem with ⟨definition, hdefinition, -, rfl⟩ | ⟨-, hbuiltin, -⟩
    · exact ⟨definition, hdefinition, rfl⟩
    · rw [Builtin.isDeclared_directives directive hbuiltin] at hdeclared
      cases hdeclared
  · rintro ⟨definition, hdefinition, rfl⟩
    exact ⟨OrderedMap.mem_values_iff.2 ⟨_, h.find?_directive hdefinition⟩, rfl⟩

/-- Without extensions a schema defines what its documents define. -/
theorem defines_declared_iff (h : schema.Completes ds draft declared) (hexts : ds.extensions = [])
    (entity : Entity) :
    (schema.Defines entity ∧ entity.location.isDeclared = true) ↔ entity ∈ ds.entities := by
  rw [Declarations.entities, List.mem_append, List.mem_map, List.mem_map]
  cases entity with
  | type type =>
    rw [Defines, Entity.location, h.types_of_unextended hexts]
    simp
  | operation kind field => simp [Defines]
  | directive directive =>
    rw [Defines, Entity.location, h.directives_declared]
    simp

end Schema.Completes

theorem Declarations.distinct_singleton (d : Declaration) : Declarations.Distinct [d] where
  types := by
    obtain ⟨file, definition⟩ := d
    cases definition <;> simp [Declarations.types]
  directives := by
    obtain ⟨file, definition⟩ := d
    cases definition <;> simp [Declarations.directives]
  roots := fun _ => Nat.le_trans (List.length_filterMap_le _ _) (List.length_filterMap_le _ [d])

/-- A definition in which no name is repeated makes, on its own, a schema with one entity of its outline. -/
theorem Schema.ofDocuments_of_definition {text : String} {definition : Sdl.Definition} {code : Code}
    (hparse : Sdl.parse text = .ok [definition]) (houtline : definition.outline? = some code)
    (hdistinct : code.Distinct) :
    ∃ schema entity, Schema.ofDocuments [⟨none, text⟩] = .ok schema ∧ schema.DefinesOnly entity ∧
      entity.outline = code := by
  have hds := Document.declarations_of_parse hparse
  obtain ⟨entity, hentities, hexts, houtline⟩ : ∃ entity,
      Declarations.entities [⟨Draft.unnamedFile 0, definition⟩] = [entity] ∧
      Declarations.extensions [⟨Draft.unnamedFile 0, definition⟩] = [] ∧ entity.outline = code := by
    cases definition with
    | type decl =>
      cases houtline
      exact ⟨_, rfl, rfl, TypeDef.outline_ofDecl hdistinct⟩
    | directive decl =>
      cases houtline
      exact ⟨_, rfl, rfl, DirectiveDef.outline_ofDecl hdistinct⟩
    | extension decl => cases houtline
    | roots decl => cases houtline
  rw [← hds] at hentities hexts
  have hconsistent : Document.Consistent [⟨none, text⟩] := {
    read := by simpa using ⟨_, hparse⟩
    distinct := hds ▸ Declarations.distinct_singleton _
    extensible := by simp [Declarations.Extensible, hexts] }
  obtain ⟨schema, hschema⟩ := hconsistent.exists_schema
  obtain ⟨draft, declared, hcompletes⟩ := Schema.completes_of_ofDocuments hschema
  refine ⟨schema, entity, hschema, fun other => ?_, houtline⟩
  rw [hcompletes.defines_declared_iff hexts, hentities, List.mem_singleton]

/-! ## Reading code blocks back -/

/--
The code block of a type or directive without defaults, where nothing is left
out, is a document of one definition. It defines one entity, which consists of
what the documented one consists of.
-/
theorem Schema.code_reads_back {documents : List Document} {schema : Schema} {settings : Settings}
    {ctx : PageContext} {entity : Entity} (h : Schema.ofDocuments documents = .ok schema)
    (hctx : PageContext.ofSchema schema settings = .ok ctx) (hentity : schema.Defines entity)
    (hinterfaces : entity.outline.interfaces.length ≤ 1)
    (hdefaults : ∀ input ∈ entity.outline.inputs, input.default? = none)
    (hskip : settings.skipDirectives = []) (hdeprecated : settings.page.deprecated ≠ .skip) :
    (∃ definition, Sdl.parse (ctx.code entity).text = .ok [definition]) ∧
      ∃ own again, Schema.ofDocuments [⟨none, (ctx.code entity).text⟩] = .ok own ∧
        own.DefinesOnly again ∧ again.outline = entity.outline := by
  obtain ⟨draft, declared, hcompletes⟩ := Schema.completes_of_ofDocuments h
  obtain ⟨customs, -, heq⟩ := PageContext.ofSchema_eq_ok_iff.1 hctx
  have hsettings : ctx.settings = settings := by rw [← heq]
  rw [← hsettings] at hskip hdeprecated
  have hcode := PageContext.code_eq_outline hskip hdeprecated hdefaults
  have hfits := hcompletes.fits (Document.fits_declarations documents) hentity
  have hoperation : ∀ field, entity.outline ≠ .operation field := by
    intro field
    cases entity with
    | type t => cases hbody : t.body <;> simp [Entity.outline, hbody, TypeBody.outline]
    | operation kind f => cases hentity
    | directive d => simp [Entity.outline]
  obtain ⟨definition, hparse, houtline⟩ := Sdl.parse_text_of_none hfits hoperation hinterfaces hdefaults
  rw [hcode]
  exact ⟨⟨definition, hparse⟩,
    Schema.ofDocuments_of_definition hparse houtline (hcompletes.distinct hentity)⟩

/-- A type with an interface, nested lists and deprecated members, and an extension of it. -/
def Document.layered : List Document :=
  [⟨some "a.graphql",
    "interface Node { id: ID! } type Dog implements Node { id: ID! tricks(first: Int @deprecated, kinds: [[String!]]!): [Int] }"⟩,
    ⟨some "b.graphql", "extend type Dog { owner: String @deprecated }"⟩]

theorem Schema.code_reads_back_layered :
    ∃ schema ctx dog own again, Schema.ofDocuments Document.layered = .ok schema ∧
      PageContext.ofSchema schema .default = .ok ctx ∧ schema.Defines dog ∧
        Schema.ofDocuments [⟨none, (ctx.code dog).text⟩] = .ok own ∧ own.DefinesOnly again ∧
          again.outline = .object "Dog" ["Node"] [
            ⟨"id", [], .named "ID" false, false⟩,
            ⟨"tricks", [⟨"first", .named "Int" true, none, true⟩,
              ⟨"kinds", .list (.list (.named "String" false) true) false, none, false⟩],
              .list (.named "Int" true) true, false⟩,
            ⟨"owner", [], .named "String" true, true⟩] := by
  have hpasses : PageContext.passes Document.layered .default (fun ctx =>
      decide (∃ type ∈ ctx.schema.types.values, (Entity.type type).outline = .object "Dog" ["Node"] [
        ⟨"id", [], .named "ID" false, false⟩,
        ⟨"tricks", [⟨"first", .named "Int" true, none, true⟩,
          ⟨"kinds", .list (.list (.named "String" false) true) false, none, false⟩],
          .list (.named "Int" true) true, false⟩,
        ⟨"owner", [], .named "String" true, true⟩])) = true := by
    decide +kernel
  obtain ⟨schema, ctx, hschema, hctx, htest⟩ := PageContext.exists_of_passes hpasses
  obtain ⟨customs, -, heq⟩ := PageContext.ofSchema_eq_ok_iff.1 hctx
  obtain ⟨type, htype, houtline⟩ := of_decide_eq_true htest
  rw [← heq] at htype
  obtain ⟨-, own, again, hown, honly, hagain⟩ := @Schema.code_reads_back _ _ _ _ (.type type) hschema hctx
    htype (by rw [houtline]; decide) (by rw [houtline]; decide) rfl (by decide)
  exact ⟨schema, ctx, .type type, own, again, hschema, hctx, htype, hown, honly, hagain.trans houtline⟩

end SchemaDoc
