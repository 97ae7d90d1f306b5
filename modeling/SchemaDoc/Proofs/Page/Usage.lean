-- SUMMARY: What a type is listed as used by has a use of the type in its definition, and shows one in its code block unless all are hidden.
import SchemaDoc.Proofs.Catalog.References
import SchemaDoc.Proofs.Page.CodeBlock
import SchemaDoc.Proofs.Page.Exclusion
import SchemaDoc.Proofs.Page.Members
import SchemaDoc.Proofs.Page.Navigation

/-!
# Users of a type

The users of a type are found in the definitions, whatever the settings are: a
relation says that one definition mentions the other. Code blocks show part of
the definitions. So an entity can be listed as a user although its code block
does not name the type. This happens exactly if every use is hidden: it is
withheld itself, or it is an argument of a field that does not show.
-/

namespace SchemaDoc

/-! ## Uses in definitions -/

/-- A field, an argument or an input field with its type. -/
structure Use where
  item : Item
  type : TypeRef
  /-- The field of which this is an argument, where an object or interface has it. -/
  parent : Option Field

/-- A use for each argument or input field. -/
def InputValue.uses (parent : Option Field) (inputs : OrderedMap InputValue) : List Use :=
  inputs.values.map fun input => ⟨input.item, input.type, parent⟩

/-- The field itself and its arguments. -/
def Field.uses (field : Field) : List Use :=
  ⟨field.item, field.type, none⟩ :: InputValue.uses (some field) field.args

def TypeBody.uses : TypeBody → List Use
  | .input fields => InputValue.uses none fields
  | .interface _ fields | .object _ fields => fields.values.flatMap Field.uses
  | .enum _ | .scalar | .union _ => []

/-- All uses in the definition of an entity; that an operation returns a type is none. -/
def Entity.uses : Entity → List Use
  | .operation _ f => InputValue.uses none f.args
  | .directive d => InputValue.uses none d.args
  | .type t => t.body.uses

section Definitions

variable {name : String}

theorem InputValue.mem_uses_iff {parent : Option Field} {inputs : OrderedMap InputValue} {use : Use} :
    use ∈ InputValue.uses parent inputs ↔
      ∃ input ∈ inputs.values, use = ⟨input.item, input.type, parent⟩ := by
  simp only [uses, List.mem_map, eq_comm]

theorem InputValue.mentions_iff_uses (parent : Option Field) (inputs : OrderedMap InputValue) :
    inputs.Mentions name ↔ ∃ use ∈ InputValue.uses parent inputs, use.type.Wraps name := by
  simp only [OrderedMap.Mentions, uses, List.mem_map, exists_exists_and_eq_and]

theorem Field.mentions_iff_uses {field : Field} :
    field.Mentions name ↔ ∃ use ∈ field.uses, use.type.Wraps name := by
  simp only [Mentions, uses, List.exists_mem_cons_iff, InputValue.mentions_iff_uses (some field) field.args]

theorem TypeBody.exists_uses_iff {fields : OrderedMap Field} :
    (∃ use ∈ fields.values.flatMap Field.uses, use.type.Wraps name) ↔
      ∃ field ∈ fields.values, field.Mentions name := by
  simp only [List.mem_flatMap, Field.mentions_iff_uses]
  constructor
  · rintro ⟨use, ⟨field, hfield, huse⟩, hwraps⟩
    exact ⟨field, hfield, use, huse, hwraps⟩
  · rintro ⟨field, hfield, use, huse, hwraps⟩
    exact ⟨use, ⟨field, hfield, huse⟩, hwraps⟩

/-- An entity uses a type if it returns it or if its definition has a use. -/
theorem Entity.uses_iff {entity : Entity} :
    entity.Uses name ↔ entity.Returns name ∨ ∃ use ∈ entity.uses, use.type.Wraps name := by
  cases entity with
  | operation kind field =>
    have hargs : field.args.Mentions name ↔ _ := InputValue.mentions_iff_uses none field.args
    constructor
    · intro h
      cases h with
      | operation hmentions => exact hmentions.imp .operation hargs.1
    · rintro (hreturns | huse)
      · cases hreturns with
        | operation hwraps => exact .operation (.inl hwraps)
      · exact .operation (.inr (hargs.2 huse))
  | directive definition =>
    have hargs : definition.args.Mentions name ↔ _ := InputValue.mentions_iff_uses none definition.args
    constructor
    · intro h
      cases h with
      | directive hmentions => exact .inr (hargs.1 hmentions)
    · intro h
      exact .directive (hargs.2 (h.resolve_left nofun))
  | type type =>
    obtain ⟨own, description, location, applied, body⟩ := type
    constructor
    · intro h
      cases h with
      | object hbody hfield hmentions =>
        cases hbody
        exact .inr (TypeBody.exists_uses_iff.2 ⟨_, hfield, hmentions⟩)
      | interface hbody hfield hmentions =>
        cases hbody
        exact .inr (TypeBody.exists_uses_iff.2 ⟨_, hfield, hmentions⟩)
      | input hbody hmentions =>
        cases hbody
        exact .inr ((InputValue.mentions_iff_uses none _).1 hmentions)
    · intro h
      have huse := h.resolve_left nofun
      cases body with
      | enum values => exact absurd huse (by simp [uses, TypeBody.uses])
      | scalar => exact absurd huse (by simp [uses, TypeBody.uses])
      | union members => exact absurd huse (by simp [uses, TypeBody.uses])
      | input fields => exact .input rfl ((InputValue.mentions_iff_uses none fields).2 huse)
      | interface interfaces fields =>
        obtain ⟨field, hfield, hmentions⟩ := TypeBody.exists_uses_iff.1 huse
        exact .interface rfl hfield hmentions
      | object interfaces fields =>
        obtain ⟨field, hfield, hmentions⟩ := TypeBody.exists_uses_iff.1 huse
        exact .object rfl hfield hmentions

/-- What uses a type is no union. -/
theorem Entity.Uses.slot_ne_unions {entity : Entity} (h : entity.Uses name) : entity.slot ≠ .unions := by
  intro hslot
  have hmem := h.slot_mem
  rw [hslot] at hmem
  exact absurd hmem (by decide)

end Definitions

/-! ## Uses that are hidden -/

namespace PageContext

/-- The item is not shown, whatever its type is. -/
def Withholds (ctx : PageContext) (item : Item) : Prop :=
  ctx.isSkipped item = true ∨ ctx.settings.page.deprecated = .skip ∧ item.isDeprecated = true

/-- The use is withheld, or its field is withheld or has a type that is left out. -/
def Hides (ctx : PageContext) (use : Use) : Prop :=
  ctx.Withholds use.item ∨
    ∃ field ∈ use.parent, ctx.Withholds field.item ∨ ctx.isTypeExcluded field.type.name = true

variable {ctx : PageContext} {name : String}

/-- A member shows if it is not withheld and its type is not left out. -/
theorem isPrinted_iff {item : Item} {type : String} :
    ctx.isPrinted item (some type) = true ↔ ¬ ctx.Withholds item ∧ ctx.isTypeExcluded type = false := by
  simp only [isPrinted, isExcluded, Withholds, Option.any_some, Bool.and_eq_true, Bool.not_eq_true',
    Bool.and_eq_false_iff, Bool.or_eq_false_iff, not_or, not_and, Bool.not_eq_true, beq_eq_false_iff_ne]
  tauto

theorem mem_typeNames_codeInputs (hname : ctx.isTypeExcluded name = false) (inputs : OrderedMap InputValue) :
    name ∈ (ctx.codeInputs inputs).map (·.type.name) ↔
      ∃ input ∈ inputs.values, input.type.Wraps name ∧ ¬ ctx.Withholds input.item := by
  rw [codeInputs, List.map_map, List.mem_map]
  constructor
  · rintro ⟨input, hinput, rfl⟩
    obtain ⟨hmem, hprinted⟩ := List.mem_filter.1 hinput
    exact ⟨input, hmem, TypeRef.wraps_iff.2 rfl, (isPrinted_iff.1 hprinted).1⟩
  · rintro ⟨input, hmem, hwraps, hshown⟩
    obtain rfl : input.type.name = name := TypeRef.wraps_iff.1 hwraps
    exact ⟨input, List.mem_filter.2 ⟨hmem, isPrinted_iff.2 ⟨hshown, hname⟩⟩, rfl⟩

/-- What is no argument of a field is hidden if it is withheld. -/
theorem hides_none {item : Item} {type : TypeRef} : ctx.Hides ⟨item, type, none⟩ ↔ ctx.Withholds item := by
  simp [Hides]

theorem hides_some {item : Item} {type : TypeRef} {field : Field} :
    ctx.Hides ⟨item, type, some field⟩ ↔
      ctx.Withholds item ∨ ctx.Withholds field.item ∨ ctx.isTypeExcluded field.type.name = true := by
  simp [Hides]

/-- Inputs that stand alone show their types if they are not hidden. -/
theorem mem_typeNames_inputs (hname : ctx.isTypeExcluded name = false) (inputs : OrderedMap InputValue) :
    name ∈ (ctx.codeInputs inputs).map (·.type.name) ↔
      ∃ use ∈ InputValue.uses none inputs, use.type.Wraps name ∧ ¬ ctx.Hides use := by
  simp only [mem_typeNames_codeInputs hname, InputValue.uses, List.mem_map, exists_exists_and_eq_and,
    hides_none]

/-- A field that does not show hides its arguments, too. -/
theorem mem_typeNames_fields (hname : ctx.isTypeExcluded name = false) (fields : OrderedMap Field) :
    name ∈ (ctx.codeFields fields).flatMap Code.Field.typeNames ↔
      ∃ use ∈ fields.values.flatMap Field.uses, use.type.Wraps name ∧ ¬ ctx.Hides use := by
  constructor
  · intro hshown
    obtain ⟨shown, hmem, htype⟩ := List.mem_flatMap.1 hshown
    obtain ⟨field, hfield, rfl⟩ := List.mem_map.1 hmem
    obtain ⟨hfield, hprinted⟩ := List.mem_filter.1 hfield
    obtain ⟨hwithheld, hexcluded⟩ := isPrinted_iff.1 hprinted
    rcases List.mem_cons.1 htype with rfl | harg
    · refine ⟨⟨field.item, field.type, none⟩, ?_, TypeRef.wraps_iff.2 rfl, hides_none.not.2 hwithheld⟩
      exact List.mem_flatMap.2 ⟨field, hfield, List.mem_cons_self⟩
    · obtain ⟨input, hinput, hwraps, hshown⟩ := (mem_typeNames_codeInputs hname field.args).1 harg
      refine ⟨⟨input.item, input.type, some field⟩, ?_, hwraps, ?_⟩
      · refine List.mem_flatMap.2 ⟨field, hfield, List.mem_cons_of_mem _ ?_⟩
        exact InputValue.mem_uses_iff.2 ⟨input, hinput, rfl⟩
      · rw [hides_some, hexcluded]
        simp [hshown, hwithheld]
  · rintro ⟨use, huse, hwraps, hshown⟩
    obtain ⟨field, hfield, huse⟩ := List.mem_flatMap.1 huse
    apply List.mem_flatMap.2
    rcases List.mem_cons.1 huse with rfl | harg
    · obtain rfl : field.type.name = name := TypeRef.wraps_iff.1 hwraps
      have hprinted : ctx.isFieldPrinted field = true := isPrinted_iff.2 ⟨hides_none.not.1 hshown, hname⟩
      exact ⟨_, List.mem_map_of_mem (List.mem_filter.2 ⟨hfield, hprinted⟩), List.mem_cons_self⟩
    · obtain ⟨input, hinput, rfl⟩ := InputValue.mem_uses_iff.1 harg
      rw [hides_some, not_or, not_or, Bool.not_eq_true] at hshown
      have hprinted : ctx.isFieldPrinted field = true := isPrinted_iff.2 hshown.2
      refine ⟨_, List.mem_map_of_mem (List.mem_filter.2 ⟨hfield, hprinted⟩), List.mem_cons_of_mem _ ?_⟩
      exact (mem_typeNames_codeInputs hname field.args).2 ⟨input, hinput, hwraps, hshown.1⟩

/-- A code block has a type that is not left out if the definition has it where it is not hidden. -/
theorem mem_typeNames_code (hname : ctx.isTypeExcluded name = false) {entity : Entity}
    (hslot : entity.slot ≠ .unions) :
    name ∈ (ctx.code entity).typeNames ↔
      entity.Returns name ∨ ∃ use ∈ entity.uses, use.type.Wraps name ∧ ¬ ctx.Hides use := by
  cases entity with
  | operation kind field =>
    have hreturns : name = field.type.name ↔ (Entity.operation kind field).Returns name :=
      ⟨fun h => .operation (TypeRef.wraps_iff.2 h.symm), fun | .operation h => (TypeRef.wraps_iff.1 h).symm⟩
    exact List.mem_cons.trans (or_congr hreturns (mem_typeNames_inputs hname field.args))
  | directive definition =>
    have hreturns : ¬ (Entity.directive definition).Returns name := nofun
    rw [or_iff_right hreturns]
    exact mem_typeNames_inputs hname definition.args
  | type type =>
    have hreturns : ¬ (Entity.type type).Returns name := nofun
    rw [or_iff_right hreturns]
    obtain ⟨own, description, location, applied, body⟩ := type
    cases body with
    | enum values => exact ⟨nofun, fun ⟨_, huse, _⟩ => nomatch huse⟩
    | scalar => exact ⟨nofun, fun ⟨_, huse, _⟩ => nomatch huse⟩
    | union members => exact absurd rfl hslot
    | input fields => exact mem_typeNames_inputs hname fields
    | interface interfaces fields => exact mem_typeNames_fields hname fields
    | object interfaces fields => exact mem_typeNames_fields hname fields

/-! ## Entities that are listed as users -/

/-- Relations are listed only where they are switched on. -/
theorem relatedTypeSection_of_lists {title pageTitle : String} {entity : Entity} {page : Page}
    {link : Page.RelationLink} (hpage : ctx.page pageTitle entity = .ok page)
    (hlists : page.Lists title link) : ctx.settings.page.relatedTypeSection = true := by
  obtain ⟨relation, hrelation, -⟩ := hlists
  obtain ⟨descriptors, -, items, -, rfl⟩ := page_eq_ok_iff.1 hpage
  by_contra hoff
  simp [pageWith, hoff] at hrelation

theorem usedBy_mem_relations (x : TypeDef) :
    ctx.relationSection "Used By" (ctx.catalog.mentioning x.name) ∈ ctx.relations (.type x) := by
  simp [relations]

/-- A type that has a page is not left out where its name is used. -/
theorem isTypeExcluded_of_documented {x : TypeDef} (hfind : ctx.schema.types.find? x.name = some x)
    (hdocumented : ctx.isDocumented (.type x) = true) : ctx.isTypeExcluded x.name = false := by
  obtain ⟨hshown, -⟩ := Bool.and_eq_true_iff.1 hdocumented
  have hskipped : ctx.isSkipped x.item = false :=
    (Bool.or_eq_false_iff.1 (Bool.not_eq_true' _ ▸ hshown)).1
  rw [isTypeExcluded, hfind]
  exact hskipped

theorem not_hides_of_unskipped (hskip : ctx.settings.skipDirectives = [])
    (hmode : ctx.settings.page.deprecated ≠ .skip) (use : Use) : ¬ ctx.Hides use := by
  have hprinted (item : Item) (type : String) : ¬ ctx.Withholds item ∧ ctx.isTypeExcluded type = false :=
    isPrinted_iff.1 (isPrinted_of_unskipped hskip hmode item (some type))
  rintro (hwithheld | ⟨field, -, hwithheld | hexcluded⟩)
  · exact (hprinted use.item "").1 hwithheld
  · exact (hprinted field.item "").1 hwithheld
  · rw [(hprinted field.item field.type.name).2] at hexcluded
    cases hexcluded

end PageContext

/--
What a type lists as its users has a use of it in the definition. The code block
shows the type on one of its lines unless all these uses are hidden, and always does
so if no directive is skipped and deprecated members are shown.
-/
theorem Schema.usedBy_shown_iff {documents : List Document} {schema : Schema} {settings : Settings}
    {ctx : PageContext} (hschema : Schema.ofDocuments documents = .ok schema)
    (hctx : PageContext.ofSchema schema settings = .ok ctx) {slotX slotY : Slot} {x : TypeDef} {y : Entity}
    {pageX : Page} (hx : (slotX, .type x) ∈ ctx.documented) (hy : (slotY, y) ∈ ctx.documented)
    (hpageX : ctx.page x.name (.type x) = .ok pageX)
    (hlists : pageX.Lists "Used By" (ctx.linkTo slotY y)) :
    y.Uses x.name ∧
      (Code.readTypes (ctx.code y).text).Perm (ctx.code y).typeNames ∧
      (x.name ∈ (ctx.code y).typeNames ↔
        y.Returns x.name ∨ ∃ use ∈ y.uses, use.type.Wraps x.name ∧ ¬ ctx.Hides use) ∧
      (settings.skipDirectives = [] → settings.page.deprecated ≠ .skip →
        x.name ∈ (ctx.code y).typeNames) := by
  have hrelated := PageContext.relatedTypeSection_of_lists hpageX hlists
  obtain ⟨customs, -, rfl⟩ := PageContext.ofSchema_eq_ok_iff.1 hctx
  have hkeyed := Schema.keyed_of_ofDocuments hschema
  obtain ⟨hentity, hdocumented⟩ := PageContext.mem_documented_iff.1 hx
  have hname := PageContext.isTypeExcluded_of_documented (hkeyed.find?_of_type hentity) hdocumented
  have huses : y.Uses x.name := by
    apply Entity.mentions_iff.1
    exact ((PageContext.lists_iff_holds hkeyed.catalog hrelated hpageX
      (PageContext.usedBy_mem_relations x) hy).1 hlists).2
  have hhas : schema.Has y := Schema.has_of_mem_entities (PageContext.mem_documented_iff.1 hy).1
  have hshown := PageContext.mem_typeNames_code hname huses.slot_ne_unions
  refine ⟨huses, Schema.readTypes_code hschema hhas _ huses.slot_ne_unions, hshown, fun hskip hmode => hshown.2 ?_⟩
  exact (Entity.uses_iff.1 huses).imp_right fun ⟨use, huse, hwraps⟩ =>
    ⟨use, huse, hwraps, PageContext.not_hides_of_unskipped hskip hmode use⟩

/-- A type with a field that is withheld and an argument that is not, both of an enum. -/
def Document.painted : List Document :=
  [⟨some "a.graphql", "type Dog { coat: Color @noDoc paint(with: [Color!]): ID } enum Color { RED }"⟩]

theorem Schema.usedBy_shown_iff_painted :
    ∃ schema ctx color dog pageX, Schema.ofDocuments Document.painted = .ok schema ∧
      PageContext.ofSchema schema .concealing = .ok ctx ∧ color.name = "Color" ∧ dog.name = "Dog" ∧
        ctx.page color.name (.type color) = .ok pageX ∧ pageX.Lists "Used By" (ctx.linkTo .objects dog) ∧
          (ctx.code dog).typeNames = ["ID", "Color"] ∧ (Code.readTypes (ctx.code dog).text).Perm ["ID", "Color"] ∧
            ∃ use ∈ dog.uses, use.type.Wraps "Color" ∧ ¬ ctx.Hides use := by
  have hpasses : PageContext.passes Document.painted .concealing (fun ctx =>
      decide (∃ entryX ∈ ctx.documented, ∃ entryY ∈ ctx.documented,
        entryX.2.slot = .ofKind .enum ∧ entryX.2.name = "Color" ∧ entryY.1 = .objects ∧
          entryY.2.slot = .objects ∧ entryY.2.name = "Dog" ∧
            (ctx.code entryY.2).typeNames = ["ID", "Color"] ∧
              (ctx.page entryX.2.name entryX.2).isOk = true ∧
                (ctx.page entryX.2.name entryX.2).toOption.any
                  (·.Lists "Used By" (ctx.linkTo .objects entryY.2)))) = true := by
    decide +kernel
  obtain ⟨schema, ctx, hschema, hctx, htest⟩ := PageContext.exists_of_passes hpasses
  obtain ⟨⟨slotX, entityX⟩, hx, ⟨slotY, dog⟩, hy, hslotX, hnameX, rfl, hslotY, hnameY, htypes, hok, hlists⟩ :=
    of_decide_eq_true htest
  cases entityX with
  | operation kind field => cases kind <;> cases hslotX
  | directive directive => cases hslotX
  | type color =>
    obtain ⟨pageX, hpageX⟩ := Result.isOk_iff.1 hok
    rw [hpageX] at hlists
    have hlisted := of_decide_eq_true hlists
    obtain ⟨-, hread, hshown, -⟩ := Schema.usedBy_shown_iff hschema hctx hx hy hpageX hlisted
    have hcolor : color.name = "Color" := hnameX
    rw [hcolor, htypes] at hshown
    rw [htypes] at hread
    have hreturns : ¬ dog.Returns "Color" := by
      intro hreturns
      cases hreturns with
      | @operation kind field _ => cases kind <;> cases hslotY
    exact ⟨schema, ctx, color, dog, pageX, hschema, hctx, hcolor, hnameY, hpageX, hlisted, htypes, hread,
      (hshown.1 (by decide)).resolve_left hreturns⟩

/-- A field of an enum that is deprecated. -/
def Document.tinted : List Document :=
  [⟨some "a.graphql", "type Dog { id: ID coat: Color @deprecated } enum Color { RED }"⟩]

/-- Leaves out deprecated members. -/
def Settings.undeprecated : Settings :=
  { Settings.default with page := { Settings.Page.default with deprecated := .skip } }

/-- The enum lists the object as a user, and the code block of the object does not show the enum. -/
theorem Schema.usedBy_hidden :
    ∃ schema ctx color dog pageX pageY, Schema.ofDocuments Document.tinted = .ok schema ∧
      PageContext.ofSchema schema .undeprecated = .ok ctx ∧ (.enums, color) ∈ ctx.documented ∧
        (.objects, dog) ∈ ctx.documented ∧ ctx.page color.name color = .ok pageX ∧
          ctx.page dog.name dog = .ok pageY ∧ color.name = "Color" ∧
            pageX.Lists "Used By" (ctx.linkTo .objects dog) ∧ "Color" ∉ (ctx.code dog).typeNames ∧
              (ctx.code dog).text = "type Dog \x7b\n  id: ID\n\x7d" := by
  have hpasses : PageContext.passes Document.tinted .undeprecated (fun ctx =>
      decide (∃ entryX ∈ ctx.documented, ∃ entryY ∈ ctx.documented,
        entryX.1 = .enums ∧ entryX.2.name = "Color" ∧ entryY.1 = .objects ∧
          (ctx.page entryX.2.name entryX.2).isOk = true ∧ (ctx.page entryY.2.name entryY.2).isOk = true ∧
            "Color" ∉ (ctx.code entryY.2).typeNames ∧
              (ctx.code entryY.2).text = "type Dog \x7b\n  id: ID\n\x7d" ∧
                (ctx.page entryX.2.name entryX.2).toOption.any
                  (·.Lists "Used By" (ctx.linkTo .objects entryY.2)))) = true := by
    decide +kernel
  obtain ⟨schema, ctx, hschema, hctx, htest⟩ := PageContext.exists_of_passes hpasses
  obtain ⟨⟨slotX, color⟩, hx, ⟨slotY, dog⟩, hy, rfl, hname, rfl, hokX, hokY, hunshown, htext, hlists⟩ :=
    of_decide_eq_true htest
  obtain ⟨pageX, hpageX⟩ := Result.isOk_iff.1 hokX
  obtain ⟨pageY, hpageY⟩ := Result.isOk_iff.1 hokY
  rw [hpageX] at hlists
  exact ⟨schema, ctx, color, dog, pageX, pageY, hschema, hctx, hx, hy, hpageX, hpageY, hname,
    of_decide_eq_true hlists, hunshown, htext⟩

end SchemaDoc
