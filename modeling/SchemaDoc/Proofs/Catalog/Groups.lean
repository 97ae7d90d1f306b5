-- SUMMARY: Every entity of a schema has one group, and documents that only extend types leave the groups of types that have one alone.
import SchemaDoc.Catalog.Groups
import SchemaDoc.Proofs.Catalog.Lookup
import SchemaDoc.Proofs.Loading.Growth

/-!
# Groups of entities

The group of an entity is read off the first application of one directive. In
all other cases it is the fallback, also for what the language defines, which
carries no directives. Extensions add to the end of what a type carries, so the
first application on a type that has one stays the first.
-/

namespace SchemaDoc

/-! ## The first application of a directive -/

namespace AppliedDirective

/-- The application is the first one of the directive. -/
def First (applied : List AppliedDirective) (name : String) (application : AppliedDirective) : Prop :=
  application.name = name ∧
    ∃ before after, applied = before ++ application :: after ∧ ∀ earlier ∈ before, earlier.name ≠ name

variable {applied : List AppliedDirective} {name : String} {application : AppliedDirective}

theorem first?_eq_some_iff : first? applied name = some application ↔ First applied name application := by
  rw [first?, List.find?_eq_some_iff_append, First]
  simp

theorem first?_eq_none_iff : first? applied name = none ↔ ∀ application ∈ applied, application.name ≠ name := by
  simp [first?]

theorem carries_iff : carries applied name = true ↔ (first? applied name).isSome := by
  rw [carries, first?, List.isSome_find?]

/-- What follows a first application is not looked at. -/
theorem first?_append (h : carries applied name = true) (more : List AppliedDirective) :
    first? (applied ++ more) name = first? applied name := by
  obtain ⟨application, hfirst⟩ := Option.isSome_iff_exists.1 (carries_iff.1 h)
  rw [first?, List.find?_append, ← first?, hfirst]
  rfl

theorem stringArg?_append (h : carries applied name = true) (more : List AppliedDirective) (arg : String) :
    stringArg? (applied ++ more) name arg = stringArg? applied name arg := by
  rw [stringArg?, stringArg?, first?_append h]

end AppliedDirective

/-! ## The group of an entity -/

namespace GroupBy

/-- The group is the text of the argument where the directive is first applied, else the fallback. -/
inductive Assigns (groupBy : GroupBy) (entity : Entity) : String → Prop
  | given {application : AppliedDirective} {group : String}
      (hfirst : AppliedDirective.First entity.applied groupBy.directive application)
      (harg : application.args.find? groupBy.field = some (.string group)) : Assigns groupBy entity group
  | unapplied (hnone : ∀ application ∈ entity.applied, application.name ≠ groupBy.directive) :
      Assigns groupBy entity groupBy.fallback
  | absent {application : AppliedDirective}
      (hfirst : AppliedDirective.First entity.applied groupBy.directive application)
      (harg : application.args.find? groupBy.field = none) : Assigns groupBy entity groupBy.fallback
  | notString {application : AppliedDirective} {value : Value}
      (hfirst : AppliedDirective.First entity.applied groupBy.directive application)
      (harg : application.args.find? groupBy.field = some value) (hvalue : ∀ text, value ≠ .string text) :
      Assigns groupBy entity groupBy.fallback
  | builtin (hlocation : entity.location = .builtin) : Assigns groupBy entity groupBy.fallback
  | directive {definition : DirectiveDef} (hentity : entity = .directive definition) :
      Assigns groupBy entity groupBy.fallback

variable {groupBy : GroupBy} {entity : Entity} {group : String}

/-- What the language defines needs no case of its own if it carries nothing. -/
theorem groupOf_eq (hbuiltin : entity.location = .builtin → entity.applied = []) :
    groupBy.groupOf entity =
      (AppliedDirective.stringArg? entity.applied groupBy.directive groupBy.field).getD groupBy.fallback := by
  rw [groupOf]
  cases hlocation : entity.location with
  | inFile path position => rfl
  | builtin =>
    rw [hbuiltin hlocation]
    rfl

theorem assigns_groupOf (hbuiltin : entity.location = .builtin → entity.applied = []) :
    groupBy.Assigns entity (groupBy.groupOf entity) := by
  rw [groupOf_eq hbuiltin, AppliedDirective.stringArg?]
  cases hfirst : AppliedDirective.first? entity.applied groupBy.directive with
  | none => exact .unapplied (AppliedDirective.first?_eq_none_iff.1 hfirst)
  | some application =>
    have hfirst' := AppliedDirective.first?_eq_some_iff.1 hfirst
    simp only [Option.bind_eq_bind, Option.bind_some]
    cases harg : application.args.find? groupBy.field with
    | none => exact .absent hfirst' harg
    | some value =>
      cases value with
      | string text => exact .given hfirst' harg
      | _ => exact .notString hfirst' harg fun text => nofun

/-- An entity has no group but the one assigned to it. -/
theorem groupOf_eq_iff (hbuiltin : entity.location = .builtin → entity.applied = []) :
    groupBy.groupOf entity = group ↔ groupBy.Assigns entity group := by
  constructor
  · rintro rfl
    exact assigns_groupOf hbuiltin
  · intro h
    rw [groupOf_eq hbuiltin, AppliedDirective.stringArg?]
    cases h with
    | given hfirst harg =>
      simp [AppliedDirective.first?_eq_some_iff.2 hfirst, harg, Value.asString]
    | unapplied hnone => simp [AppliedDirective.first?_eq_none_iff.2 hnone]
    | absent hfirst harg => simp [AppliedDirective.first?_eq_some_iff.2 hfirst, harg]
    | @notString application value hfirst harg hvalue =>
      have htext : value.asString = none := by
        cases value with
        | string text => exact absurd rfl (hvalue text)
        | _ => rfl
      simp [AppliedDirective.first?_eq_some_iff.2 hfirst, harg, htext]
    | builtin hlocation =>
      rw [hbuiltin hlocation]
      rfl
    | directive hentity =>
      rw [hentity]
      rfl

end GroupBy

/-! ## What the language defines carries nothing -/

/-- No field of an object type that the language defines carries a directive. -/
def TypeBody.Bare : TypeBody → Prop
  | .object _ fields => ∀ entry ∈ fields.entries, entry.2.location = .builtin → entry.2.applied = []
  | _ => True

theorem TypeBody.Joins.bare {name : String} {parts : List (Placed Sdl.TypeDecl)} {body : TypeBody}
    (h : body.Joins name parts) : body.Bare := by
  cases body with
  | object interfaces fields =>
    refine h.2.of_parts fun part _ entry hentry hlocation => ?_
    obtain ⟨decl, -, rfl⟩ := List.mem_map.1 hentry
    cases hlocation
  | _ => trivial

theorem Builtin.bare_object (name description : String) {fields : List (String → Field)}
    (h : ∀ field ∈ fields, (field name).applied = []) : (Builtin.object name description fields).body.Bare := by
  intro entry hmem _
  obtain ⟨field, hfield, rfl⟩ := List.mem_map.1 ((OrderedMap.merges_ofList _).mem_of_mem hmem)
  obtain ⟨make, hmake, rfl⟩ := List.mem_map.1 hfield
  exact h make hmake

theorem Builtin.bare_introspection : ∀ type ∈ Builtin.introspection, type.body.Bare := by
  intro type htype
  simp only [Builtin.introspection, List.mem_cons, List.not_mem_nil, or_false] at htype
  rcases htype with rfl | rfl | rfl | rfl | rfl | rfl | rfl | rfl
  all_goals first
    | exact Builtin.bare_object _ _ (by simp [Builtin.field])
    | trivial

theorem Builtin.applied_types : ∀ type ∈ Builtin.scalars ++ Builtin.introspection, type.applied = [] := by
  have hempty : ∀ type ∈ Builtin.scalars ++ Builtin.introspection, type.applied.isEmpty = true := by decide
  exact fun type htype => List.isEmpty_iff.1 (hempty type htype)

namespace Schema.Completes

variable {schema : Schema} {ds : Declarations} {draft : Draft} {declared : OrderedMap TypeDef}

theorem bare (h : schema.Completes ds draft declared) : ∀ type ∈ schema.types.values, type.body.Bare := by
  intro type htype
  obtain ⟨name, hentry⟩ := OrderedMap.exists_mem_entries htype
  rcases h.types_cases hentry with ⟨definition, -, -, hjoins⟩ | ⟨-, hscalar | ⟨hintrospection, -⟩⟩
  · exact hjoins.body.bare
  · rw [Builtin.body_of_scalar? hscalar]
    trivial
  · exact Builtin.bare_introspection type hintrospection

/-- A type either is defined in a document or carries no directives. -/
theorem definition_or_bare (h : schema.Completes ds draft declared) {name : String} {type : TypeDef}
    (hentry : (name, type) ∈ schema.types.entries) :
    (∃ definition ∈ ds.types, definition.decl.name = name ∧ type.Joins definition (ds.extensionsOf name)) ∨
      type.applied = [] := by
  refine (h.types_cases hentry).imp_right ?_
  rintro ⟨-, hscalar | ⟨hintrospection, -⟩⟩
  · exact Builtin.applied_types type (List.mem_append_left _ (List.mem_of_find?_eq_some hscalar))
  · exact Builtin.applied_types type (List.mem_append_right _ hintrospection)

/-- What no document declares carries no directives. -/
theorem applied_of_builtin (h : schema.Completes ds draft declared) {slot : Slot} {entity : Entity}
    (hentity : (slot, entity) ∈ schema.catalog.entities) (hlocation : entity.location = .builtin) :
    entity.applied = [] := by
  have hentry := h.keyed.catalog.mem_entries hentity
  rcases slot.cases_of with ⟨kind, rfl⟩ | ⟨kind, rfl⟩ | rfl
  · obtain ⟨type, htype, -, rfl⟩ := Schema.find?_slot_ofKind (OrderedMap.find?_eq_some_iff.2 hentry)
    rcases h.definition_or_bare (OrderedMap.find?_eq_some_iff.1 htype) with
      ⟨definition, -, -, hjoins⟩ | hbare
    · cases hjoins.location.symm.trans hlocation
    · exact hbare
  · rw [Schema.entries_slot_ofOperation] at hentry
    obtain ⟨⟨name, field⟩, hfield, heq⟩ := List.mem_map.1 hentry
    obtain rfl : Entity.operation kind field = entity := congrArg Prod.snd heq
    obtain ⟨type, htype, interfaces, fields, hbody, hmem⟩ := Schema.exists_root_of_mem_operationFields hfield
    have hbare := h.bare type htype
    rw [hbody] at hbare
    exact hbare _ hmem hlocation
  · rw [Schema.entries_slot_directives] at hentry
    obtain ⟨⟨name, directive⟩, -, heq⟩ := List.mem_map.1 hentry
    obtain rfl : Entity.directive directive = entity := congrArg Prod.snd heq
    rfl

end Schema.Completes

/-! ## The groups of a catalog -/

/-- There is a group for each name of each slot in order, and it is the one assigned to the entity. -/
structure Groups.Classify (groups : Groups) (catalog : Catalog) (groupBy : GroupBy) : Prop where
  slots : groups.map Prod.fst = Slot.all
  names : ∀ entry ∈ groups, entry.2.keys = (catalog.slot entry.1).keys
  assigned : ∀ slot name group, groups.find? slot name = some group ↔
    ∃ entity, (catalog.slot slot).find? name = some entity ∧ groupBy.Assigns entity group

namespace Catalog

variable {catalog : Catalog} {groupBy : GroupBy}

theorem lookup_groups (catalog : Catalog) (groupBy : GroupBy) (slot : Slot) :
    (catalog.groups groupBy).lookup slot = some ((catalog.slot slot).map groupBy.groupOf) := by
  cases slot <;> rfl

theorem find?_groups (catalog : Catalog) (groupBy : GroupBy) (slot : Slot) (name : String) :
    (catalog.groups groupBy).find? slot name = ((catalog.slot slot).find? name).map groupBy.groupOf := by
  rw [Groups.find?, lookup_groups, Option.bind_some, OrderedMap.map, OrderedMap.find?_filterMap,
    Option.map_eq_bind]
  rfl

theorem groups_classify (groupBy : GroupBy)
    (hbuiltin : ∀ slot entity, (slot, entity) ∈ catalog.entities → entity.location = .builtin →
      entity.applied = []) : (catalog.groups groupBy).Classify catalog groupBy where
  slots := by
    rw [groups, List.map_map]
    exact List.map_id _
  names := by
    intro entry hentry
    obtain ⟨slot, -, rfl⟩ := List.mem_map.1 hentry
    exact OrderedMap.keys_map _ _
  assigned := by
    intro slot name group
    rw [find?_groups, Option.map_eq_some_iff]
    apply exists_congr
    intro entity
    apply and_congr_right
    intro hfind
    have hentity : (slot, entity) ∈ catalog.entities :=
      mem_entities_of_mem_entries (OrderedMap.find?_eq_some_iff.1 hfind)
    exact GroupBy.groupOf_eq_iff (hbuiltin slot entity hentity)

end Catalog

/-! ## Groups under extension -/

/-- A type that is listed stands in the slot of its kind. -/
theorem Schema.find?_slot_of_lists {schema : Schema} {name : String} {type : TypeDef}
    (hfind : schema.types.find? name = some type) (hlists : schema.Lists name) :
    (schema.catalog.slot (.ofKind type.kind)).find? name = some (.type type) := by
  apply OrderedMap.find?_eq_some_iff.2
  rw [Schema.entries_slot_ofKind]
  apply List.mem_map.2
  refine ⟨(name, type), List.mem_filter.2 ⟨OrderedMap.find?_eq_some_iff.1 hfind, ?_⟩, rfl⟩
  exact decide_eq_true ⟨hlists, rfl⟩

/-- What a type carries after the first application does not change its group. -/
theorem GroupBy.groupOf_grown {groupBy : GroupBy} {type grown : TypeDef} {more : List AppliedDirective}
    (hhead : type.SameHead grown) (happlied : grown.applied = type.applied ++ more)
    (hcarries : AppliedDirective.carries type.applied groupBy.directive = true) :
    groupBy.groupOf (.type grown) = groupBy.groupOf (.type type) := by
  have hlocation : (Entity.type grown).location = (Entity.type type).location := hhead.location
  have hgroup : AppliedDirective.stringArg? grown.applied groupBy.directive groupBy.field =
      AppliedDirective.stringArg? type.applied groupBy.directive groupBy.field := by
    rw [happlied]
    exact AppliedDirective.stringArg?_append hcarries more _
  simp only [groupOf, hlocation, Entity.applied, hgroup]

namespace Schema.Completes

variable {schema grown : Schema} {ds others : Declarations} {draft draft' : Draft}
  {declared declared' : OrderedMap TypeDef}

/-- A type that is listed and defined in a document is listed with more extensions, too. -/
theorem lists_grown (h : schema.Completes ds draft declared) (h' : grown.Completes others draft' declared')
    (hgrows : ds.Grows others) {definition : Placed Sdl.TypeDecl} (hdefinition : definition ∈ ds.types)
    (hlists : schema.Lists definition.decl.name) : grown.Lists definition.decl.name :=
  ⟨hlists.1, fun kind hroot => hlists.2 kind (h.root_of_grown h' hgrows hdefinition hroot)⟩

/-- A type that carries the directive stays in its slot and in its group when it is extended. -/
theorem find?_groups_grown (h : schema.Completes ds draft declared)
    (h' : grown.Completes others draft' declared') (hgrows : ds.Grows others) {slot : Slot} {type : TypeDef}
    (hentity : (slot, .type type) ∈ schema.catalog.entities) {groupBy : GroupBy}
    (hcarries : AppliedDirective.carries type.applied groupBy.directive = true) :
    (schema.catalog.groups groupBy).find? slot type.name = some (groupBy.groupOf (.type type)) ∧
      (grown.catalog.groups groupBy).find? slot type.name = some (groupBy.groupOf (.type type)) := by
  obtain rfl : Slot.ofKind type.kind = slot := h.keyed.catalog.slot_eq hentity
  have hfind := h.keyed.find?_of_type hentity
  have hslot : (schema.catalog.slot (.ofKind type.kind)).find? type.name = some (.type type) :=
    OrderedMap.find?_eq_some_iff.2 (h.keyed.catalog.mem_entries hentity)
  rw [Catalog.find?_groups, hslot]
  refine ⟨rfl, ?_⟩
  rcases h.definition_or_bare (OrderedMap.find?_eq_some_iff.1 hfind) with
    ⟨definition, hdefinition, hname, -⟩ | hbare
  · obtain ⟨first, other, more, hfirst, hother, hhead, happlied⟩ := h.find?_grown h' hgrows hdefinition
    rw [hname, hfind] at hfirst
    cases hfirst
    have hlists : schema.Lists type.name :=
      ((Schema.mem_keys_slot_ofKind hfind type.kind).1 (OrderedMap.find?_isSome_iff.1 (hslot ▸ rfl))).1
    have hgrown : grown.Lists definition.decl.name :=
      h.lists_grown h' hgrows hdefinition (hname.symm ▸ hlists)
    rw [Catalog.find?_groups, ← hhead.kind, ← hname, Schema.find?_slot_of_lists hother hgrown,
      Option.map_some, GroupBy.groupOf_grown hhead happlied hcarries]
  -- What the language defines carries nothing.
  · rw [hbare] at hcarries
    cases hcarries

end Schema.Completes

/--
Every entity of a catalog is in the group that is assigned to it. A type that
carries the directive stays in its group if further documents only extend types.
-/
theorem Schema.groups_settled {documents : List Document} {schema : Schema}
    (h : Schema.ofDocuments documents = .ok schema) (groupBy : GroupBy) :
    (schema.catalog.groups groupBy).Classify schema.catalog groupBy ∧
      ∀ more grown, (∀ document ∈ more, document.ExtendsOnly) →
        Schema.ofDocuments (documents ++ more) = .ok grown →
        ∀ slot type, (slot, .type type) ∈ schema.catalog.entities →
          AppliedDirective.carries type.applied groupBy.directive = true →
          ∃ group, (schema.catalog.groups groupBy).find? slot type.name = some group ∧
            (grown.catalog.groups groupBy).find? slot type.name = some group := by
  obtain ⟨draft, declared, hcompletes⟩ := Schema.completes_of_ofDocuments h
  refine ⟨Catalog.groups_classify groupBy fun slot entity => hcompletes.applied_of_builtin, ?_⟩
  intro more grown hextends hgrown slot type hentity hcarries
  obtain ⟨draft', declared', hcompletes'⟩ := Schema.completes_of_ofDocuments hgrown
  have hgrows := Document.grows_append documents hextends
  exact ⟨_, hcompletes.find?_groups_grown hcompletes' hgrows hentity hcarries⟩

/-- A type that names its group, and one that does so with a number. -/
def Document.grouped : List Document :=
  [⟨some "a.graphql", "type Dog @doc(category: \"pets\") { id: ID } type Cat @doc(category: 9) { id: ID }"⟩]

/-- Extensions by which both types name a group. -/
def Document.groupedAgain : List Document :=
  [⟨none, "extend type Dog @doc(category: \"wolves\") extend type Cat @doc(category: \"lions\")"⟩]

theorem Schema.groups_settled_grouped :
    ∃ schema grown, Schema.ofDocuments Document.grouped = .ok schema ∧
      Schema.ofDocuments (Document.grouped ++ Document.groupedAgain) = .ok grown ∧
      (schema.catalog.groups ⟨"doc", "category", "rest"⟩).Classify schema.catalog ⟨"doc", "category", "rest"⟩ ∧
      (grown.catalog.groups ⟨"doc", "category", "rest"⟩).find? .objects "Dog" = some "pets" ∧
      (grown.catalog.groups ⟨"doc", "category", "rest"⟩).find? .objects "Cat" = some "rest" := by
  have hchecks : (Schema.ofDocuments Document.grouped).toOption.any (fun schema =>
      ["Dog", "Cat"].map ((schema.catalog.groups ⟨"doc", "category", "rest"⟩).find? .objects) =
          [some "pets", some "rest"] ∧
        ∀ name ∈ ["Dog", "Cat"], (schema.catalog.objects.values.any fun entity =>
          entity.type?.any fun type =>
            type.name = name ∧ AppliedDirective.carries type.applied "doc" = true) = true) = true := by
    decide +kernel
  have hboth : (Schema.ofDocuments (Document.grouped ++ Document.groupedAgain)).isOk = true := by
    decide +kernel
  have hextends : ∀ document ∈ Document.groupedAgain, document.ExtendsOnly := by
    decide +kernel
  obtain ⟨schema, hschema, hchecked⟩ := Schema.exists_of_any hchecks
  obtain ⟨hfirst, hcarry⟩ := of_decide_eq_true hchecked
  obtain ⟨grown, hgrown⟩ := Schema.exists_of_isOk hboth
  obtain ⟨hclassify, hstays⟩ := Schema.groups_settled hschema ⟨"doc", "category", "rest"⟩
  have hsame : ∀ name ∈ ["Dog", "Cat"],
      (grown.catalog.groups ⟨"doc", "category", "rest"⟩).find? .objects name =
        (schema.catalog.groups ⟨"doc", "category", "rest"⟩).find? .objects name := by
    intro name hname
    obtain ⟨entity, hentity, htype⟩ := List.any_eq_true.1 (hcarry name hname)
    obtain ⟨type, hsome, hcarries⟩ := (Option.any_eq_true _ _).1 htype
    obtain rfl := Entity.type?_eq_some_iff.1 hsome
    obtain ⟨rfl, hdoc⟩ := of_decide_eq_true hcarries
    obtain ⟨group, hbefore, hafter⟩ :=
      hstays _ grown hextends hgrown .objects type (Catalog.mem_entities_iff.2 hentity) hdoc
    rw [hbefore, hafter]
  obtain ⟨hdog, hrest⟩ := List.cons.inj hfirst
  refine ⟨schema, grown, hschema, hgrown, hclassify, ?_, ?_⟩
  · rw [hsame "Dog" (by decide)]
    exact hdog
  · rw [hsame "Cat" (by decide)]
    exact (List.cons.inj hrest).1

end SchemaDoc
