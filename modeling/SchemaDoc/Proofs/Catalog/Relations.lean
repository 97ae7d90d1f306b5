-- SUMMARY: A relation lists exactly the entities that are related to a type, each once and in catalog order.
import SchemaDoc.Catalog.Relations
import SchemaDoc.Proofs.Catalog.Lookup
import SchemaDoc.Proofs.Loading.Mentions

/-!
# Related entities

How an entity can be related to a type is said here by what the entity mentions.
A relation goes through some slots and keeps the first entity of each name. Names
do not repeat in a slot, so nothing is lost: it lists all entities of these slots
that are related, and no others.
-/

namespace SchemaDoc

/-! ## How entities are related to types -/

namespace Entity

/-- The entity is an operation that returns the type. -/
inductive Returns (name : String) : Entity → Prop where
  | operation {kind : OperationKind} {field : Field} :
    field.type.Wraps name → Returns name (.operation kind field)

/-- A field or an argument of the entity has the type. -/
inductive Uses (name : String) : Entity → Prop where
  | operation {kind : OperationKind} {field : Field} :
    field.Mentions name → Uses name (.operation kind field)
  | object {type : TypeDef} {interfaces : List String} {fields : OrderedMap Field} {field : Field} :
    type.body = .object interfaces fields → field ∈ fields.values → field.Mentions name →
      Uses name (.type type)
  | interface {type : TypeDef} {interfaces : List String} {fields : OrderedMap Field} {field : Field} :
    type.body = .interface interfaces fields → field ∈ fields.values → field.Mentions name →
      Uses name (.type type)
  | input {type : TypeDef} {fields : OrderedMap InputValue} :
    type.body = .input fields → fields.Mentions name → Uses name (.type type)
  | directive {directive : DirectiveDef} :
    directive.args.Mentions name → Uses name (.directive directive)

/-- The entity is a union with the type as a member. -/
inductive Contains (name : String) : Entity → Prop where
  | union {type : TypeDef} {members : List String} :
    type.body = .union members → name ∈ members → Contains name (.type type)

/-- The entity is an object or an interface that implements the type. -/
inductive Implements (name : String) : Entity → Prop where
  | object {type : TypeDef} {interfaces : List String} {fields : OrderedMap Field} :
    type.body = .object interfaces fields → name ∈ interfaces → Implements name (.type type)
  | interface {type : TypeDef} {interfaces : List String} {fields : OrderedMap Field} :
    type.body = .interface interfaces fields → name ∈ interfaces → Implements name (.type type)

variable {entity : Entity} {name : String}

theorem returns_iff : entity.returns name = true ↔ entity.Returns name := by
  cases entity with
  | type type => exact ⟨nofun, nofun⟩
  | operation kind field =>
    rw [returns, beq_iff_eq, ← TypeRef.wraps_iff]
    exact ⟨.operation, fun | .operation h => h⟩
  | directive directive => exact ⟨nofun, nofun⟩

theorem anyOf_iff {inputs : OrderedMap InputValue} : anyOf name inputs = true ↔ inputs.Mentions name := by
  simp only [anyOf, OrderedMap.Mentions, TypeRef.wraps_iff, List.any_eq_true, beq_iff_eq]

theorem references_iff {field : Field} : field.references name = true ↔ field.Mentions name := by
  simp only [Field.references, Field.Mentions, OrderedMap.Mentions, TypeRef.wraps_iff, Bool.or_eq_true,
    List.any_eq_true, beq_iff_eq]

theorem mentions_iff : entity.mentions name = true ↔ entity.Uses name := by
  cases entity with
  | operation kind field => exact references_iff.trans ⟨.operation, fun | .operation h => h⟩
  | directive directive => exact anyOf_iff.trans ⟨.directive, fun | .directive h => h⟩
  | type type =>
    obtain ⟨_, _, _, _, body⟩ := type
    have hfields : ∀ fields : OrderedMap Field,
        fields.values.any (·.references name) = true ↔ ∃ field ∈ fields.values, field.Mentions name := by
      intro fields
      simp only [List.any_eq_true, references_iff]
    cases body with
    | enum values => exact ⟨nofun, nofun⟩
    | input fields => exact anyOf_iff.trans ⟨.input rfl, fun | .input rfl h => h⟩
    | interface interfaces fields =>
      refine (hfields fields).trans ⟨?_, fun | .interface rfl hfield h => ⟨_, hfield, h⟩⟩
      rintro ⟨field, hfield, h⟩
      exact .interface rfl hfield h
    | object interfaces fields =>
      refine (hfields fields).trans ⟨?_, fun | .object rfl hfield h => ⟨_, hfield, h⟩⟩
      rintro ⟨field, hfield, h⟩
      exact .object rfl hfield h
    | scalar => exact ⟨nofun, nofun⟩
    | union members => exact ⟨nofun, nofun⟩

theorem hasMember_iff : entity.hasMember name = true ↔ entity.Contains name := by
  cases entity with
  | operation kind field => exact ⟨nofun, nofun⟩
  | directive directive => exact ⟨nofun, nofun⟩
  | type type =>
    obtain ⟨_, _, _, _, body⟩ := type
    cases body with
    | union members => exact List.contains_iff_mem.trans ⟨.union rfl, fun | .union rfl h => h⟩
    | _ => exact ⟨nofun, nofun⟩

theorem implements_iff : entity.implements name = true ↔ entity.Implements name := by
  cases entity with
  | operation kind field => exact ⟨nofun, nofun⟩
  | directive directive => exact ⟨nofun, nofun⟩
  | type type =>
    obtain ⟨_, _, _, _, body⟩ := type
    cases body with
    | interface interfaces fields =>
      exact List.contains_iff_mem.trans ⟨.interface rfl, fun | .interface rfl h => h⟩
    | object interfaces fields =>
      exact List.contains_iff_mem.trans ⟨.object rfl, fun | .object rfl h => h⟩
    | _ => exact ⟨nofun, nofun⟩

theorem Contains.slot_eq (h : entity.Contains name) : entity.slot = .unions := by
  obtain ⟨hbody, -⟩ := h
  rw [slot, TypeDef.kind, hbody]
  rfl

theorem Implements.slot_mem (h : entity.Implements name) : entity.slot ∈ [.objects, .interfaces] := by
  rcases h with ⟨hbody, -⟩ | ⟨hbody, -⟩
  · rw [slot, TypeDef.kind, hbody]
    exact List.mem_cons_self
  · rw [slot, TypeDef.kind, hbody]
    exact List.mem_cons_of_mem _ List.mem_cons_self

/-- Nothing both implements a type and has it as a member. -/
theorem Implements.not_contains (h : entity.Implements name) : ¬ entity.Contains name := by
  intro hcontains
  have hslot := h.slot_mem
  rw [hcontains.slot_eq] at hslot
  exact absurd hslot (by decide)

end Entity

/-! ## What relations list -/

/--
The relation lists the entities of some slots of which something holds: slot by
slot without those that have none, in catalog order and each once.
-/
structure Catalog.Lists (catalog : Catalog) (slots : List Slot) (holds : Entity → Prop)
    (relation : Relation) : Prop where
  in_order : (relation.map Prod.fst).Sublist slots
  nonempty : ∀ entry ∈ relation, entry.2 ≠ []
  sublist : ∀ entry ∈ relation, entry.2.Sublist (catalog.slot entry.1).values
  once : ∀ entry ∈ relation, (entry.2.map Entity.name).Nodup
  mem_iff : ∀ slot entity, (∃ entities, (slot, entities) ∈ relation ∧ entity ∈ entities) ↔
    slot ∈ slots ∧ entity ∈ (catalog.slot slot).values ∧ holds entity

/-- Entities of different names that were not seen before are all kept. -/
theorem Entity.unseen_eq_self {seen : List String} {entities : List Entity}
    (hnodup : (entities.map Entity.name).Nodup) (hnew : ∀ entity ∈ entities, entity.name ∉ seen) :
    Entity.unseen seen entities = entities := by
  induction entities generalizing seen with
  | nil => rfl
  | cons entity rest ih =>
    rw [List.map_cons, List.nodup_cons] at hnodup
    rw [List.forall_mem_cons] at hnew
    have hrest : ∀ other ∈ rest, other.name ∉ entity.name :: seen := by
      intro other hother hmem
      rcases List.mem_cons.1 hmem with heq | hseen
      · exact hnodup.1 (heq ▸ List.mem_map_of_mem hother)
      · exact hnew.2 other hother hseen
    rw [Entity.unseen, if_neg (fun h => hnew.1 (List.contains_iff_mem.1 h)), ih hnodup.2 hrest]

namespace Catalog

variable {catalog : Catalog} {slots : List Slot} {holds : Entity → Bool}

theorem Keyed.nodup_filter (hkeyed : catalog.Keyed) (slot : Slot) (holds : Entity → Bool) :
    (((catalog.slot slot).values.filter holds).map Entity.name).Nodup :=
  (hkeyed.nodup_names slot).sublist (List.filter_sublist.map Entity.name)

/-- Names do not repeat in a slot, so looking for the first of each name leaves out none. -/
theorem Keyed.related_eq (hkeyed : catalog.Keyed) (slots : List Slot) (holds : Entity → Bool) :
    catalog.related slots holds =
      (slots.map fun slot => (slot, (catalog.slot slot).values.filter holds)).filter (!·.2.isEmpty) := by
  have hslot : ∀ slot, Entity.unseen [] ((catalog.slot slot).values.filter holds) =
      (catalog.slot slot).values.filter holds :=
    fun slot => Entity.unseen_eq_self (hkeyed.nodup_filter slot holds) fun _ _ => List.not_mem_nil
  simp only [related, hslot]

theorem Keyed.mem_related_iff (hkeyed : catalog.Keyed) {entry : Slot × List Entity} :
    entry ∈ catalog.related slots holds ↔
      entry.1 ∈ slots ∧ entry.2 = (catalog.slot entry.1).values.filter holds ∧ entry.2 ≠ [] := by
  obtain ⟨slot, entities⟩ := entry
  rw [hkeyed.related_eq, List.mem_filter, List.mem_map]
  simp only [Prod.mk.injEq, Bool.not_eq_true', List.isEmpty_eq_false_iff]
  constructor
  · rintro ⟨⟨_, hslot, rfl, rfl⟩, hsome⟩
    exact ⟨hslot, rfl, hsome⟩
  · rintro ⟨hslot, rfl, hsome⟩
    exact ⟨⟨slot, hslot, rfl, rfl⟩, hsome⟩

/-- Slots keep their order, and those without a related entity are left out. -/
theorem sublist_related (catalog : Catalog) (slots : List Slot) (holds : Entity → Bool) :
    ((catalog.related slots holds).map Prod.fst).Sublist slots := by
  have hslots : (slots.map fun slot => (slot, Entity.unseen [] ((catalog.slot slot).values.filter holds))).map
      Prod.fst = slots := by
    rw [List.map_map]
    exact List.map_id slots
  have hsublist : ((catalog.related slots holds).map Prod.fst).Sublist _ := List.filter_sublist.map Prod.fst
  rwa [hslots] at hsublist

theorem Keyed.lists_related (hkeyed : catalog.Keyed) (slots : List Slot) {relates : Entity → Prop}
    (hholds : ∀ entity, holds entity = true ↔ relates entity) :
    catalog.Lists slots relates (catalog.related slots holds) where
  in_order := catalog.sublist_related slots holds
  nonempty := fun entry hentry => (hkeyed.mem_related_iff.1 hentry).2.2
  sublist := by
    intro entry hentry
    rw [(hkeyed.mem_related_iff.1 hentry).2.1]
    exact List.filter_sublist
  once := by
    intro entry hentry
    rw [(hkeyed.mem_related_iff.1 hentry).2.1]
    exact hkeyed.nodup_filter entry.1 holds
  mem_iff := by
    intro slot entity
    constructor
    · rintro ⟨entities, hentry, hentity⟩
      obtain ⟨hslot, hentities, -⟩ := hkeyed.mem_related_iff.1 hentry
      obtain rfl : entities = (catalog.slot slot).values.filter holds := hentities
      obtain ⟨hvalue, hrelated⟩ := List.mem_filter.1 hentity
      exact ⟨hslot, hvalue, (hholds entity).1 hrelated⟩
    · rintro ⟨hslot, hvalue, hrelated⟩
      have hentity := List.mem_filter.2 ⟨hvalue, (hholds entity).2 hrelated⟩
      exact ⟨_, hkeyed.mem_related_iff.2 ⟨hslot, rfl, List.ne_nil_of_mem hentity⟩, hentity⟩

/-! ## Two relations in one -/

theorem related_append (catalog : Catalog) (slots more : List Slot) (holds : Entity → Bool) :
    catalog.related (slots ++ more) holds = catalog.related slots holds ++ catalog.related more holds := by
  rw [related, related, related, List.map_append, List.filter_append]

theorem related_congr {other : Entity → Bool}
    (h : ∀ slot ∈ slots, ∀ entity ∈ (catalog.slot slot).values, holds entity = other entity) :
    catalog.related slots holds = catalog.related slots other := by
  rw [related, related]
  congr 1
  apply List.map_congr_left
  intro slot hslot
  rw [List.filter_congr (h slot hslot)]

/-- What extends a type implements it if it is an object or an interface, and is a union otherwise. -/
theorem Keyed.extending_eq (hkeyed : catalog.Keyed) (type : String) :
    catalog.extending type = catalog.implementing type ++ catalog.unionsOf type := by
  have hslots : ([.objects, .interfaces, .unions] : List Slot) = [.objects, .interfaces] ++ [.unions] := rfl
  rw [extending, hslots, related_append]
  congr 1
  · apply related_congr
    intro slot hslot entity hentity
    have hnone : entity.hasMember type = false := by
      rw [Bool.eq_false_iff, Ne, Entity.hasMember_iff]
      intro hcontains
      rw [← hkeyed.slot_eq (mem_entities_iff.2 hentity), hcontains.slot_eq] at hslot
      exact absurd hslot (by decide)
    rw [hnone, Bool.or_false]
  · apply related_congr
    intro slot hslot entity hentity
    have hnone : entity.implements type = false := by
      rw [Bool.eq_false_iff, Ne, Entity.implements_iff]
      intro himplements
      have hmem := himplements.slot_mem
      rw [hkeyed.slot_eq (mem_entities_iff.2 hentity), List.mem_singleton.1 hslot] at hmem
      exact absurd hmem (by decide)
    rw [hnone, Bool.false_or]

end Catalog

/-- Each relation of a type lists what is related in its way, and two of them make up a third. -/
theorem Schema.relations_exact {documents : List Document} {schema : Schema}
    (h : Schema.ofDocuments documents = .ok schema) (type : String) :
    let catalog := schema.catalog
    catalog.Lists [.queries, .mutations, .subscriptions] (·.Returns type) (catalog.returning type) ∧
      catalog.Lists [.queries, .mutations, .subscriptions, .objects, .interfaces, .inputs, .directives]
        (·.Uses type) (catalog.mentioning type) ∧
      catalog.Lists [.unions] (·.Contains type) (catalog.unionsOf type) ∧
      catalog.Lists [.objects, .interfaces] (·.Implements type) (catalog.implementing type) ∧
      catalog.Lists [.objects, .interfaces, .unions]
        (fun entity => entity.Implements type ∨ entity.Contains type) (catalog.extending type) ∧
      catalog.extending type = catalog.implementing type ++ catalog.unionsOf type ∧
      ((catalog.implementing type).map Prod.fst).Disjoint ((catalog.unionsOf type).map Prod.fst) ∧
      ∀ entity : Entity, entity.Implements type → ¬ entity.Contains type := by
  intro catalog
  have hkeyed : catalog.Keyed := (Schema.keyed_of_ofDocuments h).catalog
  have hextends : ∀ entity : Entity, (entity.implements type || entity.hasMember type) = true ↔
      entity.Implements type ∨ entity.Contains type := by
    intro entity
    rw [Bool.or_eq_true, Entity.implements_iff, Entity.hasMember_iff]
  have hunions : catalog.Lists [.unions] (·.Contains type) (catalog.unionsOf type) :=
    hkeyed.lists_related _ fun _ => Entity.hasMember_iff
  have himplements : catalog.Lists [.objects, .interfaces] (·.Implements type) (catalog.implementing type) :=
    hkeyed.lists_related _ fun _ => Entity.implements_iff
  refine ⟨hkeyed.lists_related _ fun _ => Entity.returns_iff,
    hkeyed.lists_related _ fun _ => Entity.mentions_iff, hunions, himplements,
    hkeyed.lists_related _ hextends, hkeyed.extending_eq type, ?_, fun _ => Entity.Implements.not_contains⟩
  intro slot himplementing hunion
  have hslot := List.mem_singleton.1 (hunions.in_order.subset hunion)
  have hmem := himplements.in_order.subset himplementing
  rw [hslot] at hmem
  exact absurd hmem (by decide)

/-- A type that is implemented, returned, used and a member of a union, each by something else. -/
def Document.related : List Document :=
  [⟨some "a.graphql", "type Query { node(near: Int): [Node!] } interface Node { id: ID }"⟩,
    ⟨some "b.graphql", "type Widget implements Node { id: ID peer: Node } union Any = Widget | Node"⟩]

/-- What uses the type is listed by slots, and what extends it is what implements it and the unions of it. -/
theorem Schema.relations_exact_related :
    ∃ schema, Schema.ofDocuments Document.related = .ok schema ∧
      schema.catalog.Lists [.queries, .mutations, .subscriptions, .objects, .interfaces, .inputs, .directives]
        (·.Uses "Node") (schema.catalog.mentioning "Node") ∧
      (schema.catalog.mentioning "Node").map (fun entry => (entry.1, entry.2.map Entity.name)) =
        [(.queries, ["node"]), (.objects, ["Widget"])] ∧
      (schema.catalog.implementing "Node" ++ schema.catalog.unionsOf "Node").map
        (fun entry => (entry.1, entry.2.map Entity.name)) = [(.objects, ["Widget"]), (.unions, ["Any"])] := by
  have hnames : (Schema.ofDocuments Document.related).toOption.any (fun schema => decide (
      (schema.catalog.mentioning "Node").map (fun entry => (entry.1, entry.2.map Entity.name)) =
          [(.queries, ["node"]), (.objects, ["Widget"])] ∧
        (schema.catalog.extending "Node").map (fun entry => (entry.1, entry.2.map Entity.name)) =
          [(.objects, ["Widget"]), (.unions, ["Any"])])) = true := by
    decide +kernel
  obtain ⟨schema, hschema, hrelated⟩ := Schema.exists_of_any hnames
  obtain ⟨husers, hextending⟩ := of_decide_eq_true hrelated
  obtain ⟨-, hlists, -, -, -, heq, -⟩ := Schema.relations_exact hschema "Node"
  exact ⟨schema, hschema, hlists, husers, heq ▸ hextending⟩

end SchemaDoc
