-- SUMMARY: The names that a type refers to are those for which it is listed, as a user, an implementer or a union.
import SchemaDoc.Proofs.Catalog.Relations

/-!
# References and relations

What a type refers to is found in two ways. Building a schema collects names from
the type; a relation of the catalog starts from a name and tests every entity of
some slots. Both look at the same places: a type is listed as a user for its
fields, arguments and input fields, and as extending for its interfaces and its
members. So each name that is collected is one for which the type is listed, and
the other way round.
-/

namespace SchemaDoc

/-- The relation lists the entity in some slot. -/
def Relation.Has (relation : Relation) (entity : Entity) : Prop :=
  ∃ slot entities, (slot, entities) ∈ relation ∧ entity ∈ entities

/-! ## Places that make an entity related -/

namespace Entity

variable {entity : Entity} {name : String}

/-- Only entities with fields or arguments use types. -/
theorem Uses.slot_mem (h : entity.Uses name) :
    entity.slot ∈
      [.queries, .mutations, .subscriptions, .objects, .interfaces, .inputs, .directives] := by
  cases h with
  | @operation kind field _ => cases kind <;> simp [slot, Slot.ofOperation]
  | object hbody _ _ => simp [slot, TypeDef.kind, hbody, TypeBody.kind, Slot.ofKind]
  | interface hbody _ _ => simp [slot, TypeDef.kind, hbody, TypeBody.kind, Slot.ofKind]
  | input hbody _ => simp [slot, TypeDef.kind, hbody, TypeBody.kind, Slot.ofKind]
  | directive _ => simp [slot]

/-- A type extends what it implements and what it has as a member. -/
theorem slot_mem_of_extends (h : entity.Implements name ∨ entity.Contains name) :
    entity.slot ∈ [.objects, .interfaces, .unions] := by
  rcases h with himplements | hcontains
  · exact List.mem_append_left [.unions] himplements.slot_mem
  · rw [hcontains.slot_eq]
    decide

/-- A mention stands in a field or an argument, or it is an interface or a member. -/
theorem mentions_type_iff {type : TypeDef} :
    type.body.Mentions name ↔
      Uses name (.type type) ∨ Implements name (.type type) ∨ Contains name (.type type) := by
  obtain ⟨own, description, location, applied, body⟩ := type
  constructor
  · intro h
    cases body with
    | enum values => cases h
    | scalar => cases h
    | input fields => exact .inl (.input rfl h)
    | union members => exact .inr (.inr (.union rfl h))
    | interface interfaces fields =>
      rcases h with hinterface | ⟨field, hfield, hmentions⟩
      · exact .inr (.inl (.interface rfl hinterface))
      · exact .inl (.interface rfl hfield hmentions)
    | object interfaces fields =>
      rcases h with hinterface | ⟨field, hfield, hmentions⟩
      · exact .inr (.inl (.object rfl hinterface))
      · exact .inl (.object rfl hfield hmentions)
  · rintro (huses | himplements | hcontains)
    · cases huses with
      | object hbody hfield hmentions =>
        cases hbody
        exact .inr ⟨_, hfield, hmentions⟩
      | interface hbody hfield hmentions =>
        cases hbody
        exact .inr ⟨_, hfield, hmentions⟩
      | input hbody hmentions =>
        cases hbody
        exact hmentions
    · cases himplements with
      | object hbody hinterface =>
        cases hbody
        exact .inl hinterface
      | interface hbody hinterface =>
        cases hbody
        exact .inl hinterface
    · obtain ⟨hbody, hmember⟩ := hcontains
      cases hbody
      exact hmember

end Entity

/-! ## Where an entity is listed -/

/-- An entity stands in one slot, so a relation lists it if it goes through that slot and holds of it. -/
theorem Catalog.Keyed.has_related_iff {catalog : Catalog} (hkeyed : catalog.Keyed) {slots : List Slot}
    {holds : Entity → Bool} {relates : Entity → Prop}
    (hholds : ∀ entity, holds entity = true ↔ relates entity) {slot : Slot} {entity : Entity}
    (hentity : (slot, entity) ∈ catalog.entities) :
    (catalog.related slots holds).Has entity ↔ slot ∈ slots ∧ relates entity := by
  have hlists := hkeyed.lists_related slots hholds
  constructor
  · rintro ⟨other, hlisted⟩
    obtain ⟨hslot, hvalue, hrelates⟩ := (hlists.mem_iff other entity).1 hlisted
    obtain rfl : other = slot :=
      (hkeyed.slot_eq (mem_entities_iff.2 hvalue)).symm.trans (hkeyed.slot_eq hentity)
    exact ⟨hslot, hrelates⟩
  · rintro ⟨hslot, hrelates⟩
    exact ⟨slot, (hlists.mem_iff slot entity).2 ⟨hslot, mem_entities_iff.1 hentity, hrelates⟩⟩

theorem Catalog.Keyed.has_mentioning_iff {catalog : Catalog} (hkeyed : catalog.Keyed) {slot : Slot}
    {entity : Entity} (hentity : (slot, entity) ∈ catalog.entities) (name : String) :
    (catalog.mentioning name).Has entity ↔ entity.Uses name := by
  rw [mentioning, hkeyed.has_related_iff (fun _ => Entity.mentions_iff) hentity, and_iff_right_iff_imp,
    ← hkeyed.slot_eq hentity]
  exact Entity.Uses.slot_mem

theorem Catalog.Keyed.has_extending_iff {catalog : Catalog} (hkeyed : catalog.Keyed) {slot : Slot}
    {entity : Entity} (hentity : (slot, entity) ∈ catalog.entities) (name : String) :
    (catalog.extending name).Has entity ↔ entity.Implements name ∨ entity.Contains name := by
  have hextends : ∀ other : Entity, (other.implements name || other.hasMember name) = true ↔
      other.Implements name ∨ other.Contains name := by
    intro other
    rw [Bool.or_eq_true, Entity.implements_iff, Entity.hasMember_iff]
  rw [extending, hkeyed.has_related_iff hextends hentity, and_iff_right_iff_imp, ← hkeyed.slot_eq hentity]
  exact Entity.slot_mem_of_extends

/--
A type of the catalog refers to exactly the names for which a relation lists it:
as one of the users of the name, or as one of those that extend it.
-/
theorem Schema.referenced_iff_related {documents : List Document} {schema : Schema}
    (h : Schema.ofDocuments documents = .ok schema) {slot : Slot} {type : TypeDef}
    (htype : (slot, .type type) ∈ schema.catalog.entities) (name : String) :
    name ∈ type.body.referenced ↔
      (schema.catalog.mentioning name).Has (.type type) ∨
        (schema.catalog.extending name).Has (.type type) := by
  have hkeyed := (Schema.keyed_of_ofDocuments h).catalog
  rw [hkeyed.has_mentioning_iff htype, hkeyed.has_extending_iff htype, ← TypeBody.mentions_iff,
    Entity.mentions_type_iff]

/-- An object that implements an interface and has a field of it. -/
def Document.referring : List Document :=
  [⟨some "a.graphql", "interface Node { id: ID } type Widget implements Node { peer(of: Kind): Node }"⟩,
    ⟨some "b.graphql", "enum Kind { BIG }"⟩]

theorem Schema.referenced_iff_related_referring :
    ∃ schema type, Schema.ofDocuments Document.referring = .ok schema ∧
      (.objects, .type type) ∈ schema.catalog.entities ∧ type.body.referenced = ["Node", "Node", "Kind"] ∧
      (∀ name ∈ ["Node", "Kind"], (schema.catalog.mentioning name).Has (.type type) ∨
        (schema.catalog.extending name).Has (.type type)) ∧
      ¬ (schema.catalog.mentioning "Widget").Has (.type type) := by
  have hreferring : (Schema.ofDocuments Document.referring).toOption.any (fun schema =>
      schema.catalog.objects.values.any fun entity =>
        entity.type?.any (·.body.referenced = ["Node", "Node", "Kind"])) = true := by
    decide +kernel
  obtain ⟨schema, hschema, hany⟩ := Schema.exists_of_any hreferring
  obtain ⟨entity, hentity, htype⟩ := List.any_eq_true.1 hany
  obtain ⟨type, hsome, hreferenced⟩ := (Option.any_eq_true _ _).1 htype
  obtain rfl := Entity.type?_eq_some_iff.1 hsome
  have hnames : type.body.referenced = ["Node", "Node", "Kind"] := of_decide_eq_true hreferenced
  have hfiled : (Slot.objects, Entity.type type) ∈ schema.catalog.entities :=
    Catalog.mem_entities_iff.2 hentity
  refine ⟨schema, type, hschema, hfiled, hnames, fun name hname => ?_, fun huses => ?_⟩
  · apply (Schema.referenced_iff_related hschema hfiled name).1
    rw [hnames]
    exact List.mem_cons_of_mem _ hname
  · have hwidget := (Schema.referenced_iff_related hschema hfiled "Widget").2 (.inl huses)
    rw [hnames] at hwidget
    exact absurd hwidget (by decide)

end SchemaDoc
