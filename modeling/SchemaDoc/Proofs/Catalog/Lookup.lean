-- SUMMARY: Entities of a catalog are found under their names, and what is found is in the catalog.
import SchemaDoc.Proofs.Catalog.Partition

/-!
# Looking up entities

In the catalog of a built schema an entity stands under its own name in its own
slot. So what is looked up is an entity of that name, a type is found under its
name, and no two entities of a slot have the same name.
-/

namespace SchemaDoc

/-- The type, if the entity is one. -/
def Entity.type? : Entity → Option TypeDef
  | .type t => some t
  | _ => none

theorem Entity.type?_eq_some_iff {entity : Entity} {type : TypeDef} :
    entity.type? = some type ↔ entity = .type type := by
  cases entity <;> simp [type?]

/-- Everything in a slot belongs there and stands under its own name. -/
def Catalog.Keyed (catalog : Catalog) : Prop :=
  ∀ slot, ∀ entry ∈ (catalog.slot slot).entries, entry.2.name = entry.1 ∧ entry.2.slot = slot

theorem Schema.keyed_of_ofDocuments {documents : List Document} {schema : Schema}
    (h : Schema.ofDocuments documents = .ok schema) : schema.Keyed := by
  obtain ⟨draft, declared, hcompletes⟩ := Schema.completes_of_ofDocuments h
  exact hcompletes.keyed

theorem Schema.Keyed.catalog {schema : Schema} (h : schema.Keyed) : schema.catalog.Keyed :=
  h.slot_catalog

namespace Catalog

variable {catalog : Catalog} {slot : Slot} {entity other : Entity}

theorem mem_entities_iff : (slot, entity) ∈ catalog.entities ↔ entity ∈ (catalog.slot slot).values := by
  simp only [entities, List.mem_flatMap, List.mem_map, Prod.mk.injEq]
  constructor
  · rintro ⟨_, -, _, hentity, rfl, rfl⟩
    exact hentity
  · intro hentity
    exact ⟨slot, by cases slot <;> decide, entity, hentity, rfl, rfl⟩

theorem mem_entities_of_mem_entries {name : String} (h : (name, entity) ∈ (catalog.slot slot).entries) :
    (slot, entity) ∈ catalog.entities :=
  mem_entities_iff.2 (List.mem_map_of_mem (f := Prod.snd) h)

namespace Keyed

theorem mem_entries (hkeyed : catalog.Keyed) (h : (slot, entity) ∈ catalog.entities) :
    (entity.name, entity) ∈ (catalog.slot slot).entries := by
  obtain ⟨name, hentry⟩ := OrderedMap.exists_mem_entries (mem_entities_iff.1 h)
  obtain rfl : entity.name = name := (hkeyed slot _ hentry).1
  exact hentry

theorem slot_eq (hkeyed : catalog.Keyed) (h : (slot, entity) ∈ catalog.entities) : entity.slot = slot :=
  (hkeyed slot _ (hkeyed.mem_entries h)).2

theorem unique (hkeyed : catalog.Keyed) (h : (slot, entity) ∈ catalog.entities)
    (hother : (slot, other) ∈ catalog.entities) (hname : other.name = entity.name) : other = entity := by
  have hfind := OrderedMap.find?_eq_some_iff.2 (hkeyed.mem_entries h)
  have hfindOther := OrderedMap.find?_eq_some_iff.2 (hkeyed.mem_entries hother)
  rw [hname, hfind] at hfindOther
  exact (Option.some.inj hfindOther).symm

/-- No two entities of one slot have the same name. -/
theorem nodup_names (hkeyed : catalog.Keyed) (slot : Slot) :
    ((catalog.slot slot).values.map Entity.name).Nodup := by
  have hnames : (catalog.slot slot).values.map Entity.name = (catalog.slot slot).keys :=
    OrderedMap.Keyed.map_values fun entry hentry => (hkeyed slot entry hentry).1
  rw [hnames]
  exact (catalog.slot slot).nodup

/-- What a name refers to is an entity of that name. -/
theorem of_findType? (hkeyed : catalog.Keyed) {name : String}
    (h : catalog.findType? name = some (slot, entity)) :
    (slot, entity) ∈ catalog.entities ∧ entity.name = name := by
  obtain ⟨found, -, hfound⟩ := List.exists_of_findSome?_eq_some h
  obtain ⟨_, hfind, heq⟩ := Option.map_eq_some_iff.1 hfound
  cases heq
  have hentry := OrderedMap.find?_eq_some_iff.1 hfind
  exact ⟨mem_entities_of_mem_entries hentry, (hkeyed _ _ hentry).1⟩

end Keyed

end Catalog

/-- Types are found under their names, also where a directive has the same name. -/
theorem Schema.Keyed.findType?_of_type {schema : Schema} (hkeyed : schema.Keyed) {slot : Slot}
    {type : TypeDef} (h : (slot, .type type) ∈ schema.catalog.entities) :
    schema.catalog.findType? type.name = some (slot, .type type) := by
  have hentry := hkeyed.catalog.mem_entries h
  obtain rfl : Slot.ofKind type.kind = slot := hkeyed.catalog.slot_eq h
  exact Schema.findType?_of_slot (OrderedMap.find?_eq_some_iff.2 hentry)

/-- A type in the catalog is the one of its name. -/
theorem Schema.Keyed.find?_of_type {schema : Schema} (hkeyed : schema.Keyed) {slot : Slot} {type : TypeDef}
    (h : (slot, .type type) ∈ schema.catalog.entities) : schema.types.find? type.name = some type := by
  have hentry := hkeyed.catalog.mem_entries h
  obtain rfl : Slot.ofKind type.kind = slot := hkeyed.catalog.slot_eq h
  obtain ⟨found, hfind, -, heq⟩ := Schema.find?_slot_ofKind (OrderedMap.find?_eq_some_iff.2 hentry)
  cases heq
  exact hfind

end SchemaDoc
