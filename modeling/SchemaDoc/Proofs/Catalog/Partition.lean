-- SUMMARY: A catalog files every type, operation and directive of a schema at most once, in its slot and in order.
import SchemaDoc.Catalog.Basic
import SchemaDoc.Proofs.Loading.Keyed

/-!
# Catalogs partition schemas

Filing goes through the operations, the types and the directives of a schema and
files each under its name. So a slot holds those that belong in it, in the order
of the schema. Types are left out by a pattern; it matches the names that begin
with two underscores and the names of root types, and no others.
-/

namespace SchemaDoc

/-! ## Matches at the start of a text -/

namespace Text.Pattern

variable {text : List Char} {place last : Nat}

theorem mem_ends_anyOf {first : Pattern} {rest : List Pattern} :
    last ∈ (anyOf first rest).ends text place ↔ ∃ pattern ∈ first :: rest, last ∈ pattern.ends text place := by
  induction rest generalizing first with
  | nil => simp [anyOf]
  | cons second rest ih => simp [anyOf, ends, ih]

theorem mem_ends_literal_zero {part : String} :
    last ∈ (literal part).ends text 0 ↔ part.toList <+: text ∧ last = part.toList.length := by
  rw [ends, List.drop_zero, Nat.zero_add, ← List.isPrefixOf_iff_prefix]
  split
  · next h => simp [h]
  · next h => simp [h]

/-- A text that begins with a literal and ends there is the literal. -/
theorem length_mem_ends_literal {part : String} :
    text.length ∈ (literal part).ends text 0 ↔ part.toList = text := by
  rw [mem_ends_literal_zero]
  constructor
  · rintro ⟨hbegins, hlength⟩
    exact hbegins.eq_of_length hlength.symm
  · rintro rfl
    exact ⟨List.prefix_rfl, rfl⟩

theorem length_mem_ends_anyOf {first : String} {rest : List String} {name : String} :
    name.toList.length ∈ (anyOf (literal first) (rest.map literal)).ends name.toList 0 ↔
      name ∈ first :: rest := by
  rw [mem_ends_anyOf, ← List.map_cons]
  constructor
  · rintro ⟨pattern, hpattern, hlast⟩
    obtain ⟨part, hpart, rfl⟩ := List.mem_map.1 hpattern
    rw [length_mem_ends_literal, String.toList_inj] at hlast
    exact hlast ▸ hpart
  · intro hmem
    exact ⟨literal name, List.mem_map_of_mem hmem, length_mem_ends_literal.2 rfl⟩

theorem mem_ends_seq_stop {pattern : Pattern} :
    last ∈ (seq pattern stop).ends text place ↔ last = text.length ∧ last ∈ pattern.ends text place := by
  rw [ends, List.mem_flatMap]
  constructor
  · rintro ⟨other, hother, hlast⟩
    rw [ends] at hlast
    split at hlast
    · next hend =>
      rw [List.mem_singleton] at hlast
      subst hlast
      exact ⟨hend, hother⟩
    · cases hlast
  · rintro ⟨hend, hmem⟩
    exact ⟨last, hmem, by rw [ends, if_pos hend]; exact List.mem_singleton_self _⟩

/-- A pattern that is tied to the start matches if it does so there. -/
theorem isMatch_start {pattern : Pattern} {text : String} :
    (seq start pattern).isMatch text = true ↔ ∃ last, last ∈ pattern.ends text.toList 0 := by
  rw [isMatch, List.any_eq_true]
  constructor
  · rintro ⟨place, -, hplace⟩
    rw [ends, ends] at hplace
    split at hplace
    · next hzero =>
      subst hzero
      rw [List.flatMap_singleton, Bool.not_eq_true', List.isEmpty_eq_false_iff] at hplace
      exact List.exists_mem_of_ne_nil _ hplace
    · cases hplace
  · rintro ⟨last, hlast⟩
    refine ⟨0, List.mem_range.2 (Nat.succ_pos _), ?_⟩
    rw [ends, ends, if_pos rfl, List.flatMap_singleton, Bool.not_eq_true', List.isEmpty_eq_false_iff]
    exact List.ne_nil_of_mem hlast

end Text.Pattern

/-! ## Names that are left out -/

namespace Schema

/-- Types of this name are listed: two underscores do not begin it, and no root type has it. -/
def Lists (schema : Schema) (name : String) : Prop :=
  ¬ "__".toList <+: name.toList ∧ ∀ kind, schema.roots.get kind ≠ some name

theorem mem_rootNames {schema : Schema} {name : String} :
    name ∈ OperationKind.all.filterMap schema.roots.get ↔ ∃ kind, schema.roots.get kind = some name := by
  rw [List.mem_filterMap]
  constructor
  · rintro ⟨kind, -, hkind⟩
    exact ⟨kind, hkind⟩
  · rintro ⟨kind, hkind⟩
    exact ⟨kind, by cases kind <;> decide, hkind⟩

instance (schema : Schema) (name : String) : Decidable (schema.Lists name) :=
  decidable_of_iff
    (¬ "__".toList <+: name.toList ∧ name ∉ OperationKind.all.filterMap schema.roots.get)
    (by rw [Lists, mem_rootNames, not_exists])

/-- The pattern leaves out what is not listed. -/
theorem isMatch_excludedNames {schema : Schema} {name : String} :
    schema.excludedNames.isMatch name = true ↔ ¬ schema.Lists name := by
  have hlists : ¬ schema.Lists name ↔ "__".toList <+: name.toList ∨
      name ∈ OperationKind.all.filterMap schema.roots.get := by
    rw [mem_rootNames, Lists, not_and_or, not_not, not_forall]
    simp only [not_not]
  rw [hlists, excludedNames]
  split
  · next hnone =>
    rw [Text.Pattern.isMatch_start, hnone]
    simp [Text.Pattern.mem_ends_literal_zero]
  · next first rest hsome =>
    rw [Text.Pattern.isMatch_start, hsome]
    have hreserved : (∃ last, last ∈ (Text.Pattern.literal "__").ends name.toList 0) ↔
        "__".toList <+: name.toList := by
      simp [Text.Pattern.mem_ends_literal_zero]
    have hroot : (∃ last, last ∈ (Text.Pattern.seq (.anyOf (.literal first) (rest.map .literal))
        .stop).ends name.toList 0) ↔ name ∈ first :: rest := by
      simp only [Text.Pattern.mem_ends_seq_stop, exists_eq_left, Text.Pattern.length_mem_ends_anyOf]
    rw [← hreserved, ← hroot, ← exists_or]
    simp only [Text.Pattern.ends, List.mem_append]

end Schema

/-! ## Filing -/

/-- An entity with its slot and the name under which it is filed. -/
structure Filing where
  slot : Slot
  name : String
  entity : Entity

/-- What is filed in a slot, under its name. -/
def Filing.inSlot (filings : List Filing) (slot : Slot) : List (String × Entity) :=
  (filings.filter (·.slot = slot)).map fun filing => (filing.name, filing.entity)

theorem Filing.inSlot_append (filings more : List Filing) (slot : Slot) :
    Filing.inSlot (filings ++ more) slot = Filing.inSlot filings slot ++ Filing.inSlot more slot := by
  rw [Filing.inSlot, Filing.inSlot, Filing.inSlot, List.filter_append, List.map_append]

theorem Filing.inSlot_eq_nil {filings : List Filing} {slot : Slot}
    (h : ∀ filing ∈ filings, filing.slot ≠ slot) : Filing.inSlot filings slot = [] := by
  rw [Filing.inSlot, List.map_eq_nil_iff, List.filter_eq_nil_iff]
  intro filing hfiling
  simpa using h filing hfiling

theorem Filing.inSlot_eq_map {filings : List Filing} {slot : Slot}
    (h : ∀ filing ∈ filings, filing.slot = slot) :
    Filing.inSlot filings slot = filings.map fun filing => (filing.name, filing.entity) := by
  rw [Filing.inSlot, List.filter_eq_self.2]
  intro filing hfiling
  simpa using h filing hfiling

theorem Slot.ofKind_inj {kind other : TypeKind} : Slot.ofKind kind = Slot.ofKind other ↔ kind = other := by
  cases kind <;> cases other <;> decide

theorem Slot.ofOperation_inj {kind other : OperationKind} :
    Slot.ofOperation kind = Slot.ofOperation other ↔ kind = other := by
  cases kind <;> cases other <;> decide

theorem Slot.ofKind_ne_ofOperation (kind : TypeKind) (operation : OperationKind) :
    Slot.ofKind kind ≠ Slot.ofOperation operation := by
  cases kind <;> cases operation <;> decide

theorem Slot.ofKind_ne_directives (kind : TypeKind) : Slot.ofKind kind ≠ .directives := by
  cases kind <;> decide

theorem Slot.ofOperation_ne_directives (kind : OperationKind) : Slot.ofOperation kind ≠ .directives := by
  cases kind <;> decide

namespace Catalog

/-- Files entities one after the other. -/
def enterAll (catalog : Catalog) (filings : List Filing) : Catalog :=
  filings.foldl (fun catalog filing => catalog.enter filing.slot filing.name filing.entity) catalog

theorem enterAll_append (catalog : Catalog) (filings more : List Filing) :
    catalog.enterAll (filings ++ more) = (catalog.enterAll filings).enterAll more := by
  rw [enterAll, enterAll, enterAll, List.foldl_append]

@[simp] theorem slot_empty (slot : Slot) : Catalog.empty.slot slot = .empty := by
  cases slot <;> rfl

/-- Filing in one slot leaves the others as they are. -/
theorem slot_enter (catalog : Catalog) (slot other : Slot) (name : String) (entity : Entity) :
    (catalog.enter slot name entity).slot other =
      if slot = other then (catalog.slot other).insert name entity else catalog.slot other := by
  cases slot <;> cases other <;> rfl

theorem slot_enterAll (catalog : Catalog) (filings : List Filing) (slot : Slot) :
    (catalog.enterAll filings).slot slot = (catalog.slot slot).insertAll (Filing.inSlot filings slot) := by
  induction filings generalizing catalog with
  | nil => rfl
  | cons filing rest ih =>
    have hstep : catalog.enterAll (filing :: rest) =
        (catalog.enter filing.slot filing.name filing.entity).enterAll rest := rfl
    rw [hstep, ih, slot_enter, Filing.inSlot, Filing.inSlot, List.filter_cons]
    by_cases hslot : filing.slot = slot
    · simp only [hslot, decide_true, if_true, List.map_cons]
      rfl
    · simp only [hslot, decide_false, Bool.false_eq_true, if_false]

end Catalog

namespace Schema

/-- The fields of the root type of an operation, if that names an object type. -/
def operationFields (schema : Schema) (kind : OperationKind) : List (String × Field) :=
  match ((schema.roots.get kind).bind schema.types.find?).map TypeDef.body with
  | some (.object _ fields) => fields.entries
  | _ => []

/-- The types of a kind that are listed. -/
def listedTypes (schema : Schema) (kind : TypeKind) : List (String × TypeDef) :=
  schema.types.entries.filter fun entry => schema.Lists entry.1 ∧ entry.2.kind = kind

def operationFilings (schema : Schema) (kind : OperationKind) : List Filing :=
  (schema.operationFields kind).map fun entry => ⟨.ofOperation kind, entry.1, .operation kind entry.2⟩

def typeFilings (schema : Schema) : List Filing :=
  (schema.types.entries.filter (schema.Lists ·.1)).map fun entry =>
    ⟨.ofKind entry.2.kind, entry.1, .type entry.2⟩

def directiveFilings (schema : Schema) : List Filing :=
  schema.directives.entries.map fun entry => ⟨.directives, entry.1, .directive entry.2⟩

/-- All that is filed for a schema. -/
def filings (schema : Schema) : List Filing :=
  OperationKind.all.flatMap schema.operationFilings ++ schema.typeFilings ++ schema.directiveFilings

theorem enterOperations_eq (schema : Schema) (catalog : Catalog) (kind : OperationKind) :
    schema.enterOperations catalog kind = catalog.enterAll (schema.operationFilings kind) := by
  rw [Catalog.enterAll, operationFilings, List.foldl_map]
  unfold enterOperations rootFields? operationFields
  cases hname : schema.roots.get kind with
  | none => rfl
  | some name =>
    cases htype : schema.types.find? name with
    | none => simp [htype]
    | some type =>
      cases hbody : type.body <;> simp [htype, hbody]

theorem enterTypes_eq (schema : Schema) (catalog : Catalog) :
    schema.types.entries.foldl (enterType schema.excludedNames) catalog =
      catalog.enterAll schema.typeFilings := by
  rw [Catalog.enterAll, typeFilings, List.foldl_map, List.foldl_filter]
  congr 1
  funext catalog entry
  by_cases hlists : schema.Lists entry.1
  · simp [enterType, isMatch_excludedNames, hlists]
  · simp [enterType, isMatch_excludedNames, hlists]

theorem catalog_eq (schema : Schema) : schema.catalog = Catalog.empty.enterAll schema.filings := by
  have hoperations : ∀ (kinds : List OperationKind) (catalog : Catalog),
      kinds.foldl schema.enterOperations catalog =
        catalog.enterAll (kinds.flatMap schema.operationFilings) := by
    intro kinds
    induction kinds with
    | nil => exact fun catalog => rfl
    | cons kind rest ih =>
      intro catalog
      rw [List.foldl_cons, ih, enterOperations_eq, List.flatMap_cons, Catalog.enterAll_append]
  have hdirectives : ∀ catalog : Catalog, schema.directives.entries.foldl
      (fun catalog entry => catalog.enter .directives entry.1 (.directive entry.2)) catalog =
        catalog.enterAll schema.directiveFilings := by
    intro catalog
    rw [Catalog.enterAll, directiveFilings, List.foldl_map]
  simp only [catalog, filings, Catalog.enterAll_append, hoperations, enterTypes_eq, hdirectives]

/-! ## What the slots hold -/

variable {schema : Schema} {filing : Filing}

theorem slot_of_mem_operationFilings {kind : OperationKind} (h : filing ∈ schema.operationFilings kind) :
    filing.slot = .ofOperation kind := by
  obtain ⟨entry, -, rfl⟩ := List.mem_map.1 h
  rfl

theorem slot_of_mem_typeFilings (h : filing ∈ schema.typeFilings) :
    ∃ kind, filing.slot = .ofKind kind := by
  obtain ⟨entry, -, rfl⟩ := List.mem_map.1 h
  exact ⟨entry.2.kind, rfl⟩

theorem slot_of_mem_directiveFilings (h : filing ∈ schema.directiveFilings) :
    filing.slot = .directives := by
  obtain ⟨entry, -, rfl⟩ := List.mem_map.1 h
  rfl

theorem slot_of_mem_allOperationFilings
    (h : filing ∈ OperationKind.all.flatMap schema.operationFilings) :
    ∃ kind, filing.slot = .ofOperation kind := by
  obtain ⟨kind, -, hfiling⟩ := List.mem_flatMap.1 h
  exact ⟨kind, slot_of_mem_operationFilings hfiling⟩

theorem inSlot_operationFilings (schema : Schema) (kind other : OperationKind) :
    Filing.inSlot (schema.operationFilings other) (.ofOperation kind) =
      if other = kind then (schema.operationFields kind).map fun entry => (entry.1, .operation kind entry.2)
      else [] := by
  by_cases hkind : other = kind
  · subst hkind
    rw [if_pos rfl, Filing.inSlot_eq_map fun filing => slot_of_mem_operationFilings, operationFilings,
      List.map_map]
    rfl
  · rw [if_neg hkind, Filing.inSlot_eq_nil]
    intro filing hfiling hslot
    exact hkind (Slot.ofOperation_inj.1 ((slot_of_mem_operationFilings hfiling).symm.trans hslot))

theorem inSlot_typeFilings (schema : Schema) (kind : TypeKind) :
    Filing.inSlot schema.typeFilings (.ofKind kind) =
      (schema.listedTypes kind).map fun entry => (entry.1, .type entry.2) := by
  rw [Filing.inSlot, typeFilings, List.filter_map, List.map_map, List.filter_filter, listedTypes]
  congr 1
  apply List.filter_congr
  intro entry _
  simp [Slot.ofKind_inj, Bool.and_comm]

theorem inSlot_filings_ofKind (schema : Schema) (kind : TypeKind) :
    Filing.inSlot schema.filings (.ofKind kind) =
      (schema.listedTypes kind).map fun entry => (entry.1, .type entry.2) := by
  have hoperations : Filing.inSlot (OperationKind.all.flatMap schema.operationFilings) (.ofKind kind) = [] := by
    apply Filing.inSlot_eq_nil
    intro filing hfiling hslot
    obtain ⟨operation, hoperation⟩ := slot_of_mem_allOperationFilings hfiling
    exact Slot.ofKind_ne_ofOperation kind operation (hslot.symm.trans hoperation)
  have hdirectives : Filing.inSlot schema.directiveFilings (.ofKind kind) = [] := by
    apply Filing.inSlot_eq_nil
    intro filing hfiling hslot
    exact Slot.ofKind_ne_directives kind (hslot.symm.trans (slot_of_mem_directiveFilings hfiling))
  rw [filings, Filing.inSlot_append, Filing.inSlot_append, hoperations, hdirectives, inSlot_typeFilings,
    List.nil_append, List.append_nil]

theorem inSlot_filings_ofOperation (schema : Schema) (kind : OperationKind) :
    Filing.inSlot schema.filings (.ofOperation kind) =
      (schema.operationFields kind).map fun entry => (entry.1, .operation kind entry.2) := by
  have htypes : Filing.inSlot schema.typeFilings (.ofOperation kind) = [] := by
    apply Filing.inSlot_eq_nil
    intro filing hfiling hslot
    obtain ⟨typeKind, htypeKind⟩ := slot_of_mem_typeFilings hfiling
    exact Slot.ofKind_ne_ofOperation typeKind kind (htypeKind.symm.trans hslot)
  have hdirectives : Filing.inSlot schema.directiveFilings (.ofOperation kind) = [] := by
    apply Filing.inSlot_eq_nil
    intro filing hfiling hslot
    exact Slot.ofOperation_ne_directives kind (hslot.symm.trans (slot_of_mem_directiveFilings hfiling))
  have hoperations : Filing.inSlot (OperationKind.all.flatMap schema.operationFilings) (.ofOperation kind) =
      (schema.operationFields kind).map fun entry => (entry.1, .operation kind entry.2) := by
    simp only [OperationKind.all, List.flatMap_cons, List.flatMap_nil, Filing.inSlot_append,
      inSlot_operationFilings]
    cases kind <;> simp [Filing.inSlot]
  rw [filings, Filing.inSlot_append, Filing.inSlot_append, hoperations, htypes, hdirectives,
    List.append_nil, List.append_nil]

theorem inSlot_filings_directives (schema : Schema) :
    Filing.inSlot schema.filings .directives =
      schema.directives.entries.map fun entry => (entry.1, .directive entry.2) := by
  have hoperations : Filing.inSlot (OperationKind.all.flatMap schema.operationFilings) .directives = [] := by
    apply Filing.inSlot_eq_nil
    intro filing hfiling hslot
    obtain ⟨operation, hoperation⟩ := slot_of_mem_allOperationFilings hfiling
    exact Slot.ofOperation_ne_directives operation (hoperation.symm.trans hslot)
  have htypes : Filing.inSlot schema.typeFilings .directives = [] := by
    apply Filing.inSlot_eq_nil
    intro filing hfiling hslot
    obtain ⟨typeKind, htypeKind⟩ := slot_of_mem_typeFilings hfiling
    exact Slot.ofKind_ne_directives typeKind (htypeKind.symm.trans hslot)
  rw [filings, Filing.inSlot_append, Filing.inSlot_append, hoperations, htypes, List.nil_append,
    List.nil_append, Filing.inSlot_eq_map fun filing => slot_of_mem_directiveFilings, directiveFilings,
    List.map_map]
  rfl

/-- Names do not repeat in a slot, so filing keeps what is filed as it is. -/
theorem entries_slot_catalog {slot : Slot} {α : Type} {items : List (String × α)}
    {entity : α → Entity}
    (hitems : Filing.inSlot schema.filings slot = items.map fun item => (item.1, entity item.2))
    (hnodup : (items.map Prod.fst).Nodup) :
    (schema.catalog.slot slot).entries = items.map fun item => (item.1, entity item.2) := by
  rw [catalog_eq, Catalog.slot_enterAll, Catalog.slot_empty, hitems, OrderedMap.entries_insertAll_of_nodup]
  · rfl
  · rw [List.map_map]
    exact hnodup

theorem entries_slot_ofKind (schema : Schema) (kind : TypeKind) :
    (schema.catalog.slot (.ofKind kind)).entries =
      (schema.listedTypes kind).map fun entry => (entry.1, .type entry.2) :=
  entries_slot_catalog (schema.inSlot_filings_ofKind kind)
    (List.Nodup.sublist (List.filter_sublist.map Prod.fst) schema.types.nodup)

theorem entries_slot_ofOperation (schema : Schema) (kind : OperationKind) :
    (schema.catalog.slot (.ofOperation kind)).entries =
      (schema.operationFields kind).map fun entry => (entry.1, .operation kind entry.2) := by
  apply entries_slot_catalog (schema.inSlot_filings_ofOperation kind)
  unfold operationFields
  split
  · next interfaces fields _ => exact fields.nodup
  · exact List.nodup_nil

theorem entries_slot_directives (schema : Schema) :
    (schema.catalog.slot .directives).entries =
      schema.directives.entries.map fun entry => (entry.1, .directive entry.2) :=
  entries_slot_catalog schema.inSlot_filings_directives schema.directives.nodup

/-- A listed type is filed in the slot of its kind only, any other type in none. -/
theorem mem_keys_slot_ofKind {name : String} {type : TypeDef}
    (h : schema.types.find? name = some type) (kind : TypeKind) :
    name ∈ (schema.catalog.slot (.ofKind kind)).keys ↔ schema.Lists name ∧ type.kind = kind := by
  rw [OrderedMap.keys, entries_slot_ofKind, List.map_map]
  constructor
  · intro hmem
    obtain ⟨⟨other, found⟩, hentry, rfl⟩ := List.mem_map.1 hmem
    obtain ⟨htypes, hfilter⟩ := List.mem_filter.1 hentry
    have hfind := OrderedMap.find?_eq_some_iff.2 htypes
    have hfound : schema.types.find? other = some type := h
    rw [hfind, Option.some.injEq] at hfound
    subst hfound
    exact of_decide_eq_true hfilter
  · intro hlists
    apply List.mem_map.2
    refine ⟨(name, type), List.mem_filter.2 ⟨OrderedMap.find?_eq_some_iff.1 h, ?_⟩, rfl⟩
    exact decide_eq_true hlists

theorem find?_slot_ofKind {kind : TypeKind} {name : String} {entity : Entity}
    (h : (schema.catalog.slot (.ofKind kind)).find? name = some entity) :
    ∃ type, schema.types.find? name = some type ∧ type.kind = kind ∧ entity = .type type := by
  have hmem := OrderedMap.find?_eq_some_iff.1 h
  rw [entries_slot_ofKind] at hmem
  obtain ⟨⟨other, type⟩, hentry, heq⟩ := List.mem_map.1 hmem
  cases heq
  obtain ⟨htypes, hfilter⟩ := List.mem_filter.1 hentry
  exact ⟨type, OrderedMap.find?_eq_some_iff.2 htypes, (of_decide_eq_true hfilter).2, rfl⟩

end Schema

/-! ## Looking types up -/

/-- If one item only has a value, it does not matter where the item stands. -/
theorem findSome?_eq_of_unique {α β : Type} {f : α → Option β} {items : List α} {item : α} {value : β}
    (hmem : item ∈ items) (hvalue : f item = some value)
    (hothers : ∀ other ∈ items, other ≠ item → f other = none) : items.findSome? f = some value := by
  induction items with
  | nil => cases hmem
  | cons first rest ih =>
    rw [List.findSome?_cons]
    by_cases hfirst : first = item
    · rw [hfirst, hvalue]
    · rw [hothers first List.mem_cons_self hfirst]
      refine ih ((List.mem_cons.1 hmem).resolve_left fun heq => hfirst heq.symm) ?_
      intro other hother
      exact hothers other (List.mem_cons_of_mem _ hother)

/-- The kinds of types in the order in which their slots are searched. -/
def TypeKind.lookupOrder : List TypeKind := [.enum, .union, .interface, .object, .input, .scalar]

/-- Types are searched before directives, and a name is that of one type only. -/
theorem Schema.findType?_of_slot {schema : Schema} {kind : TypeKind} {name : String} {entity : Entity}
    (h : (schema.catalog.slot (.ofKind kind)).find? name = some entity) :
    schema.catalog.findType? name = some (.ofKind kind, entity) := by
  have horder : Slot.lookupOrder = TypeKind.lookupOrder.map .ofKind ++ [.directives] := rfl
  have hkind : kind ∈ TypeKind.lookupOrder := by cases kind <;> decide
  have hkinds : TypeKind.lookupOrder.findSome? (fun other =>
      ((schema.catalog.slot (.ofKind other)).find? name).map (Slot.ofKind other, ·)) =
        some (.ofKind kind, entity) := by
    apply findSome?_eq_of_unique hkind
    · rw [h]
      rfl
    · intro other _ hother
      obtain ⟨type, htype, htypeKind, -⟩ := Schema.find?_slot_ofKind h
      have hnone : (schema.catalog.slot (.ofKind other)).find? name = none := by
        rw [OrderedMap.find?_eq_none_iff, Schema.mem_keys_slot_ofKind htype]
        exact fun hlists => hother (hlists.2.symm.trans htypeKind)
      rw [hnone]
      rfl
  rw [Catalog.findType?, horder, List.findSome?_append, List.findSome?_map]
  exact (congrArg (Option.or · _) hkinds).trans rfl

/-! ## Catalogs of built schemas -/

/-- A catalog files what a schema lists, each entity once, in order and under its name. -/
structure Catalog.Partitions (catalog : Catalog) (schema : Schema) : Prop where
  types : ∀ kind, (catalog.slot (.ofKind kind)).entries =
    (schema.listedTypes kind).map fun entry => (entry.1, .type entry.2)
  operations : ∀ kind, (catalog.slot (.ofOperation kind)).entries =
    (schema.operationFields kind).map fun entry => (entry.1, .operation kind entry.2)
  directives : (catalog.slot .directives).entries =
    schema.directives.entries.map fun entry => (entry.1, .directive entry.2)
  once : ∀ name type, schema.types.find? name = some type → ∀ kind,
    name ∈ (catalog.slot (.ofKind kind)).keys ↔ schema.Lists name ∧ type.kind = kind
  named : ∀ slot, ∀ entry ∈ (catalog.slot slot).entries, entry.2.name = entry.1 ∧ entry.2.slot = slot
  found : ∀ kind name entity, (catalog.slot (.ofKind kind)).find? name = some entity →
    catalog.findType? name = some (.ofKind kind, entity)

theorem Catalog.Partitions.keys_types {catalog : Catalog} {schema : Schema} (h : catalog.Partitions schema)
    (kind : TypeKind) : (catalog.slot (.ofKind kind)).keys = (schema.listedTypes kind).map Prod.fst := by
  rw [OrderedMap.keys, h.types, List.map_map]
  rfl

theorem Catalog.Partitions.keys_operations {catalog : Catalog} {schema : Schema} (h : catalog.Partitions schema)
    (kind : OperationKind) : (catalog.slot (.ofOperation kind)).keys = (schema.operationFields kind).map Prod.fst := by
  rw [OrderedMap.keys, h.operations, List.map_map]
  rfl

theorem Slot.cases_of (slot : Slot) :
    (∃ kind, slot = .ofKind kind) ∨ (∃ kind, slot = .ofOperation kind) ∨ slot = .directives := by
  cases slot
  case queries => exact .inr (.inl ⟨.query, rfl⟩)
  case mutations => exact .inr (.inl ⟨.mutation, rfl⟩)
  case subscriptions => exact .inr (.inl ⟨.subscription, rfl⟩)
  case directives => exact .inr (.inr rfl)
  case objects => exact .inl ⟨.object, rfl⟩
  case unions => exact .inl ⟨.union, rfl⟩
  case interfaces => exact .inl ⟨.interface, rfl⟩
  case enums => exact .inl ⟨.enum, rfl⟩
  case inputs => exact .inl ⟨.input, rfl⟩
  case scalars => exact .inl ⟨.scalar, rfl⟩

/-- Operations are the fields of some object type. -/
theorem Schema.exists_root_of_mem_operationFields {schema : Schema} {kind : OperationKind}
    {entry : String × Field} (h : entry ∈ schema.operationFields kind) :
    ∃ type ∈ schema.types.values, ∃ interfaces fields, type.body = .object interfaces fields ∧
      entry ∈ fields.entries := by
  unfold Schema.operationFields at h
  split at h
  · next interfaces fields hbody =>
    obtain ⟨type, htype, hobject⟩ := Option.map_eq_some_iff.1 hbody
    obtain ⟨name, -, hfind⟩ := Option.bind_eq_some_iff.1 htype
    have hmem : type ∈ schema.types.values :=
      List.mem_map_of_mem (f := Prod.snd) (OrderedMap.find?_eq_some_iff.1 hfind)
    exact ⟨type, hmem, interfaces, fields, hobject, h⟩
  · cases h

theorem Schema.Keyed.operationFields {schema : Schema} (h : schema.Keyed) {kind : OperationKind}
    {entry : String × Field} (hentry : entry ∈ schema.operationFields kind) : entry.2.name = entry.1 := by
  obtain ⟨type, htype, interfaces, fields, hbody, hmem⟩ := Schema.exists_root_of_mem_operationFields hentry
  have hkeyed := h.members type htype
  rw [hbody] at hkeyed
  exact hkeyed.1 entry hmem

/-- Everything in a slot belongs there and stands under its name. -/
theorem Schema.Keyed.slot_catalog {schema : Schema} (h : schema.Keyed) (slot : Slot) :
    ∀ entry ∈ (schema.catalog.slot slot).entries, entry.2.name = entry.1 ∧ entry.2.slot = slot := by
  rintro ⟨name, entity⟩ hmem
  rcases slot.cases_of with ⟨kind, rfl⟩ | ⟨kind, rfl⟩ | rfl
  · rw [Schema.entries_slot_ofKind] at hmem
    obtain ⟨⟨key, type⟩, hentry, heq⟩ := List.mem_map.1 hmem
    cases heq
    obtain ⟨htypes, hfilter⟩ := List.mem_filter.1 hentry
    exact ⟨h.types _ htypes, congrArg Slot.ofKind (of_decide_eq_true hfilter).2⟩
  · rw [Schema.entries_slot_ofOperation] at hmem
    obtain ⟨⟨key, field⟩, hentry, heq⟩ := List.mem_map.1 hmem
    cases heq
    exact ⟨h.operationFields hentry, rfl⟩
  · rw [Schema.entries_slot_directives] at hmem
    obtain ⟨⟨key, directive⟩, hentry, heq⟩ := List.mem_map.1 hmem
    cases heq
    exact ⟨h.directives _ hentry, rfl⟩

theorem Schema.catalog_partitions {documents : List Document} {schema : Schema}
    (h : Schema.ofDocuments documents = .ok schema) : schema.catalog.Partitions schema := by
  obtain ⟨draft, declared, hcompletes⟩ := Schema.completes_of_ofDocuments h
  exact {
    types := schema.entries_slot_ofKind
    operations := schema.entries_slot_ofOperation
    directives := schema.entries_slot_directives
    once := fun name type htype kind => Schema.mem_keys_slot_ofKind htype kind
    named := hcompletes.keyed.slot_catalog
    found := fun kind name entity hfind => Schema.findType?_of_slot hfind }

/-- A schema with a root type of its own choice, and one that does not exist. -/
def Document.chosenRoots : List Document :=
  [⟨some "a.graphql", "schema { query: Root mutation: T1 } type Root { t: T } type T { x: Int }"⟩]

/-- The root type is left out and its field is an operation; a type whose name only begins that of a root is listed. -/
theorem Schema.catalog_partitions_chosenRoots :
    ∃ schema, Schema.ofDocuments Document.chosenRoots = .ok schema ∧ schema.catalog.Partitions schema ∧
      (schema.catalog.slot .queries).keys = ["t"] ∧ (schema.catalog.slot .mutations).keys = [] ∧
        (schema.catalog.slot .objects).keys = ["T"] ∧
          (schema.catalog.slot .scalars).keys = ["Int", "Boolean", "String"] ∧
            (∀ kind, "Root" ∉ (schema.catalog.slot (.ofKind kind)).keys) ∧
              ∃ type, schema.catalog.findType? "T" = some (.objects, .type type) := by
  have hlisted : (Schema.ofDocuments Document.chosenRoots).toOption.any (fun schema => decide (
      (schema.operationFields .query).map Prod.fst = ["t"] ∧ (schema.operationFields .mutation).map Prod.fst = [] ∧
        (schema.listedTypes .object).map Prod.fst = ["T"] ∧
          (schema.listedTypes .scalar).map Prod.fst = ["Int", "Boolean", "String"] ∧
            "Root" ∈ schema.types.keys ∧ ¬ schema.Lists "Root")) = true := by
    decide +kernel
  obtain ⟨schema, hschema, hnames⟩ := Schema.exists_of_any hlisted
  obtain ⟨hqueries, hmutations, hobjects, hscalars, hroot, hunlisted⟩ := of_decide_eq_true hnames
  have hpartitions := Schema.catalog_partitions hschema
  have hT : "T" ∈ (schema.catalog.slot (.ofKind .object)).keys := by
    rw [hpartitions.keys_types, hobjects]
    exact List.mem_singleton_self _
  obtain ⟨entity, hentity⟩ := Option.isSome_iff_exists.1 (OrderedMap.find?_isSome_iff.2 hT)
  obtain ⟨type, -, -, rfl⟩ := Schema.find?_slot_ofKind hentity
  obtain ⟨root, hfind⟩ := Option.isSome_iff_exists.1 (OrderedMap.find?_isSome_iff.2 hroot)
  refine ⟨schema, hschema, hpartitions, (hpartitions.keys_operations .query).trans hqueries,
    (hpartitions.keys_operations .mutation).trans hmutations, (hpartitions.keys_types .object).trans hobjects,
    (hpartitions.keys_types .scalar).trans hscalars, fun kind hmem => ?_, type, ?_⟩
  · exact hunlisted ((hpartitions.once _ root hfind kind).1 hmem).1
  · exact hpartitions.found .object _ _ hentity

end SchemaDoc
