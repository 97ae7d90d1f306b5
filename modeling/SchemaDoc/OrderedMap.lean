-- SUMMARY: Maps from names to values that keep the order in which the names first appeared.

/-!
# Ordered maps

A map lists its entries in the order in which their names were first inserted.
Inserting a name that is already there replaces its value and keeps its place.
No name occurs twice; the type carries this.
-/

namespace SchemaDoc

/-- Entries with pairwise different names, in order of first insertion. -/
structure OrderedMap (α : Type) where
  entries : List (String × α)
  nodup : (entries.map Prod.fst).Nodup

namespace OrderedMap

variable {α β : Type}

@[ext] theorem ext {m n : OrderedMap α} (h : m.entries = n.entries) : m = n := by
  cases m; cases n; simp_all

/-! ## Views -/

/-- The names in order. -/
def keys (m : OrderedMap α) : List String :=
  m.entries.map Prod.fst

/-- The values in the order of their names. -/
def values (m : OrderedMap α) : List α :=
  m.entries.map Prod.snd

def isEmpty (m : OrderedMap α) : Bool :=
  m.entries.isEmpty

/-- The value under a name. -/
def find? (m : OrderedMap α) (name : String) : Option α :=
  m.entries.lookup name

def contains (m : OrderedMap α) (name : String) : Bool :=
  m.keys.contains name

/-! ## Insertion -/

def empty : OrderedMap α := ⟨[], List.nodup_nil⟩

instance : Inhabited (OrderedMap α) := ⟨empty⟩

/-- Replaces the value of the first entry of that name, or adds an entry at the end. -/
def upsert (name : String) (value : α) : List (String × α) → List (String × α)
  | [] => [(name, value)]
  | entry :: rest =>
    if entry.1 = name then (name, value) :: rest else entry :: upsert name value rest

theorem map_fst_upsert (name : String) (value : α) (entries : List (String × α)) :
    (upsert name value entries).map Prod.fst =
      if name ∈ entries.map Prod.fst then entries.map Prod.fst
      else entries.map Prod.fst ++ [name] := by
  induction entries with
  | nil => rfl
  | cons entry rest ih =>
    simp only [upsert]
    split
    · next h => simp [h]
    · next h =>
      have h' : name ≠ entry.1 := fun e => h e.symm
      simp only [List.map_cons, ih, List.mem_cons, h', false_or]
      split <;> simp

theorem nodup_upsert (name : String) (value : α) (entries : List (String × α))
    (h : (entries.map Prod.fst).Nodup) : ((upsert name value entries).map Prod.fst).Nodup := by
  rw [map_fst_upsert]
  split
  · exact h
  · next hn =>
    refine List.nodup_append.2 ⟨h, by simp, ?_⟩
    intro a ha b hb
    simp only [List.mem_singleton] at hb
    subst hb
    exact fun e => hn (e ▸ ha)

/-- Enters a value under a name. -/
def insert (m : OrderedMap α) (name : String) (value : α) : OrderedMap α :=
  ⟨upsert name value m.entries, nodup_upsert name value m.entries m.nodup⟩

/-- Inserts the entries from left to right. -/
def insertAll (m : OrderedMap α) (entries : List (String × α)) : OrderedMap α :=
  entries.foldl (fun m entry => m.insert entry.1 entry.2) m

/-- Each name stands where it first occurs and has the value of its last occurrence. -/
def ofList (entries : List (String × α)) : OrderedMap α :=
  empty.insertAll entries

/-- Adds an entry at the end unless the name is there already. -/
def insertNew (m : OrderedMap α) (name : String) (value : α) : OrderedMap α :=
  if m.contains name then m else m.insert name value

/-! ## Maps of maps -/

theorem nodup_filterMap (f : String → α → Option β) (entries : List (String × α))
    (h : (entries.map Prod.fst).Nodup) :
    ((entries.filterMap fun e => (f e.1 e.2).map (e.1, ·)).map Prod.fst).Nodup := by
  refine List.Nodup.sublist ?_ h
  clear h
  induction entries with
  | nil => simp
  | cons entry rest ih =>
    simp only [List.filterMap_cons, List.map_cons]
    cases f entry.1 entry.2 with
    | none => exact ih.cons _
    | some b => exact ih.cons_cons _

/-- Keeps the entries to which `f` assigns a value, with that value. -/
def filterMap (m : OrderedMap α) (f : String → α → Option β) : OrderedMap β :=
  ⟨m.entries.filterMap fun e => (f e.1 e.2).map (e.1, ·), nodup_filterMap f m.entries m.nodup⟩

def map (m : OrderedMap α) (f : α → β) : OrderedMap β :=
  m.filterMap fun _ a => some (f a)

/-! ## What the operations do to the views -/

@[simp] theorem entries_empty : (empty : OrderedMap α).entries = [] := rfl

theorem keys_insert (m : OrderedMap α) (name : String) (value : α) :
    (m.insert name value).keys = if name ∈ m.keys then m.keys else m.keys ++ [name] :=
  map_fst_upsert name value m.entries

theorem contains_iff {m : OrderedMap α} {name : String} : m.contains name = true ↔ name ∈ m.keys := by
  simp [contains]

theorem lookup_upsert (name other : String) (value : α) (entries : List (String × α)) :
    (upsert name value entries).lookup other =
      if other = name then some value else entries.lookup other := by
  induction entries with
  | nil =>
    by_cases h : other = name
    · simp [upsert, h]
    · simp [upsert, h, List.lookup_cons, beq_false_of_ne h]
  | cons entry rest ih =>
    obtain ⟨k, v⟩ := entry
    simp only [upsert]
    by_cases hk : k = name
    · subst hk
      by_cases h : other = k
      · simp [h]
      · simp [h, List.lookup_cons, beq_false_of_ne h]
    · simp only [hk, if_false, List.lookup_cons, ih]
      by_cases h : other = name
      · subst h
        simp [beq_false_of_ne (Ne.symm hk)]
      · simp [h]

theorem find?_insert (m : OrderedMap α) (name other : String) (value : α) :
    (m.insert name value).find? other = if other = name then some value else m.find? other :=
  lookup_upsert name other value m.entries

@[simp] theorem entries_map (m : OrderedMap α) (f : α → β) :
    (m.map f).entries = m.entries.map fun e => (e.1, f e.2) := by
  simp [map, filterMap]

@[simp] theorem keys_map (m : OrderedMap α) (f : α → β) : (m.map f).keys = m.keys := by
  simp [keys]

end OrderedMap

end SchemaDoc
