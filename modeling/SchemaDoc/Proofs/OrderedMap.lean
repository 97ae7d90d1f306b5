-- SUMMARY: What ordered maps hold after insertions: their names in order and the value of each name.
import SchemaDoc.OrderedMap

/-!
# The content of ordered maps

A map is determined by its names in order and by the value of each name. For the
two ways to insert many entries both are given in terms of the entries: names
stand in the order of their first occurrences, and the value of a name is that
of its last occurrence if insertion replaces values (`insertAll`), of its first
if it does not (`insertAllNew`).
-/

namespace SchemaDoc

/-! ## First occurrences -/

theorem eraseDups_of_nodup {names : List String} (h : names.Nodup) : names.eraseDups = names := by
  induction names with
  | nil => rfl
  | cons name rest ih =>
    rw [List.nodup_cons] at h
    have hfilter : rest.filter (fun other => !other == name) = rest := by
      apply List.filter_eq_self.2
      intro other hother
      have hne : other ≠ name := fun e => h.1 (e ▸ hother)
      simpa using hne
    rw [List.eraseDups_cons, hfilter, ih h.2]

theorem nodup_eraseDups (names : List String) : names.eraseDups.Nodup := by
  induction hn : names.length using Nat.strongRecOn generalizing names with
  | ind n ih =>
    cases names with
    | nil => exact List.nodup_nil
    | cons name rest =>
      subst hn
      rw [List.eraseDups_cons, List.nodup_cons]
      refine ⟨?_, ih _ (Nat.lt_succ_of_le (List.length_filter_le _ _)) _ rfl⟩
      rw [List.mem_eraseDups, List.mem_filter]
      simp

/-- Names that stand before are what matters of a list when more names follow. -/
theorem eraseDups_append_congr {names names' : List String} (more : List String)
    (h : names.eraseDups = names'.eraseDups) :
    (names ++ more).eraseDups = (names' ++ more).eraseDups := by
  have hmem : ∀ name, name ∈ names ↔ name ∈ names' := by
    intro name
    rw [← List.mem_eraseDups, h, List.mem_eraseDups]
  have hremove : more.removeAll names = more.removeAll names' := by
    apply List.filter_congr
    intro name _
    simp [hmem name]
  rw [List.eraseDups_append, List.eraseDups_append, h, hremove]

theorem eraseDups_filter (names : List String) (keep : String → Bool) :
    (names.filter keep).eraseDups = names.eraseDups.filter keep := by
  induction hn : names.length using Nat.strongRecOn generalizing names with
  | ind n ih =>
    cases names with
    | nil => rfl
    | cons name rest =>
      subst hn
      have hrest := ih _ (Nat.lt_succ_of_le (List.length_filter_le _ _))
        (rest.filter fun other => !other == name) rfl
      by_cases hk : keep name
      · rw [List.filter_cons_of_pos hk, List.eraseDups_cons, List.eraseDups_cons,
          List.filter_cons_of_pos hk, ← hrest, List.filter_filter, List.filter_filter]
        simp only [Bool.and_comm]
      · rw [List.filter_cons_of_neg hk, List.eraseDups_cons, List.filter_cons_of_neg hk, ← hrest,
          List.filter_filter]
        congr 1
        apply List.filter_congr
        intro other _
        by_cases ho : other = name
        · simp [ho, hk]
        · simp [ho]

namespace OrderedMap

variable {α β : Type}

/-! ## Names and values -/

theorem find?_eq_none_iff {m : OrderedMap α} {name : String} :
    m.find? name = none ↔ name ∉ m.keys := by
  simp only [find?, List.lookup_eq_none_iff, keys, List.mem_map, not_exists, not_and]
  constructor
  · intro h entry hentry hname
    exact absurd (h entry hentry) (by simp [hname])
  · intro h entry hentry
    have hne : name ≠ entry.1 := fun e => h entry hentry e.symm
    simpa using hne

theorem find?_isSome_iff {m : OrderedMap α} {name : String} :
    (m.find? name).isSome ↔ name ∈ m.keys := by
  rw [Option.isSome_iff_ne_none, Ne, find?_eq_none_iff, Decidable.not_not]

/-- The names differ, so an entry is what is found under its name. -/
theorem lookup_eq_some_of_mem {entries : List (String × α)} {name : String} {value : α}
    (hnodup : (entries.map Prod.fst).Nodup) (h : (name, value) ∈ entries) :
    entries.lookup name = some value := by
  induction entries with
  | nil => cases h
  | cons entry rest ih =>
    obtain ⟨first, content⟩ := entry
    rw [List.map_cons, List.nodup_cons] at hnodup
    rcases List.mem_cons.1 h with heq | hrest
    · cases heq
      simp
    · have hmem : name ∈ rest.map Prod.fst := List.mem_map_of_mem (f := Prod.fst) hrest
      have hne : name ≠ first := fun e => hnodup.1 (e ▸ hmem)
      rw [List.lookup_cons, beq_false_of_ne hne]
      exact ih hnodup.2 hrest

theorem mem_of_lookup_eq_some {entries : List (String × α)} {name : String} {value : α}
    (h : entries.lookup name = some value) : (name, value) ∈ entries := by
  obtain ⟨before, after, rfl, -⟩ := List.lookup_eq_some_iff.1 h
  simp

theorem find?_eq_some_iff {m : OrderedMap α} {name : String} {value : α} :
    m.find? name = some value ↔ (name, value) ∈ m.entries :=
  ⟨mem_of_lookup_eq_some, lookup_eq_some_of_mem m.nodup⟩

theorem contains_eq_isSome (m : OrderedMap α) (name : String) : m.contains name = (m.find? name).isSome := by
  rw [Bool.eq_iff_iff, contains_iff, find?_isSome_iff]

theorem mem_values_iff {m : OrderedMap α} {value : α} :
    value ∈ m.values ↔ ∃ name, m.find? name = some value := by
  simp only [find?_eq_some_iff, values, List.mem_map, Prod.exists, exists_eq_right]

theorem isEmpty_iff {m : OrderedMap α} : m.isEmpty = true ↔ m.values = [] := by
  rw [isEmpty, List.isEmpty_iff, values, List.map_eq_nil_iff]

theorem find?_filterMap (m : OrderedMap α) (f : String → α → Option β) (name : String) :
    (m.filterMap f).find? name = (m.find? name).bind (f name) := by
  apply Option.ext
  intro b
  simp only [find?_eq_some_iff, Option.bind_eq_some_iff, filterMap, List.mem_filterMap,
    Option.map_eq_some_iff, Prod.mk.injEq]
  constructor
  · rintro ⟨⟨key, a⟩, hmem, _, hvalue, rfl, rfl⟩
    exact ⟨a, hmem, hvalue⟩
  · rintro ⟨a, hmem, hvalue⟩
    exact ⟨(name, a), hmem, b, hvalue, rfl, rfl⟩

/-- Names are kept if they are given a value, whatever it is. -/
theorem keys_filterMap {m : OrderedMap α} {f : String → α → Option β} {keep : String → Bool}
    (h : ∀ entry ∈ m.entries, (f entry.1 entry.2).isSome = keep entry.1) :
    (m.filterMap f).keys = m.keys.filter keep := by
  obtain ⟨entries, hnodup⟩ := m
  simp only [keys, filterMap] at h ⊢
  clear hnodup
  induction entries with
  | nil => rfl
  | cons entry rest ih =>
    have hrest := ih fun other hother => h other (List.mem_cons_of_mem _ hother)
    rw [List.map_cons, List.filter_cons, ← h entry List.mem_cons_self, ← hrest, List.filterMap_cons]
    cases f entry.1 entry.2 <;> rfl

/-- Looking a name up among listed items is searching for the first item of that name. -/
theorem lookup_map (name : α → String) (value : α → β) (items : List α) (key : String) :
    (items.map fun item => (name item, value item)).lookup key =
      (items.find? (name · == key)).map value := by
  induction items with
  | nil => rfl
  | cons item rest ih =>
    by_cases h : name item = key
    · simp [h]
    · simp [h, List.lookup_cons, beq_false_of_ne (fun e => h e.symm : key ≠ name item), ih]

/-- Entries are determined by their names and what is found under these. -/
theorem entries_eq_of_lookup {entries others : List (String × α)}
    (hnodup : (entries.map Prod.fst).Nodup)
    (hnames : entries.map Prod.fst = others.map Prod.fst)
    (hfind : ∀ name, entries.lookup name = others.lookup name) : entries = others := by
  induction entries generalizing others with
  | nil =>
    cases others with
    | nil => rfl
    | cons _ _ => simp at hnames
  | cons entry rest ih =>
    cases others with
    | nil => simp at hnames
    | cons other rest' =>
      obtain ⟨name, value⟩ := entry
      obtain ⟨name', value'⟩ := other
      simp only [List.map_cons, List.cons.injEq] at hnames
      obtain ⟨rfl, hrest⟩ := hnames
      have hvalue := hfind name
      simp only [List.lookup_cons_self, Option.some.injEq] at hvalue
      rw [List.map_cons, List.nodup_cons] at hnodup
      have htail : rest = rest' := by
        apply ih hnodup.2 hrest
        intro other
        by_cases hother : other = name
        · subst hother
          have hleft : rest.lookup other = none := find?_eq_none_iff (m := ⟨rest, hnodup.2⟩).2 hnodup.1
          have hnodup' : (rest'.map Prod.fst).Nodup := hrest ▸ hnodup.2
          have hright : rest'.lookup other = none :=
            find?_eq_none_iff (m := ⟨rest', hnodup'⟩).2 (by simpa [keys, ← hrest] using hnodup.1)
          rw [hleft, hright]
        · have h := hfind other
          simpa only [List.lookup_cons, beq_false_of_ne hother] using h
      rw [hvalue, htail]

theorem ext_find? {m n : OrderedMap α} (hkeys : m.keys = n.keys)
    (hfind : ∀ name, m.find? name = n.find? name) : m = n :=
  ext (entries_eq_of_lookup m.nodup hkeys hfind)

/-! ## Insertion that replaces -/

theorem entries_insert_of_notMem {m : OrderedMap α} {name : String} (value : α)
    (h : name ∉ m.keys) : (m.insert name value).entries = m.entries ++ [(name, value)] := by
  obtain ⟨entries, hnodup⟩ := m
  simp only [keys, insert] at h ⊢
  clear hnodup
  induction entries with
  | nil => rfl
  | cons entry rest ih =>
    simp only [List.map_cons, List.mem_cons, not_or] at h
    rw [upsert, if_neg (fun e => h.1 e.symm), ih h.2]
    rfl

theorem keys_insert_of_mem {m : OrderedMap α} {name : String} (value : α) (h : name ∈ m.keys) :
    (m.insert name value).keys = m.keys := by
  rw [keys_insert, if_pos h]

theorem eraseDups_keys (m : OrderedMap α) : m.keys.eraseDups = m.keys :=
  eraseDups_of_nodup m.nodup

theorem keys_insert_eq_eraseDups (m : OrderedMap α) (name : String) (value : α) :
    (m.insert name value).keys = (m.keys ++ [name]).eraseDups := by
  rw [keys_insert, List.eraseDups_append, eraseDups_keys]
  split
  · next h => simp [List.removeAll, h]
  · next h => simp [List.removeAll, h, List.eraseDups_cons]

/-- Insertions put new names at the end, so names stand in the order of their first occurrences. -/
theorem keys_foldl {insert : OrderedMap α → String → α → OrderedMap α}
    (hinsert : ∀ m name value, (insert m name value).keys = (m.keys ++ [name]).eraseDups)
    (m : OrderedMap α) (entries : List (String × α)) :
    (entries.foldl (fun m entry => insert m entry.1 entry.2) m).keys =
      (m.keys ++ entries.map Prod.fst).eraseDups := by
  induction entries generalizing m with
  | nil => simp [eraseDups_keys]
  | cons entry rest ih =>
    rw [List.foldl_cons, ih, List.map_cons, List.append_cons]
    apply eraseDups_append_congr
    rw [eraseDups_keys, hinsert]

theorem keys_insertAll (m : OrderedMap α) (entries : List (String × α)) :
    (m.insertAll entries).keys = (m.keys ++ entries.map Prod.fst).eraseDups :=
  keys_foldl keys_insert_eq_eraseDups m entries

/-- Entries with new names are added as they are. -/
theorem entries_insertAll_of_nodup {m : OrderedMap α} {entries : List (String × α)}
    (h : (m.keys ++ entries.map Prod.fst).Nodup) : (m.insertAll entries).entries = m.entries ++ entries := by
  induction entries generalizing m with
  | nil => rw [List.append_nil]; rfl
  | cons entry rest ih =>
    rw [List.map_cons, List.append_cons] at h
    have hnew : entry.1 ∉ m.keys := by
      intro hmem
      have hnodup := (List.nodup_append.1 (List.nodup_append.1 h).1).2.2
      exact hnodup entry.1 hmem entry.1 (List.mem_singleton_self _) rfl
    have hkeys : (m.insert entry.1 entry.2).keys = m.keys ++ [entry.1] := by
      rw [keys_insert, if_neg hnew]
    have hstep : m.insertAll (entry :: rest) = (m.insert entry.1 entry.2).insertAll rest := rfl
    rw [hstep, ih (hkeys ▸ h), entries_insert_of_notMem _ hnew, ← List.append_cons]

theorem find?_insertAll (m : OrderedMap α) (entries : List (String × α)) (name : String) :
    (m.insertAll entries).find? name = (entries.reverse.lookup name).or (m.find? name) := by
  induction entries generalizing m with
  | nil => rfl
  | cons entry rest ih =>
    obtain ⟨first, value⟩ := entry
    have hstep : m.insertAll ((first, value) :: rest) = (m.insert first value).insertAll rest := rfl
    rw [hstep, ih, find?_insert, List.reverse_cons, List.lookup_append, Option.or_assoc]
    congr 1
    by_cases h : name = first <;> simp [h, List.lookup_cons, beq_false_of_ne]

/-! ## Insertion that does not replace -/

/-- Inserts from left to right the entries whose names are not there yet. -/
def insertAllNew (m : OrderedMap α) (entries : List (String × α)) : OrderedMap α :=
  entries.foldl (fun m entry => m.insertNew entry.1 entry.2) m

theorem insertAllNew_append (m : OrderedMap α) (xs ys : List (String × α)) :
    m.insertAllNew (xs ++ ys) = (m.insertAllNew xs).insertAllNew ys := by
  simp [insertAllNew]

theorem insertNew_of_mem {m : OrderedMap α} {name : String} (value : α) (h : name ∈ m.keys) :
    m.insertNew name value = m := by
  rw [insertNew, if_pos (contains_iff.2 h)]

theorem insertNew_of_notMem {m : OrderedMap α} {name : String} (value : α) (h : name ∉ m.keys) :
    m.insertNew name value = m.insert name value := by
  rw [insertNew, if_neg (fun hc => h (contains_iff.1 hc))]

theorem keys_insertNew (m : OrderedMap α) (name : String) (value : α) :
    (m.insertNew name value).keys = (m.keys ++ [name]).eraseDups := by
  by_cases h : name ∈ m.keys
  · rw [insertNew_of_mem value h, ← keys_insert_eq_eraseDups m name value, keys_insert_of_mem value h]
  · rw [insertNew_of_notMem value h, keys_insert_eq_eraseDups]

theorem find?_insertNew (m : OrderedMap α) (name other : String) (value : α) :
    (m.insertNew name value).find? other =
      (m.find? other).or (if other = name then some value else none) := by
  by_cases h : name ∈ m.keys
  · rw [insertNew_of_mem value h]
    by_cases ho : other = name
    · obtain ⟨found, hfound⟩ := Option.isSome_iff_exists.1 (find?_isSome_iff.2 h)
      simp [ho, hfound]
    · simp [ho]
  · rw [insertNew_of_notMem value h, find?_insert]
    by_cases ho : other = name
    · simp [ho, find?_eq_none_iff.2 h]
    · simp [ho]

theorem keys_insertAllNew (m : OrderedMap α) (entries : List (String × α)) :
    (m.insertAllNew entries).keys = (m.keys ++ entries.map Prod.fst).eraseDups :=
  keys_foldl keys_insertNew m entries

theorem find?_insertAllNew (m : OrderedMap α) (entries : List (String × α)) (name : String) :
    (m.insertAllNew entries).find? name = (m.find? name).or (entries.lookup name) := by
  induction entries generalizing m with
  | nil => simp [insertAllNew]
  | cons entry rest ih =>
    have hstep : m.insertAllNew (entry :: rest) = (m.insertNew entry.1 entry.2).insertAllNew rest := rfl
    rw [hstep, ih, find?_insertNew, Option.or_assoc, List.lookup_cons]
    congr 1
    by_cases h : name = entry.1 <;> simp [h, beq_false_of_ne]

end OrderedMap

end SchemaDoc
