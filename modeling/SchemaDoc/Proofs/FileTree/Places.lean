-- SUMMARY: Every file of a tree has a place of its own, and listing the tree gives each file once, under its place.
import Mathlib.Data.List.Nodup
import SchemaDoc.FileTree
import SchemaDoc.Proofs.OrderedMap

/-!
# Places in a file tree

A place is given by the names that lead to it from the top. In a tree whose folders
have no two entries of one name there is one place for everything, and listing the
files of the tree goes through the places at which files lie, each of them once.
-/

namespace SchemaDoc.FileTree

/-! ## Places -/

/-- What lies at the place to which these names lead from the top. -/
def get? : FileTree → List String → Option FileTree
  | tree, [] => some tree
  | tree, name :: place => (tree.entries.lookup name).bind fun child => child.get? place

variable {tree sub : FileTree} {entries : List (String × FileTree)} {content : ByteArray}
  {name : String} {place : List String}

theorem get?_append (tree : FileTree) (place rest : List String) :
    tree.get? (place ++ rest) = (tree.get? place).bind fun sub => sub.get? rest := by
  induction place generalizing tree with
  | nil => rfl
  | cons name place ih =>
    rw [List.cons_append, get?, get?]
    cases tree.entries.lookup name with
    | none => rfl
    | some child => exact ih child

theorem get?_concat (hplace : tree.get? place = some (.folder entries)) :
    tree.get? (place ++ [name]) = entries.lookup name := by
  rw [get?_append, hplace, Option.bind_some, get?, FileTree.entries]
  cases entries.lookup name <;> rfl

/-- Above everything that lies in a tree there are folders. -/
theorem exists_folder_above (h : tree.get? (place ++ [name]) = some sub) :
    ∃ entries, tree.get? place = some (.folder entries) ∧ entries.lookup name = some sub := by
  rw [get?_append] at h
  obtain ⟨above, habove, hsub⟩ := Option.bind_eq_some_iff.1 h
  cases above with
  | file content => cases hsub
  | folder entries =>
    refine ⟨entries, habove, ?_⟩
    rw [← get?_concat habove, get?_append, habove]
    exact hsub

/-- A name that an entry of a folder can have. -/
structure IsEntryName (name : String) : Prop where
  ne_empty : name ≠ ""
  ne_here : name ≠ "."
  ne_above : name ≠ ".."
  slash_notMem : '/' ∉ name.toList

instance (name : String) : Decidable (IsEntryName name) :=
  decidable_of_iff (name ≠ "" ∧ name ≠ "." ∧ name ≠ ".." ∧ '/' ∉ name.toList)
    ⟨fun ⟨hempty, hhere, habove, hslash⟩ => ⟨hempty, hhere, habove, hslash⟩,
      fun ⟨hempty, hhere, habove, hslash⟩ => ⟨hempty, hhere, habove, hslash⟩⟩

/-- In every folder of the tree the entries have proper names, and no two have the same. -/
def Proper (tree : FileTree) : Prop :=
  ∀ place entries, tree.get? place = some (.folder entries) →
    (entries.map Prod.fst).Nodup ∧ ∀ entry ∈ entries, IsEntryName entry.1

theorem proper_file (content : ByteArray) : (FileTree.file content).Proper := by
  intro place entries h
  cases place <;> cases h

theorem proper_folder (hnodup : (entries.map Prod.fst).Nodup)
    (hentries : ∀ entry ∈ entries, IsEntryName entry.1 ∧ entry.2.Proper) : (FileTree.folder entries).Proper := by
  intro place others h
  cases place with
  | nil =>
    cases h
    exact ⟨hnodup, fun entry hmem => (hentries entry hmem).1⟩
  | cons name place =>
    obtain ⟨child, hlookup, hchild⟩ := Option.bind_eq_some_iff.1 h
    exact (hentries (name, child) (OrderedMap.mem_of_lookup_eq_some hlookup)).2 place others hchild

namespace Proper

theorem of_get? (h : tree.Proper) (hsub : tree.get? place = some sub) : sub.Proper := by
  intro rest entries hentries
  refine h (place ++ rest) entries ?_
  rw [get?_append, hsub]
  exact hentries

theorem nodup (h : (FileTree.folder entries).Proper) : (entries.map Prod.fst).Nodup :=
  (h [] entries rfl).1

theorem isEntryName (h : tree.Proper) (hsub : tree.get? (place ++ [name]) = some sub) : IsEntryName name := by
  obtain ⟨entries, hentries, hlookup⟩ := exists_folder_above hsub
  exact (h place entries hentries).2 (name, sub) (OrderedMap.mem_of_lookup_eq_some hlookup)

theorem entry (h : (FileTree.folder entries).Proper) (hmem : (name, sub) ∈ entries) : sub.Proper := by
  have hlookup : entries.lookup name = some sub := OrderedMap.lookup_eq_some_of_mem h.nodup hmem
  have hget : (FileTree.folder entries).get? [name] = some sub := by
    rw [get?, FileTree.entries, hlookup]
    rfl
  exact h.of_get? hget

end Proper

/-! ## Listing -/

mutual

/-- The places of the files of a tree, with their contents. -/
def placed : FileTree → List (List String × ByteArray)
  | .file content => [([], content)]
  | .folder entries => placedBelow entries

/-- The places of the files below the entries of a folder. -/
def placedBelow : List (String × FileTree) → List (List String × ByteArray)
  | [] => []
  | (name, tree) :: entries => tree.placed.map (fun p => (name :: p.1, p.2)) ++ placedBelow entries

end

mutual

/-- The path of a file continues that of the tree by the names of its place. -/
theorem files_eq (path : String) : (tree : FileTree) →
    tree.files path = tree.placed.map fun p => (p.1.foldl childPath path, p.2)
  | .file _ => rfl
  | .folder entries => filesBelow_eq path entries

theorem filesBelow_eq (path : String) : (entries : List (String × FileTree)) →
    filesBelow path entries = (placedBelow entries).map fun p => (p.1.foldl childPath path, p.2)
  | [] => rfl
  | (name, tree) :: entries => by
    rw [filesBelow, placedBelow, List.map_append, List.map_map, files_eq (childPath path name) tree,
      filesBelow_eq path entries]
    rfl

end

theorem mem_placedBelow_iff {p : List String × ByteArray} :
    p ∈ placedBelow entries ↔
      ∃ name tree rest, (name, tree) ∈ entries ∧ (rest, p.2) ∈ tree.placed ∧ p.1 = name :: rest := by
  induction entries with
  | nil => simp [placedBelow]
  | cons entry entries ih =>
    obtain ⟨name, tree⟩ := entry
    rw [placedBelow, List.mem_append, ih, List.mem_map]
    constructor
    · rintro (⟨q, hq, rfl⟩ | ⟨other, sub, rest, hmem, hrest, hplace⟩)
      · exact ⟨name, tree, q.1, List.mem_cons_self, hq, rfl⟩
      · exact ⟨other, sub, rest, List.mem_cons_of_mem _ hmem, hrest, hplace⟩
    · rintro ⟨other, sub, rest, hmem, hrest, hplace⟩
      rcases List.mem_cons.1 hmem with heq | hmem
      · cases heq
        exact .inl ⟨(rest, p.2), hrest, Prod.ext hplace.symm rfl⟩
      · exact .inr ⟨other, sub, rest, hmem, hrest, hplace⟩

/-- What is listed is what lies at places. -/
theorem mem_placed_iff (h : tree.Proper) :
    (place, content) ∈ tree.placed ↔ tree.get? place = some (.file content) := by
  induction place generalizing tree with
  | nil =>
    cases tree with
    | file other => simp [placed, get?, eq_comm]
    | folder entries => simp [placed, get?, mem_placedBelow_iff]
  | cons name place ih =>
    cases tree with
    | file other => simp [placed, get?, FileTree.entries]
    | folder entries =>
      rw [placed, mem_placedBelow_iff, get?, FileTree.entries, Option.bind_eq_some_iff]
      constructor
      · rintro ⟨other, sub, rest, hmem, hrest, hplace⟩
        cases hplace
        exact ⟨sub, OrderedMap.lookup_eq_some_of_mem h.nodup hmem, (ih (h.entry hmem)).1 hrest⟩
      · rintro ⟨sub, hlookup, hsub⟩
        have hmem := OrderedMap.mem_of_lookup_eq_some hlookup
        exact ⟨name, sub, place, hmem, (ih (h.entry hmem)).2 hsub, rfl⟩

mutual

/-- No place is listed twice. -/
theorem nodup_placed : (tree : FileTree) → tree.Proper → (tree.placed.map Prod.fst).Nodup
  | .file _, _ => List.nodup_singleton _
  | .folder entries, h => nodup_placedBelow entries h.nodup fun _ _ => h.entry

theorem nodup_placedBelow : (entries : List (String × FileTree)) → (entries.map Prod.fst).Nodup →
    (∀ name tree, (name, tree) ∈ entries → tree.Proper) →
      ((placedBelow entries).map Prod.fst).Nodup
  | [], _, _ => List.nodup_nil
  | (name, tree) :: entries, hnames, hproper => by
    rw [List.map_cons, List.nodup_cons] at hnames
    have htree := nodup_placed tree (hproper name tree List.mem_cons_self)
    have hrest := nodup_placedBelow entries hnames.2 fun next sub hmem =>
      hproper next sub (List.mem_cons_of_mem _ hmem)
    have hfirst : (tree.placed.map fun p => (name :: p.1, p.2)).map Prod.fst =
        (tree.placed.map Prod.fst).map (name :: ·) := by
      rw [List.map_map, List.map_map]
      rfl
    rw [placedBelow, List.map_append, hfirst]
    refine List.nodup_append.2 ⟨htree.map fun _ _ => List.tail_eq_of_cons_eq, hrest, ?_⟩
    -- The places below the other entries start with other names.
    intro place hplace other hother heq
    obtain ⟨rest, -, rfl⟩ := List.mem_map.1 hplace
    obtain ⟨q, hq, rfl⟩ := List.mem_map.1 hother
    obtain ⟨next, sub, other, hmem, -, hnext⟩ := mem_placedBelow_iff.1 hq
    rw [hnext, List.cons.injEq] at heq
    exact hnames.1 (List.mem_map.2 ⟨(next, sub), hmem, heq.1.symm⟩)

end

end SchemaDoc.FileTree
