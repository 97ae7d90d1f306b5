-- SUMMARY: A path leads to a place, and the paths under which files are listed lead to the places of these files.
import SchemaDoc.CommandLine.Discovery
import SchemaDoc.Proofs.FileTree.Places
import SchemaDoc.Proofs.Text.Pieces

/-!
# Paths in a file tree

Different paths can lead to the same place: a path may start at the working folder
or at the top, and points in it stay in a folder or leave it. What lies at a path is
what lies at the place to which the path leads, and the path of a listed file leads
from there to the place of the file.
-/

namespace SchemaDoc.FileTree

variable {root tree sub : FileTree} {entries : List (String × FileTree)} {content : ByteArray}
  {name path : String} {names workingFolder place there : List String} {passed : List FileTree}

/-! ## Walking -/

/-- Where names lead from a place: to an entry of the folder there, or to the folder above. -/
def walk (root : FileTree) (place : List String) : List String → Option (List String)
  | [] => some place
  | name :: names =>
    match root.get? place with
    | some (.folder entries) =>
      if name = "" ∨ name = "." then root.walk place names
      else if name = ".." then root.walk place.dropLast names
      else if (entries.lookup name).isSome then root.walk (place ++ [name]) names
      else none
    | _ => none

/-- The place to which a path leads for someone who works in a folder of the tree. -/
def locate? (root : FileTree) (workingFolder : List String) (path : String) : Option (List String) :=
  root.walk [] ((if path.toList.head? = some '/' then [] else workingFolder) ++ Text.split '/' path)

theorem walk_cons (hplace : root.get? place = some (.folder entries)) :
    root.walk place (name :: names) =
      if name = "" ∨ name = "." then root.walk place names
      else if name = ".." then root.walk place.dropLast names
      else if (entries.lookup name).isSome then root.walk (place ++ [name]) names
      else none := by
  rw [walk, hplace]

theorem exists_folder_of_walk_cons (h : root.walk place (name :: names) = some there) :
    ∃ entries, root.get? place = some (.folder entries) := by
  rw [walk] at h
  split at h
  · next entries hplace => exact ⟨entries, hplace⟩
  · cases h

theorem walk_append (root : FileTree) (place names more : List String) :
    root.walk place (names ++ more) = (root.walk place names).bind fun there => root.walk there more := by
  induction names generalizing place with
  | nil => rfl
  | cons name names ih =>
    rw [List.cons_append, walk, walk]
    split
    · split
      · exact ih place
      · split
        · exact ih place.dropLast
        · split
          · exact ih (place ++ [name])
          · rfl
    · rfl

/-- The folders passed on the way to a place, the last one first. -/
inductive Passed (root : FileTree) : List String → List FileTree → Prop
  | top : Passed root [] []
  | enter {place : List String} {passed : List FileTree} {tree : FileTree} (name : String)
      (hpassed : Passed root place passed) (htree : root.get? place = some tree) :
      Passed root (place ++ [name]) (tree :: passed)

theorem exists_of_follow (hpassed : Passed root place passed) (hplace : root.get? place = some tree)
    (h : follow passed tree names = .ok sub) :
    ∃ there, root.walk place names = some there ∧ root.get? there = some sub := by
  -- The folders passed are what lies on the way to the place, so leaving a folder is dropping a name.
  induction names generalizing passed tree place with
  | nil =>
    cases h
    exact ⟨place, rfl, hplace⟩
  | cons name names ih =>
    cases tree with
    | file content => cases h
    | folder entries =>
      rw [walk_cons hplace]
      simp only [follow, Bool.or_eq_true, String.isEmpty_iff, beq_iff_eq] at h
      split at h
      · next hstay =>
        rw [if_pos hstay]
        exact ih hpassed hplace h
      next hstay =>
      rw [if_neg hstay]
      split at h
      · next hup =>
        rw [if_pos hup]
        cases hpassed with
        | top => exact ih .top hplace h
        | enter _ hpassed habove =>
          rw [List.dropLast_concat]
          exact ih hpassed habove h
      next hup =>
      rw [if_neg hup]
      split at h
      · cases h
      · split at h
        · next child hlookup =>
          rw [if_pos (Option.isSome_of_eq_some hlookup)]
          exact ih (.enter name hpassed hplace) ((get?_concat hplace).trans hlookup) h
        · cases h

/-- What lies at a path is what lies at the place to which it leads. -/
theorem exists_of_at? (h : root.at? workingFolder path = .ok tree) :
    path ≠ "" ∧ ∃ place, root.locate? workingFolder path = some place ∧ root.get? place = some tree := by
  unfold at? at h
  split at h
  · cases h
  · split at h
    · cases h
    next hne =>
    split at h
    · cases h
    · refine ⟨by simpa using hne, exists_of_follow .top rfl (Eq.trans (congrArg _ ?_) h)⟩
      simp only [beq_iff_eq]
      split <;> rfl

/-! ## Paths of entries -/

theorem split_eq_map_splitOn (s : String) :
    Text.split '/' s = (s.toList.splitOn '/').map String.ofList := by
  rw [Text.split, Text.splitChars_eq_splitOn]

theorem toList_childPath (hne : path ≠ "") (name : String) :
    (childPath path name).toList =
      if path.toList.getLast? = some '/' then path.toList ++ name.toList
      else path.toList ++ '/' :: name.toList := by
  rw [childPath, if_neg (by simpa using hne)]
  simp only [beq_iff_eq]
  split
  · exact String.toList_append
  · simp

theorem head?_childPath (hne : path ≠ "") (name : String) :
    (childPath path name).toList.head? = path.toList.head? := by
  have hchars : path.toList ≠ [] := by simpa using hne
  rw [toList_childPath hne]
  split <;> exact List.head?_append_of_ne_nil _ hchars

theorem childPath_ne_empty (hne : path ≠ "") (name : String) : childPath path name ≠ "" := by
  intro hempty
  have hhead := head?_childPath hne name
  rw [hempty] at hhead
  have hchars : path.toList = [] := List.head?_eq_none_iff.1 hhead.symm
  exact hne (String.toList_eq_nil_iff.1 hchars)

theorem splitOn_append_slash (cs : List Char) (hname : '/' ∉ name.toList) :
    ((cs ++ '/' :: name.toList).splitOn '/').map String.ofList =
      (cs.splitOn '/').map String.ofList ++ [name] := by
  rw [List.splitOn_append_cons_self, List.splitOn_eq_singleton hname, List.map_append, List.map_singleton,
    String.ofList_toList]

/-- The name of an entry is set behind the path of its folder, in place of nothing if this ends in a slash. -/
theorem split_childPath (hne : path ≠ "") (hname : '/' ∉ name.toList) :
    ∃ before, Text.split '/' (childPath path name) = before ++ [name] ∧
      (Text.split '/' path = before ∨ Text.split '/' path = before ++ [""]) := by
  simp only [split_eq_map_splitOn, toList_childPath hne]
  split
  · next hlast =>
    obtain ⟨cs, hcs⟩ := List.getLast?_eq_some_iff.1 hlast
    refine ⟨(cs.splitOn '/').map String.ofList, ?_, .inr ?_⟩
    · rw [hcs, List.append_assoc]
      exact splitOn_append_slash cs hname
    · rw [hcs]
      exact splitOn_append_slash cs (by decide : '/' ∉ "".toList)
  · exact ⟨_, splitOn_append_slash path.toList hname, .inl rfl⟩

theorem walk_entry (hplace : root.get? place = some (.folder entries)) (hname : IsEntryName name)
    (hentry : (entries.lookup name).isSome) : root.walk place [name] = some (place ++ [name]) := by
  rw [walk_cons hplace, if_neg (by simp [hname.ne_empty, hname.ne_here]), if_neg hname.ne_above, if_pos hentry]
  rfl

theorem eq_of_walk_empty (h : root.walk place [""] = some there) : place = there := by
  obtain ⟨entries, hplace⟩ := exists_folder_of_walk_cons h
  rw [walk_cons hplace, if_pos (.inl rfl)] at h
  exact Option.some.inj h

theorem locate?_childPath (hne : path ≠ "") (hpath : root.locate? workingFolder path = some place)
    (hplace : root.get? place = some (.folder entries)) (hname : IsEntryName name)
    (hentry : (entries.lookup name).isSome) :
    root.locate? workingFolder (childPath path name) = some (place ++ [name]) := by
  obtain ⟨before, hchild, hbefore⟩ := split_childPath hne hname.slash_notMem
  rw [locate?, head?_childPath hne, hchild, ← List.append_assoc, walk_append]
  -- Without an empty last component the path of the folder leads to the same place.
  have hwalk : root.walk [] ((if path.toList.head? = some '/' then [] else workingFolder) ++ before) =
      some place := by
    rw [locate?] at hpath
    rcases hbefore with heq | heq
    · rw [← heq]
      exact hpath
    · rw [heq, ← List.append_assoc, walk_append] at hpath
      obtain ⟨there, hthere, hempty⟩ := Option.bind_eq_some_iff.1 hpath
      rw [hthere, eq_of_walk_empty hempty]
  rw [hwalk]
  exact walk_entry hplace hname hentry

/-- The path of everything in a tree leads to its place. -/
theorem locate?_foldl_childPath (hproper : root.Proper) (hne : path ≠ "")
    (hpath : root.locate? workingFolder path = some place) {rest : List String}
    (hrest : root.get? (place ++ rest) = some sub) :
    root.locate? workingFolder (rest.foldl childPath path) = some (place ++ rest) := by
  induction rest generalizing path place with
  | nil =>
    rw [List.append_nil]
    exact hpath
  | cons name rest ih =>
    rw [← List.singleton_append, ← List.append_assoc] at hrest ⊢
    obtain ⟨child, hchild⟩ : ∃ child, root.get? (place ++ [name]) = some child := by
      rw [get?_append] at hrest
      obtain ⟨child, hchild, -⟩ := Option.bind_eq_some_iff.1 hrest
      exact ⟨child, hchild⟩
    obtain ⟨entries, hplace, hlookup⟩ := exists_folder_above hchild
    have hname := hproper.isEntryName hchild
    have hnext := locate?_childPath hne hpath hplace hname (Option.isSome_of_eq_some hlookup)
    exact ih (childPath_ne_empty hne name) hnext hrest

/-! ## Names of files -/

/-- The last component of a path is the name of the file there. -/
theorem exists_split_eq (path : String) :
    ∃ before, Text.split '/' path = before ++ [String.ofList (fileName path)] := by
  obtain ⟨hslash, hcut⟩ := Text.cut_last '/' path.toList
  rw [← fileName] at hslash hcut
  rw [split_eq_map_splitOn]
  rcases hcut with ⟨-, hchars⟩ | ⟨before, -, hchars⟩
  · refine ⟨[], ?_⟩
    rw [hchars, List.splitOn_eq_singleton hslash]
    rfl
  · refine ⟨_, Eq.trans ?_ (splitOn_append_slash before (String.toList_ofList.symm ▸ hslash))⟩
    rw [String.toList_ofList, ← hchars]

theorem exists_folder_dropLast (h : root.get? place = some (.folder entries)) :
    ∃ above, root.get? place.dropLast = some (.folder above) := by
  rcases List.eq_nil_or_concat' place with rfl | ⟨up, name, rfl⟩
  · exact ⟨entries, h⟩
  · obtain ⟨above, habove, -⟩ := exists_folder_above h
    rw [List.dropLast_concat]
    exact ⟨above, habove⟩

/-- A path that leads to a file ends in the name of the file. -/
theorem exists_concat_fileName (hpath : root.locate? workingFolder path = some place)
    (hfile : root.get? place = some (.file content)) :
    ∃ above, place = above ++ [String.ofList (fileName path)] := by
  obtain ⟨before, hsplit⟩ := exists_split_eq path
  rw [locate?, hsplit, ← List.append_assoc, walk_append] at hpath
  obtain ⟨above, -, hlast⟩ := Option.bind_eq_some_iff.1 hpath
  obtain ⟨entries, habove⟩ := exists_folder_of_walk_cons hlast
  rw [walk_cons habove] at hlast
  split at hlast
  · cases hlast
    rw [habove] at hfile
    cases hfile
  split at hlast
  · cases hlast
    obtain ⟨up, hup⟩ := exists_folder_dropLast habove
    rw [hup] at hfile
    cases hfile
  split at hlast
  · cases hlast
    exact ⟨above, rfl⟩
  · cases hlast

end SchemaDoc.FileTree
