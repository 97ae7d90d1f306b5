-- SUMMARY: Schema files are found where they are wanted, each as often as given paths reach it.
import SchemaDoc.Proofs.FileTree.Paths
import SchemaDoc.Proofs.Results

/-!
# Finding schema files

What is found at or under the given paths are the files whose names have one of the
extensions. A given path that leads to a file or to a folder above it reaches the
file, and the file is found once for each such path: once in all if no two paths
reach the same places, and again and again if one path leads into what another
path leads to.
-/

namespace SchemaDoc

/-! ## Extensions -/

namespace FileTree

/-- The extension is what follows the last point of a name, and something has to stand before the point. -/
def HasExtension (name ext : String) : Prop :=
  '.' ∉ ext.toList ∧ ∃ stem, stem ≠ "" ∧ name = stem ++ "." ++ ext

theorem hasExtension_iff {name ext : String} :
    HasExtension name ext ↔
      '.' ∉ ext.toList ∧ ∃ stem, stem ≠ [] ∧ name.toList = stem ++ '.' :: ext.toList := by
  refine and_congr_right fun _ => ⟨?_, ?_⟩
  · rintro ⟨stem, hstem, rfl⟩
    exact ⟨stem.toList, by simpa using hstem, by simp⟩
  · rintro ⟨stem, hstem, hname⟩
    refine ⟨String.ofList stem, by simpa using hstem, String.toList_inj.1 ?_⟩
    rw [hname]
    simp

theorem extension?_eq_some_iff {path ext : String} :
    extension? path = some ext ↔ HasExtension (String.ofList (fileName path)) ext := by
  rw [hasExtension_iff, String.toList_ofList]
  -- The name is read from its end: up to a point, and with something behind this.
  constructor
  · intro h
    obtain ⟨hpoint, hcut⟩ := Text.cut_last '.' (fileName path)
    unfold extension? at h
    dsimp only at h
    split at h
    · next point last earlier hrest =>
      cases h
      rw [String.toList_ofList]
      refine ⟨hpoint, ?_⟩
      rcases hcut with ⟨hnil, -⟩ | ⟨stem, hstem, hname⟩
      · rw [hnil] at hrest
        cases hrest
      · refine ⟨stem, ?_, hname⟩
        rintro rfl
        rw [hstem] at hrest
        cases hrest
    · cases h
  · rintro ⟨hpoint, stem, hstem, hname⟩
    have hreversed : (fileName path).reverse = ext.toList.reverse ++ '.' :: stem.reverse := by
      rw [hname]
      simp
    have hall : ∀ c ∈ ext.toList.reverse, decide (c ≠ '.') = true := by
      intro c hc
      simpa using ne_of_mem_of_not_mem (List.mem_reverse.1 hc) hpoint
    obtain ⟨last, earlier, hearlier⟩ := List.exists_cons_of_ne_nil (mt List.reverse_eq_nil_iff.1 hstem)
    rw [extension?, hreversed, List.dropWhile_append_of_pos hall, List.takeWhile_append_of_pos hall, hearlier]
    simp

end FileTree

namespace CommandLine.Sources

open FileTree

variable {sources : Sources} {root tree : FileTree} {workingFolder place : List String} {path : String}

theorem bareExtension_eq_iff {text ext : String} (hext : '.' ∉ ext.toList) :
    bareExtension text = ext ↔ ∃ points : String, text = points ++ ext ∧ ∀ c ∈ points.toList, c = '.' := by
  rw [bareExtension, Text.ofList_dropWhile_eq_iff (x := '.') fun c => decide_eq_true_iff]
  exact and_iff_right fun hhead => hext (List.mem_of_mem_head? hhead)

/-- The name has one of the extensions, which may be given with points before it. -/
def Wants (sources : Sources) (name : String) : Prop :=
  ∃ ext points : String, HasExtension name ext ∧ points ++ ext ∈ sources.extensions ∧
    ∀ c ∈ points.toList, c = '.'

theorem accepts_iff : sources.accepts path = true ↔ sources.Wants (String.ofList (fileName path)) := by
  have hany : sources.accepts path = true ↔
      ∃ ext, extension? path = some ext ∧ ∃ text ∈ sources.extensions, bareExtension text = ext := by
    unfold accepts
    cases extension? path with
    | none => simp
    | some ext => simp only [List.any_eq_true, beq_iff_eq, Option.some.injEq, exists_eq_left']
  rw [hany]
  constructor
  · rintro ⟨ext, hext, text, htext, hbare⟩
    rw [extension?_eq_some_iff] at hext
    obtain ⟨points, rfl, hpoints⟩ := (bareExtension_eq_iff hext.1).1 hbare
    exact ⟨ext, points, hext, htext, hpoints⟩
  · rintro ⟨ext, points, hext, hmem, hpoints⟩
    exact ⟨ext, extension?_eq_some_iff.2 hext, points ++ ext, hmem,
      (bareExtension_eq_iff hext.1).2 ⟨points, rfl, hpoints⟩⟩

/-! ## Files under a path -/

/-- A file whose name has one of the extensions lies at a place. -/
def WantedAt (sources : Sources) (root : FileTree) (place : List String) (content : ByteArray) : Prop :=
  root.get? place = some (.file content) ∧ ∃ above name, place = above ++ [name] ∧ sources.Wants name

/-- A path leads to a place or to a folder above it. -/
def Reaches (root : FileTree) (workingFolder : List String) (path : String) (place : List String) : Prop :=
  ∃ start ∈ root.locate? workingFolder path, start <+: place

instance (root : FileTree) (workingFolder : List String) (path : String) (place : List String) :
    Decidable (Reaches root workingFolder path place) :=
  inferInstanceAs (Decidable (∃ start ∈ root.locate? workingFolder path, start <+: place))

theorem accepts_iff_wantedAt {content : ByteArray} (hpath : root.locate? workingFolder path = some place)
    (hfile : root.get? place = some (.file content)) :
    sources.accepts path = true ↔ sources.WantedAt root place content := by
  obtain ⟨above, hplace⟩ := exists_concat_fileName hpath hfile
  rw [accepts_iff, WantedAt, and_iff_right hfile]
  constructor
  · intro hwants
    exact ⟨above, _, hplace, hwants⟩
  · rintro ⟨above', name, hplace', hwants⟩
    obtain ⟨-, hname⟩ := List.append_inj' (hplace.symm.trans hplace') rfl
    rw [List.singleton_inj.1 hname]
    exact hwants

/-- Where the paths of files lead. -/
def placesOf (root : FileTree) (workingFolder : List String) (files : List (String × ByteArray)) :
    List (Option (List String)) :=
  files.map fun file => root.locate? workingFolder file.1

/-- Where the files under a path lie. -/
theorem filesUnder_located (sources : Sources) (hproper : root.Proper)
    (hpath : root.at? workingFolder path = .ok tree) :
    ∃ start, root.locate? workingFolder path = some start ∧
      ∃ files : List (String × ByteArray), sources.filesUnder (root.at? workingFolder) path = .ok files ∧
        (placesOf root workingFolder files).Nodup ∧
        (∀ file ∈ files, ∃ place, root.locate? workingFolder file.1 = some place ∧ start <+: place ∧
          sources.WantedAt root place file.2) ∧
        ∀ place content, start <+: place → sources.WantedAt root place content →
          some place ∈ placesOf root workingFolder files := by
  obtain ⟨hne, start, hstart, htree⟩ := exists_of_at? hpath
  have hplaced : ∀ p ∈ tree.placed, root.get? (start ++ p.1) = some (.file p.2) := by
    intro p hp
    rw [get?_append, htree]
    exact (mem_placed_iff (hproper.of_get? htree)).1 hp
  have hlocate : ∀ p ∈ tree.placed,
      root.locate? workingFolder (p.1.foldl childPath path) = some (start ++ p.1) :=
    fun p hp => locate?_foldl_childPath hproper hne hstart (hplaced p hp)
  have hunder : sources.filesUnder (root.at? workingFolder) path =
      .ok ((tree.files path).filter fun file => sources.accepts file.1) := by
    rw [filesUnder, hpath]
  refine ⟨start, hstart, _, hunder, ?_, ?_, ?_⟩
  · -- Places are listed once, and paths lead to them from one start.
    have hall : ((tree.files path).map fun file => root.locate? workingFolder file.1) =
        (tree.placed.map Prod.fst).map fun place => some (start ++ place) := by
      rw [files_eq, List.map_map, List.map_map]
      exact List.map_congr_left hlocate
    refine List.Nodup.sublist (List.filter_sublist.map _) ?_
    rw [hall]
    refine (nodup_placed tree (hproper.of_get? htree)).map fun place other heq => ?_
    exact List.append_cancel_left (Option.some.inj heq)
  · intro file hfile
    obtain ⟨hmem, haccepts⟩ := List.mem_filter.1 hfile
    rw [files_eq] at hmem
    obtain ⟨p, hp, rfl⟩ := List.mem_map.1 hmem
    exact ⟨start ++ p.1, hlocate p hp, List.prefix_append _ _,
      (accepts_iff_wantedAt (hlocate p hp) (hplaced p hp)).1 haccepts⟩
  · rintro place content ⟨rest, rfl⟩ hwanted
    have hp : (rest, content) ∈ tree.placed := by
      rw [mem_placed_iff (hproper.of_get? htree)]
      have hget := hwanted.1
      rwa [get?_append, htree] at hget
    have hpath := hlocate (rest, content) hp
    refine List.mem_map.2 ⟨(rest.foldl childPath path, content), List.mem_filter.2 ⟨?_, ?_⟩, hpath⟩
    · rw [files_eq]
      exact List.mem_map_of_mem hp
    · exact (accepts_iff_wantedAt hpath hwanted.1).2 hwanted

theorem count_filesUnder (hproper : root.Proper) {files : List (String × ByteArray)} {content : ByteArray}
    (hfiles : sources.filesUnder (root.at? workingFolder) path = .ok files)
    (hwanted : sources.WantedAt root place content) :
    (placesOf root workingFolder files).count (some place) =
      if Reaches root workingFolder path place then 1 else 0 := by
  cases htree : root.at? workingFolder path with
  | error cause =>
    rw [filesUnder, htree] at hfiles
    cases hfiles
  | ok tree =>
    obtain ⟨start, hstart, files', hfiles', hnodup, hfound, hall⟩ := filesUnder_located sources hproper htree
    cases hfiles.symm.trans hfiles'
    split
    · next hreaches =>
      obtain ⟨start', hstart', hprefix⟩ := hreaches
      cases hstart.symm.trans hstart'
      exact List.count_eq_one_of_mem hnodup (hall place content hprefix hwanted)
    · next hreaches =>
      refine List.count_eq_zero.2 fun hmem => hreaches ?_
      obtain ⟨file, hfile, hplace⟩ := List.mem_map.1 hmem
      obtain ⟨place', hplace', hprefix, -⟩ := hfound file hfile
      cases hplace.symm.trans hplace'
      exact ⟨start, hstart, hprefix⟩

/-! ## Files under all paths -/

/-- A list of lists, some of which have an item once and the others not at all. -/
theorem count_map_flatten {α β γ : Type} [BEq γ] {f : β → γ} {c : γ} {p : α → Prop} [DecidablePred p]
    {xs : List α} {yss : List (List β)}
    (h : List.Forall₂ (fun x ys => (ys.map f).count c = if p x then 1 else 0) xs yss) :
    (yss.flatten.map f).count c = xs.countP fun x => p x := by
  induction h with
  | nil => rfl
  | cons hfirst _ ih =>
    rw [List.flatten_cons, List.map_append, List.count_append, hfirst, ih, List.countP_cons, Nat.add_comm]
    simp only [decide_eq_true_eq]

/-- Of paths that reach no places in common, one at most reaches a place. -/
theorem countP_reaches_of_pairwise {paths : List String}
    (h : paths.Pairwise fun given other =>
      ¬∃ place, Reaches root workingFolder given place ∧ Reaches root workingFolder other place)
    {given : String} (hgiven : given ∈ paths) (hreaches : Reaches root workingFolder given place) :
    (paths.countP fun given => Reaches root workingFolder given place) = 1 := by
  induction h with
  | nil => cases hgiven
  | @cons first rest hfirst _ ih =>
    rw [List.countP_cons]
    by_cases hreached : Reaches root workingFolder first place
    · have hnone : (rest.countP fun given => Reaches root workingFolder given place) = 0 := by
        rw [List.countP_eq_zero]
        intro other hother hreachesOther
        exact hfirst other hother ⟨place, hreached, of_decide_eq_true hreachesOther⟩
      simp [hnone, hreached]
    · rcases List.mem_cons.1 hgiven with rfl | hrest
      · exact absurd hreaches hreached
      · simp [ih hrest, hreached]

theorem schemaFiles_of_several {disk : Disk} {yss : List (List (String × ByteArray))}
    (hscan : sources.paths.mapM (sources.filesUnder disk) = .ok yss)
    (hseveral : ∀ path content, sources.paths = [path] → disk path ≠ .ok (.file content)) :
    sources.schemaFiles disk = .ok yss.flatten := by
  have hscan' : (do return (← sources.paths.mapM (sources.filesUnder disk)).flatten) =
      (.ok yss.flatten : Except (String × PathError) _) := by
    rw [hscan]
    rfl
  unfold schemaFiles
  dsimp only
  split
  · next path hpath =>
    split
    · next content hfile => exact absurd hfile (hseveral path content hpath)
    · exact hscan'
  · exact hscan'

/--
If something lies at each of the given paths, and these are not just the path of one
file, then schema files are found. Each is wanted, and one of the paths reaches it.
Every wanted file is found as often as paths reach it, which is once if no two paths
reach a place in common.
-/
theorem schemaFiles_counted (root : FileTree) (workingFolder : List String) (sources : Sources)
    (hproper : root.Proper)
    (hexists : ∀ path ∈ sources.paths, (root.at? workingFolder path).isOk = true)
    (hseveral : ∀ path content, sources.paths = [path] → root.at? workingFolder path ≠ .ok (.file content)) :
    ∃ found : List (String × ByteArray), sources.schemaFiles (root.at? workingFolder) = .ok found ∧
      (∀ file ∈ found, ∃ place, root.locate? workingFolder file.1 = some place ∧
        sources.WantedAt root place file.2 ∧
        ∃ given ∈ sources.paths, Reaches root workingFolder given place) ∧
      (∀ place content, sources.WantedAt root place content →
        (placesOf root workingFolder found).count (some place) =
          sources.paths.countP fun given => Reaches root workingFolder given place) ∧
      ((sources.paths.Pairwise fun given other =>
          ¬∃ place, Reaches root workingFolder given place ∧ Reaches root workingFolder other place) →
        ∀ place content, sources.WantedAt root place content →
          ∀ given ∈ sources.paths, Reaches root workingFolder given place →
            (placesOf root workingFolder found).count (some place) = 1) := by
  obtain ⟨yss, hscan⟩ : ∃ yss, sources.paths.mapM (sources.filesUnder (root.at? workingFolder)) = .ok yss := by
    refine Result.isOk_iff.1 (Result.isOk_mapM_iff.2 fun path hpath => ?_)
    obtain ⟨tree, htree⟩ := Result.isOk_iff.1 (hexists path hpath)
    rw [filesUnder, htree]
    rfl
  have hpairs := Result.mapM_eq_ok_iff.1 hscan
  have hcount : ∀ place content, sources.WantedAt root place content →
      (placesOf root workingFolder yss.flatten).count (some place) =
        sources.paths.countP fun given => Reaches root workingFolder given place :=
    fun place content hwanted =>
      count_map_flatten (hpairs.imp fun path files hfiles => count_filesUnder hproper hfiles hwanted)
  refine ⟨yss.flatten, schemaFiles_of_several hscan hseveral, ?_, hcount, ?_⟩
  · intro file hfile
    obtain ⟨files, hfiles, hmem⟩ := List.mem_flatten.1 hfile
    obtain ⟨given, hgiven, hunder⟩ := Result.exists_of_mem_right hpairs hfiles
    obtain ⟨tree, htree⟩ := Result.isOk_iff.1 (hexists given hgiven)
    obtain ⟨start, hstart, files', hunder', -, hfound, -⟩ := filesUnder_located sources hproper htree
    cases hunder.symm.trans hunder'
    obtain ⟨place, hplace, hprefix, hwanted⟩ := hfound file hmem
    exact ⟨place, hplace, hwanted, given, hgiven, start, hstart, hprefix⟩
  · intro hapart place content hwanted given hgiven hreaches
    rw [hcount place content hwanted]
    exact countP_reaches_of_pairwise hapart hgiven hreaches

/-- Schema files beside and in a folder, and files with other extensions. -/
def nested : FileTree :=
  .folder [("notes.txt", .file .empty), ("schema.graphql", .file .empty),
    ("sub", .folder [("a.graphql", .file .empty), ("b.gql", .file .empty)])]

/-- The last two paths reach the same file. -/
def overlapping : Sources := ⟨none, [".graphql"], ["schema.graphql", "sub/", "./sub/../sub/a.graphql"]⟩

theorem schemaFiles_counted_nested :
    ∃ found : List (String × ByteArray), overlapping.schemaFiles (nested.at? []) = .ok found ∧
      (placesOf nested [] found).count (some ["schema.graphql"]) = 1 ∧
      (placesOf nested [] found).count (some ["sub", "a.graphql"]) = 2 := by
  have hsub : (FileTree.folder [("a.graphql", .file .empty), ("b.gql", .file .empty)]).Proper := by
    refine proper_folder (by decide) ?_
    simp only [List.forall_mem_cons]
    exact ⟨⟨by decide, proper_file _⟩, ⟨by decide, proper_file _⟩, by simp⟩
  have hproper : nested.Proper := by
    refine proper_folder (by decide) ?_
    simp only [List.forall_mem_cons]
    exact ⟨⟨by decide, proper_file _⟩, ⟨by decide, proper_file _⟩, ⟨by decide, hsub⟩, by simp⟩
  obtain ⟨found, hfound, -, hcount, -⟩ := schemaFiles_counted nested [] overlapping hproper
    (by decide +kernel) (fun path content h => by cases h)
  have hwants : ∀ stem, stem ≠ "" → overlapping.Wants (stem ++ "." ++ "graphql") :=
    fun stem hstem => ⟨"graphql", ".", ⟨by decide, stem, hstem, rfl⟩, by decide, by simp⟩
  refine ⟨found, hfound, ?_, ?_⟩
  · rw [hcount ["schema.graphql"] .empty ⟨rfl, [], _, rfl, hwants "schema" (by decide)⟩]
    decide +kernel
  · rw [hcount ["sub", "a.graphql"] .empty ⟨rfl, ["sub"], _, rfl, hwants "a" (by decide)⟩]
    decide +kernel

/-- A folder with one schema file. -/
def lone : FileTree := .folder [("schema.graphql", .file .empty)]

/-- A file that is given beside its folder is found twice. -/
theorem schemaFiles_repeated :
    ∃ found : List (String × ByteArray),
      Sources.schemaFiles ⟨none, defaultExtensions, ["schema.graphql", "."]⟩ (lone.at? []) = .ok found ∧
        found.map Prod.fst = ["schema.graphql", "./schema.graphql"] ∧
        (placesOf lone [] found).count (some ["schema.graphql"]) = 2 := by
  have hcheck : (Sources.schemaFiles ⟨none, defaultExtensions, ["schema.graphql", "."]⟩
      (lone.at? [])).toOption.any (fun found => found.map Prod.fst = ["schema.graphql", "./schema.graphql"] ∧
        (placesOf lone [] found).count (some ["schema.graphql"]) = 2) = true := by
    decide +kernel
  obtain ⟨found, hfound, htwice⟩ := Result.exists_of_any hcheck
  exact ⟨found, hfound, of_decide_eq_true htwice⟩

end CommandLine.Sources

end SchemaDoc
