-- SUMMARY: Addresses of pages are solid pieces between single slashes, whatever the slashes of the settings.
import Mathlib.Logic.Relation
import SchemaDoc.Page.Link
import SchemaDoc.Proofs.Page.Hyphens

/-!
# Paths

The root and the base of addresses come from the settings as they were written,
with any number of slashes anywhere. Only what stands between slashes gets into a
path, and a slash at the very start of the root. Further slashes make no
difference.
-/

namespace SchemaDoc

namespace Page

/-! ## Pieces -/

/-- What stands between the slashes of a text, without empty texts. -/
def pieces (s : String) : List String :=
  ((s.toList.splitOn '/').filter (!·.isEmpty)).map String.ofList

/-- Whether a text starts with a slash. -/
def isRooted (s : String) : Bool :=
  s.toList.head? == some '/'

theorem pieces_eq_filter_split (s : String) : pieces s = (Text.split '/' s).filter (!·.isEmpty) := by
  rw [pieces, Text.split, Text.splitChars_eq_splitOn, List.filter_map]
  congr 2
  funext cs
  rw [Function.comp_apply, Bool.eq_iff_iff]
  simp

/-- Pieces which are neither empty nor broken up by a slash. -/
theorem solid_pieces (s : String) : Text.Solid '/' ((pieces s).map String.toList) := by
  have hmap : (pieces s).map String.toList = (s.toList.splitOn '/').filter (!·.isEmpty) := by
    simp [pieces, Function.comp_def]
  rw [hmap]
  exact Text.solid_filter_splitOn '/' s.toList

/-- A text without slashes is one piece, or none if it is empty. -/
theorem pieces_of_notMem {s : String} (h : '/' ∉ s.toList) : pieces s = [s].filter (· ≠ "") := by
  rw [pieces, List.splitOn_eq_singleton h]
  by_cases hs : s = ""
  · subst hs
    rfl
  · have hne : s.toList.isEmpty = false := by simpa using hs
    simp [hne, hs]

theorem flatMap_pieces {texts : List String} (h : ∀ s ∈ texts, '/' ∉ s.toList) :
    texts.flatMap pieces = texts.filter (· ≠ "") := by
  induction texts with
  | nil => rfl
  | cons s texts ih =>
    obtain ⟨hs, htexts⟩ := List.forall_mem_cons.1 h
    rw [List.flatMap_cons, ih htexts, pieces_of_notMem hs, ← List.filter_append, List.singleton_append]

/-- A path is the pieces of its segments, and absolute if the first one is. -/
theorem joinPath_cons (first : String) (segments : List String) :
    joinPath (first :: segments) =
      (if isRooted first then "/" else "") ++ "/".intercalate ((first :: segments).flatMap pieces) := by
  have hpieces : ((first :: segments).flatMap (Text.split '/')).filter (!·.isEmpty) =
      (first :: segments).flatMap pieces := by
    rw [List.filter_flatMap]
    exact List.flatMap_congr fun s _ => (pieces_eq_filter_split s).symm
  rw [joinPath, hpieces]
  rfl

/-! ## Slashes that make no difference -/

/-- A text with one more slash, at an end or beside another one. -/
inductive AddsSlash : List Char → List Char → Prop where
  | first (cs : List Char) : AddsSlash cs ('/' :: cs)
  | last (cs : List Char) : AddsSlash cs (cs ++ ['/'])
  | beside (before after : List Char) : AddsSlash (before ++ '/' :: after) (before ++ '/' :: '/' :: after)

/-- Whether texts are the same up to slashes that are added and removed. -/
def SameButSlashes (s other : String) : Prop :=
  Relation.EqvGen AddsSlash s.toList other.toList

theorem AddsSlash.filter_splitOn_eq {cs more : List Char} (h : AddsSlash cs more) :
    (more.splitOn '/').filter (!·.isEmpty) = (cs.splitOn '/').filter (!·.isEmpty) := by
  have hslash (after : List Char) : ('/' :: after).splitOn '/' = [] :: after.splitOn '/' := by
    simpa using List.splitOn_append_cons_self [] after
  cases h with
  | first => simp [hslash]
  | last => simp [List.splitOn_append_cons_self]
  | beside before after => simp [List.splitOn_append_cons_self, hslash]

theorem SameButSlashes.pieces_eq {s other : String} (h : SameButSlashes s other) :
    pieces s = pieces other := by
  have hfilter {cs more : List Char} (hsame : Relation.EqvGen AddsSlash cs more) :
      (cs.splitOn '/').filter (!·.isEmpty) = (more.splitOn '/').filter (!·.isEmpty) := by
    induction hsame with
    | rel cs more hadds => exact hadds.filter_splitOn_eq.symm
    | refl => rfl
    | symm cs more _ ih => exact ih.symm
    | trans cs between more _ _ ih ih' => exact ih.trans ih'
  rw [pieces, pieces, hfilter h]

/-! ## Texts of paths -/

/-- A path of solid pieces, absolute or not. -/
theorem toList_path (rooted : Bool) (texts : List String) :
    ((if rooted then "/" else "") ++ "/".intercalate texts).toList =
      (if rooted then ['/'] else []) ++ ['/'].intercalate (texts.map String.toList) := by
  rw [String.toList_append, String.toList_intercalate]
  cases rooted <;> rfl

theorem head?_path_iff {rooted : Bool} {texts : List String} (h : Text.Solid '/' (texts.map String.toList)) :
    ((if rooted then "/" else "") ++ "/".intercalate texts).toList.head? = some '/' ↔ rooted = true := by
  rw [toList_path]
  cases rooted with
  | true => simp
  | false => simpa using h.head?_intercalate_ne

theorem not_infix_path (rooted : Bool) {texts : List String} (h : Text.Solid '/' (texts.map String.toList)) :
    ¬['/', '/'] <:+: ((if rooted then "/" else "") ++ "/".intercalate texts).toList := by
  rw [toList_path]
  cases rooted with
  | false => exact h.not_infix_intercalate
  | true =>
    rw [if_pos rfl, List.singleton_append, List.infix_cons_iff, List.cons_prefix_cons]
    rintro (⟨-, after, hstarts⟩ | hinside)
    · refine h.head?_intercalate_ne ?_
      rw [← hstarts]
      rfl
    · exact h.not_infix_intercalate hinside

end Page

namespace PageContext

open Page

/-- What the hierarchy adds to addresses, which ends with the slug of the name. -/
def steps (ctx : PageContext) (slot : Slot) (name : String) : List String :=
  (ctx.folders slot name ++ [slug name]).filter (· ≠ "")

/-- The same context with other roots of addresses. -/
def moved (ctx : PageContext) (linkRoot baseUrl : String) : PageContext :=
  { ctx with settings := { ctx.settings with linkRoot, baseUrl } }

theorem slash_notMem_folders (ctx : PageContext) (slot : Slot) (name : String) :
    ∀ s ∈ ctx.folders slot name ++ [slug name], '/' ∉ s.toList := by
  have hslug (text : String) : '/' ∉ (slug text).toList := by
    rw [slug, String.toList_ofList]
    exact slash_notMem_slugChars text.toList
  have hslot : '/' ∉ slot.name.toList := by cases slot <;> decide
  have hfolder : '/' ∉ (folder slot).toList := by cases slot <;> decide
  have hfolders : ∀ s ∈ ctx.folders slot name, '/' ∉ s.toList := by
    rw [folders]
    cases ctx.settings.page.hierarchy with
    | api => simpa [or_imp, forall_and] using ⟨hfolder, fun group _ => hslug group, hslot⟩
    | entity => simpa [or_imp, forall_and] using ⟨fun group _ => hslug group, hslot⟩
    | flat => simp
  intro s hs
  rcases List.mem_append.1 hs with hfolder | hlast
  · exact hfolders s hfolder
  · rw [List.mem_singleton.1 hlast]
    exact hslug name

/-- The pieces of an address after the slash that makes it absolute. -/
def pathPieces (ctx : PageContext) (slot : Slot) (name : String) : List String :=
  pieces ctx.settings.linkRoot ++ pieces ctx.settings.baseUrl ++ ctx.steps slot name

theorem path_eq (ctx : PageContext) (slot : Slot) (name : String) :
    ctx.path slot name =
      (if isRooted ctx.settings.linkRoot then "/" else "") ++
        "/".intercalate (ctx.pathPieces slot name) := by
  rw [path, List.cons_append, joinPath_cons, List.flatMap_cons, List.cons_append, List.flatMap_cons,
    flatMap_pieces (ctx.slash_notMem_folders slot name), pathPieces, List.append_assoc]
  rfl

theorem solid_pathPieces (ctx : PageContext) (slot : Slot) (name : String) :
    Text.Solid '/' ((ctx.pathPieces slot name).map String.toList) := by
  intro piece hpiece
  obtain ⟨s, hs, rfl⟩ := List.mem_map.1 hpiece
  rcases List.mem_append.1 hs with hroots | hstep
  · rcases List.mem_append.1 hroots with hroot | hbase
    · exact solid_pieces _ _ (List.mem_map_of_mem hroot)
    · exact solid_pieces _ _ (List.mem_map_of_mem hbase)
  · obtain ⟨hmem, hne⟩ := List.mem_filter.1 hstep
    exact ⟨by simpa using hne, ctx.slash_notMem_folders slot name s hmem⟩

/-- Nothing but the roots of addresses changes with them. -/
theorem ofSchema_moved (schema : Schema) (settings : Settings) (linkRoot baseUrl : String) :
    ofSchema schema { settings with linkRoot, baseUrl } =
      (ofSchema schema settings).map (·.moved linkRoot baseUrl) := by
  rw [ofSchema, ofSchema]
  cases schema.catalog.customDirectives settings.handlers <;> rfl

/--
An address is the pieces of the root, of the base and of what the hierarchy adds,
with single slashes in between, and a slash before them exactly if the root starts
with one. Slashes of the settings make no other difference.
-/
theorem path_settled (ctx : PageContext) (slot : Slot) (name : String) :
    (ctx.path slot name =
      (if isRooted ctx.settings.linkRoot then "/" else "") ++
        "/".intercalate
          (pieces ctx.settings.linkRoot ++ pieces ctx.settings.baseUrl ++ ctx.steps slot name)) ∧
      (∀ piece ∈ pieces ctx.settings.linkRoot ++ pieces ctx.settings.baseUrl ++ ctx.steps slot name,
        piece ≠ "" ∧ '/' ∉ piece.toList) ∧
      ((ctx.path slot name).toList.head? = some '/' ↔ ctx.settings.linkRoot.toList.head? = some '/') ∧
      ¬['/', '/'] <:+: (ctx.path slot name).toList ∧
      ∀ linkRoot baseUrl, SameButSlashes linkRoot ctx.settings.linkRoot →
        SameButSlashes baseUrl ctx.settings.baseUrl →
        (linkRoot.toList.head? = some '/' ↔ ctx.settings.linkRoot.toList.head? = some '/') →
        (ctx.moved linkRoot baseUrl).path slot name = ctx.path slot name := by
  have hsolid := ctx.solid_pathPieces slot name
  refine ⟨ctx.path_eq slot name, ?_, ?_, ?_, ?_⟩
  · intro piece hpiece
    obtain ⟨hne, hslash⟩ := hsolid _ (List.mem_map_of_mem hpiece)
    exact ⟨by simpa using hne, hslash⟩
  · rw [path_eq, head?_path_iff hsolid, isRooted, beq_iff_eq]
  · rw [path_eq]
    exact not_infix_path _ hsolid
  · intro linkRoot baseUrl hroot hbase hrooted
    have hlead : isRooted linkRoot = isRooted ctx.settings.linkRoot := by
      rw [Bool.eq_iff_iff, isRooted, isRooted, beq_iff_eq, beq_iff_eq]
      exact hrooted
    have hpieces : (ctx.moved linkRoot baseUrl).pathPieces slot name = ctx.pathPieces slot name := by
      rw [pathPieces, pathPieces, ← hroot.pieces_eq, ← hbase.pieces_eq]
      rfl
    rw [path_eq, path_eq, hpieces, ← hlead]
    rfl

/-- The context of a schema with nothing in it. -/
def blank : PageContext where
  schema := default
  catalog := default
  settings := .default
  customs := default
  groups := none

theorem path_settled_blank :
    SameButSlashes "//" "/" ∧ SameButSlashes "/schema/" "schema" ∧
      (blank.moved "//" "/schema/").path .objects "PetFilter" = blank.path .objects "PetFilter" ∧
      blank.path .objects "PetFilter" = "/schema/types/objects/pet-filter" := by
  have hroot : SameButSlashes "//" "/" := .symm _ _ (.rel _ _ (.first ['/']))
  have hbase : SameButSlashes "/schema/" "schema" :=
    .symm _ _ (.trans _ _ _ (.rel _ _ (.first "schema".toList)) (.rel _ _ (.last "/schema".toList)))
  have hpath := (path_settled blank .objects "PetFilter").2.2.2.2 "//" "/schema/" hroot hbase (by decide)
  exact ⟨hroot, hbase, hpath, by decide +kernel⟩

end PageContext

end SchemaDoc
