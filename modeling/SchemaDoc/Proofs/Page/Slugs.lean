-- SUMMARY: Pages of one category have the same slug exactly if their names have the same words.
import SchemaDoc.Proofs.Catalog.Entities
import SchemaDoc.Proofs.Page.Context
import SchemaDoc.Proofs.Text.Case
import SchemaDoc.Proofs.Text.Pieces

/-!
# What slugs tell apart

A slug keeps the words of a name and drops everything else: the case of letters
and how words are set off. No word of a name has a hyphen, so the words can be
read off the slug. Names with one slug are thus the same up to case and
underscores, and only a name of underscores has no slug.
-/

namespace SchemaDoc

namespace Page

/-! ## Words -/

/-- Whether the word of a character goes on with the text after it. -/
def goesOn (c : Char) : List Char → Bool
  | [] => false
  | d :: cs => Text.isAlphanumeric d && !startsWord c d cs.head?

/-- The words of a name in small letters. -/
def words : List Char → List (List Char)
  | [] => []
  | c :: cs =>
    if Text.isAlphanumeric c then
      if goesOn c cs then (words cs).modifyHead (Text.lowered c ++ ·) else Text.lowered c :: words cs
    else words cs

theorem exists_words_cons {c : Char} (h : Text.isAlphanumeric c = true) (cs : List Char) :
    ∃ word rest, words (c :: cs) = (Text.lowered c ++ word) :: rest := by
  induction cs generalizing c with
  | nil => exact ⟨[], [], by simp [words, h, goesOn]⟩
  | cons d ds ih =>
    rw [words, if_pos h]
    split
    · next hgoesOn =>
      obtain ⟨word, rest, hwords⟩ := ih (Bool.and_eq_true_iff.1 hgoesOn).1
      exact ⟨_, rest, by rw [hwords, List.modifyHead_cons]⟩
    · exact ⟨[], words (d :: ds), by rw [List.append_nil]⟩

theorem exists_words_of_goesOn {c : Char} {cs : List Char} (h : goesOn c cs = true) :
    ∃ word rest, words cs = word :: rest := by
  cases cs with
  | nil => cases h
  | cons d ds =>
    obtain ⟨word, rest, hwords⟩ := exists_words_cons (Bool.and_eq_true_iff.1 h).1 ds
    exact ⟨_, rest, hwords⟩

/-- A word is written down with what follows if what follows its first character is. -/
theorem lowered_append_slugAfter {c : Char} {cs : List Char} (hc : Text.isAlphanumeric c = true)
    (h : slugAfter (some c) false cs =
      if goesOn c cs then ['-'].intercalate (words cs) else (words cs).flatMap (['-'] ++ ·)) :
    Text.lowered c ++ slugAfter (some c) false cs = ['-'].intercalate (words (c :: cs)) := by
  rw [h, words, if_pos hc]
  split
  · next hgoesOn =>
    obtain ⟨word, rest, hwords⟩ := exists_words_of_goesOn hgoesOn
    rw [hwords, List.modifyHead_cons, Sdl.intercalate_cons_eq, Sdl.intercalate_cons_eq,
      List.append_assoc]
  · rw [Sdl.intercalate_cons_eq]

/-- After a letter or number, its word goes on or the next one is set off by a hyphen. -/
theorem slugAfter_some (p : Char) (apart : Bool) (cs : List Char) :
    slugAfter (some p) apart cs =
      if !apart && goesOn p cs then ['-'].intercalate (words cs) else (words cs).flatMap (['-'] ++ ·) := by
  -- The text after `p` is the same words either way; `apart` and the case of `c` decide on the hyphen.
  induction cs generalizing p apart with
  | nil => simp [slugAfter, words]
  | cons c cs ih =>
    by_cases hc : Text.isAlphanumeric c = true
    · have hhyphen : (!apart && goesOn p (c :: cs)) = !(apart || startsWord p c cs.head?) := by
        rw [goesOn, hc, Bool.true_and, Bool.not_or]
      obtain ⟨word, rest, hwords⟩ := exists_words_cons hc cs
      rw [slugAfter, if_pos hc, Option.any_some, List.append_assoc, lowered_append_slugAfter hc (ih c false),
        hhyphen, hwords, Sdl.intercalate_cons_eq, List.flatMap_cons, List.append_assoc ['-']]
      cases apart || startsWord p c cs.head? <;> rfl
    · have hends : goesOn p (c :: cs) = false := by simp [goesOn, hc]
      rw [slugAfter, if_neg hc, ih, words, if_neg hc, hends, Bool.and_false]
      rfl

/-- A slug has the words of the name with hyphens between them. -/
theorem slugChars_eq (cs : List Char) : slugChars cs = ['-'].intercalate (words cs) := by
  have hnone (apart : Bool) : slugAfter none apart cs = ['-'].intercalate (words cs) := by
    induction cs generalizing apart with
    | nil => rfl
    | cons c cs ih =>
      by_cases hc : Text.isAlphanumeric c = true
      · rw [← lowered_append_slugAfter hc (slugAfter_some c false cs), slugAfter, if_pos hc]
        rfl
      · rw [slugAfter, if_neg hc, ih, words, if_neg hc]
  exact hnone false

example : words "HTTPServer2".toList = ["http".toList, "server".toList, "2".toList] := by
  decide +kernel

theorem lowered_ne_nil (c : Char) : Text.lowered c ≠ [] := by
  unfold Text.lowered
  split
  · exact List.cons_ne_nil _ _
  · split
    · exact List.cons_ne_nil _ _
    · split <;> exact List.cons_ne_nil _ _

theorem words_eq_nil_iff {cs : List Char} : words cs = [] ↔ ∀ c ∈ cs, Text.isAlphanumeric c = false := by
  induction cs with
  | nil => simp [words]
  | cons c cs ih =>
    rw [List.forall_mem_cons, ← ih]
    by_cases hc : Text.isAlphanumeric c = true
    · obtain ⟨word, rest, hwords⟩ := exists_words_cons hc cs
      simp [hwords, hc]
    · simp [words, hc]

theorem slugChars_eq_nil_iff {cs : List Char} : slugChars cs = [] ↔ words cs = [] := by
  constructor
  · intro hslug
    induction cs with
    | nil => rfl
    | cons c cs ih =>
      by_cases hc : Text.isAlphanumeric c = true
      · obtain ⟨word, rest, hwords⟩ := exists_words_cons hc cs
        rw [slugChars_eq, hwords, Sdl.intercalate_cons_eq, List.append_eq_nil_iff,
          List.append_eq_nil_iff] at hslug
        exact absurd hslug.1.1 (lowered_ne_nil c)
      · rw [slugChars_eq, words, if_neg hc, ← slugChars_eq] at hslug
        rw [words, if_neg hc, ih hslug]
  · intro hwords
    rw [slugChars_eq, hwords]
    rfl

theorem nil_notMem_words (cs : List Char) : [] ∉ words cs := by
  induction cs with
  | nil => exact List.not_mem_nil
  | cons c cs ih =>
    rw [words]
    split
    · split
      · next hgoesOn =>
        obtain ⟨word, rest, hwords⟩ := exists_words_of_goesOn hgoesOn
        rw [hwords] at ih ⊢
        simp only [List.modifyHead_cons, List.mem_cons, not_or] at ih ⊢
        exact ⟨fun hnil => lowered_ne_nil c (List.append_eq_nil_iff.1 hnil.symm).1, ih.2⟩
      · exact List.not_mem_cons_of_ne_of_not_mem (lowered_ne_nil c).symm ih
    · exact ih

/-- The words of a text are all its letters and numbers in small form. -/
theorem flatten_words (cs : List Char) :
    (words cs).flatten = (cs.filter Text.isAlphanumeric).flatMap Text.lowered := by
  induction cs with
  | nil => rfl
  | cons c cs ih =>
    by_cases hc : Text.isAlphanumeric c = true
    · rw [List.filter_cons_of_pos hc, List.flatMap_cons, ← ih, words, if_pos hc]
      split
      · next hgoesOn =>
        obtain ⟨word, rest, hwords⟩ := exists_words_of_goesOn hgoesOn
        rw [hwords, List.modifyHead_cons, List.flatten_cons, List.flatten_cons, List.append_assoc]
      · rw [List.flatten_cons]
    · rw [List.filter_cons_of_neg hc, words, if_neg hc, ih]

theorem hyphen_notMem_lowered {c : Char} (hc : Text.isAlphanumeric c = true) : '-' ∉ Text.lowered c :=
  fun hmem => absurd (Text.isSmallAscii_of_mem_lowered hc hmem (by decide)) (by decide)

theorem solid_words (cs : List Char) : Text.Solid '-' (words cs) := by
  intro word hword
  refine ⟨fun hnil => nil_notMem_words cs (hnil ▸ hword), fun hhyphen => ?_⟩
  have hmem : '-' ∈ (cs.filter Text.isAlphanumeric).flatMap Text.lowered :=
    flatten_words cs ▸ List.mem_flatten_of_mem hword hhyphen
  obtain ⟨c, hc, hlowered⟩ := List.mem_flatMap.1 hmem
  exact hyphen_notMem_lowered (List.mem_filter.1 hc).2 hlowered

/-- The words of a text can be read off its slug. -/
theorem slugChars_eq_iff {cs other : List Char} : slugChars cs = slugChars other ↔ words cs = words other := by
  constructor
  · intro hslug
    by_cases hwords : words cs = []
    · rw [hwords]
      rw [slugChars_eq_nil_iff.2 hwords] at hslug
      exact (slugChars_eq_nil_iff.1 hslug.symm).symm
    · have hwordsOther : words other ≠ [] := by
        rwa [Ne, ← slugChars_eq_nil_iff, ← hslug, slugChars_eq_nil_iff]
      rw [slugChars_eq, slugChars_eq] at hslug
      calc words cs = (['-'].intercalate (words cs)).splitOn '-' :=
            ((solid_words cs).splitOn_intercalate hwords).symm
        _ = (['-'].intercalate (words other)).splitOn '-' := by rw [hslug]
        _ = words other := (solid_words other).splitOn_intercalate hwordsOther
  · intro hwords
    rw [slugChars_eq, slugChars_eq, hwords]

/-! ## Words of names -/

/-- What is left of a name where underscores and the case of letters do not count. -/
def letters (cs : List Char) : List Char :=
  (cs.filter (· ≠ '_')).map Char.toLower

/-- What slugs make of the characters of names. -/
theorem nameChar_table : ∀ n < 128, Sdl.isNameChar (Char.ofNat n) = true →
    Text.isAlphanumeric (Char.ofNat n) = decide (Char.ofNat n ≠ '_') ∧
      Text.lowered (Char.ofNat n) = [(Char.ofNat n).toLower] := by
  decide +kernel

theorem nameChar_facts {c : Char} (h : Sdl.isNameChar c = true) :
    Text.isAlphanumeric c = decide (c ≠ '_') ∧ Text.lowered c = [c.toLower] := by
  have hlow : c.toNat < 128 := by
    rcases Bool.or_eq_true_iff.1 h with halphanum | hunderscore
    · rcases Bool.or_eq_true_iff.1 halphanum with halpha | hdigit
      · rcases Bool.or_eq_true_iff.1 halpha with hupper | hlower
        · have hrange : 'A'.val ≤ c.val ∧ c.val ≤ 'Z'.val := of_decide_eq_true hupper
          exact Nat.lt_of_le_of_lt hrange.2 (by decide)
        · have hle : c.val ≤ 'z'.val := of_decide_eq_true (Bool.and_eq_true_iff.1 hlower).2
          exact Nat.lt_of_le_of_lt hle (by decide)
      · have hle : c.val ≤ '9'.val := of_decide_eq_true (Bool.and_eq_true_iff.1 hdigit).2
        exact Nat.lt_of_le_of_lt hle (by decide)
    · rw [beq_iff_eq.1 hunderscore]
      decide
  have htable := nameChar_table c.toNat hlow
  rw [Char.ofNat_toNat] at htable
  exact htable h

/-- The words of a name make up all its letters and digits. -/
theorem flatten_words_eq_letters {cs : List Char} (h : ∀ c ∈ cs, Sdl.isNameChar c = true) :
    (words cs).flatten = letters cs := by
  have hfilter : cs.filter Text.isAlphanumeric = cs.filter (· ≠ '_') :=
    List.filter_congr fun c hc => (nameChar_facts (h c hc)).1
  have hlowered : ∀ c ∈ cs.filter (· ≠ '_'), Text.lowered c = [c.toLower] :=
    fun c hc => (nameChar_facts (h c (List.mem_filter.1 hc).1)).2
  rw [flatten_words, hfilter, letters, List.map_eq_flatMap]
  exact List.flatMap_congr hlowered

/-! ## Slugs of names -/

theorem isNameChar_of_isName {name : String} (h : Sdl.isName name = true) :
    ∀ c ∈ name.toList, Sdl.isNameChar c = true := by
  obtain ⟨c, cs, hname, hc, hcs⟩ := Sdl.isName_iff.1 h
  rw [hname, List.forall_mem_cons]
  refine ⟨?_, hcs⟩
  simp only [Sdl.isNameStart, Sdl.isNameChar, Char.isAlphanum, Bool.or_eq_true] at hc ⊢
  exact hc.imp_left Or.inl

theorem slug_eq_iff {name other : String} :
    slug name = slug other ↔ words name.toList = words other.toList := by
  rw [slug, slug, String.ofList_inj]
  exact slugChars_eq_iff

/-- Names with one slug differ in underscores and the case of letters at most. -/
theorem letters_eq_of_slug_eq {name other : String} (h : Sdl.isName name = true)
    (hother : Sdl.isName other = true) (hslug : slug name = slug other) :
    letters name.toList = letters other.toList := by
  rw [← flatten_words_eq_letters (isNameChar_of_isName h), slug_eq_iff.1 hslug,
    flatten_words_eq_letters (isNameChar_of_isName hother)]

/-- Only underscores vanish from a slug. -/
theorem slug_eq_empty_iff {name : String} (h : Sdl.isName name = true) :
    slug name = "" ↔ ∀ c ∈ name.toList, c = '_' := by
  rw [slug, String.ofList_eq_empty_iff, slugChars_eq_nil_iff, words_eq_nil_iff]
  refine forall₂_congr fun c hc => ?_
  rw [(nameChar_facts (isNameChar_of_isName h c hc)).1, decide_eq_false_iff_not, Decidable.not_not]

end Page

/-! ## Slugs of documents -/

/-- No two entities of one slot have the same name. -/
theorem Catalog.Keyed.pairwise_name_ne {catalog : Catalog} (hkeyed : catalog.Keyed) :
    catalog.entities.Pairwise fun entry other => entry.1 = other.1 → entry.2.name ≠ other.2.name := by
  rw [entities, List.pairwise_flatMap]
  constructor
  · intro slot _
    rw [List.pairwise_map]
    exact (List.pairwise_map.1 (hkeyed.nodup_names slot)).imp fun {entity other} hne (_ : slot = slot) => hne
  · have hslots : Slot.all.Nodup := by decide
    refine hslots.imp fun {slot other} hne => ?_
    intro entry hentry otherEntry hother heq
    obtain ⟨_, -, rfl⟩ := List.mem_map.1 hentry
    obtain ⟨_, -, rfl⟩ := List.mem_map.1 hother
    exact absurd heq hne

theorem Schema.exists_context_of_render {schema : Schema} {settings : Settings} {rendered : List Rendered}
    (h : schema.render settings = .ok rendered) :
    ∃ ctx, PageContext.ofSchema schema settings = .ok ctx ∧
      ctx.documented.filterMap (fun entry => ctx.rendered? entry.1 entry.2) = rendered := by
  simpa only [Schema.render, Result.bind_eq_ok_iff, Result.pure_eq_ok_iff] using h

/--
A document has an empty slug only if its name has nothing but underscores. Two
documents of one category have different names, and the same slug exactly if
these have the same words: then they differ in underscores and the case of
letters at most.
-/
theorem Schema.slugs_separate_words {documents : List Document} {schema : Schema} {settings : Settings}
    {rendered : List Rendered} (h : Schema.ofDocuments documents = .ok schema)
    (hrendered : schema.render settings = .ok rendered) :
    (∀ document ∈ rendered, document.slug = "" ↔ ∀ c ∈ document.name.toList, c = '_') ∧
      rendered.Pairwise fun document other => document.category = other.category →
        document.name ≠ other.name ∧
          (document.slug = other.slug ↔ Page.words document.name.toList = Page.words other.name.toList) ∧
          (document.slug = other.slug →
            Page.letters document.name.toList = Page.letters other.name.toList) := by
  obtain ⟨ctx, hctx, rfl⟩ := Schema.exists_context_of_render hrendered
  obtain ⟨customs, -, rfl⟩ := PageContext.ofSchema_eq_ok_iff.1 hctx
  obtain ⟨draft, declared, hcompletes⟩ := Schema.completes_of_ofDocuments h
  have hkeyed := hcompletes.keyed.catalog
  have hname {slot : Slot} {entity : Entity} (hentity : (slot, entity) ∈ schema.catalog.entities) :
      Sdl.isName entity.name = true :=
    hcompletes.isName (Document.fits_declarations documents) hentity
  constructor
  · intro document hdocument
    obtain ⟨⟨slot, entity⟩, hentry, hsome⟩ := List.mem_filterMap.1 hdocument
    obtain ⟨page, -, rfl⟩ := PageContext.rendered?_eq_some_iff.1 hsome
    exact Page.slug_eq_empty_iff (hname (PageContext.mem_documented_iff.1 hentry).1)
  · rw [List.pairwise_filterMap]
    refine List.Pairwise.imp_of_mem ?_ (hkeyed.pairwise_name_ne.sublist List.filter_sublist)
    rintro ⟨slot, entity⟩ ⟨_, other⟩ hentity hother hne document hdocument otherDocument hotherDocument
    obtain ⟨page, -, rfl⟩ := PageContext.rendered?_eq_some_iff.1 hdocument
    obtain ⟨otherPage, -, rfl⟩ := PageContext.rendered?_eq_some_iff.1 hotherDocument
    intro hcategory
    have hnameEntity := hname (PageContext.mem_documented_iff.1 hentity).1
    have hnameOther := hname (PageContext.mem_documented_iff.1 hother).1
    exact ⟨hne hcategory, Page.slug_eq_iff,
      Page.letters_eq_of_slug_eq hnameEntity hnameOther⟩

/-- Two fields with the same words in their names, and a type with none. -/
def Document.alike : List Document :=
  [⟨some "a.graphql", "type Query { pet_name: Int petName: Int } scalar _"⟩]

theorem Schema.slugs_separate_words_alike :
    ∃ schema rendered, Schema.ofDocuments Document.alike = .ok schema ∧
      schema.render .default = .ok rendered ∧ ∃ document ∈ rendered, document.name = "_" ∧
        document.slug = "" := by
  have hpasses : PageContext.passes Document.alike .default (fun ctx =>
      ((ctx.documented.filterMap fun entry => ctx.rendered? entry.1 entry.2).map Rendered.name).contains
        "_") = true := by
    decide +kernel
  obtain ⟨schema, ctx, hschema, hctx, htest⟩ := PageContext.exists_of_passes hpasses
  have hrendered := PageContext.render_eq hctx
  obtain ⟨document, hdocument, hname⟩ := List.mem_map.1 (List.contains_iff_mem.1 htest)
  have hunderscores : ∀ c ∈ document.name.toList, c = '_' := by
    rw [hname]
    simp
  exact ⟨schema, _, hschema, hrendered, document, hdocument, hname,
    ((Schema.slugs_separate_words hschema hrendered).1 document hdocument).2 hunderscores⟩

/-- Neither does every document have a slug, nor do two of one category have different ones. -/
theorem Schema.slugs_collide :
    ∃ schema rendered, Schema.ofDocuments Document.alike = .ok schema ∧
      schema.render .default = .ok rendered ∧ (¬∀ document ∈ rendered, document.slug ≠ "") ∧
        ¬rendered.Pairwise fun document other =>
          ¬(document.category = other.category ∧ document.slug = other.slug) := by
  have hpasses : PageContext.passes Document.alike .default (fun ctx =>
      let rendered := ctx.documented.filterMap fun entry => ctx.rendered? entry.1 entry.2
      decide ((¬∀ document ∈ rendered, document.slug ≠ "") ∧
        ¬rendered.Pairwise fun document other =>
          ¬(document.category = other.category ∧ document.slug = other.slug))) = true := by
    decide +kernel
  obtain ⟨schema, ctx, hschema, hctx, htest⟩ := PageContext.exists_of_passes hpasses
  exact ⟨schema, _, hschema, PageContext.render_eq hctx, of_decide_eq_true htest⟩

end SchemaDoc
