-- SUMMARY: Where a slug has hyphens, and that it has all letters and numbers of the name in order.
import SchemaDoc.Proofs.Page.Slugs

/-!
# Hyphens of slugs

A slug is read off the letters and numbers of a text and the places where they
stand. Between two that follow each other there is one hyphen if others came in
between or a word starts at the second one, and none otherwise. Thus a hyphen
never stands at an end of a slug, nor next to another one.
-/

namespace SchemaDoc.Page

/-! ## Letters in their places -/

/-- The letters and numbers of a text which stands at some place, each with its own place. -/
def letterPlaces (start : Nat) (cs : List Char) : List (Char × Nat) :=
  (cs.zipIdx start).filter fun place => Text.isAlphanumeric place.1

theorem letterPlaces_cons_of_pos {c : Char} (hc : Text.isAlphanumeric c = true) (start : Nat) (cs : List Char) :
    letterPlaces start (c :: cs) = (c, start) :: letterPlaces (start + 1) cs := by
  exact List.filter_cons_of_pos hc

theorem letterPlaces_cons_of_neg {c : Char} (hc : ¬Text.isAlphanumeric c = true) (start : Nat) (cs : List Char) :
    letterPlaces start (c :: cs) = letterPlaces (start + 1) cs := by
  exact List.filter_cons_of_neg hc

theorem map_fst_letterPlaces (start : Nat) (cs : List Char) :
    (letterPlaces start cs).map Prod.fst = cs.filter Text.isAlphanumeric := by
  have hfilter := List.filter_map (f := Prod.fst) (p := Text.isAlphanumeric) (l := cs.zipIdx start)
  rw [List.zipIdx_map_fst] at hfilter
  exact hfilter.symm

theorem isAlphanumeric_of_mem_letterPlaces {start : Nat} {cs : List Char} {place : Char × Nat}
    (h : place ∈ letterPlaces start cs) : Text.isAlphanumeric place.1 = true :=
  (List.mem_filter.1 h).2

/-! ## Words set apart -/

/-- Where a word ends between two characters side by side, given what follows them. -/
inductive WordBoundary : Char → Char → Option Char → Prop where
  | capital {p c : Char} {next : Option Char} (hp : Text.isLowercase p = true)
    (hc : Text.isUppercase c = true) : WordBoundary p c next
  | number {p c : Char} {next : Option Char} (hp : Text.isAlphabetic p = true)
    (hc : Text.isNumeric c = true) : WordBoundary p c next
  | letter {p c : Char} {next : Option Char} (hp : Text.isNumeric p = true)
    (hc : Text.isAlphabetic c = true) : WordBoundary p c next
  | acronym {p c next : Char} (hp : Text.isUppercase p = true) (hc : Text.isUppercase c = true)
    (hnext : Text.isLowercase next = true) : WordBoundary p c (some next)

theorem startsWord_iff {p c : Char} {next : Option Char} :
    startsWord p c next = true ↔ WordBoundary p c next := by
  simp only [startsWord, Bool.or_eq_true, Bool.and_eq_true, Option.any_eq_true]
  constructor
  · rintro (((⟨hp, hc⟩ | ⟨hp, hc⟩) | ⟨hp, hc⟩) | ⟨⟨hp, hc⟩, d, rfl, hd⟩)
    · exact .capital hp hc
    · exact .number hp hc
    · exact .letter hp hc
    · exact .acronym hp hc hd
  · intro h
    cases h with
    | capital hp hc => exact .inl (.inl (.inl ⟨hp, hc⟩))
    | number hp hc => exact .inl (.inl (.inr ⟨hp, hc⟩))
    | letter hp hc => exact .inl (.inr ⟨hp, hc⟩)
    | acronym hp hc hnext => exact .inr ⟨⟨hp, hc⟩, _, rfl, hnext⟩

instance (p c : Char) (next : Option Char) : Decidable (WordBoundary p c next) :=
  decidable_of_iff _ startsWord_iff

/-- Whether consecutive letters or numbers of a text belong to different words. -/
def SetApart (text : List Char) (before after : Char × Nat) : Prop :=
  before.2 + 1 < after.2 ∨
    before.2 + 1 = after.2 ∧ WordBoundary before.1 after.1 text[after.2 + 1]?

instance (text : List Char) (before after : Char × Nat) : Decidable (SetApart text before after) :=
  inferInstanceAs (Decidable (_ ∨ _))

/-- What stands between the small forms of consecutive letters or numbers. -/
def hyphen (text : List Char) (before after : Char × Nat) : List Char :=
  if SetApart text before after then ['-'] else []

/-- Letters and numbers in small form, with hyphens where words are set apart. -/
def hyphenated (text : List Char) : List (Char × Nat) → List Char
  | [] => []
  | [place] => Text.lowered place.1
  | before :: after :: places =>
    Text.lowered before.1 ++ hyphen text before after ++ hyphenated text (after :: places)

/-! ## Slugs from places -/

/-- After a letter or number, the slug goes on with the ones in the rest of the text. -/
theorem lowered_append_slugAfter_some {text cs : List Char} {n i : Nat} (htext : text.drop n = cs)
    (hi : i < n) (p : Char) :
    Text.lowered p ++ slugAfter (some p) (decide (i + 1 < n)) cs =
      hyphenated text ((p, i) :: letterPlaces n cs) := by
  -- `p` stands at `i`, and all between it and `n` is neither a letter nor a number.
  induction cs generalizing n i p with
  | nil => simp [slugAfter, letterPlaces, hyphenated]
  | cons c cs ih =>
    have hrest : text.drop (n + 1) = cs := by rw [← List.tail_drop, htext, List.tail_cons]
    by_cases hc : Text.isAlphanumeric c = true
    · have hnext : cs.head? = text[n + 1]? := by rw [← hrest, List.head?_drop]
      have happart : (decide (i + 1 < n) || startsWord p c cs.head?) = true ↔ SetApart text (p, i) (c, n) := by
        rw [Bool.or_eq_true, decide_eq_true_eq, startsWord_iff, hnext, SetApart]
        have hsides : i + 1 < n ∨ i + 1 = n := by omega
        tauto
      have hadjacent := ih hrest (Nat.lt_succ_self n) c
      rw [decide_eq_false (Nat.lt_irrefl (n + 1))] at hadjacent
      rw [letterPlaces_cons_of_pos hc, hyphenated, ← hadjacent, hyphen, slugAfter, if_pos hc]
      simp only [Option.any_some, happart, List.append_assoc]
    · have hapart : decide (i + 1 < n + 1) = true := decide_eq_true (by omega)
      rw [letterPlaces_cons_of_neg hc, slugAfter, if_neg hc, ← hapart]
      exact ih hrest (Nat.lt_succ_of_lt hi) p

theorem slugAfter_none {text cs : List Char} {n : Nat} (htext : text.drop n = cs) (apart : Bool) :
    slugAfter none apart cs = hyphenated text (letterPlaces n cs) := by
  induction cs generalizing n apart with
  | nil => rfl
  | cons c cs ih =>
    have hrest : text.drop (n + 1) = cs := by rw [← List.tail_drop, htext, List.tail_cons]
    by_cases hc : Text.isAlphanumeric c = true
    · have hafter := lowered_append_slugAfter_some hrest (Nat.lt_succ_self n) c
      rw [decide_eq_false (Nat.lt_irrefl (n + 1))] at hafter
      rw [letterPlaces_cons_of_pos hc, ← hafter, slugAfter, if_pos hc]
      rfl
    · rw [letterPlaces_cons_of_neg hc, slugAfter, if_neg hc]
      exact ih hrest true

theorem slugChars_eq_hyphenated (cs : List Char) : slugChars cs = hyphenated cs (letterPlaces 0 cs) :=
  slugAfter_none List.drop_zero false

/-! ## Hyphens and the rest -/

theorem filter_hyphen_lowered {c : Char} (hc : Text.isAlphanumeric c = true) :
    (Text.lowered c).filter (· ≠ '-') = Text.lowered c := by
  rw [List.filter_eq_self]
  rintro d hd
  rw [decide_eq_true_eq]
  rintro rfl
  exact hyphen_notMem_lowered hc hd

theorem filter_hyphen (text : List Char) (before after : Char × Nat) :
    (hyphen text before after).filter (· ≠ '-') = [] := by
  unfold hyphen
  split <;> rfl

/-- Without its hyphens, a slug is all small forms in order. -/
theorem filter_hyphenated (text : List Char) {places : List (Char × Nat)}
    (h : ∀ place ∈ places, Text.isAlphanumeric place.1 = true) :
    (hyphenated text places).filter (· ≠ '-') = (places.map Prod.fst).flatMap Text.lowered := by
  induction places using hyphenated.induct with
  | case1 => rfl
  | case2 place =>
    rw [hyphenated, filter_hyphen_lowered (h place (List.mem_singleton_self place))]
    simp
  | case3 before after places ih =>
    obtain ⟨hbefore, hrest⟩ := List.forall_mem_cons.1 h
    rw [hyphenated, List.filter_append, List.filter_append, filter_hyphen_lowered hbefore, filter_hyphen,
      ih hrest, List.append_nil, List.map_cons (l := after :: places), List.flatMap_cons]

theorem count_hyphen_lowered {c : Char} (hc : Text.isAlphanumeric c = true) :
    (Text.lowered c).count '-' = 0 :=
  List.count_eq_zero.2 (hyphen_notMem_lowered hc)

theorem count_hyphen (text : List Char) (before after : Char × Nat) :
    (hyphen text before after).count '-' = if SetApart text before after then 1 else 0 := by
  unfold hyphen
  split <;> rfl

/-- A slug has a hyphen for each two consecutive letters or numbers that are set apart. -/
theorem count_hyphenated (text : List Char) {places : List (Char × Nat)}
    (h : ∀ place ∈ places, Text.isAlphanumeric place.1 = true) :
    (hyphenated text places).count '-' =
      (places.zip places.tail).countP fun pair => SetApart text pair.1 pair.2 := by
  induction places using hyphenated.induct with
  | case1 => rfl
  | case2 place =>
    rw [hyphenated, count_hyphen_lowered (h place (List.mem_singleton_self place))]
    rfl
  | case3 before after places ih =>
    obtain ⟨hbefore, hrest⟩ := List.forall_mem_cons.1 h
    rw [hyphenated, List.count_append, List.count_append, count_hyphen_lowered hbefore, count_hyphen,
      ih hrest, List.tail_cons, List.tail_cons, List.zip_cons_cons, List.countP_cons, Nat.zero_add, Nat.add_comm]
    simp only [decide_eq_true_eq]

theorem filter_slugChars (cs : List Char) :
    (slugChars cs).filter (· ≠ '-') = (cs.filter Text.isAlphanumeric).flatMap Text.lowered := by
  rw [slugChars_eq_hyphenated, filter_hyphenated cs fun _ => isAlphanumeric_of_mem_letterPlaces,
    map_fst_letterPlaces]

/-- Any other character of a slug comes from a letter or number of the text. -/
theorem exists_of_mem_slugChars {cs : List Char} {d : Char} (h : d ∈ slugChars cs) (hd : d ≠ '-') :
    ∃ c ∈ cs, Text.isAlphanumeric c = true ∧ d ∈ Text.lowered c := by
  have hkept : d ∈ (slugChars cs).filter (· ≠ '-') := List.mem_filter.2 ⟨h, decide_eq_true hd⟩
  rw [filter_slugChars] at hkept
  obtain ⟨c, hc, hlowered⟩ := List.mem_flatMap.1 hkept
  obtain ⟨hmem, halphanumeric⟩ := List.mem_filter.1 hc
  exact ⟨c, hmem, halphanumeric, hlowered⟩

theorem isSmallAscii_of_mem_slugChars {cs : List Char} (hcs : ∀ c ∈ cs, c.toNat < 128) {d : Char}
    (h : d ∈ slugChars cs) (hd : d ≠ '-') : Text.isSmallAscii d = true := by
  obtain ⟨c, hc, halphanumeric, hlowered⟩ := exists_of_mem_slugChars h hd
  rw [Text.lowered, if_pos (hcs c hc), List.mem_singleton] at hlowered
  rw [hlowered]
  exact Text.isSmallAscii_toLower halphanumeric (hcs c hc)

theorem slash_notMem_slugChars (cs : List Char) : '/' ∉ slugChars cs := by
  intro hslash
  obtain ⟨c, -, hc, hlowered⟩ := exists_of_mem_slugChars hslash (by decide)
  exact absurd (Text.isSmallAscii_of_mem_lowered hc hlowered (by decide)) (by decide)

/--
A slug has the small forms of all letters and numbers of the text in order, and a
hyphen between two consecutive ones exactly if they are set apart. It has no other
hyphens, hence none at an end and no two side by side. The slug of an ASCII text
has small letters, digits and hyphens only.
-/
theorem slug_settled (name : String) :
    (slug name).toList = hyphenated name.toList (letterPlaces 0 name.toList) ∧
      ((slug name).toList.filter (· ≠ '-') =
        (name.toList.filter Text.isAlphanumeric).flatMap Text.lowered) ∧
      ((slug name).toList.count '-' =
        ((letterPlaces 0 name.toList).zip (letterPlaces 0 name.toList).tail).countP fun pair =>
          SetApart name.toList pair.1 pair.2) ∧
      (slug name).toList.head? ≠ some '-' ∧ (slug name).toList.getLast? ≠ some '-' ∧
      ¬['-', '-'] <:+: (slug name).toList ∧
      ((∀ c ∈ name.toList, c.toNat < 128) →
        ∀ c ∈ (slug name).toList, c.isLower = true ∨ c.isDigit = true ∨ c = '-') := by
  have hplaces : ∀ place ∈ letterPlaces 0 name.toList, Text.isAlphanumeric place.1 = true :=
    fun _ => isAlphanumeric_of_mem_letterPlaces
  have hsolid := solid_words name.toList
  rw [slug, String.toList_ofList]
  refine ⟨slugChars_eq_hyphenated name.toList, ?_, ?_, ?_, ?_, ?_, ?_⟩
  · exact filter_slugChars name.toList
  · rw [slugChars_eq_hyphenated, count_hyphenated _ hplaces]
  · rw [slugChars_eq]
    exact hsolid.head?_intercalate_ne
  · rw [slugChars_eq]
    exact hsolid.getLast?_intercalate_ne
  · rw [slugChars_eq]
    exact hsolid.not_infix_intercalate
  · intro hascii c hc
    by_cases hhyphen : c = '-'
    · exact .inr (.inr hhyphen)
    · exact (Bool.or_eq_true_iff.1 (isSmallAscii_of_mem_slugChars hascii hc hhyphen)).imp_right .inl

/-- Acronyms, digits and other characters in between, all at once. -/
theorem slug_settled_acronym :
    (∀ c ∈ "HTTPServer2 _xY".toList, c.toNat < 128) ∧ slug "HTTPServer2 _xY" = "http-server-2-x-y" ∧
      ∀ c ∈ (slug "HTTPServer2 _xY").toList, c.isLower = true ∨ c.isDigit = true ∨ c = '-' := by
  have hall : "HTTPServer2 _xY".toList.all (fun c => decide (c.toNat < 128)) = true := by decide
  have hascii : ∀ c ∈ "HTTPServer2 _xY".toList, c.toNat < 128 :=
    fun c hc => of_decide_eq_true (List.all_eq_true.1 hall c hc)
  exact ⟨hascii, by decide +kernel, (slug_settled "HTTPServer2 _xY").2.2.2.2.2.2 hascii⟩

end SchemaDoc.Page
