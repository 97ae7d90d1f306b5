-- SUMMARY: Literals of values are constants, and have nothing to escape but strings.
import SchemaDoc.Proofs.Sdl.Constants

/-!
# Constants among the literals

The literal of a value is one constant, unless a variable or an infinite number
stands in it. If no string stands in it either, then none of its characters would
be escaped between quotes, so quotes around it make it one string.
-/

namespace SchemaDoc.Value

/-! ## Parts of values -/

/-- The second value stands in the first one, or is it. -/
inductive Contains : Value → Value → Prop where
  | self (v : Value) : Contains v v
  | item {items : List Value} {v w : Value} (hv : v ∈ items) (h : Contains v w) : Contains (.list items) w
  | entry {entries : List (String × Value)} {e : String × Value} {w : Value} (he : e ∈ entries)
    (h : Contains e.2 w) : Contains (.object entries) w

/-- No variable and no infinite number stands in the value. -/
structure Definite (v : Value) : Prop where
  var : ∀ name, ¬ v.Contains (.var name)
  infinite : ∀ negative, ¬ v.Contains (.float (.infinite negative))

theorem Definite.mono {v w : Value} (h : v.Definite) (hw : ∀ u, w.Contains u → v.Contains u) : w.Definite where
  var name hname := h.var name (hw _ hname)
  infinite negative hnegative := h.infinite negative (hw _ hnegative)

theorem Definite.item {items : List Value} (h : Definite (.list items)) {v : Value} (hv : v ∈ items) :
    v.Definite :=
  h.mono fun _ => .item hv

theorem Definite.entry {entries : List (String × Value)} (h : Definite (.object entries)) {e : String × Value}
    (he : e ∈ entries) : e.2.Definite :=
  h.mono fun _ => .entry he

theorem contains_list_iff {items : List Value} {w : Value} :
    (Value.list items).Contains w ↔ w = .list items ∨ ∃ v ∈ items, v.Contains w := by
  constructor
  · rintro (_ | ⟨hv, h⟩)
    · exact .inl rfl
    · exact .inr ⟨_, hv, h⟩
  · rintro (rfl | ⟨v, hv, h⟩)
    · exact .self _
    · exact .item hv h

theorem contains_object_iff {entries : List (String × Value)} {w : Value} :
    (Value.object entries).Contains w ↔ w = .object entries ∨ ∃ e ∈ entries, e.2.Contains w := by
  constructor
  · rintro (_ | _ | ⟨he, h⟩)
    · exact .inl rfl
    · exact .inr ⟨_, he, h⟩
  · rintro (rfl | ⟨e, he, h⟩)
    · exact .self _
    · exact .entry he h

/-- In a value that is neither a list nor an object stands no other. -/
theorem contains_iff_eq {v w : Value} (hlist : ∀ items, v ≠ .list items) (hobject : ∀ entries, v ≠ .object entries) :
    v.Contains w ↔ w = v := by
  constructor
  · rintro (_ | _ | _)
    · rfl
    · exact absurd rfl (hlist _)
    · exact absurd rfl (hobject _)
  · rintro rfl
    exact .self _

/-- The literal of a value without variables and infinite numbers is one constant. -/
theorem exists_spells_text {v : Value} (h : v.Loadable) (hdefinite : v.Definite) :
    ∃ ls, Sdl.Spells v.text.toList ls := by
  induction h with
  | null => exact ⟨_, Sdl.Spells.name (rfl : Sdl.isName "null" = true)⟩
  | bool b => cases b <;> exact ⟨_, Sdl.Spells.name rfl⟩
  | @int n hlow hhigh =>
    have htext : (Value.int n).text.toList = Sdl.intChars n := Sdl.toList_toString_int n
    rw [htext]
    exact ⟨_, Sdl.Spells.int n⟩
  | float x =>
    cases x with
    | finite negative mantissa exponent => exact Sdl.exists_spells_finite negative mantissa exponent
    | infinite negative => exact absurd (.self _) (hdefinite.infinite negative)
  | string s => exact ⟨_, Sdl.Spells.quote s⟩
  | enum hname hkeyword => exact ⟨_, Sdl.Spells.name hname⟩
  | @var name hname => exact absurd (.self _) (hdefinite.var name)
  | @list items hitems ih =>
    rw [text, itemTexts_eq]
    refine Sdl.exists_spells_list fun text htext => ?_
    obtain ⟨v, hv, rfl⟩ := List.mem_map.1 htext
    exact ih v hv (hdefinite.item hv)
  | @object entries hkeys hsorted hentries ih =>
    have htext : entryTexts entries =
        (entries.map fun e => (e.1, e.2.text)).map fun e => e.1 ++ ": " ++ e.2 := by
      rw [entryTexts_eq, List.map_map]
      rfl
    rw [text, htext]
    refine Sdl.exists_spells_object (fun e he => ?_) fun e he => ?_
    · obtain ⟨entry, hentry, rfl⟩ := List.mem_map.1 he
      exact hkeys entry hentry
    · obtain ⟨entry, hentry, rfl⟩ := List.mem_map.1 he
      exact ih entry hentry (hdefinite.entry hentry)

/-! ### Literals between quotes -/

/-- The characters that need no escapes. -/
def Verbatim (cs : List Char) : Prop :=
  ∀ c ∈ cs, Sdl.escapeChar c = [c]

theorem quote_of_verbatim {s : String} (h : Verbatim s.toList) : Sdl.quote s = "\"" ++ s ++ "\"" := by
  have hchars : s.toList.flatMap Sdl.escapeChar = s.toList := by
    rw [List.flatMap_congr h, List.flatMap_singleton']
  apply String.toList_injective
  rw [Sdl.quote, Sdl.quoteChars, hchars, String.toList_ofList, String.toList_append, String.toList_append]
  rfl

/-- A class of characters without the ones to be escaped is checked by a table. -/
theorem verbatim_of_class {p : Char → Bool}
    (htable : ∀ n < 128, p (Char.ofNat n) = true → Sdl.escapeChar (Char.ofNat n) = [Char.ofNat n])
    {cs : List Char} (h : ∀ c ∈ cs, p c = true) : Verbatim cs := by
  have hchar : ∀ c, p c = true → Sdl.escapeChar c = [c] :=
    Sdl.forall_char htable fun c hc _ => Sdl.escapeChar_of_high hc
  exact fun c hc => hchar c (h c hc)

theorem verbatim_name {name : String} (h : Sdl.isName name = true) : Verbatim name.toList := by
  refine verbatim_of_class (p := fun c => Sdl.isNameStart c || Sdl.isNameChar c) (by decide) fun c hc => ?_
  obtain ⟨first, rest, htext, hfirst, hrest⟩ := Sdl.isName_iff.1 h
  rw [htext] at hc
  rcases List.mem_cons.1 hc with rfl | hc
  · rw [hfirst, Bool.true_or]
  · rw [hrest c hc, Bool.or_true]

theorem verbatim_digits {cs : List Char} (h : ∀ c ∈ cs, c.isDigit = true) : Verbatim cs :=
  verbatim_of_class (by decide) h

theorem Verbatim.append {cs ds : List Char} (hcs : Verbatim cs) (hds : Verbatim ds) : Verbatim (cs ++ ds) :=
  List.forall_mem_append.2 ⟨hcs, hds⟩

theorem verbatim_int (n : Int) : Verbatim (Sdl.intChars n) := by
  unfold Sdl.intChars
  split
  · exact verbatim_digits Sdl.isDigit_of_mem_toDigits
  · exact List.forall_mem_cons.2 ⟨rfl, verbatim_digits Sdl.isDigit_of_mem_toDigits⟩

theorem verbatim_float (x : Binary64) : Verbatim x.text.toList := by
  cases x with
  | infinite negative =>
    have hletters : (Binary64.infinite negative).text.toList.all ['-', 'i', 'n', 'f'].contains = true := by
      cases negative <;> rfl
    exact verbatim_of_class (by decide) (List.all_eq_true.1 hletters)
  | finite negative mantissa exponent =>
    obtain ⟨cs, hcs, htext⟩ := Binary64.exists_positional_text negative mantissa exponent
    have hsign : Verbatim (Binary64.signChars negative) := by
      cases negative
      · exact fun _ hc => nomatch hc
      · exact List.forall_mem_singleton.2 rfl
    rw [htext]
    obtain ⟨whole, rest, rfl, hwhole, hrest⟩ := hcs.exists_append
    refine hsign.append ((verbatim_digits hwhole.digits).append ?_)
    exact verbatim_of_class (p := fun c => c == '.' || c.isDigit) (by decide) fun c hc => by simpa using hrest c hc

/-! ### Characters of literals -/

section

variable {p : Char → Prop}

theorem Verbatim.forall_mem {cs : List Char} (h : Verbatim cs) (hp : ∀ c, Sdl.escapeChar c = [c] → p c) :
    ∀ c ∈ cs, p c :=
  fun c hc => hp c (h c hc)

theorem forall_mem_intercalate {separator : List Char} (hseparator : ∀ c ∈ separator, p c)
    {css : List (List Char)} (h : ∀ cs ∈ css, ∀ c ∈ cs, p c) : ∀ c ∈ separator.intercalate css, p c := by
  cases css with
  | nil => exact fun _ hc => nomatch hc
  | cons cs css =>
    rw [List.forall_mem_cons] at h
    rw [Sdl.intercalate_cons_eq]
    refine List.forall_mem_append.2 ⟨h.1, fun c hc => ?_⟩
    obtain ⟨ds, hds, hc⟩ := List.mem_flatMap.1 hc
    exact List.forall_mem_append.2 ⟨hseparator, h.2 ds hds⟩ c hc

theorem forall_mem_enclosed (hp : ∀ c, Sdl.escapeChar c = [c] → p c) {opening closing : String}
    (hopening : Verbatim opening.toList) (hclosing : Verbatim closing.toList) {texts : List String}
    (h : ∀ text ∈ texts, ∀ c ∈ text.toList, p c) :
    ∀ c ∈ (opening ++ String.intercalate ", " texts ++ closing).toList, p c := by
  have hcomma : Verbatim ", ".toList := List.forall_mem_cons.2 ⟨rfl, List.forall_mem_singleton.2 rfl⟩
  have htexts := forall_mem_intercalate (hcomma.forall_mem hp) (List.forall_mem_map.2 h)
  rw [String.toList_append, String.toList_append, String.toList_intercalate]
  exact List.forall_mem_append.2
    ⟨List.forall_mem_append.2 ⟨hopening.forall_mem hp, htexts⟩, hclosing.forall_mem hp⟩

/-- What holds of all characters that need no escapes holds of a whole literal, if it does of the strings in it. -/
theorem forall_mem_text (hp : ∀ c, Sdl.escapeChar c = [c] → p c) {v : Value} (h : v.Loadable)
    (hstring : ∀ s, v.Contains (.string s) → ∀ c ∈ (Sdl.quote s).toList, p c) : ∀ c ∈ v.text.toList, p c := by
  induction h with
  | null => exact (verbatim_name rfl).forall_mem hp
  | bool b => cases b <;> exact (verbatim_name rfl).forall_mem hp
  | @int n hlow hhigh =>
    have htext : (Value.int n).text.toList = Sdl.intChars n := Sdl.toList_toString_int n
    rw [htext]
    exact (verbatim_int n).forall_mem hp
  | float x => exact (verbatim_float x).forall_mem hp
  | string s => exact hstring s (.self _)
  | enum hname hkeyword => exact (verbatim_name hname).forall_mem hp
  | @var name hname =>
    rw [text, String.toList_append]
    exact (Verbatim.append (List.forall_mem_singleton.2 rfl) (verbatim_name hname)).forall_mem hp
  | @list items hitems ih =>
    have hitem : ∀ v ∈ items, ∀ c ∈ v.text.toList, p c :=
      fun v hv => ih v hv fun s hs => hstring s (.item hv hs)
    rw [text, itemTexts_eq]
    refine forall_mem_enclosed hp ?_ ?_ (List.forall_mem_map.2 hitem)
    · exact List.forall_mem_singleton.2 rfl
    · exact List.forall_mem_singleton.2 rfl
  | @object entries hkeys hsorted hentries ih =>
    have hcolon : Verbatim ": ".toList := List.forall_mem_cons.2 ⟨rfl, List.forall_mem_singleton.2 rfl⟩
    have hentry : ∀ e ∈ entries, ∀ c ∈ (entryText e).toList, p c := by
      intro e he
      have hkey := ((verbatim_name (hkeys e he)).append hcolon).forall_mem hp
      have hvalue := ih e he fun s hs => hstring s (.entry he hs)
      rw [entryText, String.toList_append, String.toList_append]
      exact List.forall_mem_append.2 ⟨hkey, hvalue⟩
    rw [text, entryTexts_eq]
    refine forall_mem_enclosed hp ?_ ?_ (List.forall_mem_map.2 hentry)
    · exact List.forall_mem_singleton.2 rfl
    · exact List.forall_mem_singleton.2 rfl

end

/-- Only strings have characters to be escaped. -/
theorem verbatim_text {v : Value} (h : v.Loadable) (hstring : ∀ s, ¬ v.Contains (.string s)) :
    Verbatim v.text.toList :=
  forall_mem_text (fun _ hc => hc) h fun s hs => absurd hs (hstring s)

end SchemaDoc.Value
