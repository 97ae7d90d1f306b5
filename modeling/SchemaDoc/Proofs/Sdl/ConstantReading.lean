-- SUMMARY: A constant is read as one value, if the numbers in it have values.
import SchemaDoc.Proofs.Sdl.Constants

/-!
# Reading constants

The reader of values takes a constant up to its end, and what it gives depends on
nothing that follows. Only a number can keep it from that: a whole number is not
read beyond 64 bits.
-/

namespace SchemaDoc.Sdl

open Reader

/-- A number among the lexemes has a value. -/
def Lexeme.HasValue : Lexeme → Prop
  | .int cs => (intValue cs).isSome = true
  | .float cs => (floatValue cs).isSome = true
  | _ => True

instance : DecidablePred Lexeme.HasValue
  | .int _ | .float _ => inferInstanceAs (Decidable (_ = true))
  | .name _ | .string _ | .blockString _ | .mark _ | .spread => inferInstanceAs (Decidable True)

theorem isSome_cons {α : Type} (first : Option α) (rest : Option (List α)) :
    (do
      let a ← first
      let tail ← rest
      return a :: tail).isSome = (first.isSome && rest.isSome) := by
  cases first <;> cases rest <;> rfl

/-- Escapes can be read as documents have them if they can be read as the language has them. -/
theorem isSome_unescape_document {raw : List Char} (h : (unescape standardLetters raw).isSome = true) :
    (unescape documentLetters raw).isSome = true := by
  have hletters (c : Char) (hc : (standardLetters c).isSome = true) : (documentLetters c).isSome = true := by
    unfold documentLetters
    split
    · rfl
    · exact hc
  induction raw using unescape.induct with
  | case1 => rfl
  | case2 a b c d rest ih =>
    rw [unescape, isSome_cons, Bool.and_eq_true] at h ⊢
    exact h.imp_right ih
  | case3 letter rest hcode ih =>
    rw [unescape, isSome_cons, Bool.and_eq_true] at h ⊢
    · exact h.imp (hletters letter) ih
    all_goals exact hcode
  | case4 => cases h
  | case5 c rest hcode hescape hend ih =>
    rw [unescape] at h ⊢
    · simp only [bind_pure_comp, Option.map_eq_map, Option.isSome_map] at h ⊢
      exact ih h
    all_goals assumption

/-- A constant starts with a token that closes nothing. -/
theorem Constant.exists_cons {ls : List Lexeme} (h : Constant ls) :
    ∃ l rest, ls = l :: rest ∧ ∀ c, isClosing c = true → l ≠ .mark c := by
  cases h with
  | list => exact ⟨_, _, rfl, mark_ne_closing rfl⟩
  | object => exact ⟨_, _, rfl, mark_ne_closing rfl⟩
  | name => exact ⟨_, _, rfl, nofun⟩
  | int => exact ⟨_, _, rfl, nofun⟩
  | float => exact ⟨_, _, rfl, nofun⟩
  | string => exact ⟨_, _, rfl, nofun⟩
  | blockString => exact ⟨_, _, rfl, nofun⟩

namespace Reader.Reads

/-- What is read as a value of one token, whatever follows it and however deep values may nest. -/
theorem ofScalar {l : Lexeme} {v : Value} (h : scalarValue? documentLetters l = some v) (varsAllowed : Bool)
    {depth : Nat} (hdepth : [l].length ≤ depth) (rest : List Lexeme) :
    Reads (valueWithin documentLetters varsAllowed depth) [l] rest (· = v) := by
  obtain ⟨inner, rfl⟩ : ∃ inner, depth = inner + 1 := ⟨depth - 1, by simp at hdepth; omega⟩
  exact scalar h inner

/-- A constant is read as a value, which does not depend on what follows it. -/
theorem constant {ls : List Lexeme} (h : Constant ls) (hvalues : ∀ l ∈ ls, l.HasValue) :
    ∃ v, ∀ (varsAllowed : Bool) {depth : Nat}, ls.length ≤ depth → ∀ rest,
      Reads (valueWithin documentLetters varsAllowed depth) ls rest (· = v) := by
  induction h with
  | name text => exact ⟨nameValue text, fun varsAllowed _ hdepth => ofScalar rfl varsAllowed hdepth⟩
  | int cs =>
    obtain ⟨n, hn⟩ := Option.isSome_iff_exists.1 (hvalues _ List.mem_cons_self)
    exact ⟨.int n, fun varsAllowed _ hdepth => ofScalar (by rw [scalarValue?, hn]; rfl) varsAllowed hdepth⟩
  | float cs =>
    obtain ⟨x, hx⟩ := Option.isSome_iff_exists.1 (hvalues _ List.mem_cons_self)
    exact ⟨.float x, fun varsAllowed _ hdepth => ofScalar (by rw [scalarValue?, hx]; rfl) varsAllowed hdepth⟩
  | @string raw hplain hescapes =>
    obtain ⟨cs, hcs⟩ := Option.isSome_iff_exists.1 (isSome_unescape_document hescapes)
    refine ⟨.string (String.ofList cs), fun varsAllowed _ hdepth => ofScalar ?_ varsAllowed hdepth⟩
    rw [scalarValue?, stringValue?, hcs]
    rfl
  | blockString raw => exact ⟨.string (layOutBlock raw), fun varsAllowed _ hdepth => ofScalar rfl varsAllowed hdepth⟩
  | @list items hitems ih =>
    have hitemValues : ∀ item ∈ items, ∀ l ∈ item, l.HasValue := by
      intro item hitem l hl
      have hmem : l ∈ items.flatten := List.mem_flatten.2 ⟨item, hitem, hl⟩
      exact hvalues l (List.mem_append_left _ (List.mem_cons_of_mem _ hmem))
    choose! value hvalue using fun item hitem => ih item hitem (hitemValues item hitem)
    refine ⟨.list (items.map value), fun varsAllowed depth hdepth rest => ?_⟩
    simp only [List.cons_append, List.length_cons, List.length_append, List.length_nil] at hdepth
    obtain ⟨inner, rfl⟩ : ∃ inner, depth = inner + 1 := ⟨depth - 1, by omega⟩
    have hstart : ∀ item ∈ items, ∃ l ls, item = l :: ls ∧ l ≠ .mark ']' := by
      intro item hitem
      obtain ⟨l, ls, hls, hclosing⟩ := (hitems item hitem).exists_cons
      exact ⟨l, ls, hls, hclosing ']' rfl⟩
    rw [← List.flatMap_id]
    refine Reads.items hstart fun item hitem next => ?_
    have hle := (List.sublist_flatten_of_mem hitem).length_le
    exact hvalue item hitem varsAllowed (by omega) next
  | @object entries hentries ih =>
    have hentryValues : ∀ e ∈ entries, ∀ l ∈ e.2, l.HasValue := by
      intro e he l hl
      have hmem : l ∈ entries.flatMap fun e => Lexeme.name e.1 :: .mark ':' :: e.2 :=
        List.mem_flatMap.2 ⟨e, he, List.mem_cons_of_mem _ (List.mem_cons_of_mem _ hl)⟩
      exact hvalues l (List.mem_append_left _ (List.mem_cons_of_mem _ hmem))
    choose! value hvalue using fun e he => ih e he (hentryValues e he)
    refine ⟨.ofEntries (entries.map fun e => (e.1, value e)), fun varsAllowed depth hdepth rest => ?_⟩
    simp only [List.cons_append, List.length_cons, List.length_append, List.length_nil] at hdepth
    obtain ⟨inner, rfl⟩ : ∃ inner, depth = inner + 1 := ⟨depth - 1, by omega⟩
    refine Reads.entries Prod.fst fun e he next => ?_
    have hle := Value.length_le_length_flatMap (f := fun e => Lexeme.name e.1 :: .mark ':' :: e.2) he
    simp only [List.length_cons] at hle
    exact hvalue e he varsAllowed (by omega) next

/-- A value of a document is read whatever it nests. -/
theorem ofWithin {ls rest : List Lexeme} {varsAllowed : Bool} {v : Value}
    (h : ∀ {depth : Nat}, ls.length ≤ depth → Reads (valueWithin documentLetters varsAllowed depth) ls rest (· = v)) :
    Reads (Sdl.value varsAllowed) ls rest (· = v) := by
  intro ts hts
  have hlength := congrArg List.length hts
  rw [List.length_map, List.length_append] at hlength
  exact h (by omega) ts hts

end Reader.Reads

/-- A text that is one constant is one literal, and is read as its value wherever a document has a constant. -/
theorem exists_literal?_eq {text : String} (h : IsConstant text) (hvalues : ∀ l ∈ lexemesOf text, l.HasValue) :
    ∃ v, literal? documentLetters text = some v ∧
      ∀ rest, Reads (value false) (lexemesOf text) rest (· = v) := by
  obtain ⟨v, hv⟩ := Reader.Reads.constant h.constant hvalues
  refine ⟨v, ?_, fun rest => Reader.Reads.ofWithin fun hdepth => hv false hdepth rest⟩
  obtain ⟨hcomplete, htokens⟩ := h.scans .start
  have hlength := congrArg List.length htokens
  rw [List.length_map] at hlength
  obtain ⟨_, rest, hread, hrest, rfl⟩ :=
    hv true (Nat.le_of_eq hlength.symm) [] _ (htokens.trans (List.append_nil _).symm)
  obtain rfl : rest = [] := List.map_eq_nil_iff.1 hrest
  unfold literal?
  simp only [hread, hcomplete, if_true]

end SchemaDoc.Sdl
