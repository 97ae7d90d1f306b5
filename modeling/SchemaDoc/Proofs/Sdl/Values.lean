-- SUMMARY: What values documents can hold.
import SchemaDoc.Proofs.Sdl.Guarantees
import SchemaDoc.Sdl.Grammar

/-!
# Values of documents

A value that is read from a document has proper names, integers of 64 bits, and
objects whose keys are sorted.
-/

namespace SchemaDoc

open Sdl

namespace Value

/-- The names with a meaning of their own among values. -/
def keywords : List String := ["true", "false", "null"]

/-- Values as documents can hold them. -/
inductive Loadable : Value → Prop where
  | null : Loadable .null
  | bool (b : Bool) : Loadable (.bool b)
  | int {n : Int} (hlow : -0x8000000000000000 ≤ n) (hhigh : n < 0x8000000000000000) : Loadable (.int n)
  | float (x : Binary64) : Loadable (.float x)
  | string (s : String) : Loadable (.string s)
  | enum {name : String} (hname : isName name = true) (hkeyword : name ∉ keywords) :
    Loadable (.enum name)
  | var {name : String} (hname : isName name = true) : Loadable (.var name)
  | list {items : List Value} (hitems : ∀ v ∈ items, Loadable v) : Loadable (.list items)
  | object {entries : List (String × Value)} (hkeys : ∀ e ∈ entries, isName e.1 = true)
    (hsorted : (entries.map Prod.fst).Pairwise (· < ·)) (hentries : ∀ e ∈ entries, Loadable e.2) :
    Loadable (.object entries)

/-- A default, if there is one, is a value of a document. -/
def LoadableDefault (default? : Option Value) : Prop :=
  ∀ v, default? = some v → v.Loadable

/-! ## Keys of objects -/

theorem mem_insertSorted {key : String} {value : Value} {entries : List (String × Value)}
    {e : String × Value} (h : e ∈ insertSorted key value entries) : e = (key, value) ∨ e ∈ entries := by
  induction entries with
  | nil => simpa [insertSorted] using h
  | cons entry entries ih =>
    simp only [insertSorted] at h
    split at h
    · simpa using h
    split at h
    · rcases List.mem_cons.1 h with rfl | h
      · exact .inl rfl
      · exact .inr (List.mem_cons_of_mem _ h)
    · rcases List.mem_cons.1 h with rfl | h
      · exact .inr List.mem_cons_self
      · exact (ih h).imp_right (List.mem_cons_of_mem _)

theorem sorted_insertSorted {key : String} {value : Value} {entries : List (String × Value)}
    (h : (entries.map Prod.fst).Pairwise (· < ·)) :
    ((insertSorted key value entries).map Prod.fst).Pairwise (· < ·) := by
  induction entries with
  | nil => simp [insertSorted]
  | cons entry entries ih =>
    rw [List.map_cons, List.pairwise_cons] at h
    obtain ⟨hentry, hentries⟩ := h
    simp only [insertSorted]
    split
    · next hlt =>
      refine List.pairwise_cons.2 ⟨?_, List.pairwise_cons.2 ⟨hentry, hentries⟩⟩
      intro other hother
      rcases List.mem_cons.1 hother with rfl | hother
      · exact hlt
      · exact String.lt_trans hlt (hentry other hother)
    split
    · next heq =>
      rw [heq]
      exact List.pairwise_cons.2 ⟨hentry, hentries⟩
    · next hnlt hne =>
      refine List.pairwise_cons.2 ⟨?_, ih hentries⟩
      intro other hother
      obtain ⟨e, he, rfl⟩ := List.mem_map.1 hother
      rcases mem_insertSorted he with rfl | he
      · rcases Std.lt_trichotomy entry.1 key with hlt | heq | hlt
        · exact hlt
        · exact absurd heq.symm hne
        · exact absurd hlt hnlt
      · exact hentry _ (List.mem_map_of_mem he)

/-- A key beyond all others is entered at the end. -/
theorem insertSorted_of_last {key : String} {value : Value} {entries : List (String × Value)}
    (h : ∀ e ∈ entries, e.1 < key) : insertSorted key value entries = entries ++ [(key, value)] := by
  induction entries with
  | nil => rfl
  | cons entry entries ih =>
    rw [List.forall_mem_cons] at h
    have hnlt : ¬key < entry.1 := String.lt_asymm h.1
    have hne : key ≠ entry.1 := by
      rintro rfl
      exact String.lt_irrefl _ h.1
    simp only [insertSorted, hnlt, hne, if_false, ih h.2, List.cons_append]

/-- Entries with sorted keys are an object as they are. -/
theorem ofEntries_of_sorted {entries : List (String × Value)}
    (h : (entries.map Prod.fst).Pairwise (· < ·)) : ofEntries entries = .object entries := by
  -- The entries taken up so far are the first ones.
  have hfold (before after : List (String × Value))
      (h : ((before ++ after).map Prod.fst).Pairwise (· < ·)) :
      after.foldl (fun sorted entry => insertSorted entry.1 entry.2 sorted) before = before ++ after := by
    induction after generalizing before with
    | nil => simp
    | cons entry after ih =>
      have hlast : ∀ e ∈ before, e.1 < entry.1 := by
        intro e he
        rw [List.map_append, List.pairwise_append] at h
        exact h.2.2 _ (List.mem_map_of_mem he) _ (List.mem_map_of_mem List.mem_cons_self)
      rw [List.foldl_cons, insertSorted_of_last hlast, ih, List.append_assoc, List.singleton_append]
      simpa using h
  exact congrArg Value.object (hfold [] entries h)

/-- An object of entries with proper keys and values is one of a document. -/
theorem loadable_ofEntries {entries : List (String × Value)}
    (h : ∀ e ∈ entries, isName e.1 = true ∧ Loadable e.2) : Loadable (ofEntries entries) := by
  have hfold (sorted : List (String × Value)) (hsorted : (sorted.map Prod.fst).Pairwise (· < ·))
      (hproper : ∀ e ∈ sorted, isName e.1 = true ∧ Loadable e.2) :
      Loadable (.object (entries.foldl (fun sorted entry => insertSorted entry.1 entry.2 sorted) sorted)) := by
    induction entries generalizing sorted with
    | nil => exact .object (fun e he => (hproper e he).1) hsorted fun e he => (hproper e he).2
    | cons entry entries ih =>
      rw [List.forall_mem_cons] at h
      refine ih h.2 _ (sorted_insertSorted hsorted) fun e he => ?_
      rcases mem_insertSorted he with rfl | he
      · exact h.1
      · exact hproper e he
  exact hfold [] List.Pairwise.nil (by simp)

end Value

/-! ## Reading -/

namespace Sdl

open Value Reader

theorem loadable_nameValue {name : String} (h : isName name = true) : (nameValue name).Loadable := by
  unfold nameValue
  split
  · exact .bool true
  · exact .bool false
  · exact .null
  · next htrue hfalse hnull =>
    refine .enum h ?_
    simp only [keywords, List.mem_cons, List.not_mem_nil, or_false, not_or]
    exact ⟨htrue, hfalse, hnull⟩

theorem loadable_of_scalarValue? {letters : EscapeLetters} {l : Lexeme} {v : Value}
    (hproper : l.isProper = true) (h : scalarValue? letters l = some v) : v.Loadable := by
  cases l with
  | name text =>
    cases h
    exact loadable_nameValue hproper
  | int cs =>
    obtain ⟨n, hn, rfl⟩ := Option.map_eq_some_iff.1 h
    simp only [intValue] at hn
    split at hn
    · next hbounds =>
      cases hn
      exact .int hbounds.1 hbounds.2
    · cases hn
  | float cs =>
    obtain ⟨x, -, rfl⟩ := Option.map_eq_some_iff.1 h
    exact .float x
  | string raw =>
    obtain ⟨s, -, rfl⟩ := Option.map_eq_some_iff.1 h
    exact .string s
  | blockString raw =>
    cases h
    exact .string (layOutBlock raw)
  | mark c => cases h
  | spread => cases h

/-- Tokens with a value of their own are no brackets. -/
theorem roomAfter_of_scalarValue? {letters : EscapeLetters} {l : Lexeme} {v : Value}
    (h : scalarValue? letters l = some v) (room : Nat) : roomAfter room l = some room := by
  cases l with
  | mark c => cases h
  | _ => rfl

theorem Reader.Gives.entry {α : Type} {item : Reader α} {room after : Nat} {P : α → Prop}
    (h : Gives item room after P) :
    Gives (entry item) room after fun e => isName e.1 = true ∧ P e.2 :=
  Gives.name.bind fun _ hkey => (Gives.plain (l := .mark ':') rfl).bind fun _ _ =>
    h.map fun _ ha => ⟨hkey, ha⟩

theorem Reader.Gives.valueWithin (letters : EscapeLetters) (varsAllowed : Bool) (depth room : Nat) :
    Gives (valueWithin letters varsAllowed depth) room room Loadable := by
  induction depth generalizing room with
  | zero => exact Gives.unexpected
  | succ depth ih =>
    refine Gives.skip_bind (Gives.opens rfl) (fun hroom => ?_) ?_
    · exact (Gives.upTo rfl hroom (ih (room - 1))).map fun _ hitems => .list hitems
    refine Gives.skip_bind (Gives.opens rfl) (fun hroom => ?_) ?_
    · exact (Gives.upTo rfl hroom (Gives.entry (ih (room - 1)))).map fun _ hentries => loadable_ofEntries hentries
    refine (Gives.nextIs _).bind fun found _ => ?_
    split
    · exact (Gives.plain rfl).bind fun _ _ => Gives.name.map fun _ hname => .var hname
    · exact Gives.token (fun _ _ h => roomAfter_of_scalarValue? h room)
        fun _ _ hproper h => loadable_of_scalarValue? hproper h

theorem Reader.Gives.value (varsAllowed : Bool) (room : Nat) :
    Gives (value varsAllowed) room room Loadable := by
  intro ts
  exact Gives.valueWithin documentLetters varsAllowed ts.length room ts

end Sdl

end SchemaDoc
