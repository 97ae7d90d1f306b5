-- SUMMARY: Whether there is room for the brackets of a text depends on how deep its lexemes nest.
import Mathlib.Data.List.Infix
import SchemaDoc.Proofs.Sdl.Constants

/-!
# Nested brackets

A text is read to its end if there is room for its brackets. How much room it takes
can be said of its lexemes alone: as many brackets as are open at the same place.
What is known of a text where there is much room so holds with less room too.
-/

namespace SchemaDoc.Sdl

def Lexeme.opens : Lexeme → Bool
  | .mark c => isOpening c
  | _ => false

def Lexeme.closes : Lexeme → Bool
  | .mark c => isClosing c
  | _ => false

/-- Nowhere among the lexemes are more brackets open than that. -/
def NestsWithin (depth : Nat) (ls : List Lexeme) : Prop :=
  ∀ before, before <+: ls → before.countP Lexeme.opens ≤ before.countP Lexeme.closes + depth

instance (depth : Nat) (ls : List Lexeme) : Decidable (NestsWithin depth ls) :=
  decidable_of_iff (∀ before ∈ ls.inits, before.countP Lexeme.opens ≤ before.countP Lexeme.closes + depth)
    (by simp only [List.mem_inits, NestsWithin])

theorem NestsWithin.mono {depth deeper : Nat} {ls : List Lexeme} (h : NestsWithin depth ls) (hle : depth ≤ deeper) :
    NestsWithin deeper ls :=
  fun before hbefore => Nat.le_trans (h before hbefore) (Nat.add_le_add_left hle _)

/-! ## Room -/

/-- What a lexeme does to the room that there is. -/
theorem roomAfter_cases (room : Nat) (l : Lexeme) :
    (l.opens = true ∧ l.closes = false ∧ roomAfter room l = if room = 0 then none else some (room - 1)) ∨
      (l.opens = false ∧ l.closes = true ∧ roomAfter room l = some (room + 1)) ∨
      (l.opens = false ∧ l.closes = false ∧ roomAfter room l = some room) := by
  cases l with
  | mark c =>
    have hdistinct : isOpening c = true → isClosing c = false := by
      simp only [isOpening, Bool.or_eq_true, beq_iff_eq]
      rintro ((rfl | rfl) | rfl) <;> rfl
    rw [roomAfter, Lexeme.opens, Lexeme.closes]
    cases hopen : isOpening c with
    | true => exact .inl ⟨rfl, hdistinct hopen, rfl⟩
    | false => cases hclose : isClosing c <;> simp
  | _ => exact .inr (.inr ⟨rfl, rfl, rfl⟩)

/-- There is room for some lexemes if there is for the first one, and then for the others. -/
theorem nestsWithin_cons {room : Nat} {l : Lexeme} {ls : List Lexeme} :
    NestsWithin room (l :: ls) ↔ ∃ next, roomAfter room l = some next ∧ NestsWithin next ls := by
  have hprefixes : NestsWithin room (l :: ls) ↔ ∀ before, before <+: ls →
      (l :: before).countP Lexeme.opens ≤ (l :: before).countP Lexeme.closes + room := by
    constructor
    · exact fun h before hbefore => h _ (List.prefix_cons_inj l |>.2 hbefore)
    · intro h before hbefore
      rcases List.prefix_cons_iff.1 hbefore with rfl | ⟨rest, rfl, hrest⟩
      · exact Nat.zero_le _
      · exact h rest hrest
  rw [hprefixes]
  rcases roomAfter_cases room l with ⟨hopens, hcloses, hroom⟩ | ⟨hopens, hcloses, hroom⟩ | ⟨hopens, hcloses, hroom⟩
  · simp only [List.countP_cons, hopens, hcloses, if_true, if_false, Bool.false_eq_true, Nat.add_zero, hroom]
    constructor
    · intro h
      have hpos : 0 + 1 ≤ 0 + room := h [] List.nil_prefix
      refine ⟨room - 1, if_neg (by omega), fun before hbefore => ?_⟩
      have hbound := h before hbefore
      omega
    · rintro ⟨next, hnext, h⟩ before hbefore
      have hbound := h before hbefore
      split at hnext
      · cases hnext
      · cases hnext
        omega
  · simp only [List.countP_cons, hopens, hcloses, if_true, if_false, Bool.false_eq_true, Nat.add_zero, hroom,
      Option.some.injEq, exists_eq_left', NestsWithin]
    exact forall₂_congr fun before _ => by omega
  · simp only [List.countP_cons, hopens, hcloses, if_false, Bool.false_eq_true, Nat.add_zero, hroom,
      Option.some.injEq, exists_eq_left', NestsWithin]

/-- A text that is read to its end with some room is read in the same way with any room that its brackets need. -/
theorem lexFrom_eq_of_nests {room : Nat} {p : Position} {cs : List Char} (h : (lexFrom room p cs).complete = true) :
    ∀ other, NestsWithin other ((lexFrom room p cs).tokens.map (·.lexeme)) →
      lexFrom other p cs = lexFrom room p cs := by
  fun_induction lexFrom room p cs with
  | case1 room p cs q hskip => exact fun other _ => lexFrom_of_skip_nil hskip
  | case2 => cases h
  | case3 => cases h
  | case4 room p cs q c rest hskip l n hlexeme next hroom lexed ih =>
    intro other hnests
    rw [List.map_cons, nestsWithin_cons] at hnests
    obtain ⟨left, hleft, hrest⟩ := hnests
    rw [lexFrom_of_skip_cons hskip hlexeme hleft, ih h left hrest]

/-- A text that is read to its end has its brackets within the room. -/
theorem nestsWithin_lexFrom {room : Nat} {p : Position} {cs : List Char} (h : (lexFrom room p cs).complete = true) :
    NestsWithin room ((lexFrom room p cs).tokens.map (·.lexeme)) := by
  fun_induction lexFrom room p cs with
  | case1 => exact fun before hbefore => by simp [List.prefix_nil.1 hbefore]
  | case2 => cases h
  | case3 => cases h
  | case4 room p cs q c rest hskip l n hlexeme next hroom lexed ih => exact nestsWithin_cons.2 ⟨next, hroom, ih h⟩

theorem Scans.of_nests {room other : Nat} {cs : List Char} {ls : List Lexeme} (h : Scans room cs ls)
    (hnests : NestsWithin other ls) : Scans other cs ls := by
  intro p
  obtain ⟨hcomplete, hlexemes⟩ := h p
  rw [lexFrom_eq_of_nests hcomplete other (hlexemes.symm ▸ hnests)]
  exact ⟨hcomplete, hlexemes⟩

theorem Scans.nests {room : Nat} {cs : List Char} {ls : List Lexeme} (h : Scans room cs ls) : NestsWithin room ls := by
  obtain ⟨hcomplete, hlexemes⟩ := h .start
  exact hlexemes ▸ nestsWithin_lexFrom hcomplete

/-! ## Constants -/

/-- A constant closes the brackets that it opens. -/
theorem Constant.balanced {ls : List Lexeme} (h : Constant ls) : ls.countP Lexeme.opens = ls.countP Lexeme.closes := by
  induction h with
  | name text => rfl
  | int cs => rfl
  | float cs => rfl
  | string => rfl
  | blockString raw => rfl
  | @list items hitems ih =>
    have hflatten : items.flatten.countP Lexeme.opens = items.flatten.countP Lexeme.closes := by
      rw [List.countP_flatten, List.countP_flatten, List.map_congr_left ih]
    simp only [List.cons_append, List.countP_cons, List.countP_append, hflatten]
    rfl
  | @object entries hentries ih =>
    have hflatten : (entries.flatMap fun entry => .name entry.1 :: .mark ':' :: entry.2).countP Lexeme.opens =
        (entries.flatMap fun entry => .name entry.1 :: .mark ':' :: entry.2).countP Lexeme.closes := by
      rw [List.countP_flatMap, List.countP_flatMap]
      exact congrArg List.sum (List.map_congr_left ih)
    simp only [List.cons_append, List.countP_cons, List.countP_append, hflatten]
    rfl

/-- Room is needed for the brackets of a constant only, and is left again behind it. -/
theorem Spells.writes {cs : List Char} {ls : List Lexeme} (h : Spells cs ls) {room : Nat}
    (hnests : NestsWithin room ls) : Writes room cs ls := by
  intro rest ls' hrest hscans
  have hbound : NestsWithin room (ls ++ ls') := by
    intro before hbefore
    rcases List.prefix_or_prefix_of_prefix hbefore (List.prefix_append ls ls') with hle | ⟨after, rfl⟩
    · exact hnests before hle
    · have hafter := hscans.nests after ((List.prefix_append_right_inj ls).1 hbefore)
      have hbalanced := h.1.balanced
      rw [List.countP_append, List.countP_append]
      omega
  have hlarge := h.2 (max ls.length room) (Nat.le_max_left _ _) rest ls' hrest
    (hscans.of_nests (hscans.nests.mono (Nat.le_max_right _ _)))
  exact hlarge.of_nests hbound

end SchemaDoc.Sdl
