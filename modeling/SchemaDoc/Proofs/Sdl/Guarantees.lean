-- SUMMARY: What readers guarantee of the things they give, for tokens that come from a document.
import SchemaDoc.Proofs.Sdl.Lexing
import SchemaDoc.Sdl.Reader

/-!
# Guarantees of readers

The tokens of a document have names that are names, and never open more brackets
than there is room for. What a reader gives inherits both: a reader is followed
from the room before it to the room after it.
-/

namespace SchemaDoc.Sdl

/-! ## Tokens of a document -/

/-- Whether a name is one. -/
def Lexeme.isProper : Lexeme → Bool
  | .name text => isName text
  | _ => true

/-- Tokens with proper names, among which there is room for every bracket. -/
def Fits (room : Nat) : List Token → Prop
  | [] => True
  | t :: ts => t.lexeme.isProper = true ∧ ∃ next, roomAfter room t.lexeme = some next ∧ Fits next ts

/-- What starts like a name is a name. -/
theorem isName_takeWhile {c : Char} (hc : isNameStart c = true) (cs : List Char) :
    isName (String.ofList (c :: cs.takeWhile isNameChar)) = true := by
  refine isName_iff.2 ⟨c, cs.takeWhile isNameChar, String.toList_ofList, hc, ?_⟩
  intro d hd
  exact List.all_eq_true.1 List.all_takeWhile d hd

theorem isProper_of_ofNumber? {cs : List Char} {l : Lexeme} (h : Lexeme.ofNumber? cs = some l) :
    l.isProper = true := by
  unfold Lexeme.ofNumber? at h
  split at h <;> split at h <;> cases h <;> rfl

theorem isProper_of_lexeme? {c : Char} {cs : List Char} {l : Lexeme} {n : Nat}
    (h : lexeme? c cs = some (l, n)) : l.isProper = true := by
  unfold lexeme? at h
  split at h
  · next hc =>
    cases h
    exact isName_takeWhile hc cs
  split at h
  · obtain ⟨number, hnumber, heq⟩ := Option.map_eq_some_iff.1 h
    cases heq
    exact isProper_of_ofNumber? hnumber
  split at h
  · split at h
    all_goals
      obtain ⟨raw, -, heq⟩ := Option.map_eq_some_iff.1 h
      cases heq
      rfl
  split at h
  · split at h <;> cases h
    rfl
  · split at h <;> cases h
    rfl

theorem fits_lexFrom (room : Nat) (p : Position) (cs : List Char) : Fits room (lexFrom room p cs).tokens := by
  induction hlength : cs.length using Nat.strongRecOn generalizing room p cs with
  | ind length ih =>
    subst hlength
    rw [lexFrom]
    split
    · trivial
    · next q c rest hskip =>
      have hshorter : rest.length < cs.length := by
        have hle := length_skipIgnored false p cs
        rw [hskip, List.length_cons] at hle
        omega
      split
      · trivial
      · next l n hlexeme =>
        split
        · trivial
        · next next hroom =>
          refine ⟨isProper_of_lexeme? hlexeme, next, hroom, ?_⟩
          exact ih (rest.drop n).length (by rw [List.length_drop]; omega) next _ _ rfl

/-! ## Readers -/

namespace Reader

variable {α β : Type}

/-- From tokens that fit into `room`, the reader leaves tokens that fit into `after`, and gives something with `P`. -/
def Gives (reader : Reader α) (room after : Nat) (P : α → Prop) : Prop :=
  ∀ ts a ts', Fits room ts → reader ts = .ok (a, ts') → Fits after ts' ∧ P a

namespace Gives

variable {reader : Reader α} {room mid after : Nat} {P : α → Prop}

theorem pure {a : α} (h : P a) : Gives (Pure.pure a) room room P := by
  intro ts b ts' hts hok
  cases hok
  exact ⟨hts, h⟩

theorem unexpected : Gives (Reader.unexpected : Reader α) room after P := by
  intro ts a ts' _ hok
  cases hok

theorem failAt (p : Position) : Gives (Reader.failAt p : Reader α) room after P := by
  intro ts a ts' _ hok
  cases hok

theorem bind {f : α → Reader β} {Q : β → Prop} (h : Gives reader room mid P)
    (hf : ∀ a, P a → Gives (f a) mid after Q) : Gives (reader >>= f) room after Q := by
  intro ts b ts' hts hok
  cases hreader : reader ts with
  | error failure =>
    simp only [Bind.bind, StateT.bind, hreader, Except.bind] at hok
    cases hok
  | ok result =>
    obtain ⟨a, rest⟩ := result
    simp only [Bind.bind, StateT.bind, hreader, Except.bind] at hok
    obtain ⟨hrest, ha⟩ := h ts a rest hts hreader
    exact hf a ha rest b ts' hrest hok

theorem mono {Q : α → Prop} (h : Gives reader room after P) (hpq : ∀ a, P a → Q a) :
    Gives reader room after Q := by
  intro ts a ts' hts hok
  obtain ⟨hts', ha⟩ := h ts a ts' hts hok
  exact ⟨hts', hpq a ha⟩

theorem map {f : α → β} {Q : β → Prop} (h : Gives reader room after P) (hf : ∀ a, P a → Q (f a)) :
    Gives (reader >>= fun a => Pure.pure (f a)) room after Q :=
  bind h fun a ha => pure (hf a ha)

/-! ### Single tokens -/

/-- A token that is no bracket. -/
theorem token {f : Lexeme → Option α} (hroom : ∀ l a, f l = some a → roomAfter room l = some after)
    (h : ∀ l a, l.isProper = true → f l = some a → P a) : Gives (Reader.token f) room after P := by
  intro ts a ts' hts hok
  cases ts with
  | nil => cases hok
  | cons t ts =>
    simp only [Reader.token] at hok
    split at hok
    · next hf =>
      cases hok
      obtain ⟨hproper, next, hnext, hrest⟩ := hts
      rw [hroom _ _ hf] at hnext
      cases hnext
      exact ⟨hrest, h _ _ hproper hf⟩
    · cases hok

/-- A token that has to be there, and for which there has to be room. -/
theorem lexeme {l : Lexeme} {C : Prop} (h : ∀ next, roomAfter room l = some next → next = after ∧ C) :
    Gives (Reader.lexeme l) room after fun _ => C := by
  intro ts a ts' hts hok
  cases ts with
  | nil => cases hok
  | cons t ts =>
    simp only [Reader.lexeme, Reader.token] at hok
    split at hok
    · next hf =>
      cases hok
      obtain ⟨-, next, hnext, hrest⟩ := hts
      split at hf
      · next hl =>
        rw [hl] at hnext
        obtain ⟨rfl, hc⟩ := h next hnext
        exact ⟨hrest, hc⟩
      · cases hf
    · cases hok

/-- A mark or word that is no bracket. -/
theorem plain {l : Lexeme} (h : roomAfter room l = some room) :
    Gives (Reader.lexeme l) room room fun _ => True := by
  refine lexeme fun next hnext => ?_
  rw [h] at hnext
  exact ⟨(Option.some.inj hnext).symm, trivial⟩

theorem opens {c : Char} (hc : isOpening c = true) :
    Gives (Reader.mark c) room (room - 1) fun _ => 0 < room := by
  refine lexeme fun next hnext => ?_
  simp only [roomAfter, hc, if_true] at hnext
  split at hnext
  · cases hnext
  · next hroom => exact ⟨(Option.some.inj hnext).symm, Nat.pos_of_ne_zero hroom⟩

theorem closes {c : Char} (hc : isClosing c = true) :
    Gives (Reader.mark c) room (room + 1) fun _ => True := by
  have hopening : isOpening c = false := by
    simp only [isClosing, Bool.or_eq_true, beq_iff_eq] at hc
    rcases hc with (rfl | rfl) | rfl <;> rfl
  refine lexeme fun next hnext => ?_
  simp only [roomAfter, hopening, hc, Bool.false_eq_true, if_false, if_true] at hnext
  exact ⟨(Option.some.inj hnext).symm, trivial⟩

theorem name : Gives Reader.name room room fun text => isName text = true := by
  refine token ?_ ?_
  · intro l a hl
    cases l <;> cases hl
    rfl
  · intro l a hproper hl
    cases l <;> cases hl
    exact hproper

theorem nextIs (l : Lexeme) : Gives (Reader.nextIs l) room room fun _ => True := by
  intro ts a ts' hts hok
  cases hok
  exact ⟨hts, trivial⟩

theorem position : Gives Reader.position room room fun _ => True := by
  intro ts a ts' hts hok
  cases ts with
  | nil => cases hok
  | cons t ts =>
    cases hok
    exact ⟨hts, trivial⟩

/-- A step that may take one token leads on in either case. -/
theorem skip_bind {l : Lexeme} {f : Bool → Reader β} {Q : β → Prop} {C : Prop}
    (hlexeme : Gives (Reader.lexeme l) room mid fun _ => C) (htaken : C → Gives (f true) mid after Q)
    (hleft : Gives (f false) room after Q) : Gives (Reader.skip l >>= f) room after Q := by
  intro ts b ts' hts hok
  by_cases hnext : startsWith l ts = true
  · have hlexeme' : (Reader.lexeme l >>= fun _ => f true) ts = .ok (b, ts') := by
      simp only [Reader.skip, Reader.nextIs, Bind.bind, StateT.bind, Except.bind, hnext, if_true] at hok ⊢
      cases htoken : Reader.lexeme l ts with
      | error failure =>
        rw [htoken] at hok
        cases hok
      | ok taken =>
        rw [htoken] at hok
        exact hok
    exact bind hlexeme (fun _ h => htaken h) ts b ts' hts hlexeme'
  · have hpure : (Pure.pure false : Reader Bool) ts = .ok (false, ts) := rfl
    have hleft' : f false ts = .ok (b, ts') := by
      simpa only [Reader.skip, Reader.nextIs, Bind.bind, StateT.bind, Except.bind, hnext,
        Bool.false_eq_true, if_false, hpure] using hok
    exact hleft ts b ts' hts hleft'

/-! ### Lists -/

theorem many {more : List Token → Bool} {item : Reader α} (h : Gives item room room P) :
    Gives (Reader.many more item) room room fun as => ∀ a ∈ as, P a := by
  intro ts
  induction hlength : ts.length using Nat.strongRecOn generalizing ts with
  | ind length ih =>
    subst hlength
    intro as ts' hts hok
    rw [Reader.many] at hok
    split at hok
    · split at hok
      · cases hok
      · next a rest hitem =>
        obtain ⟨hrest, ha⟩ := h ts a rest hts hitem
        split at hok
        · next hshorter =>
          split at hok
          · cases hok
          · next as' _ hmany =>
            cases hok
            obtain ⟨hts', has⟩ := ih rest.length hshorter rest rfl as' ts' hrest hmany
            exact ⟨hts', List.forall_mem_cons.2 ⟨ha, has⟩⟩
        · cases hok
          exact ⟨hrest, List.forall_mem_cons.2 ⟨ha, by simp⟩⟩
    · cases hok
      exact ⟨hts, by simp⟩

theorem cons {item : Reader α} {items : Reader (List α)} (h : Gives item room mid P)
    (hs : Gives items mid after fun as => ∀ a ∈ as, P a) :
    Gives (do let first ← item; let rest ← items; return first :: rest) room after
      fun as => ∀ a ∈ as, P a :=
  bind h fun _ ha => map hs fun _ has => List.forall_mem_cons.2 ⟨ha, has⟩

/-- Items after an opening bracket, which took room, up to the closing one. -/
theorem upTo {closing : Char} (hc : isClosing closing = true) (hroom : 0 < room) {item : Reader α}
    (h : Gives item (room - 1) (room - 1) P) :
    Gives (Reader.upTo closing item) (room - 1) room fun as => ∀ a ∈ as, P a := by
  have hcloses : Gives (Reader.mark closing) (room - 1) (room - 1 + 1) fun _ => True := closes hc
  rw [Nat.sub_add_cancel hroom] at hcloses
  exact bind (many h) fun _ has => map hcloses fun _ _ => has

/-- The items of a bracketed list stand where there is room for one bracket less. -/
theorem optionalList {opening closing : Char} (hopening : isOpening opening = true)
    (hclosing : isClosing closing = true) {item : Reader α} (h : Gives item (room - 1) (room - 1) P) :
    Gives (Reader.optionalList opening closing item) room room fun as => ∀ a ∈ as, 0 < room ∧ P a := by
  refine skip_bind (opens hopening) (fun hroom => ?_) (pure (by simp))
  exact mono (cons h (upTo hclosing hroom h)) fun as has a ha => ⟨hroom, has a ha⟩

theorem separated {separator : Char} (hmark : roomAfter room (.mark separator) = some room)
    {item : Reader α} (h : Gives item room room P) :
    Gives (Reader.separated separator item) room room fun as => ∀ a ∈ as, P a := by
  have hmany : Gives (Reader.many (startsWith (.mark separator)) (do Reader.mark separator; item))
      room room fun as => ∀ a ∈ as, P a := many (bind (plain hmark) fun _ _ => h)
  have hitems := cons h hmany
  exact skip_bind (plain hmark) (fun _ => hitems) hitems

end Gives

end Reader

end SchemaDoc.Sdl
