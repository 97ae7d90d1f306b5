-- SUMMARY: What readers make of tokens whose lexemes are known.
import SchemaDoc.Proofs.Results
import SchemaDoc.Proofs.Sdl.Lexing
import SchemaDoc.Sdl.Reader

/-!
# Reading known lexemes

A reader is followed through the lexemes of a text whatever the positions of its
tokens. Where a reader looks ahead, what it takes depends on the lexemes that
come after, so each law names them.
-/

namespace SchemaDoc.Sdl.Reader

variable {α β : Type}

/-- Before the lexemes `rest` the reader takes exactly the lexemes `ls`, and gives something with `P`. -/
def Reads (reader : Reader α) (ls rest : List Lexeme) (P : α → Prop) : Prop :=
  ∀ ts : List Token, ts.map (·.lexeme) = ls ++ rest →
    ∃ a ts', reader ts = .ok (a, ts') ∧ ts'.map (·.lexeme) = rest ∧ P a

theorem startsWith_eq (l : Lexeme) (ts : List Token) :
    startsWith l ts = ((ts.map (·.lexeme)).head? == some l) := by
  rw [startsWith, List.head?_map]

namespace Reads

variable {reader : Reader α} {ls ls' rest : List Lexeme} {P : α → Prop}

/-! ## Steps -/

theorem pure {a : α} (h : P a) : Reads (Pure.pure a) [] rest P := by
  intro ts hts
  exact ⟨a, ts, rfl, hts, h⟩

theorem bind {f : α → Reader β} {Q : β → Prop} (h : Reads reader ls (ls' ++ rest) P)
    (hf : ∀ a, P a → Reads (f a) ls' rest Q) : Reads (reader >>= f) (ls ++ ls') rest Q := by
  intro ts hts
  rw [List.append_assoc] at hts
  obtain ⟨a, mid, hmid, hrest, ha⟩ := h ts hts
  obtain ⟨b, ts', hb, hts', hq⟩ := hf a ha mid hrest
  refine ⟨b, ts', ?_, hts', hq⟩
  simp only [Bind.bind, StateT.bind, hmid, Except.bind]
  exact hb

/-- A step that takes nothing. -/
theorem peek {f : α → Reader β} {Q : β → Prop} (h : Reads reader [] (ls ++ rest) P)
    (hf : ∀ a, P a → Reads (f a) ls rest Q) : Reads (reader >>= f) ls rest Q := by
  have hbind : Reads (reader >>= f) ([] ++ ls) rest Q := bind h hf
  exact hbind

/-- A step that takes one token. -/
theorem cons {l : Lexeme} {f : α → Reader β} {Q : β → Prop} (h : Reads reader [l] (ls ++ rest) P)
    (hf : ∀ a, P a → Reads (f a) ls rest Q) : Reads (reader >>= f) (l :: ls) rest Q := by
  have hbind : Reads (reader >>= f) ([l] ++ ls) rest Q := bind h hf
  exact hbind

/-- The last step, after which only the result is put together. -/
theorem map {f : α → β} {Q : β → Prop} (h : Reads reader ls rest P) (hf : ∀ a, P a → Q (f a)) :
    Reads (reader >>= fun a => Pure.pure (f a)) ls rest Q := by
  have hbind : Reads (reader >>= fun a => Pure.pure (f a)) (ls ++ []) rest Q :=
    bind h fun a ha => pure (hf a ha)
  rw [List.append_nil] at hbind
  exact hbind

theorem mono {Q : α → Prop} (h : Reads reader ls rest P) (hpq : ∀ a, P a → Q a) :
    Reads reader ls rest Q := by
  intro ts hts
  obtain ⟨a, ts', ha, hts', hp⟩ := h ts hts
  exact ⟨a, ts', ha, hts', hpq a hp⟩

/-! ## Single tokens -/

theorem token {f : Lexeme → Option α} {l : Lexeme} {a : α} (h : f l = some a) :
    Reads (Reader.token f) [l] rest (· = a) := by
  intro ts hts
  obtain ⟨t, ts', rfl, rfl, hts'⟩ := List.map_eq_cons_iff.1 hts
  exact ⟨a, ts', by simp only [Reader.token, h], hts', rfl⟩

theorem lexeme (l : Lexeme) : Reads (Reader.lexeme l) [l] rest fun _ => True :=
  (token (if_pos rfl)).mono fun _ _ => trivial

theorem mark (c : Char) : Reads (Reader.mark c) [.mark c] rest fun _ => True :=
  lexeme (.mark c)

theorem name (text : String) : Reads Reader.name [.name text] rest (· = text) :=
  token rfl

theorem nextIs (l : Lexeme) : Reads (Reader.nextIs l) [] rest (· = (rest.head? == some l)) := by
  intro ts hts
  refine ⟨startsWith l ts, ts, rfl, hts, ?_⟩
  rw [startsWith_eq, hts, List.nil_append]

theorem position {l : Lexeme} : Reads Reader.position [] (l :: rest) fun _ => True := by
  intro ts hts
  obtain ⟨t, ts', rfl, rfl, hts'⟩ := List.map_eq_cons_iff.1 hts
  exact ⟨t.position, t :: ts', rfl, hts, trivial⟩

/-- The token is next and is taken. -/
theorem skip_true (l : Lexeme) : Reads (Reader.skip l) [l] rest (· = true) := by
  refine peek (nextIs l) fun found hfound => ?_
  rw [hfound]
  simp only [List.cons_append, List.nil_append, List.head?_cons, beq_self_eq_true, if_true]
  exact map (lexeme l) fun _ _ => rfl

/-- Another token is next. -/
theorem skip_false {l : Lexeme} (h : rest.head? ≠ some l) : Reads (Reader.skip l) [] rest (· = false) := by
  refine peek (nextIs l) fun found hfound => ?_
  have hne : (rest.head? == some l) = false := beq_false_of_ne h
  rw [hfound, List.nil_append, hne]
  exact pure rfl

/-! ## Lists of items -/

/--
Items are read as long as the lexemes say so. An item may depend on what follows
it: that is the next item, or what follows all of them.
-/
theorem many {item : Reader α} {more : List Token → Bool} (test : List Lexeme → Bool)
    {lexemes : β → List Lexeme} {R : β → α → Prop} (Follow : List Lexeme → Prop)
    (hmore : ∀ ts : List Token, more ts = test (ts.map (·.lexeme))) {xs : List β}
    (hitem : ∀ x ∈ xs, ∀ next, Follow next → Reads item (lexemes x) next (R x))
    (hnext : ∀ x ∈ xs, ∀ next, Follow (lexemes x ++ next) ∧ test (lexemes x ++ next) = true)
    (hne : ∀ x ∈ xs, lexemes x ≠ []) (hfollow : Follow rest) (hstop : test rest = false) :
    Reads (Reader.many more item) (xs.flatMap lexemes) rest (List.Forall₂ R xs) := by
  induction xs with
  | nil =>
    intro ts hts
    refine ⟨[], ts, ?_, hts, .nil⟩
    have hno : more ts = false := by rw [hmore, hts, List.flatMap_nil, List.nil_append, hstop]
    rw [Reader.many, hno]
    rfl
  | cons x xs ih =>
    rw [List.forall_mem_cons] at hitem hnext hne
    intro ts hts
    rw [List.flatMap_cons, List.append_assoc] at hts
    have hafter : Follow (xs.flatMap lexemes ++ rest) := by
      cases xs with
      | nil => exact hfollow
      | cons y ys =>
        rw [List.flatMap_cons, List.append_assoc]
        exact (hnext.2 y List.mem_cons_self _).1
    obtain ⟨a, mid, ha, hmid, hra⟩ := hitem.1 _ hafter ts hts
    obtain ⟨as, ts', has, hts', hras⟩ := ih hitem.2 hnext.2 hne.2 mid hmid
    refine ⟨a :: as, ts', ?_, hts', .cons hra hras⟩
    have hyes : more ts = true := by rw [hmore, hts, (hnext.1 _).2]
    have hshorter : mid.length < ts.length := by
      have hlength := congrArg List.length hts
      have hlengthMid := congrArg List.length hmid
      have hpos := List.length_pos_iff.2 hne.1
      simp only [List.length_map, List.length_append] at hlength hlengthMid
      omega
    rw [Reader.many, hyes, if_pos rfl, ha]
    simp only [hshorter, if_true, has]

/-- Items in front of a closing mark, none of which starts with it. -/
theorem upTo {closing : Char} {item : Reader α} {lexemes : β → List Lexeme} {R : β → α → Prop}
    {Follow : List Lexeme → Prop} {xs : List β}
    (hitem : ∀ x ∈ xs, ∀ next, Follow next → Reads item (lexemes x) next (R x))
    (hnext : ∀ x ∈ xs, ∀ next, Follow (lexemes x ++ next) ∧
      (lexemes x ++ next).head? ≠ some (.mark closing))
    (hne : ∀ x ∈ xs, lexemes x ≠ []) (hfollow : Follow (.mark closing :: rest)) :
    Reads (Reader.upTo closing item) (xs.flatMap lexemes ++ [.mark closing]) rest
      (List.Forall₂ R xs) := by
  refine bind (many (fun ls => !(ls.head? == some (.mark closing))) Follow ?_ hitem ?_ hne hfollow ?_)
    fun as has => map (mark closing) fun _ _ => has
  · intro ts
    rw [startsWith_eq]
  · intro x hx next
    refine ⟨(hnext x hx next).1, ?_⟩
    simpa using (hnext x hx next).2
  · simp

theorem optionalList {opening closing : Char} {item : Reader α} {lexemes : β → List Lexeme}
    {R : β → α → Prop} {Follow : List Lexeme → Prop} {xs : List β}
    (hitem : ∀ x ∈ xs, ∀ next, Follow next → Reads item (lexemes x) next (R x))
    (hnext : ∀ x ∈ xs, ∀ next, Follow (lexemes x ++ next) ∧
      (lexemes x ++ next).head? ≠ some (.mark closing))
    (hne : ∀ x ∈ xs, lexemes x ≠ []) (hfollow : Follow (.mark closing :: rest))
    (hrest : rest.head? ≠ some (.mark opening)) :
    Reads (Reader.optionalList opening closing item) (bracketed opening closing lexemes xs) rest
      (List.Forall₂ R xs) := by
  cases xs with
  | nil =>
    refine peek (skip_false hrest) ?_
    rintro _ rfl
    exact pure .nil
  | cons x xs =>
    rw [List.forall_mem_cons] at hitem hnext hne
    have hafter : Follow (xs.flatMap lexemes ++ [.mark closing] ++ rest) := by
      cases xs with
      | nil => exact hfollow
      | cons y ys =>
        simp only [List.flatMap_cons, List.append_assoc]
        exact (hnext.2 y List.mem_cons_self _).1
    have hrests : Reads (Reader.upTo closing item) (xs.flatMap lexemes ++ [.mark closing]) rest
        (List.Forall₂ R xs) := upTo hitem.2 hnext.2 hne.2 hfollow
    show Reads _ ([.mark opening] ++ ((lexemes x ++ xs.flatMap lexemes) ++ [.mark closing])) rest _
    refine bind (skip_true _) ?_
    rintro _ rfl
    rw [List.append_assoc]
    exact bind (hitem.1 _ hafter) fun a ha => map hrests fun as has => .cons ha has

theorem separated {separator : Char} {item : Reader α} {lexeme : β → Lexeme} {R : β → α → Prop}
    {xs : List β} (hitem : ∀ x ∈ xs, ∀ next, Reads item [lexeme x] next (R x))
    (hlexeme : ∀ x ∈ xs, lexeme x ≠ .mark separator) (hxs : xs ≠ [])
    (hrest : rest.head? ≠ some (.mark separator)) :
    Reads (Reader.separated separator item) (joined separator lexeme xs) rest (List.Forall₂ R xs) := by
  obtain ⟨x, xs, rfl⟩ := List.exists_cons_of_ne_nil hxs
  rw [List.forall_mem_cons] at hitem hlexeme
  have hfirst : (joined separator lexeme (x :: xs) ++ rest).head? ≠ some (.mark separator) := by
    simpa [joined] using hlexeme.1
  have hrests : Reads (Reader.many (startsWith (.mark separator))
        (do Reader.mark separator; item))
      (xs.flatMap fun x => [.mark separator, lexeme x]) rest (List.Forall₂ R xs) := by
    refine many (fun ls => ls.head? == some (.mark separator)) (fun _ => True) (startsWith_eq _)
      ?_ ?_ ?_ trivial (beq_false_of_ne hrest)
    · intro x hx next _
      exact cons (mark separator) fun _ _ => hitem.2 x hx next
    · intro x _ next
      exact ⟨trivial, beq_self_eq_true _⟩
    · intro x _
      exact List.cons_ne_nil _ _
  refine peek (skip_false hfirst) fun _ _ => ?_
  exact cons (hitem.1 _) fun a ha => map hrests fun as has => .cons ha has

end Reads

end SchemaDoc.Sdl.Reader
