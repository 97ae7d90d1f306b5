-- SUMMARY: Type references are read back from their text.
import SchemaDoc.Proofs.Sdl.Definitions
import SchemaDoc.Proofs.Sdl.Guarantees

/-!
# Texts of type references

In the grammar an exclamation mark is a type around another one; a type reference
says of each level whether it admits null. The mark is handed down to the level it
stands at, and a list starts anew for its items. So a reference and its text
determine each other, and every text of a type is read as what the grammar makes
of it.
-/

namespace SchemaDoc

open Sdl

/-! ## Types of the grammar -/

/-- A type as the grammar has it. -/
inductive TypeTree where
  | named (name : String)
  | list (item : TypeTree)
  /-- What stands before an exclamation mark. -/
  | nonNull (type : TypeTree)
  deriving DecidableEq, Repr

namespace TypeTree

/-- The name under all lists and exclamation marks. -/
def name : TypeTree → String
  | .named name => name
  | .list item => item.name
  | .nonNull type => type.name

/-- Whether no exclamation mark stands at the outermost level. -/
def admitsNull : TypeTree → Bool
  | .nonNull _ => false
  | _ => true

/-- The canonical text, with nothing between its tokens. -/
def text : TypeTree → String
  | .named name => name
  | .list item => "[" ++ item.text ++ "]"
  | .nonNull type => type.text ++ "!"

/-- The grammar of types: a name or a type in brackets, with at most one exclamation mark after it. -/
inductive Derives : TypeTree → List Lexeme → Prop where
  | name (name : String) : Derives (.named name) [.name name]
  | list {item : TypeTree} {ls : List Lexeme} (h : Derives item ls) :
    Derives (.list item) (.mark '[' :: ls ++ [.mark ']'])
  | nonNull {type : TypeTree} {ls : List Lexeme} (h : Derives type ls) (hnull : type.admitsNull = true) :
    Derives (.nonNull type) (ls ++ [.mark '!'])

/-- All of the text is a type of the grammar, and this is the type. -/
def SpelledBy (tree : TypeTree) (text : String) : Prop :=
  (lexFrom text.length .start text.toList).complete = true ∧ tree.Derives (lexemesOf text)

theorem Derives.name_mem {tree : TypeTree} {ls : List Lexeme} (h : tree.Derives ls) :
    Lexeme.name tree.name ∈ ls := by
  induction h with
  | name name => exact List.mem_singleton_self _
  | list h ih => exact List.mem_append_left _ (List.mem_cons_of_mem _ ih)
  | nonNull h hnull ih => exact List.mem_append_left _ ih

end TypeTree

/-! ## From the grammar to references -/

namespace TypeRef

/-- The reference for a type of which the outermost level admits null or not. -/
def ofTreeWith (nullable : Bool) : TypeTree → TypeRef
  | .named name => .named name nullable
  | .list item => .list (ofTreeWith true item) nullable
  | .nonNull type => ofTreeWith false type

/-- The reference for a type of the grammar. -/
def ofTree (tree : TypeTree) : TypeRef :=
  ofTreeWith true tree

theorem nonNull_nonNull (type : TypeRef) : type.nonNull.nonNull = type.nonNull := by
  cases type <;> rfl

theorem nullable_nonNull (type : TypeRef) : type.nonNull.nullable = false := by
  cases type <;> rfl

/-- An exclamation mark changes the level at which it stands and no other. -/
theorem ofTreeWith_false (tree : TypeTree) : ofTreeWith false tree = (ofTree tree).nonNull := by
  induction tree with
  | named name => rfl
  | list item ih => rfl
  | nonNull type ih =>
    have htree : ofTree (.nonNull type) = ofTreeWith false type := rfl
    rw [ofTreeWith, htree, ih, nonNull_nonNull]

theorem ofTree_nonNull (tree : TypeTree) : ofTree (.nonNull tree) = (ofTree tree).nonNull :=
  ofTreeWith_false tree

theorem nullable_ofTree (tree : TypeTree) : (ofTree tree).nullable = tree.admitsNull := by
  cases tree with
  | named name => rfl
  | list item => rfl
  | nonNull type =>
    rw [ofTree_nonNull, nullable_nonNull]
    rfl

theorem name_nonNull (type : TypeRef) : type.nonNull.name = type.name := by
  cases type <;> rfl

theorem name_ofTree (tree : TypeTree) : (ofTree tree).name = tree.name := by
  induction tree with
  | named name => rfl
  | list item ih => exact ih
  | nonNull type ih => rw [ofTree_nonNull, name_nonNull, ih, TypeTree.name]

/-! ### Texts and lexemes -/

theorem lexemes_nonNull {type : TypeRef} (h : type.nullable = true) :
    type.nonNull.lexemes = type.lexemes ++ [.mark '!'] := by
  cases type <;> cases h <;> simp [nonNull, lexemes]

theorem text_nonNull {type : TypeRef} (h : type.nullable = true) : type.nonNull.text = type.text ++ "!" := by
  cases type <;> cases h <;> simp [nonNull, text]

theorem lexemes_ofTree {tree : TypeTree} {ls : List Lexeme} (h : tree.Derives ls) :
    (ofTree tree).lexemes = ls := by
  induction h with
  | name name => rfl
  | @list item ls h ih =>
    have htree : ofTree (.list item) = .list (ofTree item) true := rfl
    rw [htree, lexemes, ih, if_pos rfl, List.append_nil]
  | @nonNull type ls h hnull ih =>
    rw [← nullable_ofTree] at hnull
    rw [ofTree_nonNull, lexemes_nonNull hnull, ih]

theorem text_ofTree {tree : TypeTree} {ls : List Lexeme} (h : tree.Derives ls) :
    (ofTree tree).text = tree.text := by
  induction h with
  | name name => exact String.append_empty
  | @list item ls h ih =>
    have htree : ofTree (.list item) = .list (ofTree item) true := rfl
    rw [htree, text, ih, if_pos rfl, String.append_empty, TypeTree.text]
  | @nonNull type ls h hnull ih =>
    rw [← nullable_ofTree] at hnull
    rw [ofTree_nonNull, text_nonNull hnull, ih, TypeTree.text]

/-- A reference nests fewer lists than its text has characters. -/
theorem fits_of_length_text_le {type : TypeRef} {room : Nat} (h : isName type.name = true)
    (hroom : type.text.length ≤ room) : type.fits room = true := by
  induction type generalizing room with
  | named name nullable => exact h
  | list item nullable ih =>
    have hbracket : "[".length = 1 := rfl
    simp only [text, String.length_append] at hroom
    obtain ⟨inner, rfl⟩ : ∃ inner, room = inner + 1 := ⟨room - 1, by omega⟩
    exact ih h (by omega)

end TypeRef

/-! ## Reading -/

namespace Sdl

theorem isProper_of_fits {room : Nat} {ts : List Token} (h : Fits room ts) :
    ∀ t ∈ ts, t.lexeme.isProper = true := by
  induction ts generalizing room with
  | nil => simp
  | cons t ts ih =>
    obtain ⟨hproper, next, -, hts⟩ := h
    exact List.forall_mem_cons.2 ⟨hproper, ih hts⟩

theorem isProper_of_mem_lexemesOf {text : String} {l : Lexeme} (h : l ∈ lexemesOf text) : l.isProper = true := by
  obtain ⟨t, ht, rfl⟩ := List.mem_map.1 h
  exact isProper_of_fits (fits_lexFrom _ _ _) t ht

end Sdl

namespace Sdl.Reader

variable {α β : Type}

/-- Whatever the reader gives, it has taken lexemes to which this belongs. -/
def Takes (reader : Reader α) (P : α → List Lexeme → Prop) : Prop :=
  ∀ ts a ts', reader ts = .ok (a, ts') →
    ∃ ls, ts.map (·.lexeme) = ls ++ ts'.map (·.lexeme) ∧ P a ls

namespace Takes

variable {reader : Reader α} {P : α → List Lexeme → Prop}

theorem pure {a : α} (h : P a []) : Takes (Pure.pure a) P := by
  intro ts b ts' hok
  cases hok
  exact ⟨[], rfl, h⟩

theorem bind {f : α → Reader β} {Q : β → List Lexeme → Prop} (h : Takes reader P)
    (hf : ∀ a ls, P a ls → Takes (f a) fun b ls' => Q b (ls ++ ls')) : Takes (reader >>= f) Q := by
  intro ts b ts' hok
  obtain ⟨⟨a, mid⟩, ha, hb⟩ := Result.bind_eq_ok_iff.1 hok
  obtain ⟨ls, hts, hp⟩ := h ts a mid ha
  obtain ⟨ls', hmid, hq⟩ := hf a ls hp mid b ts' hb
  exact ⟨ls ++ ls', by rw [hts, hmid, List.append_assoc], hq⟩

theorem mono {Q : α → List Lexeme → Prop} (h : Takes reader P) (hpq : ∀ a ls, P a ls → Q a ls) :
    Takes reader Q := by
  intro ts a ts' hok
  obtain ⟨ls, hts, hp⟩ := h ts a ts' hok
  exact ⟨ls, hts, hpq a ls hp⟩

theorem lexeme (l : Lexeme) : Takes (Reader.lexeme l) fun _ ls => ls = [l] := by
  intro ts a ts' hok
  cases ts with
  | nil => cases hok
  | cons t ts =>
    simp only [Reader.lexeme, Reader.token] at hok
    by_cases hl : t.lexeme = l
    · rw [if_pos hl] at hok
      cases hok
      exact ⟨[l], by rw [List.map_cons, hl]; rfl, rfl⟩
    · rw [if_neg hl] at hok
      cases hok

theorem name : Takes Reader.name fun text ls => ls = [.name text] := by
  intro ts text ts' hok
  cases ts with
  | nil => cases hok
  | cons t ts =>
    obtain ⟨l, position⟩ := t
    cases l <;> cases hok
    exact ⟨_, rfl, rfl⟩

theorem skip (l : Lexeme) : Takes (Reader.skip l) fun found ls => ls = if found then [l] else [] := by
  have hnext : Takes (Reader.nextIs l) fun _ ls => ls = [] := by
    intro ts found ts' hok
    cases hok
    exact ⟨[], rfl, rfl⟩
  refine hnext.bind fun found ls hls => ?_
  subst hls
  cases found
  · exact pure rfl
  · refine (lexeme l).bind fun _ ls hls => ?_
    subst hls
    exact pure rfl

/-- After a type without an exclamation mark at most one is taken. -/
theorem nullability {tree : TypeTree} {ls : List Lexeme} (h : tree.Derives ls) (hnull : tree.admitsNull = true) :
    Takes (nullability (.ofTree tree)) fun type ls' =>
      ∃ tree : TypeTree, tree.Derives (ls ++ ls') ∧ TypeRef.ofTree tree = type := by
  refine (skip _).bind fun found ls' hls' => ?_
  subst hls'
  cases found
  · exact pure ⟨tree, by simpa using h, rfl⟩
  · refine pure ⟨.nonNull tree, ?_, TypeRef.ofTree_nonNull tree⟩
    exact .nonNull h hnull

/-- What is read as a type is one of the grammar. -/
theorem typeWithin (depth : Nat) :
    Takes (typeWithin depth) fun type ls => ∃ tree : TypeTree, tree.Derives ls ∧ TypeRef.ofTree tree = type := by
  induction depth with
  | zero =>
    intro ts type ts' hok
    cases hok
  | succ depth ih =>
    refine (skip _).bind fun found ls hls => ?_
    subst hls
    cases found
    · refine name.bind fun text ls hls => ?_
      subst hls
      exact nullability (.name text) rfl
    · refine ih.bind fun item ls hitem => ?_
      obtain ⟨tree, hderives, rfl⟩ := hitem
      refine (lexeme (.mark ']')).bind fun _ ls' hls' => ?_
      subst hls'
      exact (nullability (.list hderives) rfl).mono fun type ls' htype => by simpa using htype

end Takes

end Sdl.Reader

namespace TypeRef

/--
The reference of which all of the text is the written form, if it is one. Brackets
may nest as deep as the text is long.
-/
def ofText? (text : String) : Option TypeRef :=
  let lexed := lexFrom text.length .start text.toList
  match Sdl.typeRef lexed.tokens with
  | .ok (type, []) => if lexed.complete then some type else none
  | _ => none

theorem ofText?_eq_some_iff {text : String} {type : TypeRef} :
    ofText? text = some type ↔ (lexFrom text.length .start text.toList).complete = true ∧
      Sdl.typeRef (lexFrom text.length .start text.toList).tokens = .ok (type, []) := by
  simp only [ofText?]
  split
  · next read hread =>
    rw [hread]
    split
    · next hcomplete => simp [hcomplete]
    · next hcomplete => simp [hcomplete]
  · next hother => exact ⟨nofun, fun h => absurd h.2 (hother type)⟩

/-- A text is read as a reference exactly if it is a type of the grammar, and as what that type stands for. -/
theorem ofText?_iff_spelledBy {text : String} {type : TypeRef} :
    ofText? text = some type ↔ ∃ tree : TypeTree, tree.SpelledBy text ∧ ofTree tree = type := by
  rw [ofText?_eq_some_iff]
  constructor
  · rintro ⟨hcomplete, hread⟩
    obtain ⟨ls, hls, tree, hderives, htree⟩ := Reader.Takes.typeWithin _ _ _ _ hread
    rw [List.map_nil, List.append_nil] at hls
    exact ⟨tree, ⟨hcomplete, by rw [lexemesOf, hls]; exact hderives⟩, htree⟩
  · rintro ⟨tree, ⟨hcomplete, hderives⟩, rfl⟩
    have htokens : (lexFrom text.length .start text.toList).tokens.map (·.lexeme) = (ofTree tree).lexemes ++ [] := by
      rw [lexemes_ofTree hderives, List.append_nil]
      rfl
    obtain ⟨read, rest, hread, hrest, rfl⟩ := Reader.Reads.typeRef (ofTree tree) (by simp) _ htokens
    obtain rfl : rest = [] := List.map_eq_nil_iff.1 hrest
    exact ⟨hcomplete, hread⟩

/-- The text of a reference has its lexemes and is read to its end. -/
theorem lexemesOf_text {type : TypeRef} (h : isName type.name = true) :
    (lexFrom type.text.length .start type.text.toList).complete = true ∧ lexemesOf type.text = type.lexemes :=
  (Writes.typeRef (fits_of_length_text_le h (Nat.le_refl _))).scans .start

theorem ofText?_text {type : TypeRef} (h : isName type.name = true) : ofText? type.text = some type := by
  obtain ⟨hcomplete, hlexemes⟩ := lexemesOf_text h
  obtain ⟨read, rest, hread, hrest, rfl⟩ :=
    Reader.Reads.typeRef type (by simp) _ (hlexemes.trans (List.append_nil _).symm)
  obtain rfl : rest = [] := List.map_eq_nil_iff.1 hrest
  exact ofText?_eq_some_iff.2 ⟨hcomplete, hread⟩

/-- What spells a type need not be its canonical text, but that spells it too. -/
theorem spelledBy_text {tree : TypeTree} {text : String} (h : tree.SpelledBy text) : tree.SpelledBy tree.text := by
  have hname : isName tree.name = true := isProper_of_mem_lexemesOf h.2.name_mem
  obtain ⟨hcomplete, hlexemes⟩ := lexemesOf_text ((name_ofTree tree).symm ▸ hname)
  rw [text_ofTree h.2] at hcomplete hlexemes
  exact ⟨hcomplete, by rw [hlexemes, lexemes_ofTree h.2]; exact h.2⟩

/--
A reference is read back from its text, whatever it nests. What the grammar makes of
a text is what is read from it, and the text of that is the canonical one. So
references with one text are equal.
-/
theorem text_reads_back :
    (∀ type : TypeRef, isName type.name = true → ofText? type.text = some type) ∧
    (∀ (text : String) (type : TypeRef), ofText? text = some type ↔
      ∃ tree : TypeTree, tree.SpelledBy text ∧ ofTree tree = type) ∧
    (∀ (tree : TypeTree) (text : String), tree.SpelledBy text →
      (ofTree tree).text = tree.text ∧ tree.SpelledBy tree.text) ∧
    ∀ type other : TypeRef, isName type.name = true → isName other.name = true →
      type.text = other.text → type = other := by
  refine ⟨fun _ => ofText?_text, fun _ _ => ofText?_iff_spelledBy, ?_, ?_⟩
  · intro tree text h
    exact ⟨text_ofTree h.2, spelledBy_text h⟩
  · intro type other h hother htext
    have hread := ofText?_text h
    rw [htext, ofText?_text hother] at hread
    exact (Option.some.inj hread).symm

/-- Of three levels the outermost and the innermost do not admit null. -/
theorem text_reads_back_nested :
    let type : TypeRef := .list (.list (.named "Pet" false) true) false
    isName type.name = true ∧ type.text = "[[Pet!]]!" ∧ ofText? "[[Pet!]]!" = some type ∧
      ∃ tree : TypeTree, tree.SpelledBy "[ [Pet !] ], !" ∧ ofTree tree = type ∧ tree.text = "[[Pet!]]!" := by
  intro type
  obtain ⟨hback, hspelled, hcanonical, -⟩ := text_reads_back
  have hname : isName type.name = true := by decide
  have htext : type.text = "[[Pet!]]!" := by decide
  have hspaced : ofText? "[ [Pet !] ], !" = some type := by decide +kernel
  obtain ⟨tree, htree, htype⟩ := (hspelled _ _).1 hspaced
  obtain ⟨hdisplayed, -⟩ := hcanonical tree _ htree
  refine ⟨hname, htext, htext ▸ hback type hname, tree, htree, htype, ?_⟩
  rw [← hdisplayed, htype, htext]

end TypeRef

end SchemaDoc
