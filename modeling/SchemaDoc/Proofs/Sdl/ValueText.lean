-- SUMMARY: Values are read back from their literals.
import SchemaDoc.Proofs.Sdl.Literals
import SchemaDoc.Proofs.Sdl.Reading
import SchemaDoc.Proofs.Sdl.Values

/-!
# Literals of values

The literal of a value is one literal of the grammar, and stands for that value,
if the escapes in strings are read as the language defines them. Numbers with a
fraction are left aside: their literals are shortened.
-/

namespace SchemaDoc

open Sdl

/-! ## Lexemes -/

/-- A mark that closes nothing is not one that does. -/
theorem Sdl.mark_ne_closing {mark : Char} (h : isClosing mark = false) (c : Char) (hc : isClosing c = true) :
    Lexeme.mark mark ≠ .mark c := by
  rintro ⟨rfl⟩
  rw [hc] at h
  cases h

namespace Value

mutual

/-- The lexemes of the literal of a value. -/
def lexemes : Value → List Lexeme
  | .null => [.name "null"]
  | .bool value => [.name (if value then "true" else "false")]
  | .int value => [.int (intChars value)]
  | .float value => [.float value.text.toList]
  | .string value => [.string (value.toList.flatMap escapeChar)]
  | .enum name => [.name name]
  | .var name => [.mark '$', .name name]
  | .list items => .mark '[' :: itemLexemes items ++ [.mark ']']
  | .object entries => .mark '\x7b' :: entryLexemes entries ++ [.mark '\x7d']

def itemLexemes : List Value → List Lexeme
  | [] => []
  | item :: items => lexemes item ++ itemLexemes items

def entryLexemes : List (String × Value) → List Lexeme
  | [] => []
  | (key, value) :: entries => .name key :: .mark ':' :: lexemes value ++ entryLexemes entries

end

theorem itemTexts_eq (items : List Value) : itemTexts items = items.map text := by
  induction items with
  | nil => rfl
  | cons item items ih => simp only [itemTexts, ih, List.map_cons]

theorem itemLexemes_eq (items : List Value) : itemLexemes items = items.flatMap lexemes := by
  induction items with
  | nil => rfl
  | cons item items ih => simp only [itemLexemes, ih, List.flatMap_cons]

def entryText (entry : String × Value) : String :=
  entry.1 ++ ": " ++ entry.2.text

def entryLexeme (entry : String × Value) : List Lexeme :=
  .name entry.1 :: .mark ':' :: entry.2.lexemes

theorem entryTexts_eq (entries : List (String × Value)) : entryTexts entries = entries.map entryText := by
  induction entries with
  | nil => rfl
  | cons entry entries ih => simp only [entryTexts, ih, List.map_cons, entryText]

theorem entryLexemes_eq (entries : List (String × Value)) :
    entryLexemes entries = entries.flatMap entryLexeme := by
  induction entries with
  | nil => rfl
  | cons entry entries ih =>
    simp only [entryLexemes, ih, List.flatMap_cons, entryLexeme, List.cons_append]

theorem length_le_length_flatMap {α β : Type} {f : α → List β} {xs : List α} {x : α} (h : x ∈ xs) :
    (f x).length ≤ (xs.flatMap f).length :=
  (List.sublist_flatten_of_mem (List.mem_map_of_mem h)).length_le

/-- A literal starts with a token that closes nothing. -/
theorem exists_lexemes_eq_cons (v : Value) :
    ∃ l ls, v.lexemes = l :: ls ∧ ∀ c, isClosing c = true → l ≠ .mark c := by
  cases v
  case var name => exact ⟨_, _, rfl, mark_ne_closing rfl⟩
  case list items => exact ⟨_, _, rfl, mark_ne_closing rfl⟩
  case object entries => exact ⟨_, _, rfl, mark_ne_closing rfl⟩
  all_goals exact ⟨_, _, rfl, fun c _ h => nomatch h⟩

mutual

/-- Whether no fractional number stands anywhere in the value. -/
def floatFree : Value → Bool
  | .float _ => false
  | .list items => itemsFloatFree items
  | .object entries => entriesFloatFree entries
  | _ => true

def itemsFloatFree : List Value → Bool
  | [] => true
  | item :: items => floatFree item && itemsFloatFree items

def entriesFloatFree : List (String × Value) → Bool
  | [] => true
  | (_, value) :: entries => floatFree value && entriesFloatFree entries

end

theorem floatFree_of_mem_items {items : List Value} (h : itemsFloatFree items = true) :
    ∀ v ∈ items, v.floatFree = true := by
  induction items with
  | nil => simp
  | cons item items ih =>
    simp only [itemsFloatFree, Bool.and_eq_true] at h
    exact List.forall_mem_cons.2 ⟨h.1, ih h.2⟩

theorem floatFree_of_mem_entries {entries : List (String × Value)} (h : entriesFloatFree entries = true) :
    ∀ e ∈ entries, e.2.floatFree = true := by
  induction entries with
  | nil => simp
  | cons entry entries ih =>
    simp only [entriesFloatFree, Bool.and_eq_true] at h
    exact List.forall_mem_cons.2 ⟨h.1, ih h.2⟩

end Value

namespace Sdl

/-! ## Writing -/

section Brackets

variable {α : Type} {xs : List α} {text : α → String} {lexemes : α → List Lexeme} {room : Nat}

/-- Values between brackets, with commas between them. -/
theorem Writes.items (h : ∀ x ∈ xs, Writes room (text x).toList (lexemes x)) :
    Writes (room + 1) ("[" ++ String.intercalate ", " (xs.map text) ++ "]").toList
      (.mark '[' :: xs.flatMap lexemes ++ [.mark ']']) := by
  have hchars : ("[" ++ String.intercalate ", " (xs.map text) ++ "]").toList =
      '[' :: [',', ' '].intercalate (xs.map fun x => (text x).toList) ++ [']'] := by
    simp only [String.toList_append, String.toList_intercalate, List.map_map]
    rfl
  rw [hchars]
  exact Writes.bracket rfl rfl (Writes.spaced (by simp) (by simp) h)

/-- Values between braces, each behind its key, with commas between them. -/
theorem Writes.entries (key : α → String) (hkeys : ∀ x ∈ xs, isName (key x) = true)
    (h : ∀ x ∈ xs, Writes room (text x).toList (lexemes x)) :
    Writes (room + 1) ("\x7b" ++ String.intercalate ", " (xs.map fun x => key x ++ ": " ++ text x) ++ "\x7d").toList
      (.mark '\x7b' :: xs.flatMap (fun x => .name (key x) :: .mark ':' :: lexemes x) ++ [.mark '\x7d']) := by
  have hchars : ("\x7b" ++ String.intercalate ", " (xs.map fun x => key x ++ ": " ++ text x) ++ "\x7d").toList =
      '\x7b' :: [',', ' '].intercalate (xs.map fun x => (key x).toList ++ ':' :: ' ' :: (text x).toList) ++
        ['\x7d'] := by
    simp only [String.toList_append, String.toList_intercalate, List.map_map, Function.comp_def,
      List.append_assoc]
    rfl
  rw [hchars]
  refine Writes.bracket rfl rfl (Writes.spaced (by simp) (by simp) fun x hx => ?_)
  exact Writes.append (Writes.name (hkeys x hx)) (Writes.mark rfl rfl (Writes.gap (.inl rfl) (h x hx)))
    (delimited_cons.2 rfl)

end Brackets

/-- There is room enough for a literal if there is as much as it has lexemes. -/
theorem Writes.value {v : Value} (h : v.Loadable) (hfloat : v.floatFree = true) {room : Nat}
    (hroom : v.lexemes.length ≤ room) : Writes room v.text.toList v.lexemes := by
  induction h generalizing room with
  | null => exact Writes.name rfl
  | bool b => cases b <;> exact Writes.name rfl
  | @int n hlow hhigh =>
    have htext : (Value.int n).text.toList = intChars n := toList_toString_int n
    rw [htext]
    exact Writes.int room n
  | float x => cases hfloat
  | string s =>
    have htext : (Value.string s).text.toList = quoteChars s.toList := String.toList_ofList
    rw [htext]
    exact Writes.string room s.toList
  | enum hname hkeyword => exact Writes.name hname
  | @var name hname =>
    have htext : (Value.var name).text.toList = '$' :: name.toList := String.toList_append
    rw [htext]
    exact Writes.mark rfl rfl (Writes.name hname)
  | @list items hitems ih =>
    have hfloats := Value.floatFree_of_mem_items hfloat
    simp only [Value.lexemes, Value.itemLexemes_eq, List.cons_append, List.length_cons,
      List.length_append, List.length_nil] at hroom
    obtain ⟨inner, rfl⟩ : ∃ inner, room = inner + 1 := ⟨room - 1, by omega⟩
    rw [Value.text, Value.itemTexts_eq, Value.lexemes, Value.itemLexemes_eq]
    refine Writes.items fun v hv => ih v hv (hfloats v hv) ?_
    have hle := Value.length_le_length_flatMap (f := Value.lexemes) hv
    omega
  | @object entries hkeys hsorted hentries ih =>
    have hfloats := Value.floatFree_of_mem_entries hfloat
    simp only [Value.lexemes, Value.entryLexemes_eq, List.cons_append, List.length_cons,
      List.length_append, List.length_nil] at hroom
    obtain ⟨inner, rfl⟩ : ∃ inner, room = inner + 1 := ⟨room - 1, by omega⟩
    rw [Value.text, Value.entryTexts_eq, Value.lexemes, Value.entryLexemes_eq]
    refine Writes.entries Prod.fst hkeys fun e he => ih e he (hfloats e he) ?_
    have hle := Value.length_le_length_flatMap (f := Value.entryLexeme) he
    have hlength : (Value.entryLexeme e).length = e.2.lexemes.length + 2 := rfl
    omega

/-! ## Reading -/

open Reader

/-- A token with a value of its own is no mark, so nothing else can be read from it. -/
theorem Reader.Reads.scalar {letters : EscapeLetters} {varsAllowed : Bool} {l : Lexeme} {v : Value}
    {rest : List Lexeme} (h : scalarValue? letters l = some v) (depth : Nat) :
    Reads (valueWithin letters varsAllowed (depth + 1)) [l] rest (· = v) := by
  have hmark (c : Char) : ([l] ++ rest).head? ≠ some (.mark c) := by
    rintro ⟨rfl⟩
    cases h
  refine Reads.peek (Reads.skip_false (hmark '[')) ?_
  rintro _ rfl
  refine Reads.peek (Reads.skip_false (hmark '\x7b')) ?_
  rintro _ rfl
  refine Reads.peek (Reads.nextIs (.mark '$')) ?_
  rintro _ rfl
  rw [beq_false_of_ne (hmark '$'), Bool.and_false]
  exact Reads.token h

theorem Reader.Reads.entry {α : Type} {item : Reader α} {key : String} {ls rest : List Lexeme}
    {a : α} (h : Reads item ls rest (· = a)) :
    Reads (entry item) (.name key :: .mark ':' :: ls) rest (· = (key, a)) := by
  refine Reads.cons (Reads.name key) ?_
  rintro _ rfl
  refine Reads.cons (Reads.mark ':') fun _ _ => Reads.map h ?_
  rintro _ rfl
  rfl

section Brackets

variable {α : Type} {letters : EscapeLetters} {varsAllowed : Bool} {depth : Nat} {rest : List Lexeme} {xs : List α}
  {lexemes : α → List Lexeme} {value : α → Value}

/-- Values between brackets, each read as it is wherever it stands. -/
theorem Reader.Reads.items (hstart : ∀ x ∈ xs, ∃ l ls, lexemes x = l :: ls ∧ l ≠ .mark ']')
    (h : ∀ x ∈ xs, ∀ next, Reads (valueWithin letters varsAllowed depth) (lexemes x) next (· = value x)) :
    Reads (valueWithin letters varsAllowed (depth + 1)) (.mark '[' :: xs.flatMap lexemes ++ [.mark ']']) rest
      (· = .list (xs.map value)) := by
  have hitem : ∀ x ∈ xs, ∀ next, True →
      Reads (valueWithin letters varsAllowed depth) (lexemes x) next (· = value x) :=
    fun x hx next _ => h x hx next
  have hnext : ∀ x ∈ xs, ∀ next, True ∧ (lexemes x ++ next).head? ≠ some (.mark ']') := by
    intro x hx next
    obtain ⟨l, ls, hls, hclosing⟩ := hstart x hx
    simpa [hls] using hclosing
  have hne : ∀ x ∈ xs, lexemes x ≠ [] := by
    intro x hx
    obtain ⟨l, ls, hls, -⟩ := hstart x hx
    simp [hls]
  refine Reads.cons (Reads.skip_true (.mark '[')) ?_
  rintro _ rfl
  refine Reads.map (Reads.upTo hitem hnext hne trivial) fun values hvalues => ?_
  rw [Result.eq_of_forall₂ (List.forall₂_map_left_iff.2 hvalues)]

/-- Values between braces, each behind its key. -/
theorem Reader.Reads.entries (key : α → String)
    (h : ∀ x ∈ xs, ∀ next, Reads (valueWithin letters varsAllowed depth) (lexemes x) next (· = value x)) :
    Reads (valueWithin letters varsAllowed (depth + 1))
      (.mark '\x7b' :: xs.flatMap (fun x => .name (key x) :: .mark ':' :: lexemes x) ++ [.mark '\x7d']) rest
      (· = .ofEntries (xs.map fun x => (key x, value x))) := by
  have hentry : ∀ x ∈ xs, ∀ next, True → Reads (Sdl.entry (valueWithin letters varsAllowed depth))
      (.name (key x) :: .mark ':' :: lexemes x) next (· = (key x, value x)) :=
    fun x hx next _ => Reads.entry (h x hx next)
  have hnext : ∀ x ∈ xs, ∀ next, True ∧
      ((.name (key x) :: .mark ':' :: lexemes x : List Lexeme) ++ next).head? ≠ some (.mark '\x7d') := by
    intro x _ next
    simp
  refine Reads.peek (Reads.skip_false (by simp)) ?_
  rintro _ rfl
  refine Reads.cons (Reads.skip_true (.mark '\x7b')) ?_
  rintro _ rfl
  refine Reads.map (Reads.upTo hentry hnext (fun x _ => List.cons_ne_nil _ _) trivial) fun values hvalues => ?_
  rw [Result.eq_of_forall₂ (List.forall₂_map_left_iff.2 hvalues)]

end Brackets

theorem Reader.Reads.value {v : Value} (h : v.Loadable) (hfloat : v.floatFree = true) {depth : Nat}
    (hdepth : v.lexemes.length ≤ depth + 1) (rest : List Lexeme) :
    Reads (valueWithin standardLetters true (depth + 1)) v.lexemes rest (· = v) := by
  induction h generalizing depth rest with
  | null => exact Reads.scalar rfl depth
  | bool b => cases b <;> exact Reads.scalar rfl depth
  | @int n hlow hhigh =>
    exact Reads.scalar (by rw [scalarValue?, intValue_intChars hlow hhigh]; rfl) depth
  | float x => cases hfloat
  | string s =>
    refine Reads.scalar ?_ depth
    rw [scalarValue?, stringValue?, unescape_flatMap]
    simp
  | @enum name hname hkeyword =>
    have hvalue : nameValue name = .enum name := by
      simp only [Value.keywords, List.mem_cons, List.not_mem_nil, or_false, not_or] at hkeyword
      unfold nameValue
      split <;> simp_all
    exact Reads.scalar (by rw [scalarValue?, hvalue]) depth
  | @var name hname =>
    rw [Value.lexemes]
    refine Reads.peek (Reads.skip_false (by simp)) ?_
    rintro _ rfl
    refine Reads.peek (Reads.skip_false (by simp)) ?_
    rintro _ rfl
    refine Reads.peek (Reads.nextIs (.mark '$')) ?_
    rintro _ rfl
    refine Reads.cons (Reads.mark '$') fun _ _ => Reads.map (Reads.name name) ?_
    rintro _ rfl
    rfl
  | @list items hitems ih =>
    have hfloats := Value.floatFree_of_mem_items hfloat
    simp only [Value.lexemes, Value.itemLexemes_eq, List.cons_append, List.length_cons,
      List.length_append, List.length_nil] at hdepth
    have hstart : ∀ v ∈ items, ∃ l ls, v.lexemes = l :: ls ∧ l ≠ .mark ']' := by
      intro v _
      obtain ⟨l, ls, hls, hclosing⟩ := v.exists_lexemes_eq_cons
      exact ⟨l, ls, hls, hclosing ']' rfl⟩
    have hitem : ∀ v ∈ items, ∀ next, Reads (valueWithin standardLetters true depth) v.lexemes next (· = v) := by
      intro v hv next
      obtain ⟨l, ls, hls, -⟩ := v.exists_lexemes_eq_cons
      have hle := Value.length_le_length_flatMap (f := Value.lexemes) hv
      have hpos : 0 < v.lexemes.length := by simp [hls]
      obtain ⟨inner, rfl⟩ : ∃ inner, depth = inner + 1 := ⟨depth - 1, by omega⟩
      exact ih v hv (hfloats v hv) (by omega) next
    have hitems : Reads (valueWithin standardLetters true (depth + 1))
        (.mark '[' :: items.flatMap Value.lexemes ++ [.mark ']']) rest (· = .list (items.map id)) :=
      Reads.items hstart hitem
    rwa [List.map_id, ← Value.itemLexemes_eq] at hitems
  | @object entries hkeys hsorted hentries ih =>
    have hfloats := Value.floatFree_of_mem_entries hfloat
    simp only [Value.lexemes, Value.entryLexemes_eq, List.cons_append, List.length_cons,
      List.length_append, List.length_nil] at hdepth
    have hentry : ∀ e ∈ entries, ∀ next,
        Reads (valueWithin standardLetters true depth) e.2.lexemes next (· = e.2) := by
      intro e he next
      have hle := Value.length_le_length_flatMap (f := Value.entryLexeme) he
      have hlength : (Value.entryLexeme e).length = e.2.lexemes.length + 2 := rfl
      obtain ⟨inner, rfl⟩ : ∃ inner, depth = inner + 1 := ⟨depth - 1, by omega⟩
      exact ih e he (hfloats e he) (by omega) next
    have hentries : Reads (valueWithin standardLetters true (depth + 1))
        (.mark '\x7b' :: entries.flatMap Value.entryLexeme ++ [.mark '\x7d']) rest
        (· = .ofEntries (entries.map id)) := Reads.entries Prod.fst hentry
    rwa [List.map_id, Value.ofEntries_of_sorted hsorted, ← Value.entryLexemes_eq] at hentries

/-! ## Literals -/

/--
The value of which all of the text is the literal, if it is one literal. Brackets
may nest as deep as the text is long.
-/
def literal? (letters : EscapeLetters) (text : String) : Option Value :=
  let lexed := lexFrom text.length .start text.toList
  match valueWithin letters true lexed.tokens.length lexed.tokens with
  | .ok (value, []) => if lexed.complete then some value else none
  | _ => none

/-- A text has no more tokens than characters. -/
theorem length_tokens_le (room : Nat) (p : Position) (cs : List Char) :
    (lexFrom room p cs).tokens.length ≤ cs.length := by
  induction hlength : cs.length using Nat.strongRecOn generalizing room p cs with
  | ind length ih =>
    subst hlength
    rw [lexFrom]
    split
    · exact Nat.zero_le _
    · next q c rest hskip =>
      have hle := length_skipIgnored false p cs
      rw [hskip, List.length_cons] at hle
      split
      · exact Nat.zero_le _
      · next l n _ =>
        split
        · exact Nat.zero_le _
        · next next _ =>
          have hrest := ih (rest.drop n).length (by rw [List.length_drop]; omega) next
            (q.past (c :: rest.take n)) (rest.drop n) rfl
          rw [List.length_drop] at hrest
          simp only [List.length_cons]
          omega

end Sdl

/--
A value that a document can hold is read back from its literal, unless it has
numbers with a fraction.
-/
theorem Value.literal?_text {v : Value} (h : v.Loadable) (hfloat : v.floatFree = true) :
    literal? standardLetters v.text = some v := by
  have hroom : v.lexemes.length ≤ v.text.length := by
    obtain ⟨-, htokens⟩ := (Writes.value h hfloat (Nat.le_refl _)).scans .start
    have hle := length_tokens_le v.lexemes.length .start v.text.toList
    rw [← htokens, List.length_map]
    exact hle
  obtain ⟨hcomplete, htokens⟩ := (Writes.value h hfloat hroom).scans .start
  have hlength : (lexFrom v.text.length .start v.text.toList).tokens.length = v.lexemes.length := by
    rw [← htokens, List.length_map]
  obtain ⟨l, ls, hls, -⟩ := v.exists_lexemes_eq_cons
  obtain ⟨depth, hdepth⟩ : ∃ depth, v.lexemes.length = depth + 1 := ⟨ls.length, by rw [hls]; rfl⟩
  obtain ⟨value, rest, hread, hrest, rfl⟩ := Reader.Reads.value h hfloat (Nat.le_of_eq hdepth) []
    _ (htokens.trans (List.append_nil _).symm)
  obtain rfl : rest = [] := List.map_eq_nil_iff.1 hrest
  unfold literal?
  simp only [hlength, hdepth, hread, hcomplete, if_true]

/-- Lists in objects in lists, and strings with all that has to be escaped. -/
def Value.nested : Value :=
  .list [
    .object [
      ("filter", .list [.string "\x08 \"a, b\" \\ \n\u007F", .int (-0x8000000000000000), .list []]),
      ("kind", .enum "DOG"),
      ("order", .object [("by", .var "field"), ("up", .bool true)])],
    .null]

theorem Value.literal?_text_nested : nested.Loadable ∧ nested.floatFree = true ∧
    literal? standardLetters nested.text = some nested := by
  have horder : Loadable (.object [("by", .var "field"), ("up", .bool true)]) :=
    .object (by decide) (by decide) (by simpa using ⟨.var (by decide), .bool true⟩)
  have hnested : nested.Loadable := by
    refine .list (List.forall_mem_cons.2 ⟨.object (by decide) (by decide) ?_, by simpa using .null⟩)
    simp only [List.forall_mem_cons]
    refine ⟨.list ?_, .enum (by decide) (by decide), horder, by simp⟩
    simpa using ⟨.string _, .int (by decide) (by decide), .list (by simp)⟩
  exact ⟨hnested, rfl, literal?_text hnested rfl⟩

end SchemaDoc
