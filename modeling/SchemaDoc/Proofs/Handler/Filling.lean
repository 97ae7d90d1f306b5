-- SUMMARY: Filling a template in replaces its placeholders and keeps everything else, or fails for the first one without a value.
import SchemaDoc.Proofs.Handler.Placeholders
import SchemaDoc.Proofs.Handler.Values

/-!
# Templates filled in

A template is searched from the left. Up to the leftmost placeholder it stays as it
is, then comes the text of the word, and the search goes on behind the placeholder.
Texts that are filled in are not searched, so braces in them stay.
-/

namespace SchemaDoc

/-! ## Texts of values -/

/-- How a value shows in running text: the content of a string, the literal of any other value. -/
inductive Value.Shows : Value → String → Prop
  | string (content : String) : Shows (.string content) content
  | literal {v : Value} (h : ∀ content, v ≠ .string content) : Shows v v.text

theorem Value.shows_iff {v : Value} {text : String} : v.Shows text ↔ v.plainText = text := by
  constructor
  · intro h
    cases h with
    | string content => rfl
    | literal h =>
      cases v with
      | string content => exact absurd rfl (h content)
      | null | bool | int | float | enum | var | list | object => rfl
  · rintro rfl
    cases v with
    | string content => exact .string content
    | null | bool | int | float | enum | var | list | object => exact .literal nofun

namespace Template

/-! ## The leftmost placeholder -/

/-- A template is cut at its leftmost placeholder. -/
structure Leftmost (cs before : List Char) (word : String) (after : List Char) : Prop where
  isWord : Text.IsWord word
  cut : cs = before ++ '\x7b' :: word.toList ++ '\x7d' :: after
  first : ∀ position < before.length, ∀ other, ¬ HasAt cs position other

/-- The template with a text in the place of each of its placeholders, whose words are listed. -/
inductive Filled (shows : String → String → Prop) : List Char → List String → List Char → Prop
  | rest {cs : List Char} (hnone : ∀ position word, ¬ HasAt cs position word) : Filled shows cs [] cs
  | next {cs before after output : List Char} {word text : String} {words : List String}
      (hleftmost : Leftmost cs before word after) (htext : shows word text)
      (hafter : Filled shows after words output) :
      Filled shows cs (word :: words) (before ++ text.toList ++ output)

variable {cs before after : List Char} {word : String}

theorem Leftmost.reads (h : Leftmost cs before word after) :
    placeholder? (word.toList ++ '\x7d' :: after) = some (word, after) :=
  placeholder?_eq_some_iff.2 ⟨h.isWord.nonempty, h.isWord.chars, rfl⟩

/-- A placeholder at the start is the leftmost one. -/
theorem leftmost_nil (h : placeholder? cs = some (word, after)) :
    Leftmost ('\x7b' :: cs) [] word after where
  isWord := Text.isWord_iff.2 ⟨(placeholder?_eq_some_iff.1 h).1, (placeholder?_eq_some_iff.1 h).2.1⟩
  cut := by rw [(placeholder?_eq_some_iff.1 h).2.2]; rfl
  first := nofun

/-- A character in front that opens no placeholder leaves the leftmost one in place. -/
theorem Leftmost.cons {c : Char} (hopen : c = '\x7b' → placeholder? cs = none)
    (h : Leftmost cs before word after) : Leftmost (c :: cs) (c :: before) word after where
  isWord := h.isWord
  cut := by rw [h.cut]; rfl
  first := by
    intro position hposition other hat
    obtain ⟨later, rfl, hlater⟩ := (hasAt_cons_iff hopen).1 hat
    exact h.first later (Nat.lt_of_succ_lt_succ hposition) other hlater

theorem Filled.cons {shows : String → String → Prop} {c : Char} {words : List String} {filled : List Char}
    (hopen : c = '\x7b' → placeholder? cs = none) (h : Filled shows cs words filled) :
    Filled shows (c :: cs) words (c :: filled) := by
  cases h with
  | rest hnone =>
    refine .rest fun position word hat => ?_
    obtain ⟨later, -, hlater⟩ := (hasAt_cons_iff hopen).1 hat
    exact hnone later word hlater
  | next hleftmost htext hafter => exact .next (hleftmost.cons hopen) htext hafter

/-- What stands before the first position of a placeholder is read character by character. -/
theorem pieces_append (before rest : List Char)
    (h : ∀ position < before.length, ∀ other, ¬ HasAt (before ++ rest) position other) :
    pieces (before ++ rest) = before.map .char ++ pieces rest := by
  induction before with
  | nil => rfl
  | cons c before ih =>
    have hopen : c = '\x7b' → placeholder? (before ++ rest) = none := by
      intro hc
      refine Option.eq_none_iff_forall_ne_some.2 fun found hfound => ?_
      exact h 0 (Nat.zero_lt_succ _) found.1 (hasAt_cons_zero.2 ⟨hc, found.2, hfound⟩)
    have hlater : ∀ position < before.length, ∀ other, ¬ HasAt (before ++ rest) position other := by
      intro position hposition other hat
      exact h (position + 1) (Nat.succ_lt_succ hposition) other (hasAt_cons_succ.2 hat)
    rw [List.cons_append, pieces_char hopen, ih hlater, List.map_cons, List.cons_append]

theorem Leftmost.pieces_eq (h : Leftmost cs before word after) :
    pieces cs = before.map .char ++ .placeholder word :: pieces after := by
  have hfirst := h.first
  rw [h.cut, List.append_assoc] at hfirst
  rw [h.cut, List.append_assoc, pieces_append _ _ hfirst, List.cons_append, pieces_placeholder h.reads]

/-- A template without placeholders is read character by character. -/
theorem pieces_of_none (h : ∀ position word, ¬ HasAt cs position word) : pieces cs = cs.map .char := by
  have hcut := pieces_append cs [] fun position _ other => (List.append_nil cs).symm ▸ h position other
  rwa [List.append_nil, pieces, List.append_nil] at hcut

theorem filterMap_word?_chars (cs : List Char) : (cs.map Piece.char).filterMap Piece.word? = [] := by
  rw [List.filterMap_eq_nil_iff, List.forall_mem_map]
  exact fun _ _ => rfl

/-! ## Results of filling in -/

section Results

variable {ε : Type} {resolve : String → Except ε String} {parts : List Piece} {output : String}

theorem fill_char_eq_ok_iff {c : Char} :
    fill resolve (.char c :: parts) = .ok output ↔
      ∃ rest, fill resolve parts = .ok rest ∧ output.toList = c :: rest.toList := by
  rw [fill, Result.bind_eq_ok_iff]
  refine exists_congr fun rest => and_congr_right fun _ => ?_
  rw [Result.pure_eq_ok_iff, ← String.toList_inj, String.toList_append, eq_comm]
  simp

theorem fill_placeholder_eq_ok_iff :
    fill resolve (.placeholder word :: parts) = .ok output ↔
      ∃ text rest, resolve word = .ok text ∧ fill resolve parts = .ok rest ∧
        output.toList = text.toList ++ rest.toList := by
  rw [fill, Result.bind_eq_ok_iff]
  refine exists_congr fun text => ?_
  rw [Result.bind_eq_ok_iff, ← exists_and_left]
  refine exists_congr fun rest => and_congr_right fun _ => and_congr_right fun _ => ?_
  rw [Result.pure_eq_ok_iff, ← String.toList_inj, String.toList_append, eq_comm]

theorem fill_chars_eq_ok_iff {run : List Char} :
    fill resolve (run.map .char ++ parts) = .ok output ↔
      ∃ rest, fill resolve parts = .ok rest ∧ output.toList = run ++ rest.toList := by
  induction run generalizing output with
  | nil => simp [String.toList_inj]
  | cons c run ih =>
    rw [List.map_cons, List.cons_append, fill_char_eq_ok_iff]
    constructor
    · rintro ⟨mid, hmid, houtput⟩
      obtain ⟨rest, hrest, hrun⟩ := ih.1 hmid
      exact ⟨rest, hrest, by rw [houtput, hrun, List.cons_append]⟩
    · rintro ⟨rest, hrest, houtput⟩
      refine ⟨String.ofList (run ++ rest.toList), ih.2 ⟨rest, hrest, String.toList_ofList⟩, ?_⟩
      rw [houtput, String.toList_ofList, List.cons_append]

/-- A successful run replaces the placeholders that it reads. -/
theorem filled_of_fill (h : fill resolve (pieces cs) = .ok output) :
    Filled (resolve · = .ok ·) cs ((pieces cs).filterMap Piece.word?) output.toList := by
  have hchar : ∀ (c : Char) (cs : List Char), (c = '\x7b' → placeholder? cs = none) →
      (∀ {output}, fill resolve (pieces cs) = .ok output →
        Filled (resolve · = .ok ·) cs ((pieces cs).filterMap Piece.word?) output.toList) →
      ∀ {output}, fill resolve (pieces (c :: cs)) = .ok output →
        Filled (resolve · = .ok ·) (c :: cs) ((pieces (c :: cs)).filterMap Piece.word?) output.toList := by
    intro c cs hopen ih output h
    rw [pieces_char hopen, fill_char_eq_ok_iff] at h
    obtain ⟨rest, hrest, houtput⟩ := h
    rw [pieces_char hopen, houtput]
    exact (ih hrest).cons hopen
  induction cs using pieces.induct generalizing output with
  | case1 =>
    rw [pieces, fill, Except.ok.injEq] at h
    rw [pieces, ← h]
    exact .rest fun _ _ => not_hasAt_nil
  | case2 cs found rest hfound _ ih =>
    rw [pieces_placeholder hfound, fill_placeholder_eq_ok_iff] at h
    obtain ⟨text, after, htext, hafter, houtput⟩ := h
    rw [pieces_placeholder hfound, houtput]
    exact .next (leftmost_nil hfound) htext (ih hafter)
  | case3 cs hnone ih => exact hchar _ cs (fun _ => hnone) ih h
  | case4 c cs hc ih => exact hchar c cs (fun heq => absurd heq hc) ih h

/-- Whatever replaces the leftmost placeholders in turn is the result of the run. -/
theorem Filled.fill_eq {words : List String} {filled : List Char}
    (h : Filled (resolve · = .ok ·) cs words filled) :
    (pieces cs).filterMap Piece.word? = words ∧ fill resolve (pieces cs) = .ok (String.ofList filled) := by
  induction h with
  | @rest cs hnone =>
    rw [pieces_of_none hnone]
    refine ⟨filterMap_word?_chars cs, ?_⟩
    rw [← List.append_nil (cs.map _), fill_chars_eq_ok_iff]
    exact ⟨"", rfl, by simp⟩
  | @next cs before after filled word text words hleftmost htext hafter ih =>
    rw [hleftmost.pieces_eq]
    constructor
    · rw [List.filterMap_append, filterMap_word?_chars, List.nil_append, List.filterMap_cons, ih.1]
      rfl
    · rw [fill_chars_eq_ok_iff]
      refine ⟨text ++ String.ofList filled, ?_, by simp⟩
      exact fill_placeholder_eq_ok_iff.2 ⟨text, _, htext, ih.2, by simp⟩

/-- A run fails for the first placeholder without a text. -/
theorem fill_eq_error_iff {error : ε} :
    fill resolve parts = .error error ↔
      ∃ word, (parts.filterMap Piece.word?).find? (fun word => !(resolve word).isOk) = some word ∧
        resolve word = .error error := by
  induction parts with
  | nil => simp [fill]
  | cons part parts ih =>
    cases part with
    | char c =>
      rw [List.filterMap_cons_none rfl, ← ih, fill]
      cases fill resolve parts <;> simp [bind, Except.bind, pure, Except.pure]
    | placeholder word =>
      have hword : (Piece.placeholder word).word? = some word := rfl
      rw [List.filterMap_cons_some hword, List.find?_cons, fill]
      cases hresolve : resolve word with
      | error e => simp [bind, Except.bind, hresolve, Except.toBool]
      | ok text =>
        simp only [bind, Except.bind, Except.toBool, Bool.not_true, ← ih]
        cases fill resolve parts <;> simp [pure, Except.pure]

end Results

end Template

/-! ## Templates of directives -/

namespace Item

/-- The word is an argument with a value, and the text is how the value shows. -/
def Supplies (item : Item) (directive : DirectiveDef) (word text : String) : Prop :=
  ∃ value, item.argValue directive word = .ok value ∧ value.Shows text

/-- The word is no argument with a value. -/
def Lacks (item : Item) (directive : DirectiveDef) (word : String) : Prop :=
  ∀ value, item.argValue directive word ≠ .ok value

variable {item : Item} {directive : DirectiveDef} {word text : String}

theorem supplies_iff :
    item.Supplies directive word text ↔ Value.plainText <$> item.argValue directive word = .ok text := by
  rw [Result.map_eq_ok_iff, Supplies]
  simp only [Value.shows_iff]

theorem lacks_iff :
    item.Lacks directive word ↔ (!(Value.plainText <$> item.argValue directive word).isOk) = true := by
  rw [Result.isOk_map, Bool.not_eq_true', ← Bool.not_eq_true, Result.isOk_iff, not_exists, Lacks]

end Item

/--
A template gives a text exactly if each of its placeholders is an argument with a value,
and then the texts of these values stand in the places of the placeholders and nothing
else is changed. Otherwise the leftmost placeholder without a value is reported.
-/
theorem Handler.template_filled (text : String) (directive : DirectiveDef) (item : Item) :
    ((∃ output, (Handler.template text).apply directive item = .ok output) ↔
      ∀ word ∈ (Handler.template text).placeholders, ∃ value, item.argValue directive word = .ok value) ∧
    (∀ output, (Handler.template text).apply directive item = .ok output ↔
      Template.Filled (item.Supplies directive) text.toList (Handler.template text).placeholders output.toList) ∧
    ∀ error, (Handler.template text).apply directive item = .error error ↔
      ∃ word, Template.FirstWith (item.Lacks directive) text.toList word ∧
        item.argValue directive word = .error error := by
  have hsupplies : item.Supplies directive =
      fun word text => Value.plainText <$> item.argValue directive word = .ok text := by
    funext word text
    exact propext Item.supplies_iff
  have hlacks : item.Lacks directive =
      fun word => (!(Value.plainText <$> item.argValue directive word).isOk) = true := by
    funext word
    exact propext Item.lacks_iff
  refine ⟨?_, fun output => ?_, fun error => ?_⟩
  · rw [← Result.isOk_iff, apply, Template.isOk_fill_iff]
    simp only [placeholders, Template.mem_placeholders_iff, Result.isOk_map, Result.isOk_iff]
  · rw [apply, placeholders, Template.placeholders_eq, hsupplies]
    constructor
    · exact Template.filled_of_fill
    · intro hfilled
      rw [hfilled.fill_eq.2, String.ofList_toList]
  · rw [apply, Template.fill_eq_error_iff, hlacks]
    simp only [← Template.placeholders_eq, Template.find?_placeholders_iff, Result.map_eq_error_iff]

/-- A directive with a default for one of its arguments. -/
def DirectiveDef.since : DirectiveDef where
  name := "since"
  description := none
  location := .builtin
  args := .ofList [("version", ⟨"version", none, .builtin, .named "String" true, none, []⟩),
    ("note", ⟨"note", none, .builtin, .list (.named "Int" true) true, some (.list [.int 1]), []⟩)]
  repeatable := false
  places := ["OBJECT"]

/-- The content of the argument looks like a placeholder. -/
def Item.noted : Item where
  name := "Thing"
  applied := [⟨"since", .ofList [("version", .string "\x7bnote\x7d")]⟩]

/-- Braces around no word stay, and so do those that are filled in. -/
def Handler.braced : Handler :=
  .template "\x7bsince \x7bversion\x7d\x7d, \x7bnote\x7d \x7b\x7d"

/-- Two of the placeholders are no arguments. -/
def Handler.lost : Handler :=
  .template "\x7bnote\x7d\x7bgone\x7d\x7blost\x7d"

theorem Handler.template_filled_noted :
    (∀ word ∈ Handler.braced.placeholders, ∃ value, Item.noted.argValue .since word = .ok value) ∧
      Template.Filled (Item.noted.Supplies .since) "\x7bsince \x7bversion\x7d\x7d, \x7bnote\x7d \x7b\x7d".toList
        ["version", "note"] "\x7bsince \x7bnote\x7d\x7d, [1] \x7b\x7d".toList ∧
      ∃ word, Template.FirstWith (Item.noted.Lacks .since) "\x7bnote\x7d\x7bgone\x7d\x7blost\x7d".toList word ∧
        Item.noted.argValue .since word = .error (.argumentNotFound "since" "gone") := by
  have hwords : Handler.braced.placeholders = ["version", "note"] := by
    decide +kernel
  have hfills : (Handler.braced.apply .since .noted).toOption.any
      (· = "\x7bsince \x7bnote\x7d\x7d, [1] \x7b\x7d") = true := by
    decide +kernel
  have hfails : (match Handler.lost.apply .since .noted with
      | .error error => error = .argumentNotFound "since" "gone"
      | .ok _ => false) = true := by
    decide +kernel
  obtain ⟨hvalues, hfilled, -⟩ :=
    Handler.template_filled "\x7bsince \x7bversion\x7d\x7d, \x7bnote\x7d \x7b\x7d" .since .noted
  obtain ⟨-, -, hfailed⟩ := Handler.template_filled "\x7bnote\x7d\x7bgone\x7d\x7blost\x7d" .since .noted
  obtain ⟨output, hok, hsame⟩ := Result.exists_of_any hfills
  obtain rfl := of_decide_eq_true hsame
  refine ⟨hvalues.1 ⟨_, hok⟩, hwords ▸ (hfilled _).1 hok, (hfailed _).1 ?_⟩
  cases happly : Handler.lost.apply .since .noted with
  | ok output =>
    rw [happly] at hfails
    cases hfails
  | error error =>
    rw [happly] at hfails
    obtain rfl := of_decide_eq_true hfails
    exact happly

end SchemaDoc
