-- SUMMARY: The lexemes of code blocks.
import SchemaDoc.Proofs.Page.Outline
import SchemaDoc.Proofs.Sdl.Reading

/-!
# Lexemes of code blocks

The text of a code block has the lexemes of its parts, wherever lines break and
however they are indented. Defaults are texts of their own, so each of them has to
have its lexemes between the others of the block too.
-/

namespace SchemaDoc

open Sdl

/-! ## Lexemes -/

/-- The lexemes of a reference to a type. -/
def TypeRef.lexemes : TypeRef → List Lexeme
  | .named name nullable => .name name :: (if nullable then [] else [.mark '!'])
  | .list item nullable =>
    .mark '[' :: item.lexemes ++ [.mark ']'] ++ (if nullable then [] else [.mark '!'])

namespace Code

def markLexemes (deprecated : Bool) : List Lexeme :=
  if deprecated then [.mark '@', .name "deprecated"] else []

def defaultLexemes : Option String → List Lexeme
  | some text => .mark '=' :: lexemesOf text
  | none => []

/-- The lexemes of an argument or input field. -/
def Input.lexemes (input : Input) : List Lexeme :=
  .name input.name :: .mark ':' ::
    (input.type.lexemes ++ (defaultLexemes input.default? ++ markLexemes input.deprecated))

def Field.lexemes (field : Field) : List Lexeme :=
  .name field.name :: (bracketed '(' ')' Input.lexemes field.args
    ++ .mark ':' :: (field.type.lexemes ++ markLexemes field.deprecated))

def EnumValue.lexemes (value : EnumValue) : List Lexeme :=
  .name value.name :: markLexemes value.deprecated

def implementsLexemes (interfaces : List String) : List Lexeme :=
  if interfaces.isEmpty then [] else .name "implements" :: interfaces.map .name

/-- A keyword and a name, the interfaces, and the members between braces. -/
def blockLexemes {α : Type} (keyword name : String) (interfaces : List String)
    (lexemes : α → List Lexeme) (members : List α) : List Lexeme :=
  .name keyword :: .name name :: (implementsLexemes interfaces
    ++ bracketed '\x7b' '\x7d' lexemes members)

def lexemes : Code → List Lexeme
  | .enum name values => blockLexemes "enum" name [] EnumValue.lexemes values
  | .input name fields => blockLexemes "input" name [] Input.lexemes fields
  | .interface name interfaces fields => blockLexemes "interface" name interfaces Field.lexemes fields
  | .object name interfaces fields => blockLexemes "type" name interfaces Field.lexemes fields
  | .scalar name => [.name "scalar", .name name]
  | .union name members => .name "union" :: .name name ::
      (if members.isEmpty then [] else .mark '=' :: joined '|' .name members)
  | .directive name args repeatable places => .name "directive" :: .mark '@' :: .name name ::
      (bracketed '(' ')' Input.lexemes args ++ ((if repeatable then [.name "repeatable"] else [])
        ++ .name "on" :: joined '|' .name places))
  | .operation field => field.lexemes

/-- If there is a default, it has the lexemes of its own where it stands. -/
def Input.Spelled (room : Nat) (input : Input) : Prop :=
  ∀ text, input.default? = some text → Writes room text.toList (lexemesOf text)

theorem Input.spelled_of_none {input : Input} (h : input.default? = none) (room : Nat) : input.Spelled room := by
  intro text htext
  rw [h] at htext
  cases htext

end Code

/-! ## Writing -/

namespace Sdl.Writes

variable {room : Nat}

theorem bang (nullable : Bool) :
    Writes room (if nullable then "" else "!").toList (if nullable then [] else [.mark '!']) := by
  cases nullable
  · exact mark rfl rfl nil
  · exact nil

theorem delimited_bang (nullable : Bool) : Delimited (if nullable then "" else "!").toList := by
  cases nullable
  · exact delimited_cons.2 rfl
  · exact delimited_nil

theorem typeRef {type : TypeRef} (h : type.fits room = true) :
    Writes room type.text.toList type.lexemes := by
  induction type generalizing room with
  | named name nullable =>
    rw [TypeRef.text, String.toList_append]
    exact append (Writes.name h) (bang nullable) (delimited_bang nullable)
  | list item nullable ih =>
    cases room with
    | zero => cases h
    | succ inner =>
      have htext : (TypeRef.list item nullable).text.toList =
          ('[' :: item.text.toList ++ [']']) ++ (if nullable then "" else "!").toList := by
        simp only [TypeRef.text, String.toList_append]
        rfl
      rw [htext]
      exact append (bracket rfl rfl (ih h)) (bang nullable) (delimited_bang nullable)

theorem toList_mark_true : (Code.mark true).toList = ' ' :: '@' :: "deprecated".toList := rfl

theorem deprecation (deprecated : Bool) :
    Writes room (Code.mark deprecated).toList (Code.markLexemes deprecated) := by
  cases deprecated
  · exact nil
  · rw [toList_mark_true]
    exact gap (.inl rfl) (mark rfl rfl (Writes.name rfl))

theorem delimited_mark (deprecated : Bool) : Delimited (Code.mark deprecated).toList := by
  cases deprecated
  · exact delimited_nil
  · rw [toList_mark_true]
    exact delimited_cons.2 rfl

/-- A colon, a type and what follows it. -/
theorem typed {type : TypeRef} (h : type.fits room = true) {cs : List Char} {ls : List Lexeme}
    (hcs : Writes room cs ls) (hdelimited : Delimited cs) :
    Writes room (':' :: ' ' :: (type.text.toList ++ cs)) (.mark ':' :: (type.lexemes ++ ls)) :=
  mark rfl rfl (gap (.inl rfl) (append (typeRef h) hcs hdelimited))

/-- A keyword or name with a blank after it. -/
theorem word {word : String} (hword : isName word = true) {cs : List Char} {ls : List Lexeme}
    (h : Writes room cs ls) : Writes room (word.toList ++ ' ' :: cs) (.name word :: ls) :=
  append (Writes.name hword) (gap (.inl rfl) h) (delimited_cons.2 rfl)

theorem blank_of_mem_indent {level : Nat} : ∀ c ∈ (Code.indent level).toList, c = ' ' ∨ c = '\n' ∨ c = ',' := by
  intro c hc
  rw [Code.indent, String.toList_ofList] at hc
  exact .inl (List.eq_of_mem_replicate hc)

theorem indented {cs : List Char} {ls : List Lexeme} (h : Writes room cs ls) (level : Nat) :
    Writes room ((Code.indent level).toList ++ cs) ls :=
  gaps blank_of_mem_indent h

/-! ### Members -/

/-- An equals sign and the default, if there is one. -/
theorem assigned {default? : Option String}
    (h : ∀ text, default? = some text → Writes room text.toList (lexemesOf text)) :
    let text := match default? with
      | some value => " = " ++ value
      | none => ""
    Writes room text.toList (Code.defaultLexemes default?) ∧ Delimited text.toList := by
  cases default? with
  | none => exact ⟨nil, delimited_nil⟩
  | some text =>
    have htext : (" = " ++ text).toList = ' ' :: '=' :: ' ' :: text.toList := String.toList_append
    simp only [htext]
    exact ⟨gap (.inl rfl) (mark rfl rfl (gap (.inl rfl) (h text rfl))), delimited_cons.2 rfl⟩

theorem input {input : Code.Input} (h : input.Fits room) (hdefault : input.Spelled room) :
    Writes room input.text.toList input.lexemes := by
  obtain ⟨hvalue, hdelimited⟩ := assigned hdefault
  have hend := append hvalue (deprecation input.deprecated) (delimited_mark input.deprecated)
  have htext : input.text.toList = input.name.toList ++ ':' :: ' ' :: (input.type.text.toList ++
      ((match input.default? with
        | some value => " = " ++ value
        | none => "").toList ++ (Code.mark input.deprecated).toList)) := by
    simp only [Code.Input.text, String.toList_append, List.append_assoc]
    rfl
  rw [htext]
  exact append (Writes.name h.name) (typed h.type hend (hdelimited.append (delimited_mark _)))
    (delimited_cons.2 rfl)

theorem args {args : List Code.Input} (h : ∀ arg ∈ args, 0 < room ∧ arg.Fits (room - 1))
    (hdefaults : ∀ arg ∈ args, arg.Spelled (room - 1)) (level : Nat) :
    Writes room (Code.argsText args level).toList (bracketed '(' ')' Code.Input.lexemes args) := by
  cases args with
  | nil => exact nil
  | cons arg rest =>
    have hroom := (h arg List.mem_cons_self).1
    obtain ⟨inner, rfl⟩ : ∃ inner, room = inner + 1 := ⟨room - 1, by omega⟩
    have htext : (Code.argsText (arg :: rest) level).toList = '(' ::
        ('\n' :: (['\n'].intercalate ((arg :: rest).map fun arg => (Code.indent level).toList ++ arg.text.toList)
          ++ '\n' :: (Code.indent (level - 1)).toList)) ++ [')'] := by
      simp only [Code.argsText, List.isEmpty_cons, Bool.false_eq_true, if_false, String.toList_append,
        String.toList_intercalate, List.map_map, Function.comp_def]
      simp
    rw [htext]
    exact block rfl rfl (List.cons_ne_nil _ _) blank_of_mem_indent fun arg harg =>
      indented (input (h arg harg).2 (hdefaults arg harg)) level

theorem delimited_args (args : List Code.Input) (level : Nat) :
    Delimited (Code.argsText args level).toList := by
  cases args with
  | nil => exact delimited_nil
  | cons arg rest =>
    simp only [Code.argsText, List.isEmpty_cons, Bool.false_eq_true, if_false, String.toList_append,
      List.append_assoc]
    exact delimited_cons.2 rfl

theorem field {field : Code.Field} (h : field.Fits room) (hdefaults : ∀ arg ∈ field.args, arg.Spelled (room - 1))
    (level : Nat) : Writes room (field.text level).toList field.lexemes := by
  have htext : (field.text level).toList = field.name.toList ++
      ((Code.argsText field.args (level + 1)).toList ++
        ':' :: ' ' :: (field.type.text.toList ++ (Code.mark field.deprecated).toList)) := by
    simp only [Code.Field.text, String.toList_append, List.append_assoc]
    rfl
  have hrest := append (args h.args hdefaults (level + 1)) (typed h.type (deprecation field.deprecated) (delimited_mark _))
    (delimited_cons.2 rfl)
  rw [htext]
  exact append (Writes.name h.name) hrest
    ((delimited_args field.args (level + 1)).append (delimited_cons.2 rfl))

theorem enumValue {value : Code.EnumValue} (h : isName value.name = true) :
    Writes room value.text.toList value.lexemes := by
  rw [Code.EnumValue.text, String.toList_append]
  exact append (Writes.name h) (deprecation _) (delimited_mark _)

/-! ### Definitions -/

theorem implementing {interfaces : List String} (h : ∀ name ∈ interfaces, isName name = true) :
    let text := if interfaces.isEmpty then "" else " implements " ++ String.intercalate ", " interfaces
    Writes room text.toList (Code.implementsLexemes interfaces) ∧ Delimited text.toList := by
  cases interfaces with
  | nil => exact ⟨nil, delimited_nil⟩
  | cons interface rest =>
    have htext : (" implements " ++ String.intercalate ", " (interface :: rest)).toList =
        ' ' :: ("implements".toList ++ ' ' :: [',', ' '].intercalate ((interface :: rest).map String.toList)) := by
      rw [String.toList_append, String.toList_intercalate]
      rfl
    have hblanks : ∀ c ∈ [',', ' '], c = ' ' ∨ c = '\n' ∨ c = ',' := by simp
    have hnames : Writes room ([',', ' '].intercalate ((interface :: rest).map String.toList))
        ((interface :: rest).flatMap fun name => [.name name]) :=
      spaced hblanks (List.cons_ne_nil _ _) fun name hname => Writes.name (h name hname)
    rw [← List.map_eq_flatMap] at hnames
    simp only [List.isEmpty_cons, Bool.false_eq_true, if_false, htext]
    exact ⟨gap (.inl rfl) (word rfl hnames), delimited_cons.2 rfl⟩

/-- Members between braces, one on a line. -/
theorem braces {α : Type} {text : α → String} {lexemes : α → List Lexeme} {members : List α}
    (h : ∀ member ∈ members, 0 < room ∧ Writes (room - 1) (text member).toList (lexemes member)) :
    let lines := (members.map text).map (Code.indent 1 ++ ·)
    let block := if (members.map text).isEmpty then "" else " \x7b\n" ++ String.intercalate "\n" lines ++ "\n\x7d"
    Writes room block.toList (bracketed '\x7b' '\x7d' lexemes members) ∧ Delimited block.toList := by
  cases members with
  | nil => exact ⟨nil, delimited_nil⟩
  | cons member rest =>
    have hroom := (h member List.mem_cons_self).1
    obtain ⟨inner, rfl⟩ : ∃ inner, room = inner + 1 := ⟨room - 1, by omega⟩
    have hblock : Writes (inner + 1) ('\x7b' :: ('\n' :: (['\n'].intercalate
          ((member :: rest).map fun m => (Code.indent 1).toList ++ (text m).toList) ++ '\n' :: [])) ++ ['\x7d'])
        (bracketed '\x7b' '\x7d' lexemes (member :: rest)) :=
      block rfl rfl (List.cons_ne_nil _ _) (by simp) fun m hm => indented (h m hm).2 1
    have htext : (" \x7b\n" ++ String.intercalate "\n" (((member :: rest).map text).map (Code.indent 1 ++ ·))
          ++ "\n\x7d").toList =
        ' ' :: ('\x7b' :: ('\n' :: (['\n'].intercalate
          ((member :: rest).map fun m => (Code.indent 1).toList ++ (text m).toList) ++ '\n' :: [])) ++ ['\x7d']) := by
      simp only [String.toList_append, String.toList_intercalate, List.map_map, Function.comp_def]
      simp
    simp only [List.map_cons, List.isEmpty_cons, Bool.false_eq_true, if_false]
    simp only [List.map_cons] at htext hblock
    rw [htext]
    exact ⟨gap (.inl rfl) hblock, delimited_cons.2 rfl⟩

theorem blockText {α : Type} {keyword name : String} (hkeyword : isName keyword = true)
    (hname : isName name = true) {interfaces : List String}
    (hinterfaces : ∀ interface ∈ interfaces, isName interface = true) {text : α → String}
    {lexemes : α → List Lexeme} {members : List α}
    (h : ∀ member ∈ members, 0 < room ∧ Writes (room - 1) (text member).toList (lexemes member)) :
    Writes room (Code.blockText keyword name interfaces (members.map text)).toList
      (Code.blockLexemes keyword name interfaces lexemes members) := by
  obtain ⟨himplements, hdelimited⟩ := @implementing room _ hinterfaces
  obtain ⟨hbraces, hdelimited'⟩ := braces h
  simp only [Code.blockText, String.toList_append, List.append_assoc]
  have hhead := append (Writes.name hname) (append himplements hbraces hdelimited')
    (hdelimited.append hdelimited')
  exact word hkeyword hhead

/-- Names with bars between them. -/
theorem alternatives {names : List String} (h : ∀ name ∈ names, isName name = true) :
    Writes room (String.intercalate " | " names).toList (Sdl.joined '|' .name names) := by
  rw [String.toList_intercalate]
  exact joined rfl rfl fun name hname => Writes.name (h name hname)

theorem unionMembers {members : List String} (h : ∀ member ∈ members, isName member = true) :
    let text := if members.isEmpty then "" else " = " ++ String.intercalate " | " members
    Writes room text.toList (if members.isEmpty then [] else .mark '=' :: Sdl.joined '|' .name members) ∧
      Delimited text.toList := by
  cases members with
  | nil => exact ⟨nil, delimited_nil⟩
  | cons member rest =>
    have htext : (" = " ++ String.intercalate " | " (member :: rest)).toList =
        ' ' :: '=' :: ' ' :: (String.intercalate " | " (member :: rest)).toList := String.toList_append
    simp only [List.isEmpty_cons, Bool.false_eq_true, if_false, htext]
    exact ⟨gap (.inl rfl) (mark rfl rfl (gap (.inl rfl) (alternatives h))), delimited_cons.2 rfl⟩

theorem isName_of_location {place : String} (h : directiveLocations.contains place = true) :
    isName place = true := by
  have hall : ∀ place ∈ directiveLocations, isName place = true := by decide +kernel
  exact hall place (List.contains_iff_mem.1 h)

/-- Whether a directive is repeatable, and its places. -/
theorem application (repeatable : Bool) {places : List String}
    (h : ∀ place ∈ places, directiveLocations.contains place = true) :
    let text := (if repeatable then " repeatable" else "") ++ (" on " ++ String.intercalate " | " places)
    Writes room text.toList ((if repeatable then [.name "repeatable"] else []) ++
        .name "on" :: Sdl.joined '|' .name places) ∧ Delimited text.toList := by
  have hplaces := @alternatives room _ fun place hplace => isName_of_location (h place hplace)
  have htext : (" on " ++ String.intercalate " | " places).toList =
      ' ' :: ("on".toList ++ ' ' :: (String.intercalate " | " places).toList) := String.toList_append
  have hon : isName "on" = true := rfl
  have hrest := gap (.inl rfl) (word hon hplaces)
  rw [← htext] at hrest
  have hdelimited : Delimited (" on " ++ String.intercalate " | " places).toList := by
    rw [htext]
    exact delimited_cons.2 rfl
  cases repeatable
  · exact ⟨hrest, hdelimited⟩
  · have hword : Writes room " repeatable".toList [.name "repeatable"] :=
      gap (.inl rfl) (Writes.name rfl : Writes room "repeatable".toList _)
    simp only [if_true, String.toList_append] at hrest hdelimited ⊢
    exact ⟨append hword hrest hdelimited, delimited_cons.2 rfl⟩

/-- A code block has its lexemes, if it fits and its defaults have theirs within at most two pairs of brackets. -/
theorem code {code : Code} (h : code.Fits room)
    (hdefaults : ∀ input ∈ code.inputs, ∀ inner, room ≤ inner + 2 → input.Spelled inner) :
    Writes room code.text.toList code.lexemes := by
  have hnone : ∀ interface ∈ ([] : List String), isName interface = true := by simp
  have hfields {fields : List Code.Field} (h : ∀ field ∈ fields, 0 < room ∧ field.Fits (room - 1))
      (hdefaults : ∀ input ∈ fields.flatMap (·.args), ∀ inner, room ≤ inner + 2 → input.Spelled inner) :
      ∀ f ∈ fields, 0 < room ∧ Writes (room - 1) (f.text 1).toList f.lexemes := by
    intro f hf
    have hargs : ∀ arg ∈ f.args, arg.Spelled (room - 1 - 1) := fun arg harg =>
      hdefaults arg (List.mem_flatMap.2 ⟨f, hf, harg⟩) _ (by omega)
    exact ⟨(h f hf).1, field (h f hf).2 hargs 1⟩
  cases code with
  | enum name values =>
    exact blockText rfl h.1 hnone fun value hvalue =>
      ⟨(h.2 value hvalue).1, enumValue (h.2 value hvalue).2⟩
  | input name fields =>
    exact blockText rfl h.1 hnone fun f hf =>
      ⟨(h.2 f hf).1, input (h.2 f hf).2 (hdefaults f hf _ (by omega))⟩
  | interface name interfaces fields => exact blockText rfl h.1 h.2.1 (hfields h.2.2 hdefaults)
  | object name interfaces fields => exact blockText rfl h.1 h.2.1 (hfields h.2.2 hdefaults)
  | scalar name =>
    have htext : (Code.scalar name).text.toList = "scalar".toList ++ ' ' :: name.toList :=
      String.toList_append
    rw [htext]
    exact word rfl (Writes.name h)
  | union name members =>
    obtain ⟨hmembers, hdelimited⟩ := @unionMembers room _ h.2
    have htext : (Code.union name members).text.toList = "union".toList ++ ' ' :: (name.toList ++
        (if members.isEmpty then "" else " = " ++ String.intercalate " | " members).toList) := by
      have hunfold : (Code.union name members).text = "union " ++ name ++ _ := rfl
      simp only [hunfold, String.toList_append, List.append_assoc]
      rfl
    rw [htext]
    exact word rfl (append (Writes.name h.1) hmembers hdelimited)
  | directive name args repeatable places =>
    obtain ⟨hname, hargs, hplaces⟩ := h
    obtain ⟨happlication, hdelimited⟩ := @application room repeatable _ hplaces
    have htext : (Code.directive name args repeatable places).text.toList =
        "directive".toList ++ ' ' :: '@' :: (name.toList ++ ((Code.argsText args 1).toList ++
          ((if repeatable then " repeatable" else "") ++ (" on " ++ String.intercalate " | " places)).toList)) := by
      have hunfold : (Code.directive name args repeatable places).text =
          "directive @" ++ name ++ Code.argsText args 1 ++ (if repeatable then " repeatable" else "") ++
            " on " ++ String.intercalate " | " places := rfl
      simp only [hunfold, String.toList_append, List.append_assoc]
      rfl
    have hspelled : ∀ arg ∈ args, arg.Spelled (room - 1) := fun arg harg => hdefaults arg harg _ (by omega)
    have hrest := append (Writes.args hargs hspelled 1) happlication hdelimited
    have hhead := append (Writes.name hname) hrest ((delimited_args args 1).append hdelimited)
    rw [htext]
    exact word rfl (mark rfl rfl hhead)
  | operation field =>
    exact Writes.field h (fun arg harg => hdefaults arg harg _ (by omega)) 0

end Sdl.Writes

end SchemaDoc
