-- SUMMARY: Members, arguments and types can be read off the lines of a code block.
import Mathlib.Data.List.Perm.Basic
import SchemaDoc.Proofs.Page.CodeLines
import SchemaDoc.Proofs.Page.Exclusion
import SchemaDoc.Proofs.Page.Literals

/-!
# Reading code blocks

Two spaces stand before a member and four before an argument of a field; what has
none belongs to the definition as a whole. A name is what a line starts with, and
the mark of a deprecated item is what it ends with. A field with arguments has its
mark on the line after them, so the lines are read from the last one on.
-/

namespace SchemaDoc

/-! ## Members that are mentioned -/

/-- The name of a member or an argument, and whether it is marked as deprecated. -/
structure Mention where
  name : String
  deprecated : Bool
  deriving DecidableEq, Repr

/-- A member that is shown with its arguments. -/
structure MemberMention where
  own : Mention
  args : List Mention
  deriving DecidableEq, Repr

/-- A member without arguments. -/
def Mention.member (mention : Mention) : MemberMention := ⟨mention, []⟩

/--
What is known of members when a text is read from the end: whether the next one
is deprecated, its arguments, and the members after it.
-/
structure MemberReading where
  deprecated : Bool
  args : List Mention
  members : List MemberMention
  deriving DecidableEq, Repr

namespace Code

/-- The name that some characters start with. -/
def leadingName (cs : List Char) : String :=
  String.ofList (cs.takeWhile Sdl.isNameChar)

/-- Whether a line ends with the mark of deprecated items. -/
def isMarked (line : List Char) : Bool :=
  " @deprecated".toList.isSuffixOf line

/-- Reads a line, given what follows it. -/
def readLine (line : List Char) (r : MemberReading) : MemberReading :=
  let spaces := (line.takeWhile (· == ' ')).length
  let rest := line.dropWhile (· == ' ')
  if spaces = 4 then { r with args := ⟨leadingName rest, isMarked line⟩ :: r.args }
  else if spaces = 2 then
    if rest.head? = some ')' then ⟨isMarked line, [], r.members⟩
    else if rest.dropWhile Sdl.isNameChar = ['('] then
      ⟨false, [], ⟨⟨leadingName rest, r.deprecated⟩, r.args⟩ :: r.members⟩
    else ⟨false, [], ⟨⟨leadingName rest, isMarked line⟩, []⟩ :: r.members⟩
  else r

/-- The name of the type behind a colon, in whatever lists it stands. -/
def typeAfter? (cs : List Char) : Option String :=
  if ": ".toList.isPrefixOf cs then some (leadingName ((cs.drop 2).dropWhile (· == '['))) else none

/-- The type on a line that starts with a name or with a closing bracket. -/
def readType? (line : List Char) : Option String :=
  let rest := line.dropWhile (· == ' ')
  typeAfter? (if rest.head? = some ')' then rest.tail else rest.dropWhile Sdl.isNameChar)

/-- The names of the types in a code block, read off its text. -/
def readTypes (text : String) : List String :=
  (text.toList.splitOn '\n').filterMap readType?

/-! ### What there is to be read -/

def Input.mention (input : Input) : Mention := ⟨input.name, input.deprecated⟩

def Field.mention (field : Field) : MemberMention :=
  ⟨⟨field.name, field.deprecated⟩, field.args.map Input.mention⟩

def EnumValue.mention (value : EnumValue) : Mention := ⟨value.name, value.deprecated⟩

/-- The members of a code block. -/
def mentions : Code → List MemberMention
  | .enum _ values => (values.map EnumValue.mention).map Mention.member
  | .input _ fields => (fields.map Input.mention).map Mention.member
  | .interface _ _ fields => fields.map Field.mention
  | .object _ _ fields => fields.map Field.mention
  | .directive _ args _ _ => (args.map Input.mention).map Mention.member
  | .operation field => (field.args.map Input.mention).map Mention.member
  | .scalar _ | .union _ _ => []

/-! ## Names and marks -/

theorem isNameChar_of_name {name : String} (h : Sdl.isName name = true) :
    ∀ c ∈ name.toList, Sdl.isNameChar c = true := by
  obtain ⟨c, cs, htext, hc, hcs⟩ := Sdl.isName_iff.1 h
  have hstart : Sdl.isNameChar c = true := by
    simp only [Sdl.isNameStart, Sdl.isNameChar, Char.isAlphanum, Bool.or_eq_true] at hc ⊢
    exact hc.imp_left .inl
  rw [htext]
  exact List.forall_mem_cons.2 ⟨hstart, hcs⟩

/-- Text after a name which does not go on with it. -/
def Stops (cs : List Char) : Prop :=
  ∀ c ∈ cs.head?, Sdl.isNameChar c = false

theorem leadingName_append {name : String} (h : Sdl.isName name = true) {rest : List Char} (hrest : Stops rest) :
    leadingName (name.toList ++ rest) = name := by
  rw [leadingName, Sdl.takeWhile_append_of_stop (isNameChar_of_name h) hrest, String.ofList_toList]

theorem dropWhile_append {name : String} (h : Sdl.isName name = true) {rest : List Char} (hrest : Stops rest) :
    (name.toList ++ rest).dropWhile Sdl.isNameChar = rest := by
  rw [List.dropWhile_append_of_pos (isNameChar_of_name h)]
  cases rest with
  | nil => rfl
  | cons c cs => exact List.dropWhile_cons_of_neg (by simp [hrest c rfl])

/-- Without the character of the mark, or with another end, a text is not taken for one that is marked. -/
def MarkFree (s : String) : Prop :=
  '@' ∉ s.toList ∨ ∃ c ≠ 'd', s.toList.getLast? = some c

theorem MarkFree.append {first s : String} (hfirst : '@' ∉ first.toList) (h : MarkFree s) :
    MarkFree (first ++ s) := by
  rcases h with hnone | ⟨c, hc, hlast⟩
  · refine .inl ?_
    rw [String.toList_append, List.mem_append]
    exact not_or.2 ⟨hfirst, hnone⟩
  · exact .inr ⟨c, hc, by rw [String.toList_append, List.getLast?_append, hlast]; rfl⟩

theorem MarkFree.isMarked_eq {line : String} (h : MarkFree line) : isMarked line.toList = false := by
  rw [isMarked, ← Bool.not_eq_true, List.isSuffixOf_iff_suffix]
  rintro ⟨before, hline⟩
  rcases h with hnone | ⟨c, hc, hlast⟩
  · rw [← hline] at hnone
    simp at hnone
  · rw [← hline, List.getLast?_append] at hlast
    exact hc (Option.some.inj hlast).symm

theorem MarkFree.isMarked_append {line : String} (h : MarkFree line) (deprecated : Bool) :
    isMarked (line ++ mark deprecated).toList = deprecated := by
  cases deprecated with
  | false => simpa [mark] using h.isMarked_eq
  | true =>
    rw [isMarked, List.isSuffixOf_iff_suffix, String.toList_append]
    exact List.suffix_append _ _

theorem notMem_name {c : Char} (hc : Sdl.isNameChar c = false) {name : String} (h : Sdl.isName name = true) :
    c ∉ name.toList := by
  intro hmem
  rw [isNameChar_of_name h c hmem] at hc
  cases hc

end Code

theorem TypeRef.notMem_text {type : TypeRef} {room : Nat} (h : type.fits room = true) : '@' ∉ type.text.toList := by
  have hbang (nullable : Bool) : '@' ∉ (if nullable then "" else "!").toList := by cases nullable <;> decide
  induction type generalizing room with
  | named name nullable =>
    rw [text, String.toList_append, List.mem_append]
    exact not_or.2 ⟨Code.notMem_name rfl h, hbang nullable⟩
  | list item nullable ih =>
    cases room with
    | zero => cases h
    | succ inner =>
      have hitem : '@' ∉ item.text.toList := ih h
      have hbrackets : '@' ∉ "[".toList ∧ '@' ∉ "]".toList := by decide
      simp only [text, String.toList_append, List.mem_append, not_or]
      exact ⟨⟨⟨hbrackets.1, hitem⟩, hbrackets.2⟩, hbang nullable⟩

/-- The name of a type can be read behind the brackets that open lists. -/
theorem TypeRef.leadingName_text {type : TypeRef} {room : Nat} (h : type.fits room = true) {rest : List Char}
    (hrest : Code.Stops rest) :
    Code.leadingName ((type.text.toList ++ rest).dropWhile (· == '[')) = type.name := by
  induction type generalizing room rest with
  | named name nullable =>
    have hbang : Code.Stops ((if nullable then "" else "!").toList ++ rest) := by
      cases nullable with
      | false => exact fun c hc => by cases hc; rfl
      | true => exact hrest
    obtain ⟨c, cs, hname, hc, -⟩ := Sdl.isName_iff.1 h
    have hbracket : (c == '[') = false := by
      rw [beq_eq_false_iff_ne]
      rintro rfl
      cases hc
    have hread := Code.leadingName_append h hbang
    rw [hname, List.cons_append] at hread
    rw [text, String.toList_append, List.append_assoc, hname, List.cons_append,
      List.dropWhile_cons_of_neg (by simp [hbracket])]
    exact hread
  | list item nullable ih =>
    cases room with
    | zero => cases h
    | succ inner =>
      have hclosing : Code.Stops ("]".toList ++ ((if nullable then "" else "!").toList ++ rest)) :=
        fun c hc => by cases hc; rfl
      have hopening : "[".toList = ['['] := rfl
      rw [text, String.toList_append, String.toList_append, String.toList_append, hopening]
      simp only [List.append_assoc, List.cons_append, List.nil_append]
      exact ih h hclosing

/-! ## Defaults -/

namespace Value

end Value

namespace Code

/-! ## Lines -/

/-- What is shown of a default is not taken for one that is marked. -/
def Input.MarkFree (input : Input) : Prop :=
  ∀ text, input.default? = some text → Code.MarkFree text

/-- A line starts with the spaces before what it says. -/
theorem span_indent {s : String} (h : opens s = true) (level : Nat) :
    (indent level ++ s).toList.takeWhile (· == ' ') = (indent level).toList ∧
      (indent level ++ s).toList.dropWhile (· == ' ') = s.toList := by
  have hspaces : ∀ c ∈ (indent level).toList, (c == ' ') = true := by
    intro c hc
    rw [indent, String.toList_ofList] at hc
    rw [List.eq_of_mem_replicate hc]
    rfl
  obtain ⟨c, cs, hs, hc, -⟩ := exists_of_opens h
  have hstop : (c == ' ') = false := by simpa using hc
  rw [String.toList_append, hs, List.takeWhile_append_of_pos hspaces, List.dropWhile_append_of_pos hspaces,
    List.takeWhile_cons_of_neg (by simp [hstop]), List.dropWhile_cons_of_neg (by simp [hstop]), List.append_nil]
  exact ⟨rfl, rfl⟩

theorem length_indent (level : Nat) : (indent level).toList.length = 2 * level := by
  rw [indent, String.toList_ofList, List.length_replicate]

/-- What is not indented says nothing of members. -/
theorem readLine_of_opens {s : String} (h : opens s = true) (r : MemberReading) : readLine s.toList r = r := by
  have hspan := span_indent h 0
  rw [indent_zero, String.empty_append] at hspan
  simp [readLine, hspan.1]

section NameLine

variable {name rest : String} (hname : Sdl.isName name = true) (hrest : Stops rest.toList)

include hname hrest

/-- With four spaces before it, a name is that of an argument. -/
theorem readLine_argument (r : MemberReading) :
    readLine (indent 2 ++ (name ++ rest)).toList r =
      { r with args := ⟨name, isMarked (indent 2 ++ (name ++ rest)).toList⟩ :: r.args } := by
  have hspan := span_indent (opens_append (opens_name hname) rest) 2
  rw [readLine, hspan.1, hspan.2, length_indent, if_pos rfl, String.toList_append, leadingName_append hname hrest]

theorem readLine_indent_one (r : MemberReading) :
    readLine (indent 1 ++ (name ++ rest)).toList r =
      if rest = "(" then ⟨false, [], ⟨⟨name, r.deprecated⟩, r.args⟩ :: r.members⟩
      else ⟨false, [], ⟨⟨name, isMarked (indent 1 ++ (name ++ rest)).toList⟩, []⟩ :: r.members⟩ := by
  have hspan := span_indent (opens_append (opens_name hname) rest) 1
  have hbracket : (name ++ rest).toList.head? ≠ some ')' := by
    obtain ⟨c, cs, htext, hc, -⟩ := Sdl.isName_iff.1 hname
    rw [String.toList_append, htext]
    rintro ⟨⟩
    cases hc
  rw [readLine, hspan.1, hspan.2, length_indent, if_neg (by decide), if_pos rfl, if_neg hbracket,
    String.toList_append, leadingName_append hname hrest, dropWhile_append hname hrest]
  have hopening : rest.toList = ['('] ↔ rest = "(" :=
    ⟨fun h => String.toList_injective h, fun h => congrArg String.toList h⟩
  simp only [hopening]

/-- With two spaces before it, a name is that of a member. -/
theorem readLine_member (hopening : rest ≠ "(") (r : MemberReading) :
    readLine (indent 1 ++ (name ++ rest)).toList r =
      ⟨false, [], Mention.member ⟨name, isMarked (indent 1 ++ (name ++ rest)).toList⟩ :: r.members⟩ := by
  rw [readLine_indent_one hname hrest, if_neg hopening]
  rfl

end NameLine

/-- A bracket after the name opens the arguments, which have been read by then. -/
theorem readLine_opening {name : String} (hname : Sdl.isName name = true) (r : MemberReading) :
    readLine (indent 1 ++ (name ++ "(")).toList r = ⟨false, [], ⟨⟨name, r.deprecated⟩, r.args⟩ :: r.members⟩ := by
  have hstops : Stops "(".toList := fun c hc => by cases hc; rfl
  rw [readLine_indent_one hname hstops, if_pos rfl]

/-- The closing bracket starts the line with the mark of the field. -/
theorem readLine_closing (rest : String) (r : MemberReading) :
    readLine (indent 1 ++ (")" ++ rest)).toList r =
      ⟨isMarked (indent 1 ++ (")" ++ rest)).toList, [], r.members⟩ := by
  have hspan := span_indent (opens_append (by decide : opens ")" = true) rest) 1
  have hbracket : (")" ++ rest).toList.head? = some ')' := by
    rw [String.toList_append]
    rfl
  rw [readLine, hspan.1, hspan.2, length_indent, if_neg (by decide), if_pos rfl, if_pos hbracket]

/-! ## Members -/

theorem stops_mark (deprecated : Bool) : Stops (mark deprecated).toList := by
  cases deprecated with
  | false => exact fun c hc => nomatch hc
  | true => exact fun c hc => by cases hc; rfl

theorem notMem_indent (level : Nat) : '@' ∉ (indent level).toList := by
  rw [indent, String.toList_ofList]
  exact fun h => absurd (List.eq_of_mem_replicate h) (by decide)

theorem isMarked_value {name : String} (hname : Sdl.isName name = true) (level : Nat) (deprecated : Bool) :
    isMarked (indent level ++ (name ++ mark deprecated)).toList = deprecated := by
  rw [← String.append_assoc]
  exact (MarkFree.append (notMem_indent level) (.inl (notMem_name rfl hname))).isMarked_append deprecated

/-- What is shown of an argument behind its name and its type. -/
def Input.tail (input : Input) : String :=
  ": " ++ input.type.text ++ (input.default?.map (" = " ++ ·)).getD ""

theorem Input.text_eq (input : Input) : input.text = input.name ++ (input.tail ++ mark input.deprecated) := by
  rw [text, tail]
  cases input.default? <;> simp only [Option.map_none, Option.map_some, Option.getD_none, Option.getD_some,
    String.append_assoc]

theorem Input.markFree_tail {input : Input} {room : Nat} (h : input.Fits room) (hdefault : input.MarkFree) :
    Code.MarkFree input.tail := by
  have htype : '@' ∉ (": " ++ input.type.text).toList := by
    have hcolon : '@' ∉ ": ".toList := by decide
    rw [String.toList_append, List.mem_append]
    exact not_or.2 ⟨hcolon, TypeRef.notMem_text h.type⟩
  refine .append htype ?_
  cases hvalue : input.default? with
  | none => exact .inl (by decide)
  | some value =>
    have hequals : '@' ∉ " = ".toList := by decide
    exact .append hequals (hdefault value hvalue)

theorem Input.isMarked_text {input : Input} {room : Nat} (h : input.Fits room) (hdefault : input.MarkFree)
    (level : Nat) : isMarked (indent level ++ input.text).toList = input.deprecated := by
  have hbefore : Code.MarkFree (indent level ++ (input.name ++ input.tail)) :=
    .append (notMem_indent level) (.append (notMem_name rfl h.name) (input.markFree_tail h hdefault))
  have hline : indent level ++ input.text = indent level ++ (input.name ++ input.tail) ++ mark input.deprecated := by
    rw [text_eq]
    simp only [String.append_assoc]
  rw [hline]
  exact hbefore.isMarked_append input.deprecated

theorem Input.stops_tail (input : Input) (rest : String) : Stops (input.tail ++ rest).toList := by
  simp only [tail, String.toList_append]
  exact fun c hc => by cases hc; rfl

theorem Input.readLine_argument {input : Input} {room : Nat} (h : input.Fits room) (hdefault : input.MarkFree)
    (r : MemberReading) :
    readLine (indent 2 ++ input.text).toList r = { r with args := input.mention :: r.args } := by
  have hmark := input.isMarked_text h hdefault 2
  rw [text_eq] at hmark ⊢
  rw [Code.readLine_argument h.name (input.stops_tail _), hmark]
  rfl

theorem Input.readLine_member {input : Input} {room : Nat} (h : input.Fits room) (hdefault : input.MarkFree)
    (r : MemberReading) :
    readLine (indent 1 ++ input.text).toList r = ⟨false, [], input.mention.member :: r.members⟩ := by
  have hmark := input.isMarked_text h hdefault 1
  have hopening : input.tail ++ mark input.deprecated ≠ "(" := by
    intro heq
    have hhead := congrArg (·.toList.head?) heq
    simp only [tail, String.toList_append] at hhead
    cases hhead
  rw [text_eq] at hmark ⊢
  rw [Code.readLine_member h.name (input.stops_tail _) hopening, hmark]
  rfl

theorem EnumValue.readLine_member {value : EnumValue} (h : Sdl.isName value.name = true) (r : MemberReading) :
    readLine (indent 1 ++ value.text).toList r = ⟨false, [], value.mention.member :: r.members⟩ := by
  have hopening : mark value.deprecated ≠ "(" := by cases value.deprecated <;> decide
  rw [text, Code.readLine_member h (stops_mark _) hopening, isMarked_value h]
  rfl

theorem foldr_arguments {args : List Input} {room : Nat} (h : ∀ arg ∈ args, arg.Fits room ∧ arg.MarkFree)
    (r : MemberReading) :
    (args.map fun arg => (indent 2 ++ arg.text).toList).foldr readLine r =
      { r with args := args.map Input.mention ++ r.args } := by
  induction args with
  | nil => rfl
  | cons arg args ih =>
    rw [List.forall_mem_cons] at h
    rw [List.map_cons, List.foldr_cons, ih h.2, arg.readLine_argument h.1.1 h.1.2]
    rfl

/-- What is on one line each is read as members without arguments. -/
theorem foldr_members {α : Type} {line : α → String} {mention : α → Mention} {items : List α}
    (h : ∀ item ∈ items, ∀ r, readLine (line item).toList r = ⟨false, [], (mention item).member :: r.members⟩)
    (r : MemberReading) :
    ((items.map fun item => (line item).toList).foldr readLine r).members =
      (items.map mention).map Mention.member ++ r.members := by
  induction items with
  | nil => rfl
  | cons item items ih =>
    rw [List.forall_mem_cons] at h
    rw [List.map_cons, List.foldr_cons, h.1, ih h.2]
    rfl

/-- What is shown of a field behind its arguments. -/
def Field.tail (field : Field) : String :=
  ": " ++ field.type.text ++ mark field.deprecated

theorem Field.isMarked_tail {field : Field} {room : Nat} (h : field.Fits room) {before : String}
    (hbefore : '@' ∉ before.toList) : isMarked (before ++ field.tail).toList = field.deprecated := by
  have hcolon : '@' ∉ ": ".toList := by decide
  have hline : MarkFree (before ++ (": " ++ field.type.text)) :=
    .append hbefore (.append hcolon (.inl (TypeRef.notMem_text h.type)))
  have hassoc : before ++ field.tail = before ++ (": " ++ field.type.text) ++ mark field.deprecated := by
    simp only [tail, String.append_assoc]
  rw [hassoc]
  exact hline.isMarked_append field.deprecated

theorem Field.stops_tail (field : Field) : Stops field.tail.toList := by
  simp only [tail, String.toList_append]
  exact fun c hc => by cases hc; rfl

/-- A field is on one line, or has lines between that with its name and that with its type. -/
theorem Field.lines_eq (field : Field) (level : Nat) :
    field.lines level =
      if field.args = [] then [indent level ++ (field.name ++ field.tail)]
      else (indent level ++ (field.name ++ "("))
        :: ((field.args.map fun arg => indent (level + 1) ++ arg.text) ++ [indent level ++ (")" ++ field.tail)]) := by
  rw [lines, enclosed, List.isEmpty_map]
  cases field.args <;> simp [String.append_assoc, tail]

/-- The lines of a field are read as one member, whatever has been read after them. -/
theorem Field.foldr_lines {field : Field} {room : Nat} (h : field.Fits room)
    (hdefaults : ∀ arg ∈ field.args, arg.MarkFree) (r : MemberReading) :
    ((field.lines 1).map String.toList).foldr readLine r = ⟨false, [], field.mention :: r.members⟩ := by
  rw [lines_eq]
  split
  · next hargs =>
    have hopening : field.tail ≠ "(" := by
      intro heq
      have hhead := congrArg (·.toList.head?) heq
      simp only [tail, String.toList_append] at hhead
      cases hhead
    have hbefore : '@' ∉ (indent 1 ++ field.name).toList := by
      rw [String.toList_append, List.mem_append]
      exact not_or.2 ⟨notMem_indent 1, notMem_name rfl h.name⟩
    have hmark := isMarked_tail h hbefore
    rw [String.append_assoc] at hmark
    rw [List.map_singleton, List.foldr_cons, List.foldr_nil, readLine_member h.name field.stops_tail hopening, hmark,
      mention, hargs]
    rfl
  · have hbefore : '@' ∉ (indent 1 ++ ")").toList := by
      rw [String.toList_append, List.mem_append]
      exact not_or.2 ⟨notMem_indent 1, by decide⟩
    have hmark := isMarked_tail h hbefore
    rw [String.append_assoc] at hmark
    have hargs : ∀ arg ∈ field.args, arg.Fits (room - 1) ∧ arg.MarkFree :=
      fun arg harg => ⟨(h.args arg harg).2, hdefaults arg harg⟩
    rw [List.map_cons, List.foldr_cons, List.map_append, List.foldr_append, List.map_singleton, List.foldr_cons,
      List.foldr_nil, readLine_closing, hmark, List.map_map]
    refine (congrArg _ (foldr_arguments hargs _)).trans ?_
    rw [readLine_opening h.name, List.append_nil]
    rfl

theorem foldr_fields {fields : List Field} {room : Nat}
    (h : ∀ field ∈ fields, field.Fits room ∧ ∀ arg ∈ field.args, arg.MarkFree) (r : MemberReading) :
    (((fields.flatMap (·.lines 1)).map String.toList).foldr readLine r).members =
      fields.map Field.mention ++ r.members := by
  induction fields with
  | nil => rfl
  | cons field fields ih =>
    rw [List.forall_mem_cons] at h
    rw [List.flatMap_cons, List.map_append, List.foldr_append, Field.foldr_lines h.1.1 h.1.2, List.map_cons, ih h.2]
    rfl

/-- What is not indented around members is not read. -/
theorem foldr_enclosed {opening closing first last : String} {items : List String} (hfirst : opens first = true)
    (hclosing : opens closing = true) :
    ((enclosed opening closing first last items).map String.toList).foldr readLine ⟨false, [], []⟩ =
      (items.map String.toList).foldr readLine ⟨false, [], []⟩ := by
  unfold enclosed
  split
  · next hitems =>
    rw [List.isEmpty_iff.1 hitems]
    exact readLine_of_opens (opens_append hfirst last) _
  · rw [List.map_append, List.foldr_append, List.map_singleton, List.foldr_cons, List.foldr_nil,
      readLine_of_opens (opens_append hclosing last)]
    exact readLine_of_opens (opens_append hfirst opening) _

theorem opens_heading {keyword name : String} (h : opens keyword = true) (interfaces : List String) :
    opens (heading keyword name interfaces) = true := by
  simp only [heading, String.append_assoc]
  exact opens_append h _

/-- The lines of a code block say what its members are. -/
theorem foldr_lines {code : Code} {room : Nat} (h : code.Fits room)
    (hdefaults : ∀ input ∈ code.inputs, input.MarkFree) :
    ((code.lines.map String.toList).foldr readLine ⟨false, [], []⟩).members = code.mentions := by
  have hfields {fields : List Field} (h : ∀ field ∈ fields, 0 < room ∧ field.Fits (room - 1))
      (hdefaults : ∀ input ∈ fields.flatMap (·.args), input.MarkFree) :
      ∀ field ∈ fields, field.Fits (room - 1) ∧ ∀ arg ∈ field.args, arg.MarkFree :=
    fun field hfield => ⟨(h field hfield).2, fun arg harg => hdefaults arg (List.mem_flatMap.2 ⟨field, hfield, harg⟩)⟩
  have hinputs {inputs : List Input} (h : ∀ input ∈ inputs, 0 < room ∧ input.Fits (room - 1))
      (hdefaults : ∀ input ∈ inputs, input.MarkFree) :
      (((inputs.map fun input => indent 1 ++ input.text).map String.toList).foldr readLine ⟨false, [], []⟩).members =
        (inputs.map Input.mention).map Mention.member := by
    rw [List.map_map]
    refine (foldr_members (fun input hinput => ?_) _).trans (List.append_nil _)
    exact input.readLine_member (h input hinput).2 (hdefaults input hinput)
  cases code with
  | enum name values =>
    rw [lines, foldr_enclosed (opens_heading (by decide) []) (by decide), List.map_map]
    refine (foldr_members (fun value hvalue => ?_) _).trans (List.append_nil _)
    exact value.readLine_member (h.2 value hvalue).2
  | input name fields =>
    rw [lines, foldr_enclosed (opens_heading (by decide) []) (by decide)]
    exact hinputs h.2 hdefaults
  | interface name interfaces fields =>
    rw [lines, foldr_enclosed (opens_heading (by decide) interfaces) (by decide),
      foldr_fields (hfields h.2.2 hdefaults)]
    exact List.append_nil _
  | object name interfaces fields =>
    rw [lines, foldr_enclosed (opens_heading (by decide) interfaces) (by decide),
      foldr_fields (hfields h.2.2 hdefaults)]
    exact List.append_nil _
  | scalar name =>
    rw [lines, List.map_singleton, List.foldr_cons, List.foldr_nil,
      readLine_of_opens (opens_append (by decide : opens "scalar " = true) name)]
    rfl
  | union name members =>
    have hopens : opens ("union " ++ name) = true := opens_append (by decide) name
    rw [lines, List.map_singleton, List.foldr_cons, List.foldr_nil, readLine_of_opens (opens_append hopens _)]
    rfl
  | directive name args repeatable places =>
    rw [lines, foldr_enclosed (opens_append (by decide) name) (by decide)]
    exact hinputs h.2.1 hdefaults
  | operation field =>
    have hname : opens (indent 0 ++ field.name) = true := opens_name h.name
    rw [lines, Field.lines, foldr_enclosed hname (by decide)]
    exact hinputs h.args hdefaults

/-! ## Types -/

theorem typeAfter?_of_head {cs : List Char} (h : cs.head? ≠ some ':') : typeAfter? cs = none := by
  have hcolon : ": ".toList = [':', ' '] := rfl
  cases cs with
  | nil => rfl
  | cons c cs =>
    have hne : (':' == c) = false := by
      rw [beq_eq_false_iff_ne]
      rintro rfl
      exact h rfl
    simp [typeAfter?, hcolon, List.isPrefixOf, hne]

theorem typeAfter?_text {type : TypeRef} {room : Nat} (h : type.fits room = true) {more : String}
    (hmore : Stops more.toList) : typeAfter? (": " ++ type.text ++ more).toList = some type.name := by
  have hcolon : (": " ++ type.text ++ more).toList = ':' :: ' ' :: (type.text.toList ++ more.toList) := by
    rw [String.toList_append, String.toList_append]
    rfl
  have hstarts (cs : List Char) : ": ".toList.isPrefixOf (':' :: ' ' :: cs) = true := rfl
  rw [typeAfter?, hcolon, if_pos (hstarts _), List.drop_succ_cons, List.drop_succ_cons, List.drop_zero,
    TypeRef.leadingName_text h hmore]

theorem readType?_name {name rest : String} (hname : Sdl.isName name = true) (hrest : Stops rest.toList)
    (level : Nat) : readType? (indent level ++ (name ++ rest)).toList = typeAfter? rest.toList := by
  obtain ⟨c, cs, htext, hc, -⟩ := Sdl.isName_iff.1 hname
  have hbracket : (name ++ rest).toList.head? ≠ some ')' := by
    rw [String.toList_append, htext]
    rintro ⟨⟩
    cases hc
  rw [readType?, (span_indent (opens_append (opens_name hname) rest) level).2, if_neg hbracket, String.toList_append,
    dropWhile_append hname hrest]

theorem readType?_closing (rest : String) (level : Nat) :
    readType? (indent level ++ (")" ++ rest)).toList = typeAfter? rest.toList := by
  have hbracket : (")" ++ rest).toList = ')' :: rest.toList := by
    rw [String.toList_append]
    rfl
  rw [readType?, (span_indent (opens_append (by decide : opens ")" = true) rest) level).2, hbracket, List.head?_cons,
    if_pos rfl, List.tail_cons]

/-- A word at the start of a definition is followed by a space. -/
theorem readType?_word {word : String} (hword : Sdl.isName word = true) (rest : String) :
    readType? (word ++ " " ++ rest).toList = none := by
  have hspace : Stops (" " ++ rest).toList := by
    rw [String.toList_append]
    exact fun c hc => by cases hc; rfl
  have htype := readType?_name hword hspace 0
  rw [indent_zero, String.empty_append] at htype
  rw [String.append_assoc, htype]
  refine typeAfter?_of_head ?_
  rw [String.toList_append]
  nofun

theorem stops_default (input : Input) :
    Stops ((input.default?.map (" = " ++ ·)).getD "" ++ mark input.deprecated).toList := by
  cases input.default? with
  | none => simpa using stops_mark input.deprecated
  | some value =>
    simp only [Option.map_some, Option.getD_some, String.toList_append]
    exact fun c hc => by cases hc; rfl

theorem Input.readType?_text {input : Input} {room : Nat} (h : input.Fits room) (level : Nat) :
    readType? (indent level ++ input.text).toList = some input.type.name := by
  rw [text_eq, readType?_name h.name (input.stops_tail _), tail, String.append_assoc]
  exact typeAfter?_text h.type (stops_default input)

theorem EnumValue.readType?_text {value : EnumValue} (h : Sdl.isName value.name = true) (level : Nat) :
    readType? (indent level ++ value.text).toList = none := by
  rw [text, readType?_name h (stops_mark _)]
  refine typeAfter?_of_head ?_
  cases value.deprecated <;> decide

theorem filterMap_inputs {inputs : List Input} {room : Nat} (h : ∀ input ∈ inputs, input.Fits room) (level : Nat) :
    ((inputs.map fun input => indent level ++ input.text).map String.toList).filterMap readType? =
      inputs.map (·.type.name) := by
  rw [List.map_map, List.filterMap_map, ← List.filterMap_eq_map]
  exact List.filterMap_congr fun input hinput => input.readType?_text (h input hinput) level

theorem Field.filterMap_lines {field : Field} {room : Nat} (h : field.Fits room) (level : Nat) :
    (((field.lines level).map String.toList).filterMap readType?).Perm field.typeNames := by
  have htail : typeAfter? field.tail.toList = some field.type.name := typeAfter?_text h.type (stops_mark _)
  have hopening : typeAfter? "(".toList = none := rfl
  have hbracket : Stops "(".toList := fun c hc => by cases hc; rfl
  rw [lines_eq, typeNames]
  split
  · next hargs =>
    rw [List.map_singleton, List.filterMap_cons_some ((readType?_name h.name field.stops_tail level).trans htail),
      List.filterMap_nil, hargs]
    exact .refl _
  · rw [List.map_cons, List.filterMap_cons_none ((readType?_name h.name hbracket level).trans hopening),
      List.map_append, List.filterMap_append, filterMap_inputs fun arg harg => (h.args arg harg).2, List.map_singleton,
      List.filterMap_cons_some ((readType?_closing field.tail level).trans htail), List.filterMap_nil]
    exact List.perm_append_singleton _ _

theorem filterMap_enclosed {opening closing first last : String} {items : List String}
    (hfirst : ∀ rest, readType? (first ++ rest).toList = none) (hclosing : readType? (closing ++ last).toList = none) :
    ((enclosed opening closing first last items).map String.toList).filterMap readType? =
      (items.map String.toList).filterMap readType? := by
  unfold enclosed
  split
  · next hitems =>
    rw [List.isEmpty_iff.1 hitems, List.map_singleton, List.filterMap_cons_none (hfirst last)]
    rfl
  · rw [List.cons_append, List.map_cons, List.filterMap_cons_none (hfirst opening), List.map_append,
      List.filterMap_append, List.map_singleton, List.filterMap_cons_none hclosing, List.filterMap_nil, List.append_nil]

/-- The types of a code block stand on its lines, but for the members of a union. -/
theorem filterMap_lines {code : Code} {room : Nat} (h : code.Fits room) (hunion : code.kind? ≠ some .union) :
    ((code.lines.map String.toList).filterMap readType?).Perm code.typeNames := by
  have hheading {keyword : String} (hkeyword : Sdl.isName keyword = true) (name : String) (interfaces : List String)
      (rest : String) : readType? (heading keyword name interfaces ++ rest).toList = none := by
    simp only [heading, String.append_assoc]
    rw [← String.append_assoc]
    exact readType?_word hkeyword _
  have hbrace : readType? ("\x7d" ++ "").toList = none := rfl
  have hfields {fields : List Field} (h : ∀ field ∈ fields, 0 < room ∧ field.Fits (room - 1)) :
      (((fields.flatMap (·.lines 1)).map String.toList).filterMap readType?).Perm
        (fields.flatMap Field.typeNames) := by
    rw [List.map_flatMap, List.filterMap_flatMap]
    exact List.Perm.flatMap_left _ fun field hfield => field.filterMap_lines (h field hfield).2 1
  cases code with
  | enum name values =>
    rw [lines, filterMap_enclosed (hheading rfl name []) hbrace, List.map_map, List.filterMap_map]
    refine .of_eq (List.filterMap_eq_nil_iff.2 fun value hvalue => ?_)
    exact value.readType?_text (h.2 value hvalue).2 1
  | input name fields =>
    rw [lines, filterMap_enclosed (hheading rfl name []) hbrace]
    exact .of_eq (filterMap_inputs (fun field hfield => (h.2 field hfield).2) 1)
  | interface name interfaces fields =>
    rw [lines, filterMap_enclosed (hheading rfl name interfaces) hbrace]
    exact hfields h.2.2
  | object name interfaces fields =>
    rw [lines, filterMap_enclosed (hheading rfl name interfaces) hbrace]
    exact hfields h.2.2
  | scalar name =>
    have hnone : readType? ("scalar " ++ name).toList = none := readType?_word (rfl : Sdl.isName "scalar" = true) name
    rw [lines, List.map_singleton, List.filterMap_cons_none hnone]
    exact .nil
  | union name members => exact absurd rfl hunion
  | directive name args repeatable places =>
    have hfirst (rest : String) : readType? ("directive @" ++ name ++ rest).toList = none := by
      have hword := readType?_word (rfl : Sdl.isName "directive" = true) ("@" ++ name ++ rest)
      rwa [← String.append_assoc, ← String.append_assoc] at hword
    have hlast : readType? (")" ++ ((if repeatable then " repeatable" else "") ++ " on "
        ++ String.intercalate " | " places)).toList = none := by
      have hclosing := readType?_closing ((if repeatable then " repeatable" else "") ++ " on "
        ++ String.intercalate " | " places) 0
      rw [indent_zero, String.empty_append] at hclosing
      refine hclosing.trans (typeAfter?_of_head ?_)
      simp only [String.toList_append]
      cases repeatable <;> rintro ⟨⟩
    rw [lines, filterMap_enclosed hfirst hlast]
    exact .of_eq (filterMap_inputs (fun arg harg => (h.2.1 arg harg).2) 1)
  | operation field => exact field.filterMap_lines h 0

end Code

end SchemaDoc
