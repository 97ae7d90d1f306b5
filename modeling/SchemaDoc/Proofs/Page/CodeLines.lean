-- SUMMARY: The lines of a code block: brackets, members and arguments each have their own, and start with a word or a bracket.
import SchemaDoc.Proofs.Page.CodeText
import SchemaDoc.Proofs.Sdl.Inline
import SchemaDoc.Proofs.Text.Joining

/-!
# Lines of code blocks

Members and arguments stand on lines of their own, between a line that ends with
the opening bracket and one that starts with the closing one. So the number of
lines depends on how many there are. A line starts with a keyword, a name or a
bracket after the indentation, and has control characters only if they stand in a
name, a type or a default.
-/

namespace SchemaDoc

namespace Code

/-- Items on lines of their own between two brackets; without items there are no brackets. -/
def enclosed (opening closing first last : String) (items : List String) : List String :=
  if items.isEmpty then [first ++ last] else (first ++ opening) :: items ++ [closing ++ last]

/-- A field with its arguments on lines of their own. -/
def Field.lines (field : Field) (level : Nat) : List String :=
  enclosed "(" (indent level ++ ")") (indent level ++ field.name)
    (": " ++ field.type.text ++ mark field.deprecated)
    (field.args.map fun arg => indent (level + 1) ++ arg.text)

/-- A keyword, a name and the interfaces. -/
def heading (keyword name : String) (interfaces : List String) : String :=
  keyword ++ " " ++ name
    ++ (if interfaces.isEmpty then "" else " implements " ++ String.intercalate ", " interfaces)

/-- The lines of a code block. -/
def lines : Code → List String
  | .enum name values =>
    enclosed " \x7b" "\x7d" (heading "enum" name []) "" (values.map fun value => indent 1 ++ value.text)
  | .input name fields =>
    enclosed " \x7b" "\x7d" (heading "input" name []) "" (fields.map fun field => indent 1 ++ field.text)
  | .interface name interfaces fields =>
    enclosed " \x7b" "\x7d" (heading "interface" name interfaces) "" (fields.flatMap (·.lines 1))
  | .object name interfaces fields =>
    enclosed " \x7b" "\x7d" (heading "type" name interfaces) "" (fields.flatMap (·.lines 1))
  | .scalar name => ["scalar " ++ name]
  | .union name members =>
    ["union " ++ name ++ (if members.isEmpty then "" else " = " ++ String.intercalate " | " members)]
  | .directive name args repeatable places =>
    enclosed "(" ")" ("directive @" ++ name)
      ((if repeatable then " repeatable" else "") ++ " on " ++ String.intercalate " | " places)
      (args.map fun arg => indent 1 ++ arg.text)
  | .operation field => field.lines 0

/-! ## Texts as lines -/

theorem intercalate_enclosed (opening closing first last : String) (items : List String) :
    "\n".intercalate (enclosed opening closing first last items) =
      first ++ (if items.isEmpty then "" else
        opening ++ "\n" ++ "\n".intercalate items ++ "\n" ++ closing) ++ last := by
  cases items with
  | nil => simp [enclosed]
  | cons item items =>
    have hlines : enclosed opening closing first last (item :: items) =
        (first ++ opening) :: ((item :: items) ++ [closing ++ last]) := rfl
    rw [hlines, String.intercalate_cons_of_ne_nil (List.append_ne_nil_of_right_ne_nil _ (List.cons_ne_nil _ _)),
      String.intercalate_append_of_ne_nil (List.cons_ne_nil _ _) (List.cons_ne_nil _ _),
      String.intercalate_singleton]
    simp [String.append_assoc]

theorem enclosed_ne_nil (opening closing first last : String) (items : List String) :
    enclosed opening closing first last items ≠ [] := by
  unfold enclosed
  split <;> simp

@[simp] theorem indent_zero : indent 0 = "" := rfl

theorem argsText_eq (args : List Input) (level : Nat) :
    argsText args (level + 1) =
      if args.isEmpty then "" else
        "(" ++ "\n" ++ "\n".intercalate (args.map fun arg => indent (level + 1) ++ arg.text) ++ "\n"
          ++ (indent level ++ ")") := by
  unfold argsText
  split
  · rfl
  · simp [String.append_assoc]

theorem Field.intercalate_lines (field : Field) (level : Nat) :
    "\n".intercalate (field.lines level) = indent level ++ field.text level := by
  rw [lines, intercalate_enclosed, List.isEmpty_map, ← argsText_eq, text]
  simp only [String.append_assoc]

theorem blockText_eq (keyword name : String) (interfaces members : List String) :
    blockText keyword name interfaces members =
      heading keyword name interfaces ++ (if members.isEmpty then "" else
        " \x7b" ++ "\n" ++ "\n".intercalate (members.map (indent 1 ++ ·)) ++ "\n" ++ "\x7d") ++ "" := by
  rw [blockText, heading, String.append_empty]
  congr 1
  split
  · rfl
  · simp [String.append_assoc]

theorem text_eq_intercalate (code : Code) : code.text = "\n".intercalate code.lines := by
  have hfields (keyword name : String) (interfaces : List String) (fields : List Field) :
      blockText keyword name interfaces (fields.map (·.text 1)) =
        "\n".intercalate (enclosed " \x7b" "\x7d" (heading keyword name interfaces) ""
          (fields.flatMap (·.lines 1))) := by
    have hempty : (fields.flatMap (·.lines 1)).isEmpty = (fields.map (·.text 1)).isEmpty := by
      cases fields with
      | nil => rfl
      | cons field fields => simp [Field.lines, enclosed_ne_nil]
    have hlines (field : Field) : field.lines 1 ≠ [] := enclosed_ne_nil _ _ _ _ _
    rw [blockText_eq, intercalate_enclosed, hempty, Text.intercalate_flatMap fun field _ => hlines field]
    simp only [Field.intercalate_lines, List.map_map, Function.comp_def]
  cases code with
  | enum name values =>
    rw [text, lines, blockText_eq, intercalate_enclosed, List.isEmpty_map, List.isEmpty_map, List.map_map]
    rfl
  | input name fields =>
    rw [text, lines, blockText_eq, intercalate_enclosed, List.isEmpty_map, List.isEmpty_map, List.map_map]
    rfl
  | interface name interfaces fields => exact hfields "interface" name interfaces fields
  | object name interfaces fields => exact hfields "type" name interfaces fields
  | scalar name => rw [text, lines, String.intercalate_singleton]
  | union name members => rw [text, lines, String.intercalate_singleton]
  | directive name args repeatable places =>
    rw [text, lines, intercalate_enclosed, List.isEmpty_map, argsText_eq, indent_zero, String.empty_append]
    simp only [String.append_assoc]
  | operation field => rw [text, lines, Field.intercalate_lines, indent_zero, String.empty_append]

theorem lines_ne_nil (code : Code) : code.lines ≠ [] := by
  cases code with
  | scalar name => exact List.cons_ne_nil _ _
  | union name members => exact List.cons_ne_nil _ _
  | enum | input | interface | object | directive | operation => exact enclosed_ne_nil _ _ _ _ _

/-! ## Numbers of lines -/

/-- The number of lines where some lines are set off by brackets. -/
def enclosedCount (n : Nat) : Nat :=
  if n = 0 then 1 else n + 2

theorem length_enclosed (opening closing first last : String) (items : List String) :
    (enclosed opening closing first last items).length = enclosedCount items.length := by
  cases items <;> simp [enclosed, enclosedCount]

theorem Field.length_lines (field : Field) (level : Nat) :
    (field.lines level).length = enclosedCount field.args.length := by
  rw [lines, length_enclosed, List.length_map]

/-! ## Starts of lines -/

/-- Whether a text starts with a character that is neither a space nor a backtick. -/
def opens (s : String) : Bool :=
  s.toList.head?.any fun c => c != ' ' && c != '\x60'

/-- A line on which something stands after the indentation, and no control character. -/
def Plain (line : String) : Prop :=
  ∃ level s, line = indent level ++ s ∧ opens s = true ∧ Inline s

theorem exists_of_opens {s : String} (h : opens s = true) : ∃ c cs, s.toList = c :: cs ∧ c ≠ ' ' ∧ c ≠ '\x60' := by
  obtain ⟨c, hhead, hc⟩ := (Option.any_eq_true _ _).1 h
  obtain ⟨cs, hs⟩ := List.head?_eq_some_iff.1 hhead
  exact ⟨c, cs, hs, by simpa using hc⟩

theorem opens_append {s : String} (h : opens s = true) (t : String) : opens (s ++ t) = true := by
  obtain ⟨c, cs, hs, hspace, hbacktick⟩ := exists_of_opens h
  simp [opens, String.toList_append, hs, hspace, hbacktick]

theorem opens_name {name : String} (h : Sdl.isName name = true) : opens name = true := by
  obtain ⟨c, cs, hname, hc, -⟩ := Sdl.isName_iff.1 h
  have hne : ∀ d, Sdl.isNameStart d = false → c ≠ d := by
    rintro d hd rfl
    rw [hd] at hc
    cases hc
  simp [opens, hname, hne ' ' rfl, hne '\x60' rfl]

theorem plain_of_opens {s : String} (hopens : opens s = true) (hs : Inline s) : Plain s :=
  ⟨0, s, by rw [indent_zero, String.empty_append], hopens, hs⟩

namespace Plain

theorem append {line t : String} (h : Plain line) (ht : Inline t) : Plain (line ++ t) := by
  obtain ⟨level, s, rfl, hopens, hs⟩ := h
  exact ⟨level, s ++ t, String.append_assoc, opens_append hopens t, hs.append ht⟩

theorem inline {line : String} (h : Plain line) : Inline line := by
  obtain ⟨level, s, rfl, -, hs⟩ := h
  refine Inline.append ?_ hs
  intro c hc
  rw [indent, String.toList_ofList] at hc
  rw [List.eq_of_mem_replicate hc]
  rfl

/-- No fence stands at the start of the line, whatever the indentation. -/
theorem not_fence {line : String} (h : Plain line) :
    ¬ "```".toList <+: line.toList.dropWhile (· == ' ') := by
  obtain ⟨level, s, rfl, hopens, -⟩ := h
  obtain ⟨c, cs, hs, hspace, hbacktick⟩ := exists_of_opens hopens
  have hindent : ∀ d ∈ (indent level).toList, (d == ' ') = true := by
    intro d hd
    rw [indent, String.toList_ofList] at hd
    rw [List.eq_of_mem_replicate hd]
    rfl
  have hfence : "```".toList = ['\x60', '\x60', '\x60'] := rfl
  rw [String.toList_append, List.dropWhile_append_of_pos hindent, hs,
    List.dropWhile_cons_of_neg (by simpa using hspace), hfence, List.cons_prefix_cons]
  exact fun hfence => hbacktick hfence.1.symm

end Plain

theorem plain_enclosed {opening closing first last : String} {items : List String} (hfirst : Plain first)
    (hopening : Inline opening) (hclosing : Plain closing) (hlast : Inline last)
    (hitems : ∀ item ∈ items, Plain item) : ∀ line ∈ enclosed opening closing first last items, Plain line := by
  unfold enclosed
  split
  · exact List.forall_mem_singleton.2 (hfirst.append hlast)
  · refine List.forall_mem_cons.2 ⟨hfirst.append hopening, List.forall_mem_append.2 ⟨hitems, ?_⟩⟩
    exact List.forall_mem_singleton.2 (hclosing.append hlast)

/-- What is shown of a default is on one line. -/
def Input.Inline (input : Input) : Prop :=
  ∀ text, input.default? = some text → SchemaDoc.Inline text

theorem inline_mark (deprecated : Bool) : Inline (mark deprecated) := by
  cases deprecated <;> decide

theorem Input.inline_text {input : Input} {room : Nat} (h : input.Fits room) (hdefault : input.Inline) :
    SchemaDoc.Inline input.text := by
  have hcolon : SchemaDoc.Inline ": " := by decide
  have htyped := ((Sdl.inline_name h.name).append hcolon).append (TypeRef.inline_text h.type)
  unfold Input.text
  refine (htyped.append ?_).append (inline_mark input.deprecated)
  split
  · next text htext => exact Inline.append (by decide) (hdefault text htext)
  · decide

theorem Input.plain_indent {input : Input} {room : Nat} (h : input.Fits room) (hdefault : input.Inline)
    (level : Nat) : Plain (indent level ++ input.text) := by
  refine ⟨level, input.text, rfl, ?_, input.inline_text h hdefault⟩
  simp only [Input.text, String.append_assoc]
  exact opens_append (opens_name h.name) _

theorem Field.plain_lines {field : Field} {room : Nat} (h : field.Fits room)
    (hargs : ∀ arg ∈ field.args, arg.Inline) (level : Nat) : ∀ line ∈ field.lines level, Plain line := by
  have hname : Plain (indent level ++ field.name) :=
    ⟨level, field.name, rfl, opens_name h.name, Sdl.inline_name h.name⟩
  have hcolon : Inline ": " := by decide
  have hlast : Inline (": " ++ field.type.text ++ mark field.deprecated) :=
    (hcolon.append (TypeRef.inline_text h.type)).append (inline_mark field.deprecated)
  refine plain_enclosed hname (by decide) ⟨level, ")", rfl, by decide, by decide⟩ hlast ?_
  exact List.forall_mem_map.2 fun arg harg => arg.plain_indent (h.args arg harg).2 (hargs arg harg) (level + 1)

theorem inline_names {separator : String} (hseparator : Inline separator) {names : List String}
    (h : ∀ name ∈ names, Sdl.isName name = true) : Inline (separator.intercalate names) :=
  Inline.intercalate hseparator fun name hname => Sdl.inline_name (h name hname)

theorem plain_heading {keyword name : String} (hopens : opens keyword = true) (hkeyword : Inline keyword)
    (hname : Sdl.isName name = true) {interfaces : List String}
    (hinterfaces : ∀ interface ∈ interfaces, Sdl.isName interface = true) :
    Plain (heading keyword name interfaces) := by
  have hspace : Inline " " := by decide
  refine Plain.append (((plain_of_opens hopens hkeyword).append hspace).append (Sdl.inline_name hname)) ?_
  split
  · decide
  · exact Inline.append (by decide) (inline_names (by decide) hinterfaces)

/-- Whatever is shown of proper names, types and defaults on one line, each line of a code block is plain. -/
theorem plain_lines {code : Code} {room : Nat} (h : code.Fits room)
    (hdefaults : ∀ input ∈ code.inputs, input.Inline) : ∀ line ∈ code.lines, Plain line := by
  have hnone : ∀ interface ∈ ([] : List String), Sdl.isName interface = true := by simp
  have hbraces {first : String} (hfirst : Plain first) {members : List String}
      (hmembers : ∀ member ∈ members, Plain member) :
      ∀ line ∈ enclosed " \x7b" "\x7d" first "" members, Plain line :=
    plain_enclosed hfirst (by decide) (plain_of_opens (by decide) (by decide)) (by decide) hmembers
  have hfields {fields : List Field} (h : ∀ field ∈ fields, 0 < room ∧ field.Fits (room - 1))
      (hdefaults : ∀ input ∈ fields.flatMap (·.args), input.Inline) :
      ∀ line ∈ fields.flatMap (·.lines 1), Plain line := by
    intro line hline
    obtain ⟨field, hfield, hmem⟩ := List.mem_flatMap.1 hline
    have hargs : ∀ arg ∈ field.args, arg.Inline :=
      fun arg harg => hdefaults arg (List.mem_flatMap.2 ⟨field, hfield, harg⟩)
    exact field.plain_lines (h field hfield).2 hargs 1 line hmem
  cases code with
  | enum name values =>
    refine hbraces (plain_heading (by decide) (by decide) h.1 hnone) (List.forall_mem_map.2 fun value hvalue => ?_)
    have hname := (h.2 value hvalue).2
    exact ⟨1, value.text, rfl, opens_append (opens_name hname) _,
      (Sdl.inline_name hname).append (inline_mark value.deprecated)⟩
  | input name fields =>
    exact hbraces (plain_heading (by decide) (by decide) h.1 hnone) (List.forall_mem_map.2 fun field hfield =>
      field.plain_indent (h.2 field hfield).2 (hdefaults field hfield) 1)
  | interface name interfaces fields =>
    exact hbraces (plain_heading (by decide) (by decide) h.1 h.2.1) (hfields h.2.2 hdefaults)
  | object name interfaces fields =>
    exact hbraces (plain_heading (by decide) (by decide) h.1 h.2.1) (hfields h.2.2 hdefaults)
  | scalar name =>
    have hkeyword : Plain "scalar " := plain_of_opens (by decide) (by decide)
    exact List.forall_mem_singleton.2 (hkeyword.append (Sdl.inline_name h))
  | union name members =>
    have hkeyword : Plain "union " := plain_of_opens (by decide) (by decide)
    refine List.forall_mem_singleton.2 ((hkeyword.append (Sdl.inline_name h.1)).append ?_)
    split
    · decide
    · exact Inline.append (by decide) (inline_names (by decide) h.2)
  | directive name args repeatable places =>
    have hkeyword : Plain "directive @" := plain_of_opens (by decide) (by decide)
    have hrepeatable : Inline (if repeatable then " repeatable" else "") := by cases repeatable <;> decide
    have hon : Inline " on " := by decide
    have hplaces : Inline (" | ".intercalate places) :=
      inline_names (by decide) fun place hplace => Sdl.Writes.isName_of_location (h.2.2 place hplace)
    refine plain_enclosed (hkeyword.append (Sdl.inline_name h.1)) (by decide)
      (plain_of_opens (by decide) (by decide)) ((hrepeatable.append hon).append hplaces) ?_
    exact List.forall_mem_map.2 fun arg harg => arg.plain_indent (h.2.1 arg harg).2 (hdefaults arg harg) 1
  | operation field => exact field.plain_lines h hdefaults 0

/-- Where lines are plain, the text is split into them at its line breaks. -/
theorem splitOn_text {code : Code} (h : ∀ line ∈ code.lines, Plain line) :
    code.text.toList.splitOn '\n' = code.lines.map String.toList := by
  have hbreaks : ∀ line ∈ code.lines.map String.toList, '\n' ∉ line := by
    refine List.forall_mem_map.2 fun line hline hbreak => ?_
    exact absurd ((h line hline).inline '\n' hbreak) (by decide)
  rw [text_eq_intercalate, String.toList_intercalate]
  exact List.splitOn_intercalate '\n' hbreaks (by simpa using lines_ne_nil code)

end Code

end SchemaDoc
