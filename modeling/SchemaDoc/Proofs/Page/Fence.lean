-- SUMMARY: No line of a code block ends the fence around it, and their number depends on what shows only.
import SchemaDoc.Proofs.Catalog.Entities
import SchemaDoc.Proofs.Page.CodeLines
import SchemaDoc.Proofs.Page.Literals

/-!
# Code blocks between fences

On a page a code block stands between fences of backticks, so a line of it that
starts with a fence would end the block early. But all line breaks are those that
set off members and arguments, for what stands in between has no control
characters: names and types by their grammar, and defaults because strings are
escaped, whatever way a default is written.
-/

namespace SchemaDoc

/-! ## Default values -/

namespace Value

theorem inline_enclosed {opening closing : String} (hopening : Inline opening) (hclosing : Inline closing)
    {texts : List String} (h : ∀ text ∈ texts, Inline text) :
    Inline (opening ++ ", ".intercalate texts ++ closing) :=
  (hopening.append (Inline.intercalate (by decide) h)).append hclosing

theorem inline_quotedText {v : Value} (h : v.Loadable) : Inline v.quotedText := by
  have hquote : Inline "\"" := by decide
  have hleaf {v : Value} (h : v.Loadable) (hv : IsLeaf v) : Inline v.quotedText := by
    rw [hv.quotedText_eq]
    exact (hquote.append (inline_text h)).append hquote
  induction h with
  | null => exact inline_text .null
  | string s => exact inline_text (.string s)
  | bool b => exact hleaf (.bool b) ⟨nofun, nofun, nofun⟩
  | int hlow hhigh => exact hleaf (.int hlow hhigh) ⟨nofun, nofun, nofun⟩
  | float x => exact hleaf (.float x) ⟨nofun, nofun, nofun⟩
  | enum hname hkeyword => exact hleaf (.enum hname hkeyword) ⟨nofun, nofun, nofun⟩
  | var hname => exact hleaf (.var hname) ⟨nofun, nofun, nofun⟩
  | object hkeys hsorted hentries => exact hleaf (.object hkeys hsorted hentries) ⟨nofun, nofun, nofun⟩
  | list hitems ih =>
    rw [quotedText, quotedTexts_eq]
    exact inline_enclosed (by decide) (by decide) (List.forall_mem_map.2 ih)

/-- A default is on one line, with quotes around its leaves or without. -/
theorem inline_defaultText (schema : Schema) (type : TypeRef) {v : Value} (h : v.Loadable) :
    Inline (v.defaultText schema type) := by
  by_cases hbare : schema.WritesBare type.name
  · rw [defaultText_of_bare hbare]
    exact inline_text h
  · rw [defaultText_of_not_bare hbare]
    exact inline_quotedText h

end Value

/-! ## Code blocks of entities -/

theorem Entity.inputs_type (type : TypeDef) : (Entity.type type).inputs = type.body.inputs := by
  obtain ⟨name, description, location, applied, body⟩ := type
  cases body <;> rfl

namespace PageContext

/-- The number of lines of some fields, from the numbers of their arguments that show. -/
def fieldLineCount (ctx : PageContext) : List Field → Nat
  | [] => 0
  | field :: fields =>
    Code.enclosedCount (field.args.values.countP ctx.isInputPrinted) + ctx.fieldLineCount fields

/-- The number of lines of a code block, from the numbers of members and arguments that show. -/
def lineCount (ctx : PageContext) : Entity → Nat
  | .type t =>
    match t.body with
    | .enum values => Code.enclosedCount (values.values.countP ctx.isValuePrinted)
    | .input fields => Code.enclosedCount (fields.values.countP ctx.isInputPrinted)
    | .interface _ fields | .object _ fields =>
      Code.enclosedCount (ctx.fieldLineCount (fields.values.filter ctx.isFieldPrinted))
    | .scalar | .union _ => 1
  | .operation _ field => Code.enclosedCount (field.args.values.countP ctx.isInputPrinted)
  | .directive d => Code.enclosedCount (d.args.values.countP ctx.isInputPrinted)

variable (ctx : PageContext)

theorem length_codeInputs (inputs : OrderedMap InputValue) :
    (ctx.codeInputs inputs).length = inputs.values.countP ctx.isInputPrinted := by
  rw [codeInputs, List.length_map, List.countP_eq_length_filter]

theorem length_lines_codeFields (fields : OrderedMap Field) :
    ((ctx.codeFields fields).flatMap (·.lines 1)).length =
      ctx.fieldLineCount (fields.values.filter ctx.isFieldPrinted) := by
  rw [codeFields]
  induction fields.values.filter ctx.isFieldPrinted with
  | nil => rfl
  | cons field shown ih =>
    rw [List.map_cons, List.flatMap_cons, List.length_append, ih, Code.Field.length_lines, codeField,
      length_codeInputs, fieldLineCount]

theorem length_lines_code (entity : Entity) : (ctx.code entity).lines.length = ctx.lineCount entity := by
  cases entity with
  | type t =>
    obtain ⟨name, description, location, applied, body⟩ := t
    cases body with
    | enum values =>
      rw [code, codeOfType, Code.lines, Code.length_enclosed, List.length_map, codeValues, List.length_map,
        ← List.countP_eq_length_filter, lineCount]
    | input fields =>
      rw [code, codeOfType, Code.lines, Code.length_enclosed, List.length_map, length_codeInputs, lineCount]
    | interface interfaces fields =>
      rw [code, codeOfType, Code.lines, Code.length_enclosed, length_lines_codeFields, lineCount]
    | object interfaces fields =>
      rw [code, codeOfType, Code.lines, Code.length_enclosed, length_lines_codeFields, lineCount]
    | scalar => rfl
    | union members => rfl
  | operation kind field =>
    rw [code, Code.lines, Code.Field.length_lines, codeField, length_codeInputs, lineCount]
  | directive d =>
    rw [code, Code.lines, Code.length_enclosed, List.length_map, length_codeInputs, lineCount]

/-! ### What shows -/

theorem fits_codeInputs {room : Nat} {inputs : OrderedMap InputValue}
    (h : ∀ input ∈ inputs.values.map InputValue.outline, 0 < room ∧ input.Fits (room - 1)) :
    ∀ input ∈ ctx.codeInputs inputs, 0 < room ∧ input.Fits (room - 1) := by
  intro shown hshown
  obtain ⟨input, hinput, rfl⟩ := ctx.mem_codeInputs hshown
  obtain ⟨hroom, hfits⟩ := h _ (List.mem_map_of_mem hinput)
  exact ⟨hroom, hfits.name, hfits.type⟩

theorem fits_codeField {room : Nat} {field : Field} (h : field.outline.Fits room) :
    (ctx.codeField field).Fits room where
  name := h.name
  type := h.type
  args := ctx.fits_codeInputs h.args

theorem fits_codeFields {room : Nat} {fields : OrderedMap Field}
    (h : ∀ field ∈ fields.values.map Field.outline, 0 < room ∧ field.Fits (room - 1)) :
    ∀ field ∈ ctx.codeFields fields, 0 < room ∧ field.Fits (room - 1) := by
  intro shown hshown
  obtain ⟨field, hfield, rfl⟩ := List.mem_map.1 hshown
  obtain ⟨hroom, hfits⟩ := h _ (List.mem_map_of_mem (List.mem_of_mem_filter hfield))
  exact ⟨hroom, ctx.fits_codeField hfits⟩

/-- What is left out of a definition that fits leaves one that does. -/
theorem fits_code {room : Nat} {entity : Entity} (h : entity.outline.Fits room) : (ctx.code entity).Fits room := by
  cases entity with
  | type t =>
    obtain ⟨name, description, location, applied, body⟩ := t
    cases body with
    | enum values =>
      refine ⟨h.1, fun shown hshown => ?_⟩
      obtain ⟨value, hvalue, rfl⟩ := List.mem_map.1 hshown
      exact h.2 _ (List.mem_map_of_mem (List.mem_of_mem_filter hvalue))
    | input fields => exact ⟨h.1, ctx.fits_codeInputs h.2⟩
    | interface interfaces fields => exact ⟨h.1, h.2.1, ctx.fits_codeFields h.2.2⟩
    | object interfaces fields => exact ⟨h.1, h.2.1, ctx.fits_codeFields h.2.2⟩
    | scalar => exact h
    | union members => exact ⟨h.1, fun member hmember => h.2 member (List.mem_of_mem_filter hmember)⟩
  | operation kind field => exact ctx.fits_codeField h
  | directive d => exact ⟨h.1, ctx.fits_codeInputs h.2.1, h.2.2⟩

theorem inline_inputs_code {entity : Entity}
    (h : ∀ input ∈ entity.inputs, Value.LoadableDefault input.default?) :
    ∀ shown ∈ (ctx.code entity).inputs, shown.Inline := by
  intro shown hshown text htext
  obtain ⟨input, hinput, rfl⟩ := ctx.mem_inputs_code hshown
  obtain ⟨v, hv, rfl⟩ := Option.map_eq_some_iff.1 htext
  exact Value.inline_defaultText ctx.schema input.type (h input hinput v hv)

end PageContext

namespace Schema

/-- Every default of an entity is a value that a document can hold. -/
theorem Completes.loadable {schema : Schema} {ds : Declarations} {draft : Draft} {declared : OrderedMap TypeDef}
    (h : schema.Completes ds draft declared) (hds : ∀ d ∈ ds, d.decl.Loadable) {entity : Entity}
    (hentity : schema.Has entity) : ∀ input ∈ entity.inputs, Value.LoadableDefault input.default? := by
  cases hentity with
  | @defined entity hdefined =>
    cases entity with
    | type type =>
      rw [Entity.inputs_type]
      exact h.loadable_type hds hdefined
    | directive directive => exact h.loadable_directive hds hdefined
    | operation kind field => cases hdefined
  | operation hentry => exact h.loadable_operation hds hentry

section Documents

variable {documents : List Document} {schema : Schema} {entity : Entity}

/-- The names and types of an entity are those that a document can hold. -/
theorem exists_outline_fits (h : Schema.ofDocuments documents = .ok schema) (hentity : schema.Has entity) :
    ∃ room, entity.outline.Fits room := by
  obtain ⟨draft, declared, hcompletes⟩ := Schema.completes_of_ofDocuments h
  exact hcompletes.exists_fits (fun d hd => (Document.wellformed_declarations documents d hd).1) hentity

theorem loadable_defaults (h : Schema.ofDocuments documents = .ok schema) (hentity : schema.Has entity) :
    ∀ input ∈ entity.inputs, Value.LoadableDefault input.default? := by
  obtain ⟨draft, declared, hcompletes⟩ := Schema.completes_of_ofDocuments h
  exact hcompletes.loadable (fun d hd => (Document.wellformed_declarations documents d hd).2) hentity

theorem plain_lines_code (h : Schema.ofDocuments documents = .ok schema) (hentity : schema.Has entity)
    (ctx : PageContext) : ∀ line ∈ (ctx.code entity).lines, Code.Plain line := by
  obtain ⟨room, hfits⟩ := exists_outline_fits h hentity
  exact Code.plain_lines (ctx.fits_code hfits) (ctx.inline_inputs_code (loadable_defaults h hentity))

end Documents

/--
The code block of an entity is its lines with line breaks in between, one for each
member and argument that shows and one for each bracket. No default and no line has
a control character, and no line starts with a fence, whatever its indentation.
-/
theorem code_stays_fenced {documents : List Document} {schema : Schema}
    (h : Schema.ofDocuments documents = .ok schema) {entity : Entity} (hentity : schema.Has entity)
    (ctx : PageContext) :
    (ctx.code entity).text = "\n".intercalate (ctx.code entity).lines ∧
      (ctx.code entity).lines.length = ctx.lineCount entity ∧
      (ctx.code entity).text.toList.splitOn '\n' = (ctx.code entity).lines.map String.toList ∧
      (∀ shown ∈ (ctx.code entity).inputs, ∀ text, shown.default? = some text → Inline text) ∧
      ∀ line ∈ (ctx.code entity).lines,
        Inline line ∧ ¬ "```".toList <+: line.toList.dropWhile (· == ' ') := by
  have hplain := plain_lines_code h hentity ctx
  refine ⟨Code.text_eq_intercalate (ctx.code entity), ctx.length_lines_code entity, Code.splitOn_text hplain,
    ctx.inline_inputs_code (loadable_defaults h hentity), fun line hline => ?_⟩
  exact ⟨(hplain line hline).inline, (hplain line hline).not_fence⟩

end Schema

/-- Defaults that have a fence on a line of its own, and a control character within an object. -/
def Document.fencing : List Document :=
  [⟨none, "scalar JSON type Query \x7b f(a: String = \"\\n```\\n\", b: JSON = \x7bk: \"\\u0007\"\x7d): [Int!] \x7d"⟩]

/-- The code block of the type in it. -/
def Document.fencingCode : String :=
  "type Query \x7b\n  f(\n    a: String = \"\\n```\\n\"\n" ++
    "    b: JSON = \"\x7bk: \"\\u0007\"\x7d\"\n  ): [Int!]\n\x7d"

theorem Schema.code_stays_fenced_fencing :
    ∃ schema ctx, Schema.ofDocuments Document.fencing = .ok schema ∧
      PageContext.ofSchema schema .default = .ok ctx ∧
      ∃ entity, schema.Has entity ∧ (ctx.code entity).text = Document.fencingCode ∧
        (ctx.code entity).lines.length = 6 ∧
        ∀ line ∈ (ctx.code entity).lines,
          Inline line ∧ ¬ "```".toList <+: line.toList.dropWhile (· == ' ') := by
  have hpasses : PageContext.passes Document.fencing .default (fun ctx =>
      ∃ type ∈ ctx.schema.types.values,
        (ctx.code (.type type)).text = Document.fencingCode ∧ ctx.lineCount (.type type) = 6) = true := by
    decide +kernel
  obtain ⟨schema, ctx, hschema, hctx, htest⟩ := PageContext.exists_of_passes hpasses
  obtain ⟨customs, -, heq⟩ := PageContext.ofSchema_eq_ok_iff.1 hctx
  obtain ⟨type, htype, htext, hcount⟩ := of_decide_eq_true htest
  rw [← heq] at htype
  have hhas : schema.Has (.type type) := .defined htype
  obtain ⟨-, hlength, -, -, hlines⟩ := Schema.code_stays_fenced hschema hhas ctx
  exact ⟨schema, ctx, hschema, hctx, .type type, hhas, htext, hlength.trans hcount, hlines⟩

end SchemaDoc
