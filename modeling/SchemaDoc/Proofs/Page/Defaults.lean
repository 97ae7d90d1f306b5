-- SUMMARY: Default values in code blocks are constants of the grammar, where no string stands between bare quotes.
import SchemaDoc.Proofs.Page.Context
import SchemaDoc.Proofs.Sdl.ConstantReading
import SchemaDoc.Proofs.Sdl.ConstantText
import SchemaDoc.Proofs.Sdl.Definitions
import SchemaDoc.Proofs.Sdl.Nesting

/-!
# Defaults in code blocks

The default of an argument or input field is written for its declared type: the
literal as it is, or between quotes where the type has no literals of a known
form. Nothing is escaped between these quotes, so the text is one constant as long
as there is nothing to be escaped: strings in an object are the only parts of a
literal that have quotes and backslashes of their own.
-/

namespace SchemaDoc

open Sdl Value

namespace TypeRef

theorem name_item (type : TypeRef) : type.item.name = type.name := by
  cases type <;> rfl

end TypeRef

namespace Value

theorem defaultTexts_eq (schema : Schema) (type : TypeRef) (items : List Value) :
    defaultTexts schema type items = items.map (defaultText schema type) := by
  induction items with
  | nil => rfl
  | cons item items ih => rw [defaultTexts, ih, List.map_cons]

/-- Literals of the type are written without quotes, or no string stands in an object of the value. -/
def QuotesPlainly (schema : Schema) (type : TypeRef) (v : Value) : Prop :=
  isBare schema type.name = true ∨
    ∀ entries s, v.Contains (.object entries) → ¬ (Value.object entries).Contains (.string s)

theorem QuotesPlainly.item {schema : Schema} {type : TypeRef} {items : List Value}
    (h : QuotesPlainly schema type (.list items)) {v : Value} (hv : v ∈ items) :
    QuotesPlainly schema type.item v := by
  rw [QuotesPlainly, TypeRef.name_item]
  exact h.imp_right fun hstrings entries s hcontains => hstrings entries s (.item hv hcontains)

/-- A literal without strings is one constant, with quotes or without. -/
theorem exists_spells_leafText {schema : Schema} {type : TypeRef} {v : Value} (h : v.Loadable)
    (hdefinite : v.Definite) (hplain : isBare schema type.name = true ∨ ∀ s, ¬ v.Contains (.string s)) :
    ∃ ls, Spells (v.leafText schema type).toList ls := by
  rw [leafText]
  split
  · exact exists_spells_text h hdefinite
  · next hbare =>
    rw [← quote_of_verbatim (verbatim_text h (hplain.resolve_left hbare))]
    exact ⟨_, Spells.quote v.text⟩

theorem defaultText_leaf (schema : Schema) (type : TypeRef) {v : Value} (hnull : v ≠ .null)
    (hstring : ∀ s, v ≠ .string s) (hlist : ∀ items, v ≠ .list items) :
    v.defaultText schema type = v.leafText schema type := by
  cases v with
  | null => exact absurd rfl hnull
  | string s => exact absurd rfl (hstring s)
  | list items => exact absurd rfl (hlist items)
  | bool | int | float | enum | var | object => rw [defaultText] <;> exact nofun

/-- A default is written as one constant, where nothing between bare quotes would have to be escaped. -/
theorem exists_spells_defaultText {schema : Schema} {type : TypeRef} {v : Value} (h : v.Loadable)
    (hdefinite : v.Definite) (hplain : v.QuotesPlainly schema type) :
    ∃ ls, Spells (v.defaultText schema type).toList ls := by
  -- What is neither a list nor an object nor a string has no string in it.
  have hscalar {v : Value} (h : v.Loadable) (hdefinite : v.Definite) (hnull : v ≠ .null)
      (hstring : ∀ s, v ≠ .string s) (hlist : ∀ items, v ≠ .list items) (hobject : ∀ entries, v ≠ .object entries)
      (type : TypeRef) : ∃ ls, Spells (v.defaultText schema type).toList ls := by
    rw [defaultText_leaf schema type hnull hstring hlist]
    refine exists_spells_leafText h hdefinite (.inr fun s => ?_)
    rw [contains_iff_eq hlist hobject]
    exact fun heq => hstring s heq.symm
  induction h generalizing type with
  | null =>
    rw [defaultText]
    exact ⟨_, Spells.name (rfl : isName "null" = true)⟩
  | string s =>
    rw [defaultText]
    exact ⟨_, Spells.quote s⟩
  | bool b => exact hscalar (.bool b) hdefinite nofun nofun nofun nofun type
  | int hlow hhigh => exact hscalar (.int hlow hhigh) hdefinite nofun nofun nofun nofun type
  | float x => exact hscalar (.float x) hdefinite nofun nofun nofun nofun type
  | enum hname hkeyword => exact hscalar (.enum hname hkeyword) hdefinite nofun nofun nofun nofun type
  | var hname => exact hscalar (.var hname) hdefinite nofun nofun nofun nofun type
  | @list items hitems ih =>
    rw [defaultText, defaultTexts_eq]
    refine exists_spells_list fun text htext => ?_
    obtain ⟨v, hv, rfl⟩ := List.mem_map.1 htext
    exact ih v hv (hdefinite.item hv) (hplain.item hv)
  | @object entries hkeys hsorted hentries ih =>
    rw [defaultText_leaf schema type (v := .object entries) nofun nofun nofun]
    refine exists_spells_leafText (.object hkeys hsorted hentries) hdefinite ?_
    exact hplain.imp_right fun hstrings s => hstrings entries s (.self _)

end Value

/-! ## Defaults of an entity -/

/-- All arguments and input fields in the definition of an entity. -/
def Entity.inputs : Entity → List InputValue
  | .operation _ f => f.args.values
  | .directive d => d.args.values
  | .type t =>
    match t.body with
    | .input fields => fields.values
    | .interface _ fields | .object _ fields => fields.values.flatMap (·.args.values)
    | .enum _ | .scalar | .union _ => []

/-- The defaults that a code block shows. -/
def Code.defaults (code : Code) : List String :=
  code.inputs.filterMap (·.default?)

namespace PageContext

theorem mem_codeInputs (ctx : PageContext) {inputs : OrderedMap InputValue} {shown : Code.Input}
    (h : shown ∈ ctx.codeInputs inputs) : ∃ input ∈ inputs.values, shown = ctx.codeInput input := by
  obtain ⟨input, hinput, rfl⟩ := List.mem_map.1 h
  exact ⟨input, List.mem_of_mem_filter hinput, rfl⟩

theorem mem_inputs_codeFields (ctx : PageContext) {fields : OrderedMap Field} {shown : Code.Input}
    (h : shown ∈ (ctx.codeFields fields).flatMap (·.args)) :
    ∃ input ∈ fields.values.flatMap (·.args.values), shown = ctx.codeInput input := by
  obtain ⟨_, hmem, hshown⟩ := List.mem_flatMap.1 h
  obtain ⟨field, hfield, rfl⟩ := List.mem_map.1 hmem
  obtain ⟨input, hinput, rfl⟩ := ctx.mem_codeInputs hshown
  exact ⟨input, List.mem_flatMap.2 ⟨field, List.mem_of_mem_filter hfield, hinput⟩, rfl⟩

/-- What a code block shows with a default is defined with it. -/
theorem mem_inputs_code (ctx : PageContext) {entity : Entity} {shown : Code.Input}
    (h : shown ∈ (ctx.code entity).inputs) : ∃ input ∈ entity.inputs, shown = ctx.codeInput input := by
  cases entity with
  | operation kind f => exact ctx.mem_codeInputs h
  | directive d => exact ctx.mem_codeInputs h
  | type t =>
    obtain ⟨name, description, location, applied, body⟩ := t
    cases body with
    | input fields => exact ctx.mem_codeInputs h
    | interface interfaces fields => exact ctx.mem_inputs_codeFields h
    | object interfaces fields => exact ctx.mem_inputs_codeFields h
    | enum values => cases h
    | scalar => cases h
    | union members => cases h

/-- Only the code block of an operation is that of a field. -/
theorem code_ne_operation (ctx : PageContext) {entity : Entity} (h : ∀ kind field, entity ≠ .operation kind field)
    (field : Code.Field) : ctx.code entity ≠ .operation field := by
  cases entity with
  | operation kind f => exact absurd rfl (h kind f)
  | directive d => exact nofun
  | type t =>
    obtain ⟨name, description, location, applied, body⟩ := t
    cases body <;> exact nofun

/-- A default that shows is one constant, wherever it stands. -/
theorem exists_spells_default (ctx : PageContext) {entity : Entity}
    (hvalues : ∀ input ∈ entity.inputs, ∀ v, input.default? = some v →
      v.Loadable ∧ v.Definite ∧ v.QuotesPlainly ctx.schema input.type)
    {shown : Code.Input} (hshown : shown ∈ (ctx.code entity).inputs) {text : String}
    (htext : shown.default? = some text) : ∃ ls, Spells text.toList ls := by
  obtain ⟨input, hinput, rfl⟩ := ctx.mem_inputs_code hshown
  obtain ⟨v, hv, rfl⟩ := Option.map_eq_some_iff.1 htext
  obtain ⟨hloadable, hdefinite, hplain⟩ := hvalues input hinput v hv
  exact Value.exists_spells_defaultText hloadable hdefinite hplain

/--
A default is written as one constant, whatever its type is. So the text of a code
block, in which every default is one, has the lexemes of the definition that it
shows, with these constants among them, if brackets do not nest too deep. It is a
document of that definition, if numbers in it have values and at most one interface
is implemented. This holds for values without variables and infinite numbers; an
object that is written between quotes may contain no strings.
-/
theorem defaults_constant (ctx : PageContext) :
    (∀ (type : TypeRef) (v : Value), v.Loadable → v.Definite → v.QuotesPlainly ctx.schema type →
      IsConstant (v.defaultText ctx.schema type)) ∧
    ∀ entity : Entity, (∀ input ∈ entity.inputs, ∀ v, input.default? = some v →
        v.Loadable ∧ v.Definite ∧ v.QuotesPlainly ctx.schema input.type) →
      (∀ text ∈ (ctx.code entity).defaults, IsConstant text) ∧
      (∀ room, (ctx.code entity).Fits room →
        (∀ text ∈ (ctx.code entity).defaults, NestsWithin (room - 2) (lexemesOf text)) →
        Scans room (ctx.code entity).text.toList (ctx.code entity).lexemes) ∧
      ((ctx.code entity).Fits nestingLimit →
        (∀ text ∈ (ctx.code entity).defaults,
          NestsWithin (nestingLimit - 2) (lexemesOf text) ∧ ∀ l ∈ lexemesOf text, l.HasValue) →
        (∀ kind field, entity ≠ .operation kind field) → (ctx.code entity).interfaces.length ≤ 1 →
        ∃ definition, Sdl.parse (ctx.code entity).text = .ok [definition] ∧
          definition.outline? = some (ctx.code entity).reread) := by
  refine ⟨fun type v h hdefinite hplain => ?_, fun entity hvalues => ?_⟩
  · obtain ⟨ls, hls⟩ := Value.exists_spells_defaultText h hdefinite hplain
    exact hls.isConstant
  have hconstant : ∀ text ∈ (ctx.code entity).defaults, IsConstant text := by
    intro text htext
    obtain ⟨shown, hshown, htext⟩ := List.mem_filterMap.1 htext
    obtain ⟨ls, hls⟩ := ctx.exists_spells_default hvalues hshown htext
    exact hls.isConstant
  have hspelled {room : Nat}
      (hnests : ∀ text ∈ (ctx.code entity).defaults, NestsWithin (room - 2) (lexemesOf text)) :
      ∀ shown ∈ (ctx.code entity).inputs, ∀ inner, room ≤ inner + 2 → shown.Spelled inner := by
    intro shown hshown inner hinner text htext
    obtain ⟨ls, hls⟩ := ctx.exists_spells_default hvalues hshown htext
    have hdepth := hnests text (List.mem_filterMap.2 ⟨shown, hshown, htext⟩)
    rw [hls.lexemesOf_eq] at hdepth ⊢
    exact hls.writes (hdepth.mono (by omega))
  refine ⟨hconstant, fun room hfits hnests => (Writes.code hfits (hspelled hnests)).scans, ?_⟩
  intro hfits hdefaults hoperation hlength
  refine parse_text hfits (ctx.code_ne_operation hoperation) hlength
    (hspelled fun text htext => (hdefaults text htext).1) fun shown hshown text htext => ?_
  have hmem : text ∈ (ctx.code entity).defaults := List.mem_filterMap.2 ⟨shown, hshown, htext⟩
  exact exists_literal?_eq (hconstant text hmem) (hdefaults text hmem).2

end PageContext

/-- Items of a scalar type: a string with characters to be escaped, an object without strings, and null. -/
def Value.assorted : Value :=
  .list [
    .string "a \"b\" \\",
    .object [("key", .list [.float (.finite false 6755399441055744 (-52)), .enum "A"]), ("other", .int (-1))],
    .null]

/-- How that value is written for a list type. -/
def Value.assortedText : String :=
  "[\"a \\\"b\\\" \\\\\", \"\x7bkey: [1.5, A], other: -1\x7d\", null]"

theorem Value.loadable_assorted : assorted.Loadable := by
  have hitems : Loadable (.list [.float (.finite false 6755399441055744 (-52)), .enum "A"]) :=
    .list (by simpa using ⟨.float _, .enum (by decide) (by decide)⟩)
  have hobject : Loadable (.object [
      ("key", .list [.float (.finite false 6755399441055744 (-52)), .enum "A"]), ("other", .int (-1))]) :=
    .object (by decide) (by decide) (by simpa using ⟨hitems, .int (by decide) (by decide)⟩)
  exact .list (by simpa using ⟨.string _, hobject, .null⟩)

theorem Value.definite_assorted : assorted.Definite where
  var name h := by simp [assorted, contains_list_iff, contains_object_iff, contains_iff_eq] at h
  infinite negative h := by simp [assorted, contains_list_iff, contains_object_iff, contains_iff_eq] at h

theorem Value.quotesPlainly_assorted (schema : Schema) (type : TypeRef) : assorted.QuotesPlainly schema type := by
  refine .inr fun entries s h hs => ?_
  have hentries : entries = [("key", .list [.float (.finite false 6755399441055744 (-52)), .enum "A"]),
      ("other", .int (-1))] := by
    simpa [assorted, contains_list_iff, contains_object_iff, contains_iff_eq] using h
  rw [hentries] at hs
  simp [contains_list_iff, contains_object_iff, contains_iff_eq] at hs

/-- An input type of which a field has that default. -/
def Entity.assorted : Entity :=
  .type {
    name := "I"
    description := none
    location := .builtin
    applied := []
    body := .input (.ofList [("f", ⟨"f", none, .builtin, .list (.named "JSON" false) true, some .assorted, []⟩)]) }

theorem PageContext.defaults_constant_assorted :
    ∃ schema ctx, Schema.ofDocuments [⟨none, "scalar JSON"⟩] = .ok schema ∧
      PageContext.ofSchema schema .default = .ok ctx ∧
      (ctx.code .assorted).text = "input I \x7b\n  f: [JSON!] = " ++ Value.assortedText ++ "\n\x7d" ∧
      (∀ text ∈ (ctx.code .assorted).defaults, IsConstant text) ∧
      Scans nestingLimit (ctx.code .assorted).text.toList (ctx.code .assorted).lexemes ∧
      ∃ definition, Sdl.parse (ctx.code .assorted).text = .ok [definition] ∧
        definition.outline? = some (.input "I" [⟨"f", .list (.named "JSON" false) true,
          some Value.assortedText, false⟩]) := by
  have hpasses : PageContext.passes [⟨none, "scalar JSON"⟩] .default (fun ctx =>
      (ctx.code .assorted).text = "input I \x7b\n  f: [JSON!] = " ++ Value.assortedText ++ "\n\x7d" ∧
        (ctx.code .assorted).reread = .input "I" [⟨"f", .list (.named "JSON" false) true,
          some Value.assortedText, false⟩] ∧
        (ctx.code .assorted).Fits nestingLimit ∧ (ctx.code .assorted).interfaces.length ≤ 1 ∧
        ∀ text ∈ (ctx.code .assorted).defaults,
          NestsWithin (nestingLimit - 2) (lexemesOf text) ∧ ∀ l ∈ lexemesOf text, l.HasValue) = true := by
    decide +kernel
  obtain ⟨schema, ctx, hschema, hctx, htest⟩ := PageContext.exists_of_passes hpasses
  obtain ⟨htext, hreread, hfits, hlength, hdefaults⟩ := of_decide_eq_true htest
  have hvalues : ∀ input ∈ Entity.assorted.inputs, ∀ v, input.default? = some v →
      v.Loadable ∧ v.Definite ∧ v.QuotesPlainly ctx.schema input.type := by
    intro input hinput v hv
    obtain rfl := List.mem_singleton.1 hinput
    cases hv
    exact ⟨loadable_assorted, definite_assorted, quotesPlainly_assorted ctx.schema _⟩
  obtain ⟨hconstants, hscans, hparse⟩ := (PageContext.defaults_constant ctx).2 .assorted hvalues
  rw [← hreread]
  exact ⟨schema, ctx, hschema, hctx, htext, hconstants,
    hscans nestingLimit hfits fun text htext => (hdefaults text htext).1, hparse hfits hdefaults nofun hlength⟩

/-- An input type of which a field of a scalar type has an object with a string as its default. -/
def Document.unescaped : List Document :=
  [⟨none, "scalar JSON input I \x7b f: JSON = \x7ba: \"x\"\x7d \x7d"⟩]

/-- The quotes of the string end the literal around it, so neither the default nor the block is well formed. -/
theorem PageContext.default_unescaped :
    let value : Value := .object [("a", .string "x")]
    value.Loadable ∧ value.Definite ∧
      ∃ schema ctx, Schema.ofDocuments Document.unescaped = .ok schema ∧
        PageContext.ofSchema schema .default = .ok ctx ∧
        value.defaultText schema (.named "JSON" true) = "\"\x7ba: \"x\"\x7d\"" ∧
        ¬ IsConstant (value.defaultText schema (.named "JSON" true)) ∧
        ∃ type ∈ schema.types.values,
          (ctx.code (.type type)).text = "input I \x7b\n  f: JSON = \"\x7ba: \"x\"\x7d\"\n\x7d" ∧
          ∀ definitions, Sdl.parse (ctx.code (.type type)).text ≠ .ok definitions := by
  intro value
  have hpasses : PageContext.passes Document.unescaped .default (fun ctx =>
      value.defaultText ctx.schema (.named "JSON" true) = "\"\x7ba: \"x\"\x7d\"" ∧
        ∃ type ∈ ctx.schema.types.values,
          (ctx.code (.type type)).text = "input I \x7b\n  f: JSON = \"\x7ba: \"x\"\x7d\"\n\x7d") = true := by
    decide +kernel
  have hlexemes : lexemesOf "\"\x7ba: \"x\"\x7d\"" = [.string "\x7ba: ".toList, .name "x", .string ['\x7d']] := by
    decide +kernel
  have hparse : (Sdl.parse "input I \x7b\n  f: JSON = \"\x7ba: \"x\"\x7d\"\n\x7d").toBool = false := by
    decide +kernel
  have hobject : value.Loadable := .object (by decide) (by decide) (by simpa using .string "x")
  obtain ⟨schema, ctx, hschema, hctx, htest⟩ := PageContext.exists_of_passes hpasses
  obtain ⟨customs, -, heq⟩ := PageContext.ofSchema_eq_ok_iff.1 hctx
  obtain ⟨htext, type, htype, hcode⟩ := of_decide_eq_true htest
  rw [← heq] at htext htype
  refine ⟨hobject, ⟨fun name h => ?_, fun negative h => ?_⟩, schema, ctx, hschema, hctx, htext, ?_,
    type, htype, hcode, ?_⟩
  · simp [value, contains_object_iff, contains_iff_eq] at h
  · simp [value, contains_object_iff, contains_iff_eq] at h
  · rintro ⟨-, hconstant⟩
    rw [htext, hlexemes] at hconstant
    cases hconstant
  · rw [hcode]
    intro definitions hdefinitions
    rw [hdefinitions] at hparse
    cases hparse

end SchemaDoc
