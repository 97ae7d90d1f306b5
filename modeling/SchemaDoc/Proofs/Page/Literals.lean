-- SUMMARY: A default is written as its literal, or with quotes around its leaves, as the name of its type decides.
import SchemaDoc.Proofs.Loading.Verdict
import SchemaDoc.Proofs.Page.Defaults

/-!
# How defaults are written

Writing a default follows its value and its type at the same time, and either may be
the deeper one. All the same there are only two ways to write a value: as its
literal, or with quotes around the leaves that have none. Which of them is taken
depends on the name under all lists of the type.
-/

namespace SchemaDoc

/-- Values of the type are written without quotes: it is a number or boolean, an enum or an input. -/
def Schema.WritesBare (schema : Schema) (type : String) : Prop :=
  type ∈ ["Boolean", "Float", "Int"] ∨
    ∃ definition, schema.types.find? type = some definition ∧
      (definition.kind = .enum ∨ definition.kind = .input)

namespace Value

theorem isBare_iff {schema : Schema} {type : String} : isBare schema type = true ↔ schema.WritesBare type := by
  rw [isBare, Schema.WritesBare, Bool.or_eq_true, List.contains_iff_mem]
  cases schema.types.find? type with
  | none => simp
  | some definition => cases hkind : definition.kind <;> simp [hkind]

/-! ## Two ways to write a value -/

mutual

/-- The literal with quotes around its leaves; null and strings are as in the literal. -/
def quotedText : Value → String
  | .null => text .null
  | .string value => text (.string value)
  | .list items => "[" ++ String.intercalate ", " (quotedTexts items) ++ "]"
  | leaf => "\"" ++ leaf.text ++ "\""

def quotedTexts : List Value → List String
  | [] => []
  | item :: items => quotedText item :: quotedTexts items

end

theorem quotedTexts_eq (items : List Value) : quotedTexts items = items.map quotedText := by
  induction items with
  | nil => rfl
  | cons item items ih => rw [quotedTexts, ih, List.map_cons]

/-- A value that is written in quotes if its literal is not taken. -/
structure IsLeaf (v : Value) : Prop where
  not_null : v ≠ .null
  not_string : ∀ content, v ≠ .string content
  not_list : ∀ items, v ≠ .list items

/-- Induction over lists in lists: what is no list is null, a string or a leaf. -/
theorem induction_items {motive : Value → Prop} (null : motive .null) (string : ∀ content, motive (.string content))
    (leaf : ∀ v, IsLeaf v → motive v)
    (list : ∀ items, (∀ v ∈ items, motive v) → motive (.list items)) : ∀ v, motive v
  | .null => null
  | .string content => string content
  | .list items => list items fun v _ => induction_items null string leaf list v
  | .bool _ => leaf _ ⟨nofun, nofun, nofun⟩
  | .int _ => leaf _ ⟨nofun, nofun, nofun⟩
  | .float _ => leaf _ ⟨nofun, nofun, nofun⟩
  | .enum _ => leaf _ ⟨nofun, nofun, nofun⟩
  | .var _ => leaf _ ⟨nofun, nofun, nofun⟩
  | .object _ => leaf _ ⟨nofun, nofun, nofun⟩

theorem IsLeaf.quotedText_eq {v : Value} (h : IsLeaf v) : v.quotedText = "\"" ++ v.text ++ "\"" := by
  obtain ⟨hnull, hstring, hlist⟩ := h
  rw [quotedText] <;> assumption

variable {schema : Schema} {type : TypeRef}

/--
A way to write values is the one taken if it is on leaves, writes null and strings as
in literals, and lists item by item.
-/
theorem defaultText_eq_of_leaves {write : Value → String} (hnull : write .null = text .null)
    (hstring : ∀ content, write (.string content) = text (.string content))
    (hleaf : ∀ v, IsLeaf v → ∀ other : TypeRef, other.name = type.name → v.leafText schema other = write v)
    (hlist : ∀ items, write (.list items) = "[" ++ String.intercalate ", " (items.map write) ++ "]")
    (v : Value) : v.defaultText schema type = write v := by
  induction v using induction_items generalizing type with
  | null => rw [defaultText, hnull, text]
  | string content => rw [defaultText, hstring, text]
  | leaf v hv => rw [defaultText_leaf schema type hv.not_null hv.not_string hv.not_list, hleaf v hv type rfl]
  | list items ih =>
    -- The type of the items has the same name below, however deep the type of the list is.
    have hname : type.item.name = type.name := TypeRef.name_item type
    have hitems : items.map (defaultText schema type.item) = items.map write := by
      apply List.map_congr_left
      intro v hv
      exact ih v hv fun leaf hleaf' other hother => hleaf leaf hleaf' other (hother.trans hname)
    rw [defaultText, defaultTexts_eq, hitems, hlist]

theorem defaultText_of_bare (h : schema.WritesBare type.name) (v : Value) :
    v.defaultText schema type = v.text := by
  refine defaultText_eq_of_leaves rfl (fun _ => rfl) ?_ (fun items => by rw [text, itemTexts_eq]) v
  intro v _ other hname
  have hbare : isBare schema other.name = true := isBare_iff.2 (hname.symm ▸ h)
  rw [leafText, if_pos hbare]

theorem defaultText_of_not_bare (h : ¬ schema.WritesBare type.name) (v : Value) :
    v.defaultText schema type = v.quotedText := by
  refine defaultText_eq_of_leaves (by rw [quotedText]) (fun _ => by rw [quotedText]) ?_
    (fun items => by rw [quotedText, quotedTexts_eq]) v
  intro v hv other hname
  have hbare : ¬ isBare schema other.name = true := mt isBare_iff.1 (hname.symm ▸ h)
  rw [leafText, if_neg hbare, hv.quotedText_eq]

/--
A default is written as its literal if the name under all lists of its type is one
whose values are written without quotes, and otherwise with quotes around its leaves.
Nothing else of the type matters.
-/
theorem defaultText_settled (schema : Schema) (type : TypeRef) (v : Value) :
    (schema.WritesBare type.name → v.defaultText schema type = v.text) ∧
    (¬ schema.WritesBare type.name → v.defaultText schema type = v.quotedText) ∧
    ∀ other : TypeRef, other.name = type.name → v.defaultText schema other = v.defaultText schema type := by
  refine ⟨fun h => defaultText_of_bare h v, fun h => defaultText_of_not_bare h v, ?_⟩
  intro other hname
  by_cases h : schema.WritesBare type.name
  · rw [defaultText_of_bare h, defaultText_of_bare (hname.symm ▸ h)]
  · rw [defaultText_of_not_bare h, defaultText_of_not_bare (hname.symm ▸ h)]

/-- Lists of different depths, of which no type reference is the type. -/
def uneven : Value :=
  .list [.list [.list [.enum "RED"], .null], .string "a \"b\"", .object [("key", .list [.int 1])]]

/-- The type has no lists where the value has some, or more than the value has. -/
theorem defaultText_settled_uneven :
    let deep : TypeRef := .list (.list (.list (.list (.named "JSON" false) true) false) true) true
    ∃ schema, Schema.ofDocuments [⟨none, "scalar JSON enum Color \x7b RED \x7d"⟩] = .ok schema ∧
      (schema.WritesBare "Color" ∧ uneven.defaultText schema (.named "Color" false) =
        "[[[RED], null], \"a \\\"b\\\"\", \x7bkey: [1]\x7d]") ∧
      (¬ schema.WritesBare "JSON" ∧ uneven.defaultText schema (.named "JSON" true) =
        "[[[\"RED\"], null], \"a \\\"b\\\"\", \"\x7bkey: [1]\x7d\"]") ∧
      deep.name = "JSON" ∧ uneven.defaultText schema deep = uneven.defaultText schema (.named "JSON" true) := by
  intro deep
  have hbare : (Schema.ofDocuments [⟨none, "scalar JSON enum Color \x7b RED \x7d"⟩]).toOption.any (fun schema =>
      isBare schema "Color" && !isBare schema "JSON") = true := by
    decide +kernel
  obtain ⟨schema, hschema, hnames⟩ := Schema.exists_of_any hbare
  rw [Bool.and_eq_true, Bool.not_eq_true'] at hnames
  have hcolor : schema.WritesBare "Color" := isBare_iff.1 hnames.1
  have hjson : ¬ schema.WritesBare "JSON" := by
    rw [← isBare_iff, hnames.2]
    exact Bool.false_ne_true
  obtain ⟨hliteral, -, -⟩ := defaultText_settled schema (.named "Color" false) uneven
  obtain ⟨-, hquoted, hname⟩ := defaultText_settled schema (.named "JSON" true) uneven
  refine ⟨schema, hschema, ⟨hcolor, ?_⟩, ⟨hjson, ?_⟩, rfl, hname deep rfl⟩
  · rw [hliteral hcolor]
    decide +kernel
  · rw [hquoted hjson]
    decide +kernel

end Value

end SchemaDoc
