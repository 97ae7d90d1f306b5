-- SUMMARY: Introspection types follow all declared types, and two built-in scalars may stand among them.
import SchemaDoc.Proofs.Loading.Closure

/-!
# The place of the introspection types

The introspection types stand behind all declared types and in a fixed order, but
each of them is followed by the built-in scalars that it is the first to mention.
Booleans and strings are the only ones that they mention. So the introspection
types are the last ones exactly if a declared type or a directive mentions both,
or a document declares them.
-/

namespace SchemaDoc

/-- The names of the types through which a schema describes itself. -/
def Builtin.introspectionNames : List String :=
  ["__Schema", "__Type", "__TypeKind", "__Field", "__InputValue", "__EnumValue", "__Directive",
    "__DirectiveLocation"]

theorem Builtin.map_name_introspection :
    Builtin.introspection.map (·.name) = Builtin.introspectionNames := rfl

/--
The introspection types and the scalars that come with them, behind the names in
front: a string follows the schema type and a Boolean the type of types, unless
they stand in front already.
-/
def Builtin.introspectionTail (front : List String) : List String :=
  "__Schema" :: ["String"].filter (· ∉ front) ++
    "__Type" :: ["Boolean"].filter (· ∉ front) ++
      ["__TypeKind", "__Field", "__InputValue", "__EnumValue", "__Directive", "__DirectiveLocation"]

/-- Without a scalar among them the introspection types are all that follows, otherwise a scalar is among the last eight. -/
theorem Builtin.introspectionNames_suffix_tail {front : List String} :
    Builtin.introspectionNames <:+ Builtin.introspectionTail front ↔
      "Boolean" ∈ front ∧ "String" ∈ front := by
  by_cases hboolean : "Boolean" ∈ front <;> by_cases hstring : "String" ∈ front <;>
    simp only [introspectionTail, List.filter_cons, List.filter_nil, hboolean, hstring, not_true_eq_false,
      not_false_eq_true, decide_true, decide_false, if_true, Bool.false_eq_true, if_false] <;>
    decide

theorem Builtin.length_introspectionNames_le (front : List String) :
    Builtin.introspectionNames.length ≤ (Builtin.introspectionTail front).length := by
  simp only [introspectionNames, introspectionTail, List.length_append, List.length_cons, List.length_nil]
  omega

namespace Draft

variable {declared : OrderedMap TypeDef} {directives : OrderedMap DirectiveDef}

/-- Behind all declared names it makes no difference that scalars of declared names are left out. -/
theorem removeAll_namesWithScalars {front : List String} (hfront : ∀ name ∈ declared.keys, name ∈ front)
    (entries : List (String × TypeDef)) :
    (namesWithScalars declared entries).removeAll front =
      (namesWithScalars .empty entries).removeAll front := by
  induction entries with
  | nil => rfl
  | cons entry rest ih =>
    have hscalars : ∀ mentioned : List String,
        ((Builtin.scalarEntries declared mentioned).map Prod.fst).removeAll front =
          ((Builtin.scalarEntries .empty mentioned).map Prod.fst).removeAll front := by
      intro mentioned
      rw [Builtin.map_fst_scalarEntries, Builtin.map_fst_scalarEntries, List.removeAll, List.removeAll,
        List.filter_filter, List.filter_filter]
      apply List.filter_congr
      intro name _
      have hempty : name ∉ (OrderedMap.empty : OrderedMap TypeDef).keys := List.not_mem_nil
      by_cases hname : name ∈ front
      · simp [hname]
      · have hundeclared : name ∉ declared.keys := fun h => hname (hfront name h)
        simp [hname, hundeclared, hempty]
    rw [namesWithScalars_cons, namesWithScalars_cons, List.cons_append, List.cons_append,
      ← List.singleton_append, ← List.singleton_append (l := _ ++ namesWithScalars .empty rest)]
    simp only [List.removeAll, List.filter_append] at hscalars ih ⊢
    rw [hscalars, ih]

/-- The introspection types and all scalars that they mention, each where it first occurs. -/
theorem eraseDups_namesWithScalars_introspection :
    (namesWithScalars .empty introspectionEntries).eraseDups = Builtin.introspectionTail [] := by
  decide +kernel

/-- The names that arranging lists before it comes to the introspection types. -/
def leadingNames (declared : OrderedMap TypeDef) (directives : OrderedMap DirectiveDef) : List String :=
  (namesWithScalars declared declared.entries ++ (directiveScalars declared directives).map Prod.fst).eraseDups

theorem mem_leadingNames {name : String} :
    name ∈ leadingNames declared directives ↔ name ∈ declared.keys ∨
      (name ∈ Builtin.scalarNames ∧ ((∃ type ∈ declared.values, type.body.Mentions name) ∨
        ∃ directive ∈ directives.values, directive.args.Mentions name)) := by
  have hvalues : (∃ entry ∈ declared.entries, entry.2.body.Mentions name) ↔
      ∃ type ∈ declared.values, type.body.Mentions name := by
    simp only [OrderedMap.values, List.mem_map, exists_exists_and_eq_and]
  rw [leadingNames, List.mem_eraseDups, List.mem_append, mem_namesWithScalars, mem_directiveScalars, hvalues]
  change (name ∈ declared.keys ∨ _) ∨ _ ↔ _
  by_cases hdeclared : name ∈ declared.keys
  · simp only [hdeclared, true_or]
  · simp only [hdeclared, not_false_eq_true, true_and, and_true, false_or]
    rw [and_comm (a := ∃ directive ∈ directives.values, _), ← and_or_left]

/-- What is missing in front of the introspection types follows where one of them mentions it. -/
theorem removeAll_introspection {front : List String} (hfront : ∀ name ∈ declared.keys, name ∈ front)
    (hreserved : ∀ name ∈ Builtin.introspectionNames, name ∉ front) :
    ((namesWithScalars declared introspectionEntries).removeAll front).eraseDups =
      Builtin.introspectionTail front := by
  rw [removeAll_namesWithScalars hfront, List.removeAll, eraseDups_filter,
    eraseDups_namesWithScalars_introspection]
  simp only [Builtin.introspectionNames, List.forall_mem_cons] at hreserved
  by_cases hstring : "String" ∈ front <;> by_cases hboolean : "Boolean" ∈ front <;>
    simp [Builtin.introspectionTail, hreserved, hstring, hboolean]

/-- Introspection types that are not declared follow the leading names, with the scalars that are still missing. -/
theorem keys_arrangeTypes_tail (hreserved : ∀ type ∈ Builtin.introspection, type.name ∉ declared.keys) :
    (arrangeTypes declared directives).keys =
      leadingNames declared directives ++
        Builtin.introspectionTail (leadingNames declared directives) := by
  have hall : (arrangement declared directives).map Prod.fst =
      namesWithScalars declared declared.entries ++ (directiveScalars declared directives).map Prod.fst ++
        namesWithScalars declared introspectionEntries :=
    map_fst_arrangement (List.nil_append _).symm directives
  have hfront : ∀ name ∈ declared.keys, name ∈ leadingNames declared directives :=
    fun name hname => mem_leadingNames.2 (.inl hname)
  have hnames : ∀ name ∈ Builtin.introspectionNames, name ∉ leadingNames declared directives := by
    intro name hname hleading
    rw [← Builtin.map_name_introspection] at hname
    obtain ⟨type, htype, rfl⟩ := List.mem_map.1 hname
    rcases mem_leadingNames.1 hleading with hdeclared | ⟨hscalar, -⟩
    · exact hreserved type htype hdeclared
    · rw [← Builtin.isSome_scalar?_iff, Builtin.scalar?_introspection type htype] at hscalar
      cases hscalar
  have hdups : ∀ names before : List String, names.removeAll before = names.removeAll before.eraseDups := by
    intro names before
    apply List.filter_congr
    intro name _
    simp
  rw [keys_arrangeTypes, hall, List.eraseDups_append, hdups _ (_ ++ _)]
  exact congrArg _ (removeAll_introspection hfront hnames)

end Draft

/-- Documents declare both directives. -/
def Declarations.Redeclares (ds : Declarations) (first second : String) : Prop :=
  first ∈ ds.directives.map (·.decl.name) ∧ second ∈ ds.directives.map (·.decl.name)

namespace Schema

/--
A name stands in front if documents declare it, or if it is that of a built-in
scalar that a declared type or an argument of a directive mentions.
-/
def Fronted (schema : Schema) (ds : Declarations) (name : String) : Prop :=
  name ∈ ds.types.map (·.decl.name) ∨ (name ∈ Builtin.scalarNames ∧
    ((∃ type ∈ schema.types.values, type.name ∈ ds.types.map (·.decl.name) ∧ type.body.Mentions name) ∨
      ∃ directive ∈ schema.directives.values, directive.args.Mentions name))

namespace Completes

variable {schema : Schema} {ds : Declarations} {draft : Draft} {declared : OrderedMap TypeDef}

/-- The types that finishing starts from are those of the schema under declared names. -/
theorem mem_declared_iff (h : schema.Completes ds draft declared) {type : TypeDef} :
    type ∈ declared.values ↔ type ∈ schema.types.values ∧ type.name ∈ ds.types.map (·.decl.name) := by
  have hfind : ∀ name ∈ declared.keys, schema.types.find? name = declared.find? name := by
    intro name hname
    rw [h.types_eq]
    exact Draft.find?_arrangeTypes_of_mem hname _
  rw [← h.keys_declared]
  constructor
  · intro hmem
    obtain ⟨name, htype⟩ := OrderedMap.mem_values_iff.1 hmem
    have hentry : (name, type) ∈ declared.entries := OrderedMap.find?_eq_some_iff.1 htype
    have hkey : name ∈ declared.keys := List.mem_map_of_mem hentry
    have hname : type.name = name := h.keyed_declared (name, type) hentry
    exact ⟨OrderedMap.mem_values_iff.2 ⟨name, (hfind name hkey).trans htype⟩, hname ▸ hkey⟩
  · rintro ⟨hmem, hkey⟩
    obtain ⟨name, htype⟩ := OrderedMap.mem_values_iff.1 hmem
    have hname : type.name = name := h.keyed.types (name, type) (OrderedMap.find?_eq_some_iff.1 htype)
    rw [← hname, hfind _ hkey] at htype
    exact OrderedMap.mem_values_iff.2 ⟨type.name, htype⟩

theorem fronted_iff (h : schema.Completes ds draft declared) {name : String} :
    schema.Fronted ds name ↔ name ∈ Draft.leadingNames declared draft.allDirectives := by
  rw [Draft.mem_leadingNames, Fronted, h.directives_eq, h.keys_declared]
  simp only [h.mem_declared_iff, and_assoc]

/-- A built-in directive that is not declared brings the scalars of its arguments to the front. -/
theorem fronted_of_builtin (h : schema.Completes ds draft declared) (directive : DirectiveDef) {name : String}
    (hdirective : directive ∈ Builtin.directives) (hnew : directive.name ∉ ds.directives.map (·.decl.name))
    (hscalar : name ∈ Builtin.scalarNames) (hmentions : directive.args.Mentions name) :
    schema.Fronted ds name := by
  have hfind := h.ordered.builtin_directives directive hdirective hnew
  exact .inr ⟨hscalar, .inr ⟨directive, OrderedMap.mem_values_iff.2 ⟨_, hfind⟩, hmentions⟩⟩

theorem fronted_boolean (h : schema.Completes ds draft declared)
    (hnew : ¬ ds.Redeclares "include" "skip") : schema.Fronted ds "Boolean" := by
  rcases not_and_or.1 hnew with hnew | hnew
  · exact h.fronted_of_builtin Builtin.directives[0] (by simp [Builtin.directives]) hnew
      (by decide) (OrderedMap.mentions_iff.2 (by decide))
  · exact h.fronted_of_builtin Builtin.directives[1] (by simp [Builtin.directives]) hnew
      (by decide) (OrderedMap.mentions_iff.2 (by decide))

theorem fronted_string (h : schema.Completes ds draft declared)
    (hnew : ¬ ds.Redeclares "deprecated" "specifiedBy") : schema.Fronted ds "String" := by
  rcases not_and_or.1 hnew with hnew | hnew
  · exact h.fronted_of_builtin Builtin.directives[2] (by simp [Builtin.directives]) hnew
      (by decide) (OrderedMap.mentions_iff.2 (by decide))
  · exact h.fronted_of_builtin Builtin.directives[3] (by simp [Builtin.directives]) hnew
      (by decide) (OrderedMap.mentions_iff.2 (by decide))

end Completes

end Schema

/--
The introspection types follow the declared types and all scalars that these or a
directive mention, in a fixed order. Only a string and a Boolean may stand among
them, and that takes documents that declare two built-in directives anew.
-/
theorem Schema.introspection_placed {documents : List Document} {schema : Schema}
    (h : Schema.ofDocuments documents = .ok schema)
    (hreserved : ∀ definition ∈ (Document.declarations documents).types,
      ¬ "__".toList <+: definition.decl.name.toList) :
    (∃ front, schema.types.keys = front ++ Builtin.introspectionTail front ∧
      ∀ name, name ∈ front ↔ schema.Fronted (Document.declarations documents) name) ∧
    (Builtin.introspectionNames <:+ schema.types.keys ↔
      schema.Fronted (Document.declarations documents) "Boolean" ∧
        schema.Fronted (Document.declarations documents) "String") ∧
    (¬ ((Document.declarations documents).Redeclares "include" "skip") →
      ¬ ((Document.declarations documents).Redeclares "deprecated" "specifiedBy") →
        Builtin.introspectionNames <:+ schema.types.keys) := by
  obtain ⟨draft, declared, hcompletes⟩ := Schema.completes_of_ofDocuments h
  have hkeys : schema.types.keys = Draft.leadingNames declared draft.allDirectives ++
      Builtin.introspectionTail (Draft.leadingNames declared draft.allDirectives) := by
    rw [hcompletes.types_eq]
    exact Draft.keys_arrangeTypes_tail (hcompletes.introspection_undeclared hreserved)
  have hlast : Builtin.introspectionNames <:+ schema.types.keys ↔
      schema.Fronted (Document.declarations documents) "Boolean" ∧
        schema.Fronted (Document.declarations documents) "String" := by
    rw [hcompletes.fronted_iff, hcompletes.fronted_iff, ← Builtin.introspectionNames_suffix_tail, hkeys]
    constructor
    · intro hsuffix
      exact List.suffix_of_suffix_length_le hsuffix (List.suffix_append _ _)
        (Builtin.length_introspectionNames_le _)
    · exact fun hsuffix => hsuffix.trans (List.suffix_append _ _)
  refine ⟨⟨_, hkeys, fun name => hcompletes.fronted_iff.symm⟩, hlast, ?_⟩
  intro hboolean hstring
  exact hlast.2 ⟨hcompletes.fronted_boolean hboolean, hcompletes.fronted_string hstring⟩

/-- One of the two conditional directives is declared anew, and a type is declared in the place of a scalar. -/
def Document.relabelled : List Document :=
  [⟨some "a.graphql", "directive @skip(unless: Int) on FIELD"⟩,
    ⟨some "b.graphql", "type Query { color: Color } enum Color { RED } scalar String"⟩]

theorem Schema.introspection_placed_relabelled :
    ∃ schema, Schema.ofDocuments Document.relabelled = .ok schema ∧
      Builtin.introspectionNames <:+ schema.types.keys ∧
      schema.types.keys.take 5 = ["Query", "Color", "String", "Int", "Boolean"] := by
  have hkeys : (Schema.ofDocuments Document.relabelled).toOption.any (fun schema =>
      schema.types.keys.take 5 = ["Query", "Color", "String", "Int", "Boolean"]) = true := by
    decide +kernel
  have hnames : ∀ name ∈ (Document.declarations Document.relabelled).types.map (·.decl.name),
      ¬ "__".toList <+: name.toList := by
    decide +kernel
  have hreserved : ∀ definition ∈ (Document.declarations Document.relabelled).types,
      ¬ "__".toList <+: definition.decl.name.toList :=
    fun _ hdefinition => hnames _ (List.mem_map_of_mem hdefinition)
  have hdirectives : (Document.declarations Document.relabelled).directives.map (·.decl.name) =
      ["skip"] := by
    decide +kernel
  obtain ⟨schema, hschema, htake⟩ := Schema.exists_of_any hkeys
  obtain ⟨-, -, hlast⟩ := Schema.introspection_placed hschema hreserved
  simp only [Declarations.Redeclares, hdirectives] at hlast
  exact ⟨schema, hschema, hlast (by decide) (by decide), of_decide_eq_true htake⟩

/-- Both conditional directives are declared without a condition, so nothing declared mentions a Boolean. -/
def Document.unconditional : List Document :=
  [⟨none, "directive @include on FIELD directive @skip on FIELD type Query { id: ID }"⟩]

/-- No reserved name is declared, yet a scalar stands behind the first introspection types. -/
theorem Schema.introspection_interrupted :
    ∃ schema, Schema.ofDocuments Document.unconditional = .ok schema ∧
      (∀ definition ∈ (Document.declarations Document.unconditional).types,
        ¬ "__".toList <+: definition.decl.name.toList) ∧
      schema.types.keys = ["Query", "ID", "String", "__Schema", "__Type", "Boolean", "__TypeKind", "__Field",
        "__InputValue", "__EnumValue", "__Directive", "__DirectiveLocation"] ∧
      ¬ Builtin.introspectionNames <:+ schema.types.keys := by
  have hkeys : (Schema.ofDocuments Document.unconditional).toOption.any (fun schema =>
      schema.types.keys = ["Query", "ID", "String", "__Schema", "__Type", "Boolean", "__TypeKind", "__Field",
        "__InputValue", "__EnumValue", "__Directive", "__DirectiveLocation"]) = true := by
    decide +kernel
  have hnames : ∀ name ∈ (Document.declarations Document.unconditional).types.map (·.decl.name),
      ¬ "__".toList <+: name.toList := by
    decide +kernel
  obtain ⟨schema, hschema, hbuilt⟩ := Schema.exists_of_any hkeys
  have hall := of_decide_eq_true hbuilt
  refine ⟨schema, hschema, fun _ hdefinition => hnames _ (List.mem_map_of_mem hdefinition), hall, ?_⟩
  rw [hall]
  decide

end SchemaDoc
