-- SUMMARY: A built-in scalar that is not declared is among the types exactly if a type or a directive mentions it.
import SchemaDoc.Proofs.Loading.Ordering

/-!
# Built-in scalars that are in use

Of the scalars that the language defines a schema has those in use: its types or
the arguments of its directives mention them. Types and directives of the
language count as well as declared ones, provided that no declared type stands in
the place of an introspection type.
-/

namespace SchemaDoc

/-! ## Names that the language defines -/

theorem Builtin.reserved_introspection : ∀ type ∈ Builtin.introspection, "__".toList <+: type.name.toList := by
  decide

theorem Builtin.scalar?_introspection : ∀ type ∈ Builtin.introspection, Builtin.scalar? type.name = none := by
  decide

theorem Builtin.kind_introspection : ∀ type ∈ Builtin.introspection, type.kind ≠ .scalar := by
  decide

namespace Draft

variable {declared : OrderedMap TypeDef} {directives : OrderedMap DirectiveDef} {name : String}

theorem mem_introspectionEntries {type : TypeDef} :
    (name, type) ∈ introspectionEntries ↔ type ∈ Builtin.introspection ∧ type.name = name := by
  simp only [introspectionEntries, List.mem_map, Prod.mk.injEq]
  constructor
  · rintro ⟨type, htype, hname, rfl⟩
    exact ⟨htype, hname⟩
  · rintro ⟨htype, hname⟩
    exact ⟨type, htype, hname, rfl⟩

theorem nodup_introspectionEntries : (introspectionEntries.map Prod.fst).Nodup := by
  decide

theorem mem_directiveScalars :
    name ∈ (directiveScalars declared directives).map Prod.fst ↔
      (∃ directive ∈ directives.values, directive.args.Mentions name) ∧
        name ∈ Builtin.scalarNames ∧ name ∉ declared.keys := by
  simp only [directiveScalars, List.map_flatMap, List.mem_flatMap, Builtin.map_fst_scalarEntries,
    List.mem_filter, decide_eq_true_eq, ← OrderedMap.mentions_iff, ← and_assoc, exists_and_right]

/-- All names that arranging lists come from declared types, from directives and from introspection types. -/
theorem mem_keys_arrangeTypes_iff :
    name ∈ (arrangeTypes declared directives).keys ↔
      name ∈ namesWithScalars declared declared.entries ∨
        name ∈ (directiveScalars declared directives).map Prod.fst ∨
          name ∈ namesWithScalars declared introspectionEntries := by
  have hall : (arrangement declared directives).map Prod.fst = laterNames declared directives declared.entries :=
    map_fst_arrangement (List.nil_append _).symm directives
  simp only [keys_arrangeTypes, List.mem_eraseDups, hall, laterNames, List.mem_append, or_assoc]

/-- An undeclared scalar is arranged if a declared type, a directive or an introspection type mentions it. -/
theorem mem_keys_arrangeTypes_of_scalar (hscalar : name ∈ Builtin.scalarNames) (hnew : name ∉ declared.keys) :
    name ∈ (arrangeTypes declared directives).keys ↔
      (∃ type ∈ declared.values, type.body.Mentions name) ∨
        (∃ directive ∈ directives.values, directive.args.Mentions name) ∨
          ∃ type ∈ Builtin.introspection, type.body.Mentions name := by
  have hdeclared : name ∉ declared.entries.map Prod.fst := hnew
  have hintrospection : name ∉ introspectionEntries.map Prod.fst := by
    intro hmem
    obtain ⟨⟨_, type⟩, hentry, rfl⟩ := List.mem_map.1 hmem
    obtain ⟨htype, rfl⟩ := mem_introspectionEntries.1 hentry
    rw [← Builtin.isSome_scalar?_iff, Builtin.scalar?_introspection type htype] at hscalar
    cases hscalar
  simp only [mem_keys_arrangeTypes_iff, mem_namesWithScalars, mem_directiveScalars, hdeclared, hintrospection,
    hscalar, hnew, not_false_eq_true, true_and, and_true, false_or]
  simp only [OrderedMap.values, introspectionEntries, List.mem_map, exists_exists_and_eq_and]

/-- An introspection type is arranged under its name unless that is declared. -/
theorem find?_arrangeTypes_introspection {type : TypeDef} (htype : type ∈ Builtin.introspection)
    (hnew : type.name ∉ declared.keys) (directives : OrderedMap DirectiveDef) :
    (arrangeTypes declared directives).find? type.name = some type := by
  have hentry : (type.name, type) ∈ introspectionEntries := mem_introspectionEntries.2 ⟨htype, rfl⟩
  have hkey : type.name ∈ (arrangeTypes declared directives).keys := by
    apply mem_keys_arrangeTypes_iff.2
    exact .inr (.inr (mem_namesWithScalars.2 (.inl (List.mem_map_of_mem hentry))))
  obtain ⟨found, hfound⟩ := Option.isSome_iff_exists.1 (OrderedMap.find?_isSome_iff.2 hkey)
  rcases mem_entries_arrangeTypes (OrderedMap.find?_eq_some_iff.1 hfound) with hdeclared | ⟨-, hscalar | hmem⟩
  · exact absurd (List.mem_map_of_mem hdeclared) hnew
  · rw [Builtin.scalar?_introspection type htype] at hscalar
    cases hscalar
  · have hlookup := OrderedMap.lookup_eq_some_of_mem nodup_introspectionEntries hmem
    cases hlookup.symm.trans (OrderedMap.lookup_eq_some_of_mem nodup_introspectionEntries hentry)
    exact hfound

/-- Scalars mention nothing, so what a type mentions is mentioned by a declared or by an introspection type. -/
theorem exists_mentions_arrangeTypes (hreserved : ∀ type ∈ Builtin.introspection, type.name ∉ declared.keys) :
    (∃ type ∈ (arrangeTypes declared directives).values, type.body.Mentions name) ↔
      (∃ type ∈ declared.values, type.body.Mentions name) ∨
        ∃ type ∈ Builtin.introspection, type.body.Mentions name := by
  constructor
  · rintro ⟨type, htype, hmentions⟩
    obtain ⟨key, hentry⟩ := OrderedMap.exists_mem_entries htype
    rcases mem_entries_arrangeTypes hentry with hdeclared | ⟨-, hscalar | hmem⟩
    · exact .inl ⟨type, List.mem_map_of_mem hdeclared, hmentions⟩
    · rw [Builtin.body_of_scalar? hscalar] at hmentions
      cases hmentions
    · exact .inr ⟨type, (mem_introspectionEntries.1 hmem).1, hmentions⟩
  · rintro (⟨type, htype, hmentions⟩ | ⟨type, htype, hmentions⟩)
    · obtain ⟨key, hfind⟩ := OrderedMap.mem_values_iff.1 htype
      have hkey : key ∈ declared.keys := List.mem_map_of_mem (OrderedMap.find?_eq_some_iff.1 hfind)
      rw [← find?_arrangeTypes_of_mem hkey directives] at hfind
      exact ⟨type, OrderedMap.mem_values_iff.2 ⟨key, hfind⟩, hmentions⟩
    · have hfind := find?_arrangeTypes_introspection htype (hreserved type htype) directives
      exact ⟨type, OrderedMap.mem_values_iff.2 ⟨type.name, hfind⟩, hmentions⟩

end Draft

namespace Schema.Completes

variable {schema : Schema} {ds : Declarations} {draft : Draft} {declared : OrderedMap TypeDef} {name : String}

/-- Names of introspection types are reserved, so documents without reserved names leave these types alone. -/
theorem introspection_undeclared (h : schema.Completes ds draft declared)
    (hreserved : ∀ definition ∈ ds.types, ¬ "__".toList <+: definition.decl.name.toList) :
    ∀ type ∈ Builtin.introspection, type.name ∉ declared.keys := by
  intro type htype hmem
  rw [h.keys_declared] at hmem
  obtain ⟨definition, hdefinition, hname⟩ := List.mem_map.1 hmem
  exact hreserved definition hdefinition (hname ▸ Builtin.reserved_introspection type htype)

theorem mem_keys_iff_mentions (h : schema.Completes ds draft declared)
    (hreserved : ∀ definition ∈ ds.types, ¬ "__".toList <+: definition.decl.name.toList)
    (hscalar : name ∈ Builtin.scalarNames) (hnew : name ∉ ds.types.map (·.decl.name)) :
    name ∈ schema.types.keys ↔ schema.Mentions name := by
  rw [← h.keys_declared] at hnew
  rw [Schema.Mentions, h.directives_eq, h.types_eq, Draft.mem_keys_arrangeTypes_of_scalar hscalar hnew,
    Draft.exists_mentions_arrangeTypes (h.introspection_undeclared hreserved), or_assoc]
  exact or_congr_right or_comm

/-- A scalar without a place in a document is one that the language defines. -/
theorem scalarName_of_builtin (h : schema.Completes ds draft declared) {type : TypeDef}
    (hmem : (name, type) ∈ schema.types.entries) (hkind : type.kind = .scalar)
    (hlocation : type.location = .builtin) :
    name ∈ Builtin.scalarNames ∧ name ∉ ds.types.map (·.decl.name) := by
  rcases h.types_cases hmem with ⟨definition, -, -, hjoins⟩ | ⟨hnew, hscalar | ⟨hintrospection, -⟩⟩
  · rw [hjoins.location] at hlocation
    cases hlocation
  · rw [← Builtin.isSome_scalar?_iff, hscalar]
    exact ⟨rfl, hnew⟩
  · exact absurd hkind (Builtin.kind_introspection type hintrospection)

end Schema.Completes

/-- The built-in scalars of a schema are those that it mentions, and it mentions none that it lacks. -/
theorem Schema.scalars_closed {documents : List Document} {schema : Schema}
    (h : Schema.ofDocuments documents = .ok schema)
    (hreserved : ∀ definition ∈ (Document.declarations documents).types,
      ¬ "__".toList <+: definition.decl.name.toList) :
    (∀ name ∈ Builtin.scalarNames, name ∉ (Document.declarations documents).types.map (·.decl.name) →
      (name ∈ schema.types.keys ↔ schema.Mentions name)) ∧
    (∀ name ∈ Builtin.scalarNames, schema.Mentions name → name ∈ schema.types.keys) ∧
    (∀ entry ∈ schema.types.entries, entry.2.kind = .scalar → entry.2.location = .builtin →
      schema.Mentions entry.1) := by
  obtain ⟨draft, declared, hcompletes⟩ := Schema.completes_of_ofDocuments h
  refine ⟨fun name hscalar hnew => hcompletes.mem_keys_iff_mentions hreserved hscalar hnew, ?_, ?_⟩
  · intro name hscalar hmentions
    by_cases hdeclared : name ∈ (Document.declarations documents).types.map (·.decl.name)
    · obtain ⟨definition, hdefinition, rfl⟩ := List.mem_map.1 hdeclared
      obtain ⟨type, -, hfind, -⟩ := hcompletes.joins_declared hdefinition
      exact List.mem_map_of_mem (OrderedMap.find?_eq_some_iff.1 hfind)
    · exact (hcompletes.mem_keys_iff_mentions hreserved hscalar hdeclared).2 hmentions
  · intro entry hentry hkind hlocation
    obtain ⟨hscalar, hnew⟩ := hcompletes.scalarName_of_builtin hentry hkind hlocation
    exact (hcompletes.mem_keys_iff_mentions hreserved hscalar hnew).1 (List.mem_map_of_mem hentry)

/-- Lists of floats are mentioned by an argument of a directive only, integers by nothing. -/
def Document.ranked : List Document :=
  [⟨some "a.graphql", "directive @rank(by: [Float!]) on FIELD"⟩,
    ⟨some "b.graphql", "type Query { id: ID color: Color } enum Color { RED }"⟩]

theorem Schema.scalars_closed_ranked :
    ∃ schema, Schema.ofDocuments Document.ranked = .ok schema ∧ schema.Mentions "Float" ∧
      ¬ schema.Mentions "Int" ∧ "Int" ∉ schema.types.keys := by
  have htypes : (Document.declarations Document.ranked).types.map (·.decl.name) = ["Query", "Color"] := by
    decide +kernel
  have hkeys : (Schema.ofDocuments Document.ranked).toOption.any (fun schema =>
      schema.types.keys.filter (· ∈ Builtin.scalarNames) = ["ID", "Float", "Boolean", "String"]) = true := by
    decide +kernel
  obtain ⟨schema, hschema, hscalars⟩ := Schema.exists_of_any hkeys
  have hreserved : ∀ definition ∈ (Document.declarations Document.ranked).types,
      ¬ "__".toList <+: definition.decl.name.toList := by
    have hnames : ∀ name ∈ ["Query", "Color"], ¬ "__".toList <+: name.toList := by decide
    intro definition hdefinition
    exact hnames _ (htypes ▸ List.mem_map_of_mem hdefinition)
  obtain ⟨hclosed, -, -⟩ := Schema.scalars_closed hschema hreserved
  rw [htypes] at hclosed
  have hmem : ∀ name ∈ Builtin.scalarNames, name ∈ schema.types.keys ↔
      name ∈ ["ID", "Float", "Boolean", "String"] := by
    intro name hname
    rw [← of_decide_eq_true hscalars, List.mem_filter, decide_eq_true_eq]
    exact (and_iff_left hname).symm
  have hint : "Int" ∉ schema.types.keys := fun h => absurd ((hmem "Int" (by decide)).1 h) (by decide)
  refine ⟨schema, hschema, ?_, ?_, hint⟩
  · exact (hclosed "Float" (by decide) (by decide)).1 ((hmem "Float" (by decide)).2 (by decide))
  · exact fun h => hint ((hclosed "Int" (by decide) (by decide)).2 h)

end SchemaDoc
