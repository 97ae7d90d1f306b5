-- SUMMARY: Which directives are matched by a table of handlers, and which placeholder is reported if one is unknown.
import SchemaDoc.Proofs.Catalog.Partition
import SchemaDoc.Proofs.Handler.Placeholders
import SchemaDoc.Proofs.Handler.Values
import SchemaDoc.Proofs.Loading.Locations

/-!
# Matched directives

A table of handlers matches the declared directives that have an entry, their own
or the wildcard's. All their templates are checked in schema order before any is
used. The first placeholder without an argument is reported; the descriptor is
checked before the tag, each from left to right.
-/

namespace SchemaDoc

/-! ## Unknown placeholders -/

namespace CustomDirective

variable {custom : CustomDirective} {handler : Option Handler} {word : String}

/-- The directive declares no argument of that name. -/
def Unknown (custom : CustomDirective) (word : String) : Prop :=
  word ∉ custom.definition.args.keys

/-- A handler is a template with a placeholder that is unknown. -/
def UnknownIn (custom : CustomDirective) (handler : Option Handler) : Prop :=
  ∃ text position word, handler = some (.template text) ∧ Template.HasAt text.toList position word ∧
    custom.Unknown word

/-- A handler is a template, and the placeholder is the first that is unknown. -/
def FirstUnknownIn (custom : CustomDirective) (handler : Option Handler) (word : String) : Prop :=
  ∃ text, handler = some (.template text) ∧ Template.FirstWith custom.Unknown text.toList word

/-- The descriptor or the tag has an unknown placeholder. -/
def Faulty (custom : CustomDirective) : Prop :=
  custom.UnknownIn custom.handlers.descriptor ∨ custom.UnknownIn custom.handlers.tag

/-- The first unknown placeholder of the descriptor, or of the tag if the descriptor has none. -/
def FirstUnknown (custom : CustomDirective) (word : String) : Prop :=
  custom.FirstUnknownIn custom.handlers.descriptor word ∨
    (¬ custom.UnknownIn custom.handlers.descriptor ∧ custom.FirstUnknownIn custom.handlers.tag word)

theorem unknownIn_iff : custom.UnknownIn handler ↔ ∃ word, custom.FirstUnknownIn handler word := by
  constructor
  · rintro ⟨text, position, word, rfl, hat, hunknown⟩
    obtain ⟨first, hfirst⟩ := Template.exists_firstWith hat hunknown
    exact ⟨first, text, rfl, hfirst⟩
  · rintro ⟨word, text, rfl, position, hat, hunknown, -⟩
    exact ⟨text, position, word, rfl, hat, hunknown⟩

theorem faulty_iff : custom.Faulty ↔ ∃ word, custom.FirstUnknown word := by
  simp only [Faulty, FirstUnknown, exists_or, exists_and_left, ← unknownIn_iff]
  by_cases hdescriptor : custom.UnknownIn custom.handlers.descriptor <;> simp [hdescriptor]

/-- The words of one handler, none if it is missing. -/
theorem find?_placeholders_eq_some_iff :
    ((handler.map Handler.placeholders).getD []).find? (!custom.definition.args.contains ·) = some word ↔
      custom.FirstUnknownIn handler word := by
  have hunknown : custom.Unknown = fun word => (!custom.definition.args.contains word) = true := by
    funext word
    rw [Unknown, ← OrderedMap.contains_iff]
    simp
  rw [FirstUnknownIn, hunknown]
  cases handler with
  | none => simp
  | some handler =>
    cases handler with
    | native run => simp [Handler.placeholders]
    | template text => simp [Handler.placeholders, Template.find?_placeholders_iff]

theorem unknownArgument?_eq_some_iff : custom.unknownArgument? = some word ↔ custom.FirstUnknown word := by
  rw [unknownArgument?, Handlers.placeholders, List.find?_append, Option.or_eq_some_iff, FirstUnknown,
    find?_placeholders_eq_some_iff, find?_placeholders_eq_some_iff, unknownIn_iff]
  simp only [← find?_placeholders_eq_some_iff, ← Option.isSome_iff_exists, Option.not_isSome_iff_eq_none]

theorem unknownArgument?_eq_none_iff : custom.unknownArgument? = none ↔ ¬ custom.Faulty := by
  rw [faulty_iff, ← Option.not_isSome_iff_eq_none, Option.isSome_iff_exists]
  simp only [unknownArgument?_eq_some_iff]

end CustomDirective

/-! ## Matched directives -/

/-- A directive has its own entry as a whole, and that of the wildcard only if it has none. -/
def HandlerTable.Entry (table : HandlerTable) (directive : String) (handlers : Handlers) : Prop :=
  table.find? directive = some handlers ∨
    (directive ∉ table.keys ∧ table.find? HandlerTable.wildcard = some handlers)

theorem HandlerTable.handlersFor?_eq_some_iff {table : HandlerTable} {directive : String} {handlers : Handlers} :
    table.handlersFor? directive = some handlers ↔ table.Entry directive handlers := by
  rw [handlersFor?, Option.or_eq_some_iff, Entry, OrderedMap.find?_eq_none_iff]

/-- The declared directives that have an entry, each with its handlers, in schema order. -/
structure Schema.Matches (schema : Schema) (ds : Declarations) (table : HandlerTable)
    (customs : List CustomDirective) : Prop where
  ordered : (customs.map (·.definition)).Sublist schema.directives.values
  mem_iff : ∀ custom, custom ∈ customs ↔ custom.definition ∈ schema.directives.values ∧
    custom.definition.name ∈ ds.directives.map (·.decl.name) ∧
      table.Entry custom.definition.name custom.handlers

namespace Schema

variable {schema : Schema} {table : HandlerTable}

theorem entries_matched (schema : Schema) (table : HandlerTable) :
    (schema.catalog.matched table).entries =
      schema.directives.entries.filterMap fun entry =>
        (table.matched? (.directive entry.2)).map (entry.1, ·) := by
  change (schema.catalog.slot .directives).entries.filterMap _ = _
  rw [entries_slot_directives, List.filterMap_map]
  rfl

theorem values_matched (schema : Schema) (table : HandlerTable) :
    (schema.catalog.matched table).values =
      schema.directives.values.filterMap fun directive => table.matched? (.directive directive) := by
  rw [OrderedMap.values, entries_matched, List.map_filterMap, OrderedMap.values, List.filterMap_map]
  apply List.filterMap_congr
  intro entry _
  rw [Function.comp_apply, Option.map_map]
  exact Option.map_id'

/-- Matching keeps the directive as it is, so the matched ones stand in schema order. -/
theorem definitions_matched (schema : Schema) (table : HandlerTable) :
    ((schema.catalog.matched table).values.map (·.definition)).Sublist schema.directives.values := by
  have hdefinition : (fun directive => (table.matched? (.directive directive)).map (·.definition)) =
      Option.guard fun directive => (table.matched? (.directive directive)).isSome := by
    funext directive
    cases hmatched : table.matched? (.directive directive) with
    | none => simp [Option.guard, hmatched]
    | some custom =>
      have hentity := (HandlerTable.matched?_eq_some hmatched).1
      rw [Entity.directive.injEq] at hentity
      simp [Option.guard, hmatched, ← hentity]
  rw [values_matched, List.map_filterMap, hdefinition, List.filterMap_eq_filter]
  exact List.filter_sublist

theorem Completes.matches_matched {ds : Declarations} {draft : Draft} {declared : OrderedMap TypeDef}
    (h : schema.Completes ds draft declared) (table : HandlerTable) :
    schema.Matches ds table (schema.catalog.matched table).values where
  ordered := schema.definitions_matched table
  mem_iff := by
    intro custom
    have hmatched : ∀ directive ∈ schema.directives.values,
        table.matched? (.directive directive) = some custom ↔ directive = custom.definition ∧
          directive.name ∈ ds.directives.map (·.decl.name) ∧ table.Entry directive.name custom.handlers := by
      intro directive hdirective
      have hbuiltin := h.isBuiltin_iff hdirective
      rw [HandlerTable.matched?, ← HandlerTable.handlersFor?_eq_some_iff]
      split
      · next hlanguage =>
        have hnew := hbuiltin.1 hlanguage
        simp only [hnew, reduceCtorEq, false_and, and_false]
      · next hlanguage =>
        have hdeclared := not_not.1 (mt hbuiltin.2 hlanguage)
        rw [Option.map_eq_some_iff]
        constructor
        · rintro ⟨handlers, hhandlers, rfl⟩
          exact ⟨rfl, hdeclared, hhandlers⟩
        · rintro ⟨rfl, -, hhandlers⟩
          exact ⟨custom.handlers, hhandlers, rfl⟩
    rw [values_matched, List.mem_filterMap]
    constructor
    · rintro ⟨directive, hdirective, hsome⟩
      obtain ⟨rfl, hdeclared, hentry⟩ := (hmatched directive hdirective).1 hsome
      exact ⟨hdirective, hdeclared, hentry⟩
    · rintro ⟨hdirective, hdeclared, hentry⟩
      exact ⟨_, hdirective, (hmatched _ hdirective).2 ⟨rfl, hdeclared, hentry⟩⟩

theorem keyed_matched (hkeyed : schema.Keyed) (table : HandlerTable) :
    (schema.catalog.matched table).Keyed (·.definition.name) := by
  intro entry hentry
  rw [entries_matched] at hentry
  obtain ⟨⟨name, directive⟩, hdirective, hsome⟩ := List.mem_filterMap.1 hentry
  obtain ⟨custom, hcustom, rfl⟩ := Option.map_eq_some_iff.1 hsome
  obtain rfl : directive = custom.definition := Entity.directive.inj (HandlerTable.matched?_eq_some hcustom).1
  exact hkeyed.directives _ hdirective

end Schema

/-! ## The outcome of matching -/

/--
What is made of some matched directives: the first unknown placeholder of all is
reported, and otherwise they stand under their names, unless there are none.
-/
structure CustomDirective.Outcome (customs : List CustomDirective)
    (result : Except ConfigError (Option (OrderedMap CustomDirective))) : Prop where
  fails : (∃ error, result = .error error) ↔ ∃ custom ∈ customs, custom.Faulty
  first : ∀ error, result = .error error → ∃ before custom after argument,
    customs = before ++ custom :: after ∧ (∀ earlier ∈ before, ¬ earlier.Faulty) ∧
      custom.FirstUnknown argument ∧ error = .unknownTemplateArgument custom.definition.name argument
  nothing : result = .ok none ↔ customs = []
  found : ∀ found, result = .ok (some found) ↔ customs ≠ [] ∧ (∀ custom ∈ customs, ¬ custom.Faulty) ∧
    found.entries = customs.map fun custom => (custom.definition.name, custom)

/-- Directives without unknown placeholders stand under their names. -/
theorem CustomDirective.Outcome.of_keyed {customs : OrderedMap CustomDirective}
    (hkeyed : customs.Keyed (·.definition.name)) (hgood : ∀ custom ∈ customs.values, ¬ custom.Faulty) :
    CustomDirective.Outcome customs.values (.ok (if customs.isEmpty then none else some customs)) where
  fails := iff_of_false nofun fun ⟨custom, hcustom, hfaulty⟩ => hgood custom hcustom hfaulty
  first := nofun
  nothing := by
    rw [Except.ok.injEq, ← OrderedMap.isEmpty_iff]
    cases customs.isEmpty <;> simp
  found := by
    intro found
    rw [Except.ok.injEq, ← hkeyed.entries_eq, ne_eq, ← OrderedMap.isEmpty_iff]
    cases hempty : customs.isEmpty with
    | true => simp
    | false =>
      simp only [Bool.false_eq_true, if_false, Option.some.injEq, not_false_eq_true, true_and]
      constructor
      · rintro rfl
        exact ⟨hgood, rfl⟩
      · exact fun h => OrderedMap.ext h.2.symm

namespace Catalog

variable {catalog : Catalog} {table : HandlerTable}

theorem findSome?_unknown_eq_none_iff {customs : List CustomDirective} :
    (customs.findSome? fun custom => custom.unknownArgument?.map (custom.definition.name, ·)) = none ↔
      ∀ custom ∈ customs, ¬ custom.Faulty := by
  simp only [List.findSome?_eq_none_iff, Option.map_eq_none_iff, CustomDirective.unknownArgument?_eq_none_iff]

/-- The first directive with an unknown placeholder is the one that is reported. -/
theorem customDirectives?_eq_error {directive argument : String}
    (h : ((catalog.matched table).values.findSome? fun custom =>
      custom.unknownArgument?.map (custom.definition.name, ·)) = some (directive, argument)) :
    catalog.customDirectives? table = .error (.unknownTemplateArgument directive argument) ∧
      ∃ before custom after, (catalog.matched table).values = before ++ custom :: after ∧
        (∀ earlier ∈ before, ¬ earlier.Faulty) ∧ custom.FirstUnknown argument ∧
          custom.definition.name = directive := by
  refine ⟨by rw [customDirectives?, customDirectives]; simp only [h]; rfl, ?_⟩
  obtain ⟨before, custom, after, hcut, hcustom, hnone⟩ := List.findSome?_eq_some_iff.1 h
  obtain ⟨word, hword, heq⟩ := Option.map_eq_some_iff.1 hcustom
  cases heq
  refine ⟨before, custom, after, hcut, ?_, CustomDirective.unknownArgument?_eq_some_iff.1 hword, rfl⟩
  intro earlier hearlier
  exact CustomDirective.unknownArgument?_eq_none_iff.1 (Option.map_eq_none_iff.1 (hnone earlier hearlier))

theorem customDirectives?_eq_ok
    (h : ((catalog.matched table).values.findSome? fun custom =>
      custom.unknownArgument?.map (custom.definition.name, ·)) = none) :
    catalog.customDirectives? table =
      .ok (if (catalog.matched table).isEmpty then none else some (catalog.matched table)) := by
  rw [customDirectives?, customDirectives]
  simp only [h]
  rfl

theorem outcome_customDirectives? (hkeyed : (catalog.matched table).Keyed (·.definition.name)) :
    CustomDirective.Outcome (catalog.matched table).values (catalog.customDirectives? table) := by
  cases hunknown : (catalog.matched table).values.findSome? fun custom =>
      custom.unknownArgument?.map (custom.definition.name, ·) with
  | some reported =>
    obtain ⟨heq, before, custom, after, hcut, hnone, hfirst, hname⟩ := customDirectives?_eq_error hunknown
    have hfaulty : custom.Faulty := CustomDirective.faulty_iff.2 ⟨_, hfirst⟩
    have hmem : custom ∈ (catalog.matched table).values := by
      rw [hcut]
      exact List.mem_append_right _ List.mem_cons_self
    rw [heq]
    constructor
    case fails => exact iff_of_true ⟨_, rfl⟩ ⟨custom, hmem, hfaulty⟩
    case first =>
      rintro _ ⟨⟩
      exact ⟨before, custom, after, _, hcut, hnone, hfirst, by rw [hname]⟩
    case nothing => exact iff_of_false nofun fun hnil => List.ne_nil_of_mem hmem hnil
    case found => exact fun found => iff_of_false nofun fun h => h.2.1 custom hmem hfaulty
  | none =>
    rw [customDirectives?_eq_ok hunknown]
    exact .of_keyed hkeyed (findSome?_unknown_eq_none_iff.1 hunknown)

end Catalog

/--
Matching a built schema with a table: the declared directives with an entry are
matched, and what comes of them is an error exactly if one of their templates has
an unknown placeholder, nothing if there are none, and otherwise all of them.
-/
theorem Schema.customDirectives_settled {documents : List Document} {schema : Schema}
    (h : Schema.ofDocuments documents = .ok schema) (table : HandlerTable) :
    ∃ customs, schema.Matches (Document.declarations documents) table customs ∧
      CustomDirective.Outcome customs (schema.catalog.customDirectives? table) := by
  obtain ⟨draft, declared, hcompletes⟩ := Schema.completes_of_ofDocuments h
  exact ⟨_, hcompletes.matches_matched table,
    Catalog.outcome_customDirectives? (Schema.keyed_matched hcompletes.keyed table)⟩

/-- Two directives are declared, one of them in the place of a built-in one. -/
def Document.labelled : List Document :=
  [⟨some "a.graphql", "directive @since(version: String) on OBJECT"⟩,
    ⟨some "b.graphql", "directive @skip(unless: Int) on FIELD type Query @since(version: \"2\") { id: ID }"⟩]

/-- The entry of the wildcard refers to an argument that the directive with an entry of its own lacks. -/
def HandlerTable.labels : HandlerTable :=
  .ofList [("*", ⟨some (.template "{no word} since {version}"), none⟩),
    ("skip", ⟨none, some (.template "unless {unless}")⟩)]

theorem Schema.customDirectives_settled_labelled :
    ∃ schema customs found, Schema.ofDocuments Document.labelled = .ok schema ∧
      schema.Matches (Document.declarations Document.labelled) HandlerTable.labels customs ∧
      schema.catalog.customDirectives? HandlerTable.labels = .ok (some found) ∧
      customs.map (·.definition.name) = ["since", "skip"] ∧ ∀ custom ∈ customs, ¬ custom.Faulty := by
  have hkeys : (Schema.ofDocuments Document.labelled).toOption.any (fun schema =>
      (schema.catalog.customDirectives? HandlerTable.labels).toOption.any fun found? =>
        found?.any fun found => found.keys = ["since", "skip"]) = true := by
    decide +kernel
  obtain ⟨schema, hschema, hany⟩ := Schema.exists_of_any hkeys
  obtain ⟨found?, hok, hany⟩ := Result.exists_of_any hany
  obtain ⟨found, rfl, hfound⟩ := (Option.any_eq_true _ _).1 hany
  obtain ⟨customs, hmatches, houtcome⟩ := Schema.customDirectives_settled hschema HandlerTable.labels
  obtain ⟨-, hgood, hentries⟩ := (houtcome.found found).1 hok
  refine ⟨schema, customs, found, hschema, hmatches, hok, ?_, hgood⟩
  rw [← of_decide_eq_true hfound, OrderedMap.keys, hentries, List.map_map]
  rfl

example : (Schema.ofDocuments Document.labelled).toOption.any (fun schema =>
    match schema.catalog.customDirectives? (.ofList [("*", ⟨none, some (.template "{version}")⟩)]) with
    | .error error => error = .unknownTemplateArgument "skip" "version"
    | .ok _ => false) = true := by
  decide +kernel

end SchemaDoc
