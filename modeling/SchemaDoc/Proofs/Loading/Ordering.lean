-- SUMMARY: Types stand in the order of their definitions, each directly before the scalars that it is the first to mention.
import SchemaDoc.Proofs.Loading.FirstMentions
import SchemaDoc.Proofs.Loading.Keyed

/-!
# The order of types and directives

The declared types of a schema keep the order of their definitions. Between one
of them and the next stand the built-in scalars that it brings along: those that
it mentions and no type before it does. Directives are simpler, the built-in ones
come last.
-/

namespace SchemaDoc

/-! ## First occurrences in parts of a list -/

/-- Names that stand between others are listed where they first occur. -/
theorem eraseDups_between (before between after : List String) :
    (before ++ between ++ after).eraseDups =
      before.eraseDups ++ (between.removeAll before).eraseDups ++
        (after.removeAll (before ++ between)).eraseDups := by
  rw [List.eraseDups_append, List.eraseDups_append]

theorem removeAll_cons_of_notMem {name : String} {rest before : List String} (hbefore : name ∉ before) :
    (name :: rest).removeAll before = name :: rest.removeAll before := by
  simp [List.cons_removeAll, hbefore]

/-- A name that does not stand before comes first, and leaves the others as they are. -/
theorem eraseDups_removeAll_cons {name : String} {rest before : List String} (hbefore : name ∉ before)
    (hrest : name ∉ rest) :
    ((name :: rest).removeAll before).eraseDups = name :: (rest.removeAll before).eraseDups := by
  have hothers : (rest.removeAll before).filter (fun other => !other == name) = rest.removeAll before := by
    apply List.filter_eq_self.2
    intro other hother
    have hne : other ≠ name := fun e => hrest (e ▸ (List.mem_filter.1 hother).1)
    simpa using hne
  rw [removeAll_cons_of_notMem hbefore, List.eraseDups_cons, hothers]

/-- The first name of all stays the first if it does not stand before. -/
theorem head?_eraseDups_removeAll {names before : List String} {name : String}
    (hfirst : names.head? = some name) (hbefore : name ∉ before) :
    (names.removeAll before).eraseDups.head? = some name := by
  obtain ⟨rest, rfl⟩ := List.head?_eq_some_iff.1 hfirst
  rw [removeAll_cons_of_notMem hbefore, List.eraseDups_cons, List.head?_cons]

/-! ## Scalars that a type brings along -/

/-- The names of the scalars that the language defines. -/
def Builtin.scalarNames : List String := ["Boolean", "Float", "ID", "Int", "String"]

/-- The names of the directives that the language defines. -/
def Builtin.directiveNames : List String := ["include", "skip", "deprecated", "specifiedBy"]

theorem Builtin.isSome_scalar?_iff {name : String} :
    (Builtin.scalar? name).isSome = true ↔ name ∈ Builtin.scalarNames := by
  have hnames : Builtin.scalars.map (·.name) = Builtin.scalarNames := rfl
  simp only [Builtin.scalar?, List.find?_isSome, beq_iff_eq, ← hnames, List.mem_map]

/--
The built-in scalars that a type mentions and none of the types before it does,
apart from those that documents declare, in the order in which it first mentions
them.
-/
def TypeBody.introduces (declared : List String) (before : List TypeDef) (body : TypeBody) : List String :=
  body.referenced.eraseDups.filter fun name =>
    name ∈ Builtin.scalarNames ∧ name ∉ declared ∧ ∀ other ∈ before, ¬ other.body.Mentions name

theorem TypeBody.mem_introduces_iff {declared : List String} {before : List TypeDef} {body : TypeBody}
    {name : String} :
    name ∈ body.introduces declared before ↔ body.Mentions name ∧ name ∈ Builtin.scalarNames ∧
      name ∉ declared ∧ ∀ other ∈ before, ¬ other.body.Mentions name := by
  rw [TypeBody.introduces, List.mem_filter, List.mem_eraseDups, TypeBody.mentions_iff, decide_eq_true_eq]

/--
The names are those of the scalars that a type introduces, said by the places at
which types mention them and not by the lists in which these are collected.
-/
structure TypeBody.Introduced (body : TypeBody) (declared : List String) (before : List TypeDef)
    (names : List String) : Prop where
  mem_iff : ∀ name, name ∈ names ↔ (∃ place, body.MentionsAt name place) ∧ name ∈ Builtin.scalarNames ∧
    name ∉ declared ∧ ∀ other ∈ before, ¬ ∃ place, other.body.MentionsAt name place
  ordered : names.Pairwise body.MentionsBefore

theorem TypeBody.introduced_introduces (body : TypeBody) (declared : List String) (before : List TypeDef) :
    body.Introduced declared before (body.introduces declared before) where
  mem_iff name := by simp only [TypeBody.mem_introduces_iff, TypeBody.mentions_iff_at]
  ordered := body.pairwise_mentionsBefore.filter _

theorem Builtin.map_fst_scalarEntries (declared : OrderedMap TypeDef) (mentioned : List String) :
    (Builtin.scalarEntries declared mentioned).map Prod.fst =
      mentioned.filter fun name => name ∈ Builtin.scalarNames ∧ name ∉ declared.keys := by
  induction mentioned with
  | nil => rfl
  | cons name rest ih =>
    rw [Builtin.scalarEntries, List.filterMap_cons, List.filter_cons]
    by_cases hdeclared : name ∈ declared.keys
    · simp only [OrderedMap.contains_iff.2 hdeclared, hdeclared, if_true, not_true_eq_false, and_false,
        decide_false, Bool.false_eq_true, if_false]
      exact ih
    · have hcontains : declared.contains name = false := by
        rw [Bool.eq_false_iff]
        exact fun h => hdeclared (OrderedMap.contains_iff.1 h)
      cases hscalar : Builtin.scalar? name with
      | none =>
        have hname : name ∉ Builtin.scalarNames := by
          rw [← Builtin.isSome_scalar?_iff, hscalar]
          simp
        simp only [hcontains, hname, Bool.false_eq_true, if_false, Option.map_none, false_and, decide_false]
        exact ih
      | some scalar =>
        have hname : name ∈ Builtin.scalarNames := by
          rw [← Builtin.isSome_scalar?_iff, hscalar]
          rfl
        simp only [hcontains, hname, hdeclared, Bool.false_eq_true, if_false, Option.map_some,
          not_false_eq_true, and_self, decide_true, if_true, List.map_cons, List.cons.injEq, true_and]
        exact ih

namespace Draft

variable {declared : OrderedMap TypeDef} {before after : List (String × TypeDef)} {entry : String × TypeDef}

/-! ## Names of types and of their scalars -/

/-- The names of types, each followed by those of the scalars that the type mentions. -/
def namesWithScalars (declared : OrderedMap TypeDef) (entries : List (String × TypeDef)) : List String :=
  (entries.flatMap (Builtin.withScalars declared)).map Prod.fst

theorem namesWithScalars_cons (rest : List (String × TypeDef)) :
    namesWithScalars declared (entry :: rest) =
      entry.1 :: (Builtin.scalarEntries declared entry.2.body.referenced).map Prod.fst ++
        namesWithScalars declared rest := by
  rw [namesWithScalars, List.flatMap_cons, List.map_append, Builtin.withScalars, List.map_cons]
  rfl

theorem namesWithScalars_append (before after : List (String × TypeDef)) :
    namesWithScalars declared (before ++ after) =
      namesWithScalars declared before ++ namesWithScalars declared after := by
  rw [namesWithScalars, List.flatMap_append, List.map_append]
  rfl

/-- A name is that of a type, or of a scalar that a type mentions. -/
theorem mem_namesWithScalars {entries : List (String × TypeDef)} {name : String} :
    name ∈ namesWithScalars declared entries ↔
      name ∈ entries.map Prod.fst ∨ (name ∈ Builtin.scalarNames ∧ name ∉ declared.keys ∧
        ∃ entry ∈ entries, entry.2.body.Mentions name) := by
  induction entries with
  | nil => simp [namesWithScalars]
  | cons entry rest ih =>
    have hscalars : name ∈ (Builtin.scalarEntries declared entry.2.body.referenced).map Prod.fst ↔
        name ∈ Builtin.scalarNames ∧ name ∉ declared.keys ∧ entry.2.body.Mentions name := by
      simp only [Builtin.map_fst_scalarEntries, List.mem_filter, decide_eq_true_eq, TypeBody.mentions_iff]
      rw [and_comm, and_assoc]
    simp only [namesWithScalars_cons, List.mem_append, List.mem_cons, ih, hscalars, List.map_cons,
      exists_eq_or_imp, and_or_left]
    exact or_or_or_comm

/-- A declared name is there only if it is that of one of the types. -/
theorem notMem_namesWithScalars {entries : List (String × TypeDef)} {name : String}
    (hdeclared : name ∈ declared.keys) (h : name ∉ entries.map Prod.fst) :
    name ∉ namesWithScalars declared entries := by
  rw [mem_namesWithScalars]
  rintro (hname | ⟨-, hundeclared, -⟩)
  · exact h hname
  · exact hundeclared hdeclared

/-- The scalars of a type that do not stand among earlier types and their scalars are those that it introduces. -/
theorem removeAll_scalarEntries {body : TypeBody} (hbefore : ∀ entry ∈ before, entry.1 ∈ declared.keys) :
    (((Builtin.scalarEntries declared body.referenced).map Prod.fst).removeAll
        (namesWithScalars declared before)).eraseDups =
      body.introduces declared.keys (before.map Prod.snd) := by
  rw [List.removeAll, eraseDups_filter, Builtin.map_fst_scalarEntries, eraseDups_filter, List.filter_filter,
    TypeBody.introduces]
  apply List.filter_congr
  intro name _
  rw [Bool.eq_iff_iff, Bool.and_eq_true, Bool.not_eq_true', ← Bool.not_eq_true, List.elem_eq_contains,
    List.contains_iff_mem, mem_namesWithScalars, decide_eq_true_eq, decide_eq_true_eq, List.forall_mem_map]
  constructor
  · rintro ⟨hnew, hscalar, hundeclared⟩
    refine ⟨hscalar, hundeclared, fun entry hentry hmentions => hnew (.inr ?_)⟩
    exact ⟨hscalar, hundeclared, entry, hentry, hmentions⟩
  · rintro ⟨hscalar, hundeclared, hnone⟩
    refine ⟨?_, hscalar, hundeclared⟩
    rintro (hname | ⟨-, -, entry, hentry, hmentions⟩)
    · obtain ⟨entry, hentry, rfl⟩ := List.mem_map.1 hname
      exact hundeclared (hbefore entry hentry)
    · exact hnone entry hentry hmentions

/-- Scalars that a type introduces are not declared. -/
theorem filter_introduces (declared : List String) (before : List TypeDef) (body : TypeBody) :
    (body.introduces declared before).filter (· ∈ declared) = [] := by
  apply List.filter_eq_nil_iff.2
  intro name hname
  simpa using (TypeBody.mem_introduces_iff.1 hname).2.2.1

/-! ## The place of one declared type -/

/-- The names that arranging lists after those of some declared types and of their scalars. -/
def laterNames (declared : OrderedMap TypeDef) (directives : OrderedMap DirectiveDef)
    (after : List (String × TypeDef)) : List String :=
  namesWithScalars declared after ++ (directiveScalars declared directives).map Prod.fst ++
    namesWithScalars declared introspectionEntries

theorem map_fst_arrangement (h : declared.entries = before ++ after) (directives : OrderedMap DirectiveDef) :
    (arrangement declared directives).map Prod.fst =
      namesWithScalars declared before ++ laterNames declared directives after := by
  rw [arrangement, List.map_append, List.map_append, h, laterNames, ← List.append_assoc, ← List.append_assoc,
    ← namesWithScalars_append]
  rfl

theorem keys_eq_append (h : declared.entries = before ++ after) :
    declared.keys = before.map Prod.fst ++ after.map Prod.fst := by
  rw [OrderedMap.keys, h, List.map_append]

theorem mem_keys_of_cut (h : declared.entries = before ++ entry :: after) : entry.1 ∈ declared.keys := by
  rw [keys_eq_append h, List.map_cons]
  exact List.mem_append_right _ List.mem_cons_self

/-- A declared type stands neither among those before it nor among their scalars. -/
theorem notMem_earlier (h : declared.entries = before ++ entry :: after) :
    entry.1 ∉ namesWithScalars declared before := by
  have hnodup : (before.map Prod.fst ++ (entry :: after).map Prod.fst).Nodup :=
    keys_eq_append h ▸ declared.nodup
  apply notMem_namesWithScalars (mem_keys_of_cut h)
  intro hmem
  exact (List.nodup_append.1 hnodup).2.2 _ hmem entry.1 List.mem_cons_self rfl

/-- A type and the scalars that it introduces stand together. -/
theorem keys_arrangeTypes_cut (h : declared.entries = before ++ entry :: after)
    (directives : OrderedMap DirectiveDef) :
    (arrangeTypes declared directives).keys =
      (namesWithScalars declared before).eraseDups ++
        entry.1 :: entry.2.body.introduces declared.keys (before.map Prod.snd) ++
          ((laterNames declared directives after).removeAll
            (namesWithScalars declared (before ++ [entry]))).eraseDups := by
  have hcut : declared.entries = (before ++ [entry]) ++ after := by
    rw [h, List.append_assoc, List.singleton_append]
  have hlast : namesWithScalars declared [entry] =
      entry.1 :: (Builtin.scalarEntries declared entry.2.body.referenced).map Prod.fst :=
    (namesWithScalars_cons []).trans (List.append_nil _)
  have hbefore : ∀ other ∈ before, other.1 ∈ declared.keys := by
    intro other hother
    rw [keys_eq_append h]
    exact List.mem_append_left _ (List.mem_map_of_mem hother)
  have hscalars : entry.1 ∉ (Builtin.scalarEntries declared entry.2.body.referenced).map Prod.fst := by
    rw [Builtin.map_fst_scalarEntries, List.mem_filter, decide_eq_true_eq]
    exact fun hmem => hmem.2.2 (mem_keys_of_cut h)
  rw [keys_arrangeTypes, map_fst_arrangement hcut, namesWithScalars_append, hlast, eraseDups_between,
    eraseDups_removeAll_cons (notMem_earlier h) hscalars, removeAll_scalarEntries hbefore]

/-- Of the names before a declared type the declared ones are those of the types before it. -/
theorem filter_earlier (h : declared.entries = before ++ after) :
    (namesWithScalars declared before).eraseDups.filter (· ∈ declared.keys) = before.map Prod.fst := by
  have hkeys := keys_eq_append h
  have hnodup : (before.map Prod.fst ++ after.map Prod.fst).Nodup := hkeys ▸ declared.nodup
  have hdeclared : (before.map Prod.fst).filter (· ∈ declared.keys) = before.map Prod.fst := by
    apply List.filter_eq_self.2
    intro name hname
    rw [hkeys]
    exact decide_eq_true (List.mem_append_left _ hname)
  rw [← eraseDups_filter, namesWithScalars, filter_withScalars, hdeclared,
    eraseDups_of_nodup (List.nodup_append.1 hnodup).1]

/-- Earlier types stand before a declared type, later ones stand after its scalars, the next one directly. -/
theorem keys_arrangeTypes_split (h : declared.entries = before ++ entry :: after)
    (directives : OrderedMap DirectiveDef) :
    ∃ front back, (arrangeTypes declared directives).keys =
        front ++ entry.1 :: entry.2.body.introduces declared.keys (before.map Prod.snd) ++ back ∧
      front.filter (· ∈ declared.keys) = before.map Prod.fst ∧
      back.filter (· ∈ declared.keys) = after.map Prod.fst ∧
      ∀ next ∈ after.head?, back.head? = some next.1 := by
  have hcut := keys_arrangeTypes_cut h directives
  refine ⟨_, _, hcut, filter_earlier h, ?_, ?_⟩
  · -- all declared names, without those up to this type
    have hall := filter_keys_arrangeTypes declared directives
    rw [hcut, List.filter_append, List.filter_append, filter_earlier h, List.filter_cons,
      if_pos (decide_eq_true (mem_keys_of_cut h)), filter_introduces, List.append_assoc] at hall
    exact (List.cons.inj (List.append_cancel_left (hall.trans (keys_eq_append h)))).2
  · intro next hnext
    obtain ⟨rest, rfl⟩ := List.head?_eq_some_iff.1 hnext
    have hnextCut : declared.entries = (before ++ [entry]) ++ next :: rest := by
      rw [h, List.append_assoc, List.singleton_append]
    apply head?_eraseDups_removeAll _ (notMem_earlier hnextCut)
    rfl

/-! ## Directives -/

/-- The directives that are not declared come last, in the order in which the language lists them. -/
theorem keys_allDirectives (draft : Draft) :
    draft.allDirectives.keys =
      draft.directives.keys ++ Builtin.directiveNames.filter (· ∉ draft.directives.keys) := by
  have hnames : (Builtin.directives.map fun directive => (directive.name, directive)).map Prod.fst =
      Builtin.directiveNames := rfl
  have hnodup : Builtin.directiveNames.Nodup := by decide
  have hnew : Builtin.directiveNames.removeAll draft.directives.keys =
      Builtin.directiveNames.filter (· ∉ draft.directives.keys) := by
    apply List.filter_congr
    intro name _
    simp
  rw [allDirectives_eq, OrderedMap.keys_insertAllNew, hnames, List.eraseDups_append, OrderedMap.eraseDups_keys,
    hnew, eraseDups_of_nodup (hnodup.sublist List.filter_sublist)]

theorem find?_allDirectives_of_builtin {draft : Draft} {directive : DirectiveDef}
    (hdirective : directive ∈ Builtin.directives) (hnew : directive.name ∉ draft.directives.keys) :
    draft.allDirectives.find? directive.name = some directive := by
  have hnodup : ((Builtin.directives.map fun directive => (directive.name, directive)).map Prod.fst).Nodup := by
    decide
  rw [allDirectives_eq, OrderedMap.find?_insertAllNew, OrderedMap.find?_eq_none_iff.2 hnew, Option.none_or]
  apply OrderedMap.lookup_eq_some_of_mem hnodup
  exact List.mem_map_of_mem (f := fun directive : DirectiveDef => (directive.name, directive)) hdirective

end Draft

/-! ## The order of a schema -/

/-- The declared types, as they are built, give the order of all types; built-in directives come last. -/
structure Schema.Ordered (schema : Schema) (ds : Declarations) (types : List TypeDef) : Prop where
  named : types.map (·.name) = ds.types.map (·.decl.name)
  built : ∀ definition ∈ ds.types, ∃ type ∈ types,
    schema.types.find? definition.decl.name = some type ∧
      type.Joins definition (ds.extensionsOf definition.decl.name)
  declared : schema.types.keys.filter (· ∈ types.map (·.name)) = types.map (·.name)
  /-- A type, the scalars that it introduces and the next type follow each other directly. -/
  scalars : ∀ before type after, types = before ++ type :: after → ∃ front back,
    schema.types.keys = front ++ type.name :: type.body.introduces (types.map (·.name)) before ++ back ∧
      front.filter (· ∈ types.map (·.name)) = before.map (·.name) ∧
      back.filter (· ∈ types.map (·.name)) = after.map (·.name) ∧
      ∀ next ∈ after.head?, back.head? = some next.name
  /-- The scalars of a type stand in the order in which it first mentions them. -/
  introduced : ∀ before type after, types = before ++ type :: after →
    type.body.Introduced (types.map (·.name)) before (type.body.introduces (types.map (·.name)) before)
  directives : schema.directives.keys = ds.directives.map (·.decl.name) ++
    Builtin.directiveNames.filter (· ∉ ds.directives.map (·.decl.name))
  declared_directives : ∀ definition ∈ ds.directives,
    schema.directives.find? definition.decl.name = some definition.directiveDef
  builtin_directives : ∀ directive ∈ Builtin.directives, directive.name ∉ ds.directives.map (·.decl.name) →
    schema.directives.find? directive.name = some directive

namespace Schema.Completes

variable {schema : Schema} {ds : Declarations} {draft : Draft} {declared : OrderedMap TypeDef}

theorem joins_declared (h : schema.Completes ds draft declared) {definition : Placed Sdl.TypeDecl}
    (hdefinition : definition ∈ ds.types) :
    ∃ type, declared.find? definition.decl.name = some type ∧
      schema.types.find? definition.decl.name = some type ∧
      type.Joins definition (ds.extensionsOf definition.decl.name) := by
  have hname : definition.decl.name ∈ declared.keys := by
    rw [h.keys_declared]
    exact List.mem_map_of_mem hdefinition
  obtain ⟨type, hfind, hextend⟩ := h.find?_declared hdefinition
  refine ⟨type, ?_, hfind, (TypeDef.joins_typeDef definition).extendAll hextend⟩
  rw [← Draft.find?_arrangeTypes_of_mem hname draft.allDirectives, ← h.types_eq]
  exact hfind

/-- Extensions leave names as they are, so declared types stand under their own names. -/
theorem keyed_declared (h : schema.Completes ds draft declared) : declared.Keyed (·.name) := by
  rintro ⟨name, type⟩ hmem
  have hname : name ∈ ds.types.map (·.decl.name) := by
    rw [← h.keys_declared]
    exact List.mem_map_of_mem hmem
  obtain ⟨definition, hdefinition, rfl⟩ := List.mem_map.1 hname
  obtain ⟨other, hother, -, hjoins⟩ := h.joins_declared hdefinition
  have hfind : declared.find? definition.decl.name = some type := OrderedMap.find?_eq_some_iff.2 hmem
  cases hfind.symm.trans hother
  exact hjoins.name

theorem ordered (h : schema.Completes ds draft declared) : schema.Ordered ds declared.values := by
  have hnames : declared.values.map (·.name) = declared.keys := h.keyed_declared.map_values
  constructor
  case named => rw [hnames, h.keys_declared]
  case built =>
    intro definition hdefinition
    obtain ⟨type, hdeclared, hfind, hjoins⟩ := h.joins_declared hdefinition
    exact ⟨type, OrderedMap.mem_values_iff.2 ⟨_, hdeclared⟩, hfind, hjoins⟩
  case declared =>
    rw [hnames, h.types_eq]
    exact Draft.filter_keys_arrangeTypes declared draft.allDirectives
  case scalars =>
    intro before type after hvalues
    obtain ⟨earlier, rest, hentries, rfl, hrest⟩ := List.map_eq_append_iff.1 hvalues
    obtain ⟨entry, later, rfl, rfl, rfl⟩ := List.map_eq_cons_iff.1 hrest
    have hpart : ∀ part : List (String × TypeDef), part ⊆ declared.entries →
        (part.map Prod.snd).map (·.name) = part.map Prod.fst := by
      intro part hsub
      rw [List.map_map]
      exact List.map_congr_left fun other hother => h.keyed_declared other (hsub hother)
    have hentry : entry.2.name = entry.1 := h.keyed_declared entry (by simp [hentries])
    obtain ⟨front, back, hkeys, hfront, hback, hnext⟩ :=
      Draft.keys_arrangeTypes_split hentries draft.allDirectives
    rw [hnames, hpart earlier (by simp [hentries]), hpart later (by simp [hentries]), hentry, h.types_eq]
    refine ⟨front, back, hkeys, hfront, hback, ?_⟩
    intro next hhead
    rw [List.head?_map] at hhead
    obtain ⟨other, hother, rfl⟩ := Option.map_eq_some_iff.1 hhead
    have hmem : other ∈ declared.entries := by
      rw [hentries]
      exact List.mem_append_right _ (List.mem_cons_of_mem _ (List.mem_of_head? hother))
    have hname : other.2.name = other.1 := h.keyed_declared other hmem
    rw [hnext other hother, hname]
  case introduced => exact fun before type after _ => type.body.introduced_introduces _ before
  case directives => rw [h.directives_eq, Draft.keys_allDirectives, h.keys_directives]
  case declared_directives => exact fun definition hdefinition => h.find?_directive hdefinition
  case builtin_directives =>
    intro directive hdirective hnew
    rw [← h.keys_directives] at hnew
    rw [h.directives_eq]
    exact Draft.find?_allDirectives_of_builtin hdirective hnew

end Schema.Completes

/--
Types stand in the order of their definitions, each with the scalars that it
introduces behind it; built-in directives stand after declared ones.
-/
theorem Schema.types_ordered {documents : List Document} {schema : Schema}
    (h : Schema.ofDocuments documents = .ok schema) :
    ∃ types, schema.Ordered (Document.declarations documents) types := by
  obtain ⟨draft, declared, hcompletes⟩ := Schema.completes_of_ofDocuments h
  exact ⟨declared.values, hcompletes.ordered⟩

/-- A built-in scalar and a built-in directive are declared, and a type is extended after the next one. -/
def Document.redeclared : List Document :=
  [⟨some "a.graphql", "type A { x: Int y: ID } scalar ID"⟩,
    ⟨some "b.graphql", "directive @skip on FIELD type B { z: String w: Int } extend type A { b: Boolean }"⟩]

theorem Schema.types_ordered_redeclared :
    ∃ (schema : Schema) (types : List TypeDef), Schema.ofDocuments Document.redeclared = .ok schema ∧
      types.map (·.name) = ["A", "ID", "B"] ∧
      schema.types.keys.filter (· ∈ types.map (·.name)) = ["A", "ID", "B"] ∧
      schema.types.keys.take 6 = ["A", "Int", "Boolean", "ID", "B", "String"] ∧
      schema.directives.keys = ["skip", "include", "deprecated", "specifiedBy"] := by
  have hkeys : (Schema.ofDocuments Document.redeclared).toOption.any (fun schema =>
      schema.types.keys.take 6 = ["A", "Int", "Boolean", "ID", "B", "String"]) = true := by
    decide +kernel
  have htypes : (Document.declarations Document.redeclared).types.map (·.decl.name) = ["A", "ID", "B"] := by
    decide +kernel
  have hdirectives : (Document.declarations Document.redeclared).directives.map (·.decl.name) =
      ["skip"] := by
    decide +kernel
  obtain ⟨schema, hschema, htake⟩ := Schema.exists_of_any hkeys
  obtain ⟨types, hordered⟩ := Schema.types_ordered hschema
  have hnames : types.map (·.name) = ["A", "ID", "B"] := hordered.named.trans htypes
  refine ⟨schema, types, hschema, hnames, hordered.declared.trans hnames, of_decide_eq_true htake, ?_⟩
  rw [hordered.directives, hdirectives]
  decide

end SchemaDoc
