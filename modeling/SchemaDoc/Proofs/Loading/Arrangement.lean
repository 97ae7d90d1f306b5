-- SUMMARY: The order of all types: declared ones in theirs, each before the built-in scalars that it mentions first.
import SchemaDoc.Proofs.Loading.Extending

/-!
# Arranging types

All types of a schema are listed once with repetitions allowed: each declared
type and the built-in scalars it mentions, then the scalars that directives
mention, then each introspection type and the scalars it mentions. Arranging
keeps the first entry of each name of this list. Declared names never stand for
built-in scalars in it, so declared types keep their order and their content.
-/

namespace SchemaDoc

/-- The built-in scalars among some names, without the names of declared types. -/
def Builtin.scalarEntries (declared : OrderedMap TypeDef) (mentioned : List String) :
    List (String × TypeDef) :=
  mentioned.filterMap fun name =>
    if declared.contains name then none else (Builtin.scalar? name).map (name, ·)

/-- A type under its name, and the built-in scalars that it mentions. -/
def Builtin.withScalars (declared : OrderedMap TypeDef) (entry : String × TypeDef) :
    List (String × TypeDef) :=
  entry :: Builtin.scalarEntries declared entry.2.body.referenced

theorem Builtin.mem_scalarEntries {declared : OrderedMap TypeDef} {mentioned : List String}
    {entry : String × TypeDef} :
    entry ∈ Builtin.scalarEntries declared mentioned ↔
      entry.1 ∈ mentioned ∧ entry.1 ∉ declared.keys ∧ Builtin.scalar? entry.1 = some entry.2 := by
  obtain ⟨name, type⟩ := entry
  rw [Builtin.scalarEntries, List.mem_filterMap]
  constructor
  · rintro ⟨other, hmem, hentry⟩
    split at hentry
    · cases hentry
    · next hnew =>
      obtain ⟨scalar, hscalar, heq⟩ := Option.map_eq_some_iff.1 hentry
      cases heq
      exact ⟨hmem, fun h => hnew (OrderedMap.contains_iff.2 h), hscalar⟩
  · rintro ⟨hmem, hnew, hscalar⟩
    refine ⟨name, hmem, ?_⟩
    rw [if_neg (fun h => hnew (OrderedMap.contains_iff.1 h)), hscalar]
    rfl

namespace Draft

variable {declared : OrderedMap TypeDef}

/-! ## Arranging as insertion of one list -/

theorem addScalars_eq (declared types : OrderedMap TypeDef) (mentioned : List String) :
    addScalars declared types mentioned =
      types.insertAllNew (Builtin.scalarEntries declared mentioned) := by
  induction mentioned generalizing types with
  | nil => rfl
  | cons name rest ih =>
    have hstep : addScalars declared types (name :: rest) =
        addScalars declared (addScalar declared types name) rest := rfl
    rw [hstep, ih, Builtin.scalarEntries, Builtin.scalarEntries, List.filterMap_cons, addScalar]
    by_cases hdeclared : declared.contains name
    · simp only [hdeclared, if_true]
    · cases hscalar : Builtin.scalar? name with
      | none => simp only [hdeclared, Bool.false_eq_true, if_false, Option.map_none]
      | some scalar =>
        simp only [hdeclared, Bool.false_eq_true, if_false, Option.map_some]
        rfl

/-- Steps that insert lists of new entries insert all of them together. -/
theorem foldl_insertAllNew {α β : Type} {step : OrderedMap β → α → OrderedMap β}
    {entries : α → List (String × β)} (items : List α) (types : OrderedMap β)
    (hstep : ∀ types item, step types item = types.insertAllNew (entries item)) :
    items.foldl step types = types.insertAllNew (items.flatMap entries) := by
  induction items generalizing types with
  | nil => rfl
  | cons item rest ih =>
    rw [List.foldl_cons, ih, hstep, List.flatMap_cons, OrderedMap.insertAllNew_append]

/-- Scalars are no declared types, so a declared type that is still to come is not there yet. -/
theorem foldl_declared (rest : List (String × TypeDef)) (types : OrderedMap TypeDef)
    (hnodup : (rest.map Prod.fst).Nodup) (hrest : ∀ entry ∈ rest, entry.1 ∈ declared.keys)
    (hnew : ∀ entry ∈ rest, entry.1 ∉ types.keys) :
    rest.foldl (fun types entry =>
        addScalars declared (types.insert entry.1 entry.2) entry.2.body.referenced) types =
      types.insertAllNew (rest.flatMap (Builtin.withScalars declared)) := by
  induction rest generalizing types with
  | nil => rfl
  | cons entry rest ih =>
    rw [List.map_cons, List.nodup_cons] at hnodup
    have hinsert : types.insert entry.1 entry.2 = types.insertNew entry.1 entry.2 :=
      (OrderedMap.insertNew_of_notMem entry.2 (hnew entry List.mem_cons_self)).symm
    have hstep : addScalars declared (types.insert entry.1 entry.2) entry.2.body.referenced =
        types.insertAllNew (Builtin.withScalars declared entry) := by
      rw [addScalars_eq, hinsert]
      rfl
    rw [List.foldl_cons, hstep, List.flatMap_cons, OrderedMap.insertAllNew_append]
    refine ih _ hnodup.2 (fun other hother => hrest other (List.mem_cons_of_mem _ hother)) ?_
    intro other hother hmem
    rw [OrderedMap.keys_insertAllNew, List.mem_eraseDups, List.mem_append, Builtin.withScalars,
      List.map_cons, List.mem_cons] at hmem
    rcases hmem with hbefore | heq | hscalar
    · exact hnew other (List.mem_cons_of_mem _ hother) hbefore
    · exact hnodup.1 (heq ▸ List.mem_map_of_mem hother)
    · obtain ⟨scalar, hscalar, heq⟩ := List.mem_map.1 hscalar
      have hundeclared := (Builtin.mem_scalarEntries.1 hscalar).2.1
      exact hundeclared (heq ▸ hrest other (List.mem_cons_of_mem _ hother))

/-- The introspection types under their names. -/
def introspectionEntries : List (String × TypeDef) :=
  Builtin.introspection.map fun type => (type.name, type)

/-- The built-in scalars that directives mention. -/
def directiveScalars (declared : OrderedMap TypeDef) (directives : OrderedMap DirectiveDef) :
    List (String × TypeDef) :=
  directives.values.flatMap fun directive =>
    Builtin.scalarEntries declared (directive.args.values.map (·.type.name))

/-- What arranging lists; a name may occur in it more than once. -/
def arrangement (declared : OrderedMap TypeDef) (directives : OrderedMap DirectiveDef) :
    List (String × TypeDef) :=
  declared.entries.flatMap (Builtin.withScalars declared) ++ directiveScalars declared directives
    ++ introspectionEntries.flatMap (Builtin.withScalars declared)

theorem arrangeTypes_eq (declared : OrderedMap TypeDef) (directives : OrderedMap DirectiveDef) :
    arrangeTypes declared directives = OrderedMap.empty.insertAllNew (arrangement declared directives) := by
  have hdeclared := foldl_declared declared.entries .empty declared.nodup
    (fun entry hentry => List.mem_map_of_mem hentry) (fun entry _ hmem => nomatch hmem)
  have hdirectives : ∀ types, directives.values.foldl (fun types directive =>
        addScalars declared types (directive.args.values.map (·.type.name))) types =
      types.insertAllNew (directiveScalars declared directives) :=
    fun types => foldl_insertAllNew _ types fun types _ => addScalars_eq declared types _
  have hintrospection : ∀ types, Builtin.introspection.foldl (fun types type =>
        addScalars declared (types.insertNew type.name type) type.body.referenced) types =
      types.insertAllNew (introspectionEntries.flatMap (Builtin.withScalars declared)) := by
    intro types
    rw [introspectionEntries, List.flatMap_map]
    apply foldl_insertAllNew
    intro types type
    rw [addScalars_eq]
    rfl
  simp only [arrangeTypes, hdeclared, hdirectives, hintrospection, arrangement,
    OrderedMap.insertAllNew_append]

theorem keys_arrangeTypes (declared : OrderedMap TypeDef) (directives : OrderedMap DirectiveDef) :
    (arrangeTypes declared directives).keys =
      ((arrangement declared directives).map Prod.fst).eraseDups := by
  rw [arrangeTypes_eq, OrderedMap.keys_insertAllNew]
  rfl

theorem find?_arrangeTypes (declared : OrderedMap TypeDef) (directives : OrderedMap DirectiveDef)
    (name : String) :
    (arrangeTypes declared directives).find? name = (arrangement declared directives).lookup name := by
  rw [arrangeTypes_eq, OrderedMap.find?_insertAllNew]
  rfl

/-! ## Declared types -/

/-- Each name is followed only by names that are not declared. -/
theorem filter_withScalars (entries : List (String × TypeDef)) :
    ((entries.flatMap (Builtin.withScalars declared)).map Prod.fst).filter (· ∈ declared.keys) =
      (entries.map Prod.fst).filter (· ∈ declared.keys) := by
  induction entries with
  | nil => rfl
  | cons entry rest ih =>
    have hscalars : ((Builtin.scalarEntries declared entry.2.body.referenced).map Prod.fst).filter
        (· ∈ declared.keys) = [] := by
      rw [List.filter_eq_nil_iff]
      intro name hname
      obtain ⟨scalar, hscalar, rfl⟩ := List.mem_map.1 hname
      simpa using (Builtin.mem_scalarEntries.1 hscalar).2.1
    rw [List.flatMap_cons, List.map_append, List.filter_append, ih, Builtin.withScalars,
      List.map_cons, List.map_cons, List.filter_cons, List.filter_cons, hscalars]
    split <;> rfl

/-- Declared types stand in the order of their definitions. -/
theorem filter_keys_arrangeTypes (declared : OrderedMap TypeDef) (directives : OrderedMap DirectiveDef) :
    (arrangeTypes declared directives).keys.filter (· ∈ declared.keys) = declared.keys := by
  have hall : declared.keys.filter (· ∈ declared.keys) = declared.keys := by
    rw [List.filter_eq_self]
    intro name hname
    simpa using hname
  have hdirectives : ((directiveScalars declared directives).map Prod.fst).filter
      (· ∈ declared.keys) = [] := by
    rw [List.filter_eq_nil_iff]
    intro name hname
    obtain ⟨scalar, hscalar, rfl⟩ := List.mem_map.1 hname
    obtain ⟨directive, -, hentry⟩ := List.mem_flatMap.1 hscalar
    simpa using (Builtin.mem_scalarEntries.1 hentry).2.1
  -- An introspection type that is declared too has its place among the declared ones.
  have hlate : ∀ names : List String, (names.filter (· ∈ declared.keys)).removeAll declared.keys = [] := by
    intro names
    rw [List.removeAll, List.filter_eq_nil_iff]
    intro name hname
    simpa using (List.mem_filter.1 hname).2
  have hkeys : declared.entries.map Prod.fst = declared.keys := rfl
  rw [keys_arrangeTypes, ← eraseDups_filter, arrangement, List.map_append, List.map_append,
    List.filter_append, List.filter_append, filter_withScalars, filter_withScalars, hkeys, hall,
    hdirectives, List.append_nil, List.eraseDups_append, hlate, OrderedMap.eraseDups_keys]
  simp

theorem lookup_withScalars {name : String} (h : name ∈ declared.keys)
    (entries : List (String × TypeDef)) :
    (entries.flatMap (Builtin.withScalars declared)).lookup name = entries.lookup name := by
  induction entries with
  | nil => rfl
  | cons entry rest ih =>
    have hscalars : (Builtin.scalarEntries declared entry.2.body.referenced).lookup name = none := by
      rw [List.lookup_eq_none_iff]
      intro scalar hscalar
      have hundeclared := (Builtin.mem_scalarEntries.1 hscalar).2.1
      have hne : name ≠ scalar.1 := fun e => hundeclared (e ▸ h)
      simpa using hne
    rw [List.flatMap_cons, Builtin.withScalars, List.cons_append, List.lookup_cons, List.lookup_cons,
      List.lookup_append, hscalars, ih, Option.none_or]

/-- A declared type is never replaced by a type of the language. -/
theorem find?_arrangeTypes_of_mem {name : String} (h : name ∈ declared.keys)
    (directives : OrderedMap DirectiveDef) :
    (arrangeTypes declared directives).find? name = declared.find? name := by
  obtain ⟨type, htype⟩ := Option.isSome_iff_exists.1 (OrderedMap.find?_isSome_iff.2 h)
  have hlookup : declared.entries.lookup name = some type := htype
  rw [find?_arrangeTypes, arrangement, List.lookup_append, List.lookup_append,
    lookup_withScalars h, hlookup, htype]
  rfl

/-- Each type is declared, or else a built-in scalar or an introspection type. -/
theorem mem_entries_arrangeTypes {directives : OrderedMap DirectiveDef} {entry : String × TypeDef}
    (h : entry ∈ (arrangeTypes declared directives).entries) :
    entry ∈ declared.entries ∨ (entry.1 ∉ declared.keys ∧
      (Builtin.scalar? entry.1 = some entry.2 ∨ entry ∈ introspectionEntries)) := by
  have hfind : (arrangeTypes declared directives).find? entry.1 = some entry.2 :=
    OrderedMap.find?_eq_some_iff.2 h
  by_cases hdeclared : entry.1 ∈ declared.keys
  · rw [find?_arrangeTypes_of_mem hdeclared] at hfind
    exact .inl (OrderedMap.find?_eq_some_iff.1 hfind)
  · refine .inr ⟨hdeclared, ?_⟩
    have hscalar : ∀ mentioned, entry ∈ Builtin.scalarEntries declared mentioned →
        Builtin.scalar? entry.1 = some entry.2 :=
      fun mentioned hmem => (Builtin.mem_scalarEntries.1 hmem).2.2
    rw [find?_arrangeTypes] at hfind
    have hmem : entry ∈ arrangement declared directives := OrderedMap.mem_of_lookup_eq_some hfind
    simp only [arrangement, directiveScalars, Builtin.withScalars, List.mem_append, List.mem_flatMap,
      List.mem_cons] at hmem
    rcases hmem with (⟨type, htype, rfl | hmem⟩ | ⟨directive, -, hmem⟩) | ⟨type, htype, rfl | hmem⟩
    · exact absurd (List.mem_map_of_mem htype) hdeclared
    · exact .inl (hscalar _ hmem)
    · exact .inl (hscalar _ hmem)
    · exact .inr htype
    · exact .inl (hscalar _ hmem)

/-! ## Directives -/

theorem allDirectives_eq (draft : Draft) :
    draft.allDirectives =
      draft.directives.insertAllNew (Builtin.directives.map fun directive => (directive.name, directive)) := by
  rw [allDirectives, OrderedMap.insertAllNew, List.foldl_map]

/-- Each directive is declared, or else a built-in one under its name. -/
theorem mem_entries_allDirectives {draft : Draft} {entry : String × DirectiveDef}
    (h : entry ∈ draft.allDirectives.entries) :
    entry ∈ draft.directives.entries ∨ (entry.1 ∉ draft.directives.keys ∧
      entry.2 ∈ Builtin.directives ∧ entry.2.name = entry.1) := by
  obtain ⟨name, directive⟩ := entry
  have hfind := OrderedMap.find?_eq_some_iff.2 h
  rw [allDirectives_eq, OrderedMap.find?_insertAllNew] at hfind
  cases hdeclared : draft.directives.find? name with
  | some found =>
    rw [hdeclared, Option.some_or, Option.some.injEq] at hfind
    subst hfind
    exact .inl (OrderedMap.find?_eq_some_iff.1 hdeclared)
  | none =>
    rw [hdeclared, Option.none_or] at hfind
    obtain ⟨builtin, hmem, heq⟩ := List.mem_map.1 (OrderedMap.mem_of_lookup_eq_some hfind)
    cases heq
    exact .inr ⟨OrderedMap.find?_eq_none_iff.1 hdeclared, hmem, rfl⟩

end Draft

end SchemaDoc
