-- SUMMARY: The arguments of a directive where it is first applied: declared ones in their order, then the others, written values before defaults.
import SchemaDoc.Proofs.Catalog.Groups
import SchemaDoc.Proofs.Handler.Values

/-!
# Arguments of an application

The arguments written where a directive is applied are completed by the defaults
that the directive declares. Declared arguments come first, in the order of their
declaration; what is written without being declared follows, in the order in which
it is written.
-/

namespace SchemaDoc

/-- The arguments of an application, completed by the defaults of the directive. -/
structure DirectiveDef.Completes (directive : DirectiveDef) (application : AppliedDirective)
    (values : OrderedMap Value) : Prop where
  keys : values.keys = directive.args.keys.filter (directive.hasValue application) ++
    application.args.keys.filter (!directive.args.contains ·)
  nodup : values.keys.Nodup
  written : ∀ argument value, application.args.find? argument = some value →
    values.find? argument = some value
  default : ∀ argument, argument ∉ application.args.keys →
    values.find? argument = (directive.args.find? argument).bind (·.default?)

namespace Item

variable {item other : Item} {directive : DirectiveDef} {application : AppliedDirective} {argument : String}

/-! ## Values and their order -/

/-- A declared argument is kept if it has a value. -/
theorem keys_declared (directive : DirectiveDef) (application : AppliedDirective) :
    (directive.args.filterMap fun name arg => (application.args.find? name).or arg.default?).keys =
      directive.args.keys.filter (directive.hasValue application) := by
  apply OrderedMap.keys_filterMap
  intro entry hentry
  have hfind : directive.args.find? entry.1 = some entry.2 := OrderedMap.find?_eq_some_iff.2 hentry
  rw [DirectiveDef.hasValue, hfind, OrderedMap.contains_eq_isSome, Option.isSome_or, Option.any_some]

theorem keys_argsOf (directive : DirectiveDef) (application : AppliedDirective) :
    (argsOf directive application).keys = directive.args.keys.filter (directive.hasValue application) ++
      application.args.keys.filter (!directive.args.contains ·) := by
  have hundeclared : application.args.keys.removeAll (directive.args.keys.filter (directive.hasValue application)) =
      application.args.keys.filter (!directive.args.contains ·) := by
    apply List.filter_congr
    intro name hname
    have hvalue : directive.hasValue application name = true := by
      rw [DirectiveDef.hasValue, OrderedMap.contains_iff.2 hname, Bool.true_or]
    have hmem : name ∈ directive.args.keys.filter (directive.hasValue application) ↔ name ∈ directive.args.keys := by
      rw [List.mem_filter]
      exact and_iff_left hvalue
    simp [OrderedMap.contains, hmem]
  have hnodup : (application.args.keys.filter (!directive.args.contains ·)).Nodup :=
    application.args.nodup.filter _
  refine (OrderedMap.keys_insertAllNew _ application.args.entries).trans ?_
  rw [List.eraseDups_append, OrderedMap.eraseDups_keys, keys_declared, ← OrderedMap.keys, hundeclared,
    eraseDups_of_nodup hnodup]

theorem completes_argsOf (directive : DirectiveDef) (application : AppliedDirective) :
    directive.Completes application (argsOf directive application) where
  keys := keys_argsOf directive application
  nodup := (argsOf directive application).nodup
  written := by
    intro argument value hwritten
    rw [find?_argsOf, hwritten]
    cases directive.args.find? argument <;> rfl
  default := by
    intro argument hwritten
    rw [find?_argsOf, OrderedMap.find?_eq_none_iff.2 hwritten, Option.or_none]
    rfl

/-! ## Where the directive is applied -/

theorem argValues_of_first (h : AppliedDirective.First item.applied directive.name application) :
    item.argValues directive = .ok (argsOf directive application) := by
  rw [argValues, AppliedDirective.first?_eq_some_iff.2 h]

theorem argValues_eq_error_iff {error : DirectiveError} :
    item.argValues directive = .error error ↔
      error = .notApplied directive.name item.name ∧
        ∀ application ∈ item.applied, application.name ≠ directive.name := by
  rw [argValues, ← AppliedDirective.first?_eq_none_iff]
  cases AppliedDirective.first? item.applied directive.name <;> simp [eq_comm]

theorem argValue_eq_ok_iff {value : Value} :
    item.argValue directive argument = .ok value ↔
      ∃ values, item.argValues directive = .ok values ∧ values.find? argument = some value := by
  rw [argValue, Result.bind_eq_ok_iff]
  refine exists_congr fun values => and_congr_right fun _ => ?_
  cases values.find? argument with
  | none => simp
  | some found => simp [Result.pure_eq_ok_iff]

/-- An argument has no value if its directive is not applied, or if it is applied without it. -/
theorem argValue_eq_error_iff {error : DirectiveError} :
    item.argValue directive argument = .error error ↔
      (error = .notApplied directive.name item.name ∧
          ∀ application ∈ item.applied, application.name ≠ directive.name) ∨
        ∃ values, item.argValues directive = .ok values ∧ argument ∉ values.keys ∧
          error = .argumentNotFound directive.name argument := by
  rw [← argValues_eq_error_iff, argValue]
  cases item.argValues directive with
  | error e => simp [bind, Except.bind]
  | ok values =>
    simp only [bind, Except.bind, reduceCtorEq, Except.ok.injEq, exists_eq_left', false_or,
      ← OrderedMap.find?_eq_none_iff]
    cases values.find? argument with
    | none => simp [throw, throwThe, MonadExceptOf.throw, eq_comm]
    | some value => simp [pure, Except.pure]

end Item

/--
The arguments of a directive on an item. There are none if it is not applied there, and
otherwise those of its first application, completed by the defaults. A single argument
is looked up among them.
-/
theorem Item.arguments_settled (item : Item) (directive : DirectiveDef) :
    (∀ error, item.argValues directive = .error error ↔
      error = .notApplied directive.name item.name ∧
        ∀ application ∈ item.applied, application.name ≠ directive.name) ∧
    (∀ application, AppliedDirective.First item.applied directive.name application →
      (∃ values, item.argValues directive = .ok values ∧ directive.Completes application values) ∧
        ∀ other : Item, AppliedDirective.First other.applied directive.name application →
          other.argValues directive = item.argValues directive) ∧
    ∀ argument,
      (∀ value, item.argValue directive argument = .ok value ↔
        ∃ values, item.argValues directive = .ok values ∧ values.find? argument = some value) ∧
      (∀ error, item.argValue directive argument = .error error ↔
        (error = .notApplied directive.name item.name ∧
            ∀ application ∈ item.applied, application.name ≠ directive.name) ∨
          ∃ values, item.argValues directive = .ok values ∧ argument ∉ values.keys ∧
            error = .argumentNotFound directive.name argument) := by
  refine ⟨fun _ => argValues_eq_error_iff, ?_, fun _ => ⟨fun _ => argValue_eq_ok_iff, fun _ => argValue_eq_error_iff⟩⟩
  intro application hfirst
  refine ⟨⟨_, argValues_of_first hfirst, completes_argsOf directive application⟩, ?_⟩
  intro other hother
  rw [argValues_of_first hfirst, argValues_of_first hother]

/-- A directive of whose arguments two have defaults. -/
def DirectiveDef.cache : DirectiveDef where
  name := "cache"
  description := none
  location := .builtin
  args := .ofList [("maxAge", ⟨"maxAge", none, .builtin, .named "Int" true, some (.int 60), []⟩),
    ("scope", ⟨"scope", none, .builtin, .named "String" true, none, []⟩),
    ("region", ⟨"region", none, .builtin, .named "String" true, some (.string "eu"), []⟩)]
  repeatable := true
  places := ["OBJECT"]

/-- The directive is applied twice, first with null in place of a default and with an unknown argument. -/
def Item.cached : Item where
  name := "Thing"
  applied := [⟨"tag", .empty⟩, ⟨"cache", .ofList [("extra", .int 1), ("region", .null)]⟩,
    ⟨"cache", .ofList [("scope", .string "private")]⟩]

theorem Item.arguments_settled_cached :
    ∃ application values, AppliedDirective.First Item.cached.applied DirectiveDef.cache.name application ∧
      Item.cached.argValues .cache = .ok values ∧ DirectiveDef.cache.Completes application values ∧
      values.keys = ["maxAge", "region", "extra"] ∧ Item.cached.argValue .cache "region" = .ok .null ∧
      Item.cached.argValue .cache "scope" = .error (.argumentNotFound "cache" "scope") := by
  let application : AppliedDirective := ⟨"cache", .ofList [("extra", .int 1), ("region", .null)]⟩
  have hfirst : AppliedDirective.First Item.cached.applied DirectiveDef.cache.name application :=
    ⟨rfl, [⟨"tag", .empty⟩], _, rfl, by simp [DirectiveDef.cache]⟩
  obtain ⟨-, happlied, hvalue⟩ := Item.arguments_settled .cached .cache
  obtain ⟨⟨values, hvalues, hcompletes⟩, -⟩ := happlied application hfirst
  have hkeys : values.keys = ["maxAge", "region", "extra"] := hcompletes.keys.trans (by decide)
  refine ⟨application, values, hfirst, hvalues, hcompletes, hkeys, ?_, ?_⟩
  · exact ((hvalue "region").1 .null).2 ⟨values, hvalues, hcompletes.written "region" .null rfl⟩
  · exact ((hvalue "scope").2 _).2 (.inr ⟨values, hvalues, by simp [hkeys], rfl⟩)

end SchemaDoc
