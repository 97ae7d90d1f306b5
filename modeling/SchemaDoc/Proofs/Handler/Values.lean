-- SUMMARY: When the templates of the directives applied to an item have a value for each placeholder.
import SchemaDoc.Handler.Custom
import SchemaDoc.Proofs.Catalog.Lookup
import SchemaDoc.Proofs.Results

/-!
# Values for templates

A placeholder of a template has a value where its directive is first applied to
an item: the argument is written there, or a default is declared. A template
gives a text exactly if each of its placeholders has one.
-/

namespace SchemaDoc

/-! ## Filling templates in -/

namespace Template

theorem mem_placeholders_iff {template word : String} :
    word ∈ placeholders template ↔ .placeholder word ∈ pieces template.toList := by
  simp only [placeholders, List.mem_filterMap]
  constructor
  · rintro ⟨piece, hpiece, hword⟩
    cases piece with
    | char c => cases hword
    | placeholder other =>
      cases hword
      exact hpiece
  · intro hpiece
    exact ⟨_, hpiece, rfl⟩

theorem isOk_fill_iff {ε : Type} {resolve : String → Except ε String} {parts : List Piece} :
    (fill resolve parts).isOk = true ↔
      ∀ word, .placeholder word ∈ parts → (resolve word).isOk = true := by
  induction parts with
  | nil => simp [fill, Except.toBool]
  | cons part rest ih =>
    cases part with
    | char c =>
      simp only [List.mem_cons, reduceCtorEq, false_or, ← ih]
      rw [fill, bind_pure_comp, Result.isOk_map]
    | placeholder word =>
      simp only [List.mem_cons, Piece.placeholder.injEq, forall_eq_or_imp, ← ih]
      refine Result.isOk_bind_iff fun text => ?_
      rw [bind_pure_comp, Result.isOk_map]

end Template

/-! ## Values of arguments -/

/-- Whether an argument has a value where a directive is applied: it is written, or has a default. -/
def DirectiveDef.hasValue (directive : DirectiveDef) (application : AppliedDirective)
    (argument : String) : Bool :=
  application.args.contains argument || (directive.args.find? argument).any (·.default?.isSome)

namespace Item

variable {item : Item} {directive : DirectiveDef} {application : AppliedDirective} {argument : String}

theorem find?_argsOf (directive : DirectiveDef) (application : AppliedDirective) (argument : String) :
    (argsOf directive application).find? argument =
      ((directive.args.find? argument).bind fun arg =>
        (application.args.find? argument).or arg.default?).or (application.args.find? argument) := by
  refine (OrderedMap.find?_insertAllNew _ application.args.entries argument).trans ?_
  rw [OrderedMap.find?_filterMap]
  rfl

theorem isSome_find?_argsOf (directive : DirectiveDef) (application : AppliedDirective)
    (argument : String) :
    ((argsOf directive application).find? argument).isSome = directive.hasValue application argument := by
  rw [find?_argsOf, DirectiveDef.hasValue, OrderedMap.contains_eq_isSome]
  cases directive.args.find? argument with
  | none => simp
  | some arg => cases application.args.find? argument <;> simp

theorem isOk_argValue (h : AppliedDirective.first? item.applied directive.name = some application) :
    (item.argValue directive argument).isOk = directive.hasValue application argument := by
  rw [← isSome_find?_argsOf, argValue, argValues, h, Bool.eq_iff_iff, Result.isOk_iff]
  simp only [Result.bind_eq_ok_iff, Except.ok.injEq, exists_eq_left']
  cases (argsOf directive application).find? argument with
  | none => simp
  | some value => simp [Result.pure_eq_ok_iff]

end Item

/-! ## Templates -/

def Handler.isTemplate : Handler → Bool
  | .template _ => true
  | .native _ => false

/-- A template gives a text if its placeholders have values where the directive is first applied. -/
theorem Handler.isOk_apply_iff {handler : Handler} (htemplate : handler.isTemplate = true)
    {directive : DirectiveDef} {item : Item} {application : AppliedDirective}
    (h : AppliedDirective.first? item.applied directive.name = some application) :
    (handler.apply directive item).isOk = true ↔
      ∀ argument ∈ handler.placeholders, directive.hasValue application argument = true := by
  cases handler with
  | native run => cases htemplate
  | template text =>
    have hresolve : ∀ argument, (Value.plainText <$> item.argValue directive argument).isOk =
        directive.hasValue application argument := by
      intro argument
      rw [Result.isOk_map, Item.isOk_argValue h]
    simp only [apply, placeholders, Template.isOk_fill_iff, Template.mem_placeholders_iff, hresolve]

/-- Whether a handler lacks a value for a placeholder where its directive is first applied to the item. -/
def CustomDirective.lacksValue (custom : CustomDirective) (handler : Handlers → Option Handler)
    (item : Item) : Bool :=
  (AppliedDirective.first? item.applied custom.definition.name).any fun application =>
    (handler custom.handlers).any (·.placeholders.any (!custom.definition.hasValue application ·))

/-- Whether some custom directive lacks a value on the item. -/
def Item.lacksValue (item : Item) (customs : OrderedMap CustomDirective)
    (handler : Handlers → Option Handler) : Bool :=
  customs.values.any (·.lacksValue handler item)

/-- A template that does not lack a value gives a text wherever its directive is applied. -/
theorem CustomDirective.lacksValue_eq_false_iff {custom : CustomDirective}
    {handler : Handlers → Option Handler} {item : Item}
    (htemplate : (handler custom.handlers).all Handler.isTemplate = true) :
    custom.lacksValue handler item = false ↔
      (item.carries custom.definition.name = true → ∀ own, handler custom.handlers = some own →
        (own.apply custom.definition item).isOk = true) := by
  have hcarries : item.carries custom.definition.name =
      (AppliedDirective.first? item.applied custom.definition.name).isSome := List.isSome_find?.symm
  rw [lacksValue, hcarries]
  cases hfirst : AppliedDirective.first? item.applied custom.definition.name with
  | none => simp
  | some application =>
    cases hown : handler custom.handlers with
    | none => simp
    | some own =>
      rw [hown] at htemplate
      simp [Handler.isOk_apply_iff htemplate hfirst]

/-! ## The custom directives of an item -/

namespace Item

variable {item : Item} {customs : OrderedMap CustomDirective}

/-- Adds the custom directive that is applied, if it is one. -/
def collect (customs found : OrderedMap CustomDirective) (application : AppliedDirective) :
    OrderedMap CustomDirective :=
  match customs.find? application.name with
  | some custom => found.insertNew application.name custom
  | none => found

theorem find?_collect (customs found : OrderedMap CustomDirective) (application : AppliedDirective)
    (name : String) :
    (collect customs found application).find? name =
      (found.find? name).or (if application.name = name then customs.find? name else none) := by
  unfold collect
  split
  · next custom hfind =>
    simp only [OrderedMap.find?_insertNew, eq_comm (a := name)]
    congr 1
    split
    · next heq => rw [← heq, hfind]
    · rfl
  · next hfind =>
    split
    · next heq => rw [← heq, hfind, Option.or_none]
    · rw [Option.or_none]

theorem find?_foldl_collect (customs found : OrderedMap CustomDirective)
    (applied : List AppliedDirective) (name : String) :
    (applied.foldl (collect customs) found).find? name =
      (found.find? name).or
        (if AppliedDirective.carries applied name then customs.find? name else none) := by
  induction applied generalizing found with
  | nil => simp [AppliedDirective.carries]
  | cons application rest ih =>
    rw [List.foldl_cons, ih, find?_collect, Option.or_assoc]
    congr 1
    simp only [AppliedDirective.carries, List.any_cons, Bool.or_eq_true, beq_iff_eq]
    by_cases heq : application.name = name
    · cases customs.find? name <;> simp [heq]
    · simp [heq]

/-- A custom directive is found if it is applied. -/
theorem find?_customDirectives (item : Item) (customs : OrderedMap CustomDirective) (name : String) :
    (item.customDirectives customs).find? name =
      if item.carries name then customs.find? name else none :=
  find?_foldl_collect customs .empty item.applied name

theorem mem_customDirectives_iff (hkeyed : customs.Keyed (·.definition.name)) {custom : CustomDirective} :
    custom ∈ (item.customDirectives customs).values ↔
      custom ∈ customs.values ∧ item.carries custom.definition.name = true := by
  simp only [OrderedMap.mem_values_iff, find?_customDirectives, Option.ite_none_right_eq_some]
  have hname : ∀ {name}, customs.find? name = some custom → custom.definition.name = name :=
    fun hfind => hkeyed _ (OrderedMap.find?_eq_some_iff.1 hfind)
  constructor
  · rintro ⟨name, hcarries, hfind⟩
    exact ⟨⟨name, hfind⟩, hname hfind ▸ hcarries⟩
  · rintro ⟨⟨name, hfind⟩, hcarries⟩
    exact ⟨name, hname hfind ▸ hcarries, hfind⟩

end Item

/-! ## The custom directives of a catalog -/

/-- Whether all handlers of a table are templates. -/
def HandlerTable.areTemplates (table : HandlerTable) : Bool :=
  table.values.all fun handlers =>
    handlers.descriptor.all Handler.isTemplate && handlers.tag.all Handler.isTemplate

theorem HandlerTable.mem_of_handlersFor? {table : HandlerTable} {directive : String} {handlers : Handlers}
    (h : table.handlersFor? directive = some handlers) : handlers ∈ table.values := by
  rw [handlersFor?, Option.or_eq_some_iff] at h
  rcases h with hown | ⟨-, hwildcard⟩
  · exact OrderedMap.mem_values_iff.2 ⟨directive, hown⟩
  · exact OrderedMap.mem_values_iff.2 ⟨wildcard, hwildcard⟩

theorem HandlerTable.matched?_eq_some {table : HandlerTable} {entity : Entity} {custom : CustomDirective}
    (h : table.matched? entity = some custom) :
    entity = .directive custom.definition ∧ custom.handlers ∈ table.values := by
  cases entity with
  | type type => cases h
  | operation kind field => cases h
  | directive directive =>
    simp only [matched?] at h
    split at h
    · cases h
    · obtain ⟨handlers, hhandlers, rfl⟩ := Option.map_eq_some_iff.1 h
      exact ⟨rfl, mem_of_handlersFor? hhandlers⟩

namespace Catalog

variable {catalog : Catalog} {table : HandlerTable} {customs : OrderedMap CustomDirective}

theorem matched_of_customDirectives (h : catalog.customDirectives table = .ok customs) :
    catalog.matched table = customs := by
  simp only [customDirectives] at h
  split at h
  · cases h
  · exact Except.ok.inj h

/-- A custom directive stands under the name of its definition. -/
theorem Keyed.keyed_customs (hkeyed : catalog.Keyed) (h : catalog.customDirectives table = .ok customs) :
    customs.Keyed (·.definition.name) := by
  obtain rfl := matched_of_customDirectives h
  rintro ⟨name, custom⟩ hentry
  obtain ⟨entity, hfind, hmatched⟩ := Option.bind_eq_some_iff.1
    ((OrderedMap.find?_filterMap _ _ _).symm.trans (OrderedMap.find?_eq_some_iff.2 hentry))
  obtain ⟨rfl, -⟩ := HandlerTable.matched?_eq_some hmatched
  exact (hkeyed .directives _ (OrderedMap.find?_eq_some_iff.1 hfind)).1

theorem handlers_of_mem_customs (h : catalog.customDirectives table = .ok customs)
    {custom : CustomDirective} (hcustom : custom ∈ customs.values) : custom.handlers ∈ table.values := by
  obtain rfl := matched_of_customDirectives h
  obtain ⟨name, hfind⟩ := OrderedMap.mem_values_iff.1 hcustom
  rw [matched, OrderedMap.find?_filterMap] at hfind
  obtain ⟨entity, -, hmatched⟩ := Option.bind_eq_some_iff.1 hfind
  exact (HandlerTable.matched?_eq_some hmatched).2

end Catalog

end SchemaDoc
