-- SUMMARY: Settings are read exactly if all keys are known, each setting from its own key or else as its default, and no directive keeps an `@`.
import SchemaDoc.Proofs.Results
import SchemaDoc.Proofs.Settings.CompactForm
import SchemaDoc.Proofs.Text.Pieces

/-!
# Reading settings

What a configuration has to be for some settings to be read from it. Nothing in it
goes without a meaning: each key is known, at the top and in the tables below. Each
setting is read from what its own key holds, or has its default if the key is absent,
whatever the other keys hold. Names of directives are read without `@`.
-/

namespace SchemaDoc

namespace RawSetting

variable {form : ConfigForm} {keys : List String} {raw : RawSetting} {α : Type}

/-! ## Keys -/

/-- What is given for a key: by its name in a table, by its place in a list. -/
def given? (keys : List String) (key : String) : RawSetting → Option RawSetting
  | .table entries => entries.lookup key
  | .list items => (keys.zip items).lookup key
  | _ => none

/-- A table all of whose keys are known, or a list with no item beyond the last key. -/
def Known (form : ConfigForm) (keys : List String) : RawSetting → Prop
  | .table entries => ∀ entry ∈ entries, entry.1 ∈ keys
  | .list items => form = .file ∨ items.length ≤ keys.length
  | _ => False

theorem fields?_eq_some_iff {fields : String → Option RawSetting} :
    raw.fields? form keys = some fields ↔ raw.Known form keys ∧ (raw.given? keys ·) = fields := by
  cases raw with
  | table entries => simp [fields?, Known, given?, List.all_eq_true]
  | list items => simp [fields?, Known, given?]
  | _ => simp [fields?, Known]

/-- A setting with a default is read from what is given for it, if there is anything. -/
inductive Settled (default : α) (Reads : RawSetting → α → Prop) : Option RawSetting → α → Prop
  | absent : Settled default Reads none default
  | given {raw : RawSetting} {value : α} (h : Reads raw value) : Settled default Reads (some raw) value

theorem orDefault_eq_some_iff {default value : α} {read : RawSetting → Option α}
    {Reads : RawSetting → α → Prop} {given : Option RawSetting}
    (hread : ∀ raw value, read raw = some value ↔ Reads raw value) :
    orDefault default read given = some value ↔ Settled default Reads given value := by
  cases given with
  | none =>
    rw [orDefault, Option.some.injEq]
    constructor
    · rintro rfl
      exact .absent
    · rintro ⟨⟩
      rfl
  | some raw =>
    rw [orDefault, hread]
    constructor
    · exact .given
    · rintro ⟨⟩
      assumption

theorem Settled.of_given {default value : α} {Reads : RawSetting → α → Prop}
    (h : Settled default Reads (some raw) value) : Reads raw value := by
  cases h
  assumption

/-! ## Values -/

def IsBool (raw : RawSetting) (value : Bool) : Prop := raw = .bool value

def IsText (raw : RawSetting) (value : String) : Prop := raw = .text value

theorem bool?_eq_some_iff (raw : RawSetting) (value : Bool) : raw.bool? = some value ↔ raw.IsBool value := by
  cases raw <;> simp [bool?, IsBool]

theorem text?_eq_some_iff (raw : RawSetting) (value : String) : raw.text? = some value ↔ raw.IsText value := by
  cases raw <;> simp [text?, IsText]

/-- A word on its own, or with nothing as its value. -/
inductive Says (form : ConfigForm) (word : String) : RawSetting → Prop
  | plain : Says form word (.text word)
  | keyed {nothing : RawSetting} (h : isNoValue form nothing = true) : Says form word (.table [(word, nothing)])

theorem word?_eq_some_iff {meaning : String → Option α} {spelling : α → String}
    (hmeaning : ∀ word value, meaning word = some value ↔ word = spelling value) {value : α} :
    word? form meaning raw = some value ↔ raw.Says form (spelling value) := by
  constructor
  · intro h
    unfold word? at h
    split at h
    · rw [(hmeaning _ _).1 h]
      exact .plain
    · split at h
      · next hnothing =>
        rw [(hmeaning _ _).1 h]
        exact .keyed hnothing
      · cases h
    · cases h
  · rintro (_ | hnothing)
    · exact (hmeaning _ _).2 rfl
    · rw [word?, if_pos hnothing]
      exact (hmeaning _ _).2 rfl

/-- The word for a way to show deprecated members. -/
def deprecatedWord : DeprecatedMode → String
  | .inline => "default"
  | .group => "group"
  | .skip => "skip"

def hierarchyWord : Hierarchy → String
  | .api => "api"
  | .entity => "entity"
  | .flat => "flat"

theorem deprecatedMode?_eq_some_iff (raw : RawSetting) (mode : DeprecatedMode) :
    raw.deprecatedMode? form = some mode ↔ raw.Says form (deprecatedWord mode) := by
  refine word?_eq_some_iff fun word mode => ⟨fun h => ?_, ?_⟩
  · split at h <;> cases h <;> rfl
  · rintro rfl
    cases mode <;> rfl

theorem hierarchy?_eq_some_iff (raw : RawSetting) (hierarchy : Hierarchy) :
    raw.hierarchy? form = some hierarchy ↔ raw.Says form (hierarchyWord hierarchy) := by
  refine word?_eq_some_iff fun word hierarchy => ⟨fun h => ?_, ?_⟩
  · split at h <;> cases h <;> rfl
  · rintro rfl
    cases hierarchy <;> rfl

/-! ## Names of directives -/

/-- A name does not start with `@`. -/
def IsBare (name : String) : Prop := name.toList.head? ≠ some '@'

theorem isBare_of_isWord {word : String} (h : Text.IsWord word) : IsBare word := by
  -- A word does not start with what is no word character.
  intro hhead
  have hchar := h.chars '@' (List.mem_of_mem_head? hhead)
  revert hchar
  decide

/-- A directive is named with or without `@` before its name. -/
def Names (text directive : String) : Prop :=
  IsBare directive ∧ ∃ marks : String, text = marks ++ directive ∧ ∀ c ∈ marks.toList, c = '@'

theorem withoutAt_eq_iff {text directive : String} : withoutAt text = directive ↔ Names text directive :=
  Text.ofList_dropWhile_eq_iff fun _ => beq_iff_eq

/-- A text that names a directive. -/
def IsDirective (raw : RawSetting) (directive : String) : Prop := ∃ text, raw = .text text ∧ Names text directive

/-- A text that names a directive, or a list of such texts. -/
inductive AreDirectives : RawSetting → List String → Prop
  | one {raw : RawSetting} {directive : String} (h : IsDirective raw directive) : AreDirectives raw [directive]
  | many {items : List RawSetting} {directives : List String} (h : List.Forall₂ IsDirective items directives) :
      AreDirectives (.list items) directives

theorem mapM_eq_some_iff {β : Type} {f : α → Option β} {xs : List α} {ys : List β} :
    xs.mapM f = some ys ↔ List.Forall₂ (fun x y => f x = some y) xs ys := by
  induction xs generalizing ys with
  | nil => simp [eq_comm]
  | cons x xs ih =>
    simp only [List.mapM_cons, Option.bind_eq_bind, Option.bind_eq_some_iff, Option.pure_def, Option.some.injEq, ih,
      List.forall₂_cons_left_iff]
    constructor
    · rintro ⟨y, hy, rest, hrest, rfl⟩
      exact ⟨y, rest, hy, hrest, rfl⟩
    · rintro ⟨y, rest, hy, hrest, rfl⟩
      exact ⟨y, hy, rest, hrest, rfl⟩

theorem directiveNames?_eq_some_iff (raw : RawSetting) (directives : List String) :
    raw.directiveNames? = some directives ↔ raw.AreDirectives directives := by
  constructor
  · intro h
    cases raw with
    | text text =>
      cases h
      exact .one ⟨text, rfl, withoutAt_eq_iff.1 rfl⟩
    | list items =>
      obtain ⟨texts, htexts, rfl⟩ := Option.map_eq_some_iff.1 h
      refine .many (List.forall₂_map_right_iff.2 ((mapM_eq_some_iff.1 htexts).imp fun raw text htext => ?_))
      exact ⟨text, (text?_eq_some_iff raw text).1 htext, withoutAt_eq_iff.1 rfl⟩
    | _ => cases h
  · rintro (⟨text, rfl, hnames⟩ | hitems)
    · rw [directiveNames?, withoutAt_eq_iff.2 hnames]
    · rw [directiveNames?, Option.map_eq_some_iff]
      induction hitems with
      | nil => exact ⟨[], rfl, rfl⟩
      | cons hfirst _ ih =>
        obtain ⟨text, rfl, hnames⟩ := hfirst
        obtain ⟨texts, htexts, rfl⟩ := ih
        exact ⟨text :: texts, by rw [List.mapM_cons, htexts]; rfl, by rw [List.map_cons, withoutAt_eq_iff.2 hnames]⟩

theorem AreDirectives.isBare {directives : List String} (h : raw.AreDirectives directives) :
    ∀ directive ∈ directives, IsBare directive := by
  cases h with
  | one h =>
    obtain ⟨text, -, hnames⟩ := h
    simpa using hnames.1
  | many h =>
    intro directive hmem
    obtain ⟨item, -, text, -, hnames⟩ := Result.exists_of_mem_right h hmem
    exact hnames.1

/-! ## Pages -/

def headerKeys : List String := ["pagination", "toc"]

/-- What is said of the front matter. -/
structure IsHeader (form : ConfigForm) (raw : RawSetting) (header : Settings.Header) : Prop where
  known : raw.Known form headerKeys
  pagination : Settled true IsBool (raw.given? headerKeys "pagination") header.pagination
  toc : Settled true IsBool (raw.given? headerKeys "toc") header.toc

theorem header?_eq_some_iff (raw : RawSetting) (header : Settings.Header) :
    raw.header? form = some header ↔ raw.IsHeader form header := by
  simp only [header?, Option.bind_eq_bind, Option.bind_eq_some_iff, Option.pure_def, Option.some.injEq,
    fields?_eq_some_iff, orDefault_eq_some_iff bool?_eq_some_iff]
  constructor
  · rintro ⟨_, ⟨hknown, rfl⟩, pagination, hpagination, toc, htoc, rfl⟩
    exact ⟨hknown, hpagination, htoc⟩
  · rintro ⟨hknown, hpagination, htoc⟩
    exact ⟨_, ⟨hknown, rfl⟩, _, hpagination, _, htoc, rfl⟩

def pageKeys : List String :=
  ["code_section", "deprecated", "header", "hierarchy", "parent_type_prefix", "related_type_section", "type_badges"]

/-- What is said of pages. -/
structure IsPage (form : ConfigForm) (raw : RawSetting) (page : Settings.Page) : Prop where
  known : raw.Known form pageKeys
  codeSection : Settled true IsBool (raw.given? pageKeys "code_section") page.codeSection
  deprecated : Settled .inline (fun raw mode => raw.Says form (deprecatedWord mode))
    (raw.given? pageKeys "deprecated") page.deprecated
  header : Settled ⟨true, true⟩ (IsHeader form) (raw.given? pageKeys "header") page.header
  hierarchy : Settled .api (fun raw hierarchy => raw.Says form (hierarchyWord hierarchy))
    (raw.given? pageKeys "hierarchy") page.hierarchy
  parentTypePrefix : Settled true IsBool (raw.given? pageKeys "parent_type_prefix") page.parentTypePrefix
  relatedTypeSection : Settled true IsBool (raw.given? pageKeys "related_type_section") page.relatedTypeSection
  typeBadges : Settled true IsBool (raw.given? pageKeys "type_badges") page.typeBadges

theorem page?_eq_some_iff (raw : RawSetting) (page : Settings.Page) :
    raw.page? form = some page ↔ raw.IsPage form page := by
  simp only [page?, Option.bind_eq_bind, Option.bind_eq_some_iff, Option.pure_def, Option.some.injEq,
    fields?_eq_some_iff, orDefault_eq_some_iff bool?_eq_some_iff, orDefault_eq_some_iff deprecatedMode?_eq_some_iff,
    orDefault_eq_some_iff header?_eq_some_iff, orDefault_eq_some_iff hierarchy?_eq_some_iff]
  constructor
  · rintro ⟨_, ⟨hknown, rfl⟩, codeSection, hcodeSection, deprecated, hdeprecated, header, hheader, hierarchy,
      hhierarchy, parentTypePrefix, hparent, relatedTypeSection, hrelated, typeBadges, hbadges, rfl⟩
    exact ⟨hknown, hcodeSection, hdeprecated, hheader, hhierarchy, hparent, hrelated, hbadges⟩
  · rintro ⟨hknown, hcodeSection, hdeprecated, hheader, hhierarchy, hparent, hrelated, hbadges⟩
    exact ⟨_, ⟨hknown, rfl⟩, _, hcodeSection, _, hdeprecated, _, hheader, _, hhierarchy, _, hparent, _, hrelated,
      _, hbadges, rfl⟩

/-! ## Handlers -/

inductive IsHandler : RawSetting → Option Handler → Prop
  | nothing : IsHandler .null none
  | template (text : String) : IsHandler (.text text) (some (.template text))

theorem handler?_eq_some_iff (raw : RawSetting) (handler : Option Handler) :
    raw.handler? = some handler ↔ raw.IsHandler handler := by
  constructor
  · intro h
    cases raw with
    | null =>
      cases h
      exact .nothing
    | text text =>
      cases h
      exact .template text
    | _ => cases h
  · rintro ⟨⟩ <;> rfl

def handlerKeys : List String := ["descriptor", "tag"]

/-- What is said of a directive with handlers. -/
structure AreHandlers (form : ConfigForm) (raw : RawSetting) (handlers : Handlers) : Prop where
  known : raw.Known form handlerKeys
  descriptor : Settled none IsHandler (raw.given? handlerKeys "descriptor") handlers.descriptor
  tag : Settled none IsHandler (raw.given? handlerKeys "tag") handlers.tag

theorem handlers?_eq_some_iff (raw : RawSetting) (handlers : Handlers) :
    raw.handlers? form = some handlers ↔ raw.AreHandlers form handlers := by
  simp only [handlers?, Option.bind_eq_bind, Option.bind_eq_some_iff, Option.pure_def, Option.some.injEq,
    fields?_eq_some_iff, orDefault_eq_some_iff handler?_eq_some_iff]
  constructor
  · rintro ⟨_, ⟨hknown, rfl⟩, descriptor, hdescriptor, tag, htag, rfl⟩
    exact ⟨hknown, hdescriptor, htag⟩
  · rintro ⟨hknown, hdescriptor, htag⟩
    exact ⟨_, ⟨hknown, rfl⟩, _, hdescriptor, _, htag, rfl⟩

/-- A table with the handlers of each directive under its name. -/
inductive IsHandlerTable (form : ConfigForm) : RawSetting → HandlerTable → Prop
  | table {entries : List (String × RawSetting)} {pairs : List (String × Handlers)}
      (h : List.Forall₂ (fun entry pair => entry.1 = pair.1 ∧ entry.2.AreHandlers form pair.2) entries pairs) :
      IsHandlerTable form (.table entries) (OrderedMap.ofList pairs)

theorem handlerTable?_eq_some_iff (raw : RawSetting) (table : HandlerTable) :
    raw.handlerTable? form = some table ↔ raw.IsHandlerTable form table := by
  have hentry : ∀ (entry : String × RawSetting) (pair : String × Handlers),
      (entry.2.handlers? form).map (entry.1, ·) = some pair ↔
        entry.1 = pair.1 ∧ entry.2.AreHandlers form pair.2 := by
    rintro ⟨name, raw⟩ ⟨name', handlers⟩
    simp only [Option.map_eq_some_iff, handlers?_eq_some_iff, Prod.mk.injEq]
    constructor
    · rintro ⟨_, h, hname, rfl⟩
      exact ⟨hname, h⟩
    · rintro ⟨hname, h⟩
      exact ⟨handlers, h, hname, rfl⟩
  constructor
  · intro h
    cases raw with
    | table entries =>
      obtain ⟨pairs, hpairs, rfl⟩ := Option.map_eq_some_iff.1 h
      exact .table ((mapM_eq_some_iff.1 hpairs).imp fun entry pair => (hentry entry pair).1)
    | _ => cases h
  · rintro ⟨hpairs⟩
    exact Option.map_eq_some_iff.2
      ⟨_, mapM_eq_some_iff.2 (hpairs.imp fun entry pair => (hentry entry pair).2), rfl⟩

theorem IsHandlerTable.exists_of_mem {entries : List (String × RawSetting)} {table : HandlerTable} {name : String}
    (h : IsHandlerTable form (.table entries) table) (hmem : (name, raw) ∈ entries) :
    ∃ handlers, raw.AreHandlers form handlers := by
  cases h with
  | table hpairs =>
    obtain ⟨pair, -, -, hhandlers⟩ := Result.exists_of_mem_left hpairs hmem
    exact ⟨pair.2, hhandlers⟩

/-! ## Groupings -/

/-- A text that starts with a compact form, or a table that names a directive and its argument. -/
inductive IsGroupBy : RawSetting → GroupBy → Prop
  | compact (form : CompactForm) (rest : String) : IsGroupBy (.text (form.text ++ rest)) form.groupBy
  | table {entries : List (String × RawSetting)} {directive field : RawSetting} {groupBy : GroupBy}
      (hdirective : entries.lookup "directive" = some directive) (hnames : directive.IsDirective groupBy.directive)
      (hfield : entries.lookup "field" = some field) (htext : field.IsText groupBy.field)
      (hfallback : Settled "Miscellaneous" IsText (entries.lookup "fallback") groupBy.fallback) :
      IsGroupBy (.table entries) groupBy

theorem groupBy?_eq_some_iff (raw : RawSetting) (groupBy : GroupBy) :
    raw.groupBy? = some groupBy ↔ raw.IsGroupBy groupBy := by
  constructor
  · intro h
    cases raw with
    | text option =>
      have hparse : GroupBy.parse option = .ok groupBy := by
        rw [groupBy?] at h
        cases hoption : GroupBy.parse option <;> simp_all [Except.toOption]
      obtain ⟨form, rest, rfl, rfl⟩ := GroupBy.parse_eq_ok_iff.1 hparse
      exact .compact form rest
    | table entries =>
      simp only [groupBy?, groupByTable?, Option.bind_eq_bind, Option.bind_eq_some_iff, Option.pure_def,
        Option.some.injEq, text?_eq_some_iff, orDefault_eq_some_iff text?_eq_some_iff] at h
      obtain ⟨directive, hdirective, text, htext, field, hfield, name, hname, fallback, hfallback, rfl⟩ := h
      exact .table hdirective ⟨text, htext, withoutAt_eq_iff.1 rfl⟩ hfield hname hfallback
    | _ => cases h
  · rintro (⟨form, rest⟩ | ⟨hdirective, ⟨text, htext, hnames⟩, hfield, hname, hfallback⟩)
    · rw [groupBy?, GroupBy.parse_eq_ok_iff.2 ⟨form, rest, rfl, rfl⟩]
      rfl
    · simp only [groupBy?, groupByTable?, Option.bind_eq_bind, Option.bind_eq_some_iff, Option.pure_def,
        Option.some.injEq, text?_eq_some_iff, orDefault_eq_some_iff text?_eq_some_iff]
      exact ⟨_, hdirective, text, htext, _, hfield, _, hname, _, hfallback, by rw [withoutAt_eq_iff.2 hnames]⟩

theorem IsGroupBy.isBare {groupBy : GroupBy} (h : raw.IsGroupBy groupBy) : IsBare groupBy.directive := by
  cases h with
  | compact form rest => exact isBare_of_isWord form.isWord_directive
  | table _ hnames =>
    obtain ⟨text, -, hnames⟩ := hnames
    exact hnames.1

/-- No grouping, or one. -/
inductive IsGrouping : RawSetting → Option GroupBy → Prop
  | nothing : IsGrouping .null none
  | groupBy {raw : RawSetting} {groupBy : GroupBy} (h : IsGroupBy raw groupBy) : IsGrouping raw (some groupBy)

theorem optionalGroupBy?_eq_some_iff (raw : RawSetting) (groupBy : Option GroupBy) :
    raw.optionalGroupBy? = some groupBy ↔ raw.IsGrouping groupBy := by
  constructor
  · intro h
    unfold optionalGroupBy? at h
    split at h
    · cases h
      exact .nothing
    · obtain ⟨given, hgiven, rfl⟩ := Option.map_eq_some_iff.1 h
      exact .groupBy ((groupBy?_eq_some_iff _ _).1 hgiven)
  · rintro (_ | h)
    · rfl
    · unfold optionalGroupBy?
      split
      · cases h
      · rw [(groupBy?_eq_some_iff _ _).2 h]
        rfl

/-! ## All settings -/

def settingKeys : List String :=
  ["base_url", "custom_directive", "group_by_directive", "link_root", "only_doc_directive", "print_type",
    "skip_doc_directive"]

/-- What is said in a configuration. -/
structure IsSettings (form : ConfigForm) (raw : RawSetting) (settings : Settings) : Prop where
  known : raw.Known form settingKeys
  baseUrl : Settled "schema" IsText (raw.given? settingKeys "base_url") settings.baseUrl
  handlers : Settled .empty (IsHandlerTable form) (raw.given? settingKeys "custom_directive") settings.handlers
  groupBy : Settled none IsGrouping (raw.given? settingKeys "group_by_directive") settings.groupBy
  linkRoot : Settled "/" IsText (raw.given? settingKeys "link_root") settings.linkRoot
  onlyDirectives : Settled [] AreDirectives (raw.given? settingKeys "only_doc_directive") settings.onlyDirectives
  page : Settled ⟨true, .inline, ⟨true, true⟩, .api, true, true, true⟩ (IsPage form)
    (raw.given? settingKeys "print_type") settings.page
  skipDirectives : Settled [] AreDirectives (raw.given? settingKeys "skip_doc_directive") settings.skipDirectives

theorem settings?_eq_some_iff (raw : RawSetting) (settings : Settings) :
    raw.settings? form = some settings ↔ raw.IsSettings form settings := by
  simp only [settings?, Option.bind_eq_bind, Option.bind_eq_some_iff, Option.pure_def, Option.some.injEq,
    fields?_eq_some_iff, orDefault_eq_some_iff text?_eq_some_iff, orDefault_eq_some_iff handlerTable?_eq_some_iff,
    orDefault_eq_some_iff optionalGroupBy?_eq_some_iff, orDefault_eq_some_iff directiveNames?_eq_some_iff,
    orDefault_eq_some_iff page?_eq_some_iff]
  constructor
  · rintro ⟨_, ⟨hknown, rfl⟩, baseUrl, hbaseUrl, handlers, hhandlers, groupBy, hgroupBy, linkRoot, hlinkRoot,
      onlyDirectives, honly, page, hpage, skipDirectives, hskip, rfl⟩
    exact ⟨hknown, hbaseUrl, hhandlers, hgroupBy, hlinkRoot, honly, hpage, hskip⟩
  · rintro ⟨hknown, hbaseUrl, hhandlers, hgroupBy, hlinkRoot, honly, hpage, hskip⟩
    exact ⟨_, ⟨hknown, rfl⟩, _, hbaseUrl, _, hhandlers, _, hgroupBy, _, hlinkRoot, _, honly, _, hpage, _, hskip,
      rfl⟩

/-- Every key is known: in the configuration, and in what it says of pages, of front matter and of handlers. -/
structure KnownThroughout (entries : List (String × RawSetting)) : Prop where
  settings : ∀ entry ∈ entries, entry.1 ∈ settingKeys
  page : ∀ page, entries.lookup "print_type" = some (.table page) → ∀ entry ∈ page, entry.1 ∈ pageKeys
  header : ∀ page header, entries.lookup "print_type" = some page →
    page.given? pageKeys "header" = some (.table header) → ∀ entry ∈ header, entry.1 ∈ headerKeys
  handlers : ∀ table name handlers, entries.lookup "custom_directive" = some (.table table) →
    (name, .table handlers) ∈ table → ∀ entry ∈ handlers, entry.1 ∈ handlerKeys

namespace IsSettings

variable {entries before after : List (String × RawSetting)} {settings : Settings}

theorem knownThroughout (h : IsSettings form (.table entries) settings) : KnownThroughout entries where
  settings := h.known
  page page hpage := by
    have hread := h.page
    rw [given?, hpage] at hread
    exact hread.of_given.known
  header page header hpage hheader := by
    have hread := h.page
    rw [given?, hpage] at hread
    have hreadHeader := hread.of_given.header
    rw [hheader] at hreadHeader
    exact hreadHeader.of_given.known
  handlers table name handlers htable hmem := by
    have hread := h.handlers
    rw [given?, htable] at hread
    obtain ⟨_, hhandlers⟩ := hread.of_given.exists_of_mem hmem
    exact hhandlers.known

theorem isBare_names (h : raw.IsSettings form settings) :
    ∀ directive ∈ settings.skipDirectives ++ settings.onlyDirectives, IsBare directive := by
  have hbare : ∀ {given : Option RawSetting} {directives : List String},
      Settled [] AreDirectives given directives → ∀ directive ∈ directives, IsBare directive := by
    rintro given directives (_ | hread)
    · exact nofun
    · exact hread.isBare
  intro directive hmem
  rcases List.mem_append.1 hmem with hskip | honly
  · exact hbare h.skipDirectives directive hskip
  · exact hbare h.onlyDirectives directive honly

theorem isBare_groupBy (h : raw.IsSettings form settings) :
    ∀ groupBy ∈ settings.groupBy, IsBare groupBy.directive := by
  have hbare : ∀ {given : Option RawSetting} {groupBy : GroupBy},
      Settled none IsGrouping given (some groupBy) → IsBare groupBy.directive := by
    rintro given groupBy (_ | _ | hread)
    exact hread.isBare
  intro groupBy hgroupBy
  have hread := h.groupBy
  rw [Option.mem_def.1 hgroupBy] at hread
  exact hbare hread

/-- A grouping may be given in another way. -/
theorem regrouped {given other : RawSetting}
    (hsame : ∀ groupBy, given.IsGrouping groupBy → other.IsGrouping groupBy)
    (h : IsSettings form (.table (before ++ ("group_by_directive", given) :: after)) settings) :
    IsSettings form (.table (before ++ ("group_by_directive", other) :: after)) settings := by
  -- All other keys hold what they held, and an earlier entry of the same key comes first in both.
  have hrest : ∀ key, key ≠ "group_by_directive" →
      (RawSetting.table (before ++ ("group_by_directive", other) :: after)).given? settingKeys key =
        (RawSetting.table (before ++ ("group_by_directive", given) :: after)).given? settingKeys key := by
    intro key hkey
    simp only [given?, List.lookup_append, List.lookup_cons, beq_false_of_ne hkey]
  have hgroupBy : Settled none IsGrouping ((RawSetting.table (before ++ ("group_by_directive", other) :: after)).given?
      settingKeys "group_by_directive") settings.groupBy := by
    have hread := h.groupBy
    simp only [given?, List.lookup_append, List.lookup_cons_self] at hread ⊢
    cases hbefore : before.lookup "group_by_directive" with
    | none =>
      rw [hbefore] at hread
      exact .given (hsame _ hread.of_given)
    | some first =>
      rw [hbefore] at hread
      exact hread
  exact {
    known := by
      have hknown := h.known
      simp only [Known, List.forall_mem_append, List.forall_mem_cons] at hknown ⊢
      exact hknown
    baseUrl := hrest "base_url" (by decide) ▸ h.baseUrl
    handlers := hrest "custom_directive" (by decide) ▸ h.handlers
    groupBy := hgroupBy
    linkRoot := hrest "link_root" (by decide) ▸ h.linkRoot
    onlyDirectives := hrest "only_doc_directive" (by decide) ▸ h.onlyDirectives
    page := hrest "print_type" (by decide) ▸ h.page
    skipDirectives := hrest "skip_doc_directive" (by decide) ▸ h.skipDirectives }

end IsSettings

/-- A table with the three keys of a grouping, the directive with or without its `@`. -/
structure Spells (entries : List (String × RawSetting)) (groupBy : GroupBy) : Prop where
  directive : entries.lookup "directive" = some (.text groupBy.directive) ∨
    entries.lookup "directive" = some (.text ("@" ++ groupBy.directive))
  field : entries.lookup "field" = some (.text groupBy.field)
  fallback : entries.lookup "fallback" = some (.text groupBy.fallback)

theorem isGroupBy_text {groupBy : GroupBy} (hdirective : Text.IsWord groupBy.directive)
    (hfield : Text.IsWord groupBy.field) (hfallback : Text.IsWord groupBy.fallback) :
    IsGroupBy (.text groupBy.text) groupBy := by
  obtain ⟨form, htext, hgroupBy⟩ := GroupBy.exists_form_text hdirective hfield hfallback
  rw [htext, hgroupBy]
  exact .compact form ""

theorem Spells.isGroupBy {entries : List (String × RawSetting)} {groupBy : GroupBy} (h : Spells entries groupBy)
    (hdirective : Text.IsWord groupBy.directive) : IsGroupBy (.table entries) groupBy := by
  have hfallback : Settled "Miscellaneous" IsText (entries.lookup "fallback") groupBy.fallback := by
    rw [h.fallback]
    exact .given rfl
  have hbare := isBare_of_isWord hdirective
  rcases h.directive with hplain | hmarked
  · exact .table hplain ⟨_, rfl, hbare, "", String.empty_append.symm, nofun⟩ h.field rfl hfallback
  · exact .table hmarked ⟨_, rfl, hbare, "@", rfl, by simp⟩ h.field rfl hfallback

theorem IsGroupBy.isGrouping_iff {groupBy : GroupBy} (h : raw.IsGroupBy groupBy) (grouping : Option GroupBy) :
    raw.IsGrouping grouping ↔ grouping = some groupBy := by
  rw [← optionalGroupBy?_eq_some_iff, (optionalGroupBy?_eq_some_iff raw (some groupBy)).2 (.groupBy h),
    Option.some.injEq, eq_comm]

end RawSetting

open RawSetting

/--
A configuration is read as settings exactly if all it says has a meaning: each setting
has its default if its key is absent, and else the value that the key gives. No key
of a table is unknown, then, and neither the names of directives to skip or to keep
nor that of the grouping start with `@`. A grouping in words may be written in the
compact form or as a table, in any configuration.
-/
theorem Settings.read_settled (form : ConfigForm) :
    (∀ (raw : RawSetting) (settings : Settings),
      raw.settings? form = some settings ↔ raw.IsSettings form settings) ∧
    (∀ (entries : List (String × RawSetting)) (settings : Settings),
      settings? form (.table entries) = some settings → KnownThroughout entries) ∧
    (∀ (raw : RawSetting) (settings : Settings), raw.settings? form = some settings →
      (∀ directive ∈ settings.skipDirectives ++ settings.onlyDirectives, IsBare directive) ∧
      ∀ groupBy ∈ settings.groupBy, IsBare groupBy.directive) ∧
    ∀ (groupBy : GroupBy) (spelled before after : List (String × RawSetting)), Text.IsWord groupBy.directive →
      Text.IsWord groupBy.field → Text.IsWord groupBy.fallback → Spells spelled groupBy →
      groupBy? (.text groupBy.text) = some groupBy ∧ groupBy? (.table spelled) = some groupBy ∧
      settings? form (.table (before ++ ("group_by_directive", .text groupBy.text) :: after)) =
        settings? form (.table (before ++ ("group_by_directive", .table spelled) :: after)) := by
  refine ⟨settings?_eq_some_iff, ?_, ?_, ?_⟩
  · intro entries settings hread
    exact ((settings?_eq_some_iff _ settings).1 hread).knownThroughout
  · intro raw settings hread
    have hsettings := (settings?_eq_some_iff raw settings).1 hread
    exact ⟨hsettings.isBare_names, hsettings.isBare_groupBy⟩
  · intro groupBy spelled before after hdirective hfield hfallback hspelled
    have hcompact := isGroupBy_text hdirective hfield hfallback
    have htable := hspelled.isGroupBy hdirective
    have hsame : ∀ grouping, IsGrouping (.text groupBy.text) grouping ↔ IsGrouping (.table spelled) grouping := by
      intro grouping
      rw [hcompact.isGrouping_iff, htable.isGrouping_iff]
    refine ⟨(groupBy?_eq_some_iff _ _).2 hcompact, (groupBy?_eq_some_iff _ _).2 htable, ?_⟩
    ext settings
    rw [settings?_eq_some_iff, settings?_eq_some_iff]
    exact ⟨IsSettings.regrouped fun grouping => (hsame grouping).1,
      IsSettings.regrouped fun grouping => (hsame grouping).2⟩

/-- The table form of a grouping, with a key that has no meaning there. -/
def RawSetting.spelledGrouping : List (String × RawSetting) :=
  [("directive", .text "@doc"), ("field", .text "category"), ("note", .null), ("fallback", .text "Other")]

/-- Some settings of each table are given, and others are not. -/
def RawSetting.assortedSettings (grouping : RawSetting) : List (String × RawSetting) :=
  [("skip_doc_directive", .list [.text "@noDoc", .text "internal"]),
    ("print_type", .table [("deprecated", .text "group"), ("header", .table [("toc", .bool false)])])] ++
  ("group_by_directive", grouping) ::
  [("custom_directive", .table [("auth", .table [("tag", .text "\x7brequires\x7d")])])]

theorem Settings.read_settled_assorted :
    (∃ settings : Settings, IsSettings .data (.table (assortedSettings (.text "@doc(category|=Other)"))) settings ∧
      settings.skipDirectives = ["noDoc", "internal"] ∧
      (∀ directive ∈ settings.skipDirectives ++ settings.onlyDirectives, IsBare directive) ∧
      settings.page.header = ⟨true, false⟩ ∧ settings.linkRoot = "/") ∧
    KnownThroughout (assortedSettings (.text "@doc(category|=Other)")) ∧
    settings? .data (.table (assortedSettings (.text "@doc(category|=Other)"))) =
      settings? .data (.table (assortedSettings (.table spelledGrouping))) := by
  obtain ⟨hiff, hknown, hbare, hsame⟩ := Settings.read_settled .data
  obtain ⟨-, -, hregrouped⟩ := hsame ⟨"doc", "category", "Other"⟩ spelledGrouping _ _ (by decide) (by decide)
    (by decide) ⟨.inr rfl, rfl, rfl⟩
  have hcheck : (settings? .data (.table (assortedSettings (.text "@doc(category|=Other)")))).any
      (fun settings => settings.skipDirectives = ["noDoc", "internal"] ∧ settings.page.header = ⟨true, false⟩ ∧
        settings.linkRoot = "/") = true := by
    decide +kernel
  cases hread : settings? .data (.table (assortedSettings (.text "@doc(category|=Other)"))) with
  | none =>
    rw [hread] at hcheck
    cases hcheck
  | some settings =>
    rw [hread] at hcheck
    obtain ⟨hskip, hheader, hlinkRoot⟩ := of_decide_eq_true hcheck
    refine ⟨⟨settings, (hiff _ _).1 hread, hskip, (hbare _ settings hread).1, hheader, hlinkRoot⟩,
      hknown _ settings hread, ?_⟩
    exact hread.symm.trans hregrouped

example : settings? .file (.table [("print_type", .table [("typeBadges", .bool false)])]) = none := rfl

end SchemaDoc
