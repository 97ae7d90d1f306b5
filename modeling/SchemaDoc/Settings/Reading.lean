-- SUMMARY: From the data of a configuration file to settings.
import SchemaDoc.Settings.Basic

/-!
# Reading settings

A configuration is data of a general form: tables, lists, texts and so on. Each
setting takes one form only, and each table only the keys of its settings, so a
misspelled key is never ignored; a setting that is missing has its default. A
list may stand for a table, giving the settings in order.

Two forms of configuration differ in what they can write. Plain data has null; a
configuration file has not, so there an empty table or list stands for it where
a word takes no value.
-/

namespace SchemaDoc

/-- How a configuration is written. -/
inductive ConfigForm where
  /-- As plain data, read strictly. -/
  | data
  /-- As a configuration file, in which the surplus items of a list are ignored. -/
  | file
  deriving DecidableEq, Repr

/-- What a configuration holds before its keys have a meaning. -/
inductive RawSetting where
  | null
  | bool (value : Bool)
  | number (text : String)
  | text (value : String)
  | list (items : List RawSetting)
  | table (entries : List (String × RawSetting))
  deriving Inhabited, Repr

/-- Reads the compact form of a grouping; any other text is reported as it is. -/
def GroupBy.parse (option : String) : Except ConfigError GroupBy :=
  match GroupBy.parse? option with
  | some groupBy => .ok groupBy
  | none => .error (.invalidGroupBy option)

namespace RawSetting

/-! ## Forms -/

def bool? : RawSetting → Option Bool
  | .bool value => some value
  | _ => none

def text? : RawSetting → Option String
  | .text value => some value
  | _ => none

/-- Whether nothing is given as the value of a word. -/
def isNoValue : ConfigForm → RawSetting → Bool
  | .data, .null => true
  | .file, .list [] => true
  | .file, .table [] => true
  | _, _ => false

/-- One of some words, or a table of one word without a value. -/
def word? {α : Type} (form : ConfigForm) (meaning : String → Option α) : RawSetting → Option α
  | .text word => meaning word
  | .table [(word, value)] => if isNoValue form value then meaning word else none
  | _ => none

/-- The settings of a table whose keys are all known, or of a list that gives them in order. -/
def fields? (form : ConfigForm) (keys : List String) :
    RawSetting → Option (String → Option RawSetting)
  | .table entries =>
    if entries.all (keys.contains ·.1) then some fun key => entries.lookup key else none
  | .list items =>
    if form = .file ∨ items.length ≤ keys.length then some fun key => (keys.zip items).lookup key
    else none
  | _ => none

/-- A setting that has a default. -/
def orDefault {α : Type} (default : α) (read : RawSetting → Option α) : Option RawSetting → Option α
  | none => some default
  | some raw => read raw

/-- The text without leading `@`. -/
def withoutAt (name : String) : String :=
  String.ofList (name.toList.dropWhile (· == '@'))

/-- One directive name or a list of them. -/
def directiveNames? : RawSetting → Option (List String)
  | .text name => some [withoutAt name]
  | .list items => (items.mapM text?).map (·.map withoutAt)
  | _ => none

/-! ## Settings -/

def deprecatedMode? (form : ConfigForm) : RawSetting → Option DeprecatedMode :=
  word? form fun
    | "default" => some .inline
    | "group" => some .group
    | "skip" => some .skip
    | _ => none

def hierarchy? (form : ConfigForm) : RawSetting → Option Hierarchy :=
  word? form fun
    | "api" => some .api
    | "entity" => some .entity
    | "flat" => some .flat
    | _ => none

def header? (form : ConfigForm) (raw : RawSetting) : Option Settings.Header := do
  let fields ← raw.fields? form ["pagination", "toc"]
  let pagination ← orDefault true bool? (fields "pagination")
  let toc ← orDefault true bool? (fields "toc")
  return { pagination, toc }

def page? (form : ConfigForm) (raw : RawSetting) : Option Settings.Page := do
  let fields ← raw.fields? form ["code_section", "deprecated", "header", "hierarchy", "parent_type_prefix",
    "related_type_section", "type_badges"]
  let codeSection ← orDefault true bool? (fields "code_section")
  let deprecated ← orDefault .inline (deprecatedMode? form) (fields "deprecated")
  let header ← orDefault .default (header? form) (fields "header")
  let hierarchy ← orDefault .api (hierarchy? form) (fields "hierarchy")
  let parentTypePrefix ← orDefault true bool? (fields "parent_type_prefix")
  let relatedTypeSection ← orDefault true bool? (fields "related_type_section")
  let typeBadges ← orDefault true bool? (fields "type_badges")
  return { codeSection, deprecated, header, hierarchy, parentTypePrefix, relatedTypeSection, typeBadges }

def handler? : RawSetting → Option (Option Handler)
  | .null => some none
  | .text template => some (some (.template template))
  | _ => none

def handlers? (form : ConfigForm) (raw : RawSetting) : Option Handlers := do
  let fields ← raw.fields? form ["descriptor", "tag"]
  let descriptor ← orDefault none handler? (fields "descriptor")
  let tag ← orDefault none handler? (fields "tag")
  return { descriptor, tag }

def handlerTable? (form : ConfigForm) : RawSetting → Option HandlerTable
  | .table entries =>
    let read (entry : String × RawSetting) : Option (String × Handlers) :=
      (entry.2.handlers? form).map (entry.1, ·)
    (entries.mapM read).map OrderedMap.ofList
  | _ => none

/-- The three keys of a grouping; further keys have no meaning here and do no harm. -/
def groupByTable? : RawSetting → Option GroupBy
  | .table entries => do
    let directive ← (← entries.lookup "directive").text?
    let field ← (← entries.lookup "field").text?
    let fallback ← orDefault GroupBy.defaultFallback text? (entries.lookup "fallback")
    return { directive := withoutAt directive, field, fallback }
  | _ => none

/-- The compact form or a table. -/
def groupBy? : RawSetting → Option GroupBy
  | .text option => (GroupBy.parse option).toOption
  | raw => raw.groupByTable?

def optionalGroupBy? : RawSetting → Option (Option GroupBy)
  | .null => some none
  | raw => raw.groupBy?.map some

/-- All settings of a configuration, if each is given in a form that it takes. -/
def settings? (form : ConfigForm) (raw : RawSetting) : Option Settings := do
  let fields ← raw.fields? form ["base_url", "custom_directive", "group_by_directive", "link_root",
    "only_doc_directive", "print_type", "skip_doc_directive"]
  let baseUrl ← orDefault Settings.default.baseUrl text? (fields "base_url")
  let handlers ← orDefault .empty (handlerTable? form) (fields "custom_directive")
  let groupBy ← orDefault none optionalGroupBy? (fields "group_by_directive")
  let linkRoot ← orDefault Settings.default.linkRoot text? (fields "link_root")
  let onlyDirectives ← orDefault [] directiveNames? (fields "only_doc_directive")
  let page ← orDefault .default (page? form) (fields "print_type")
  let skipDirectives ← orDefault [] directiveNames? (fields "skip_doc_directive")
  return { baseUrl, handlers, groupBy, linkRoot, onlyDirectives, page, skipDirectives }

end RawSetting

end SchemaDoc
