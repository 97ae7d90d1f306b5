-- SUMMARY: Which directives of a schema have handlers, and checking their templates.
import SchemaDoc.Catalog.Basic
import SchemaDoc.Handler.Basic
import SchemaDoc.Text.Quoted

/-!
# Custom directives

Settings give handlers to directives by name, or by `*` to every directive that
has no entry of its own. Only declared directives are matched. A template may
refer only to arguments that its directive declares.
-/

namespace SchemaDoc

/-- Why a configuration cannot be used. -/
inductive ConfigError where
  | invalidGroupBy (option : String)
  | unknownTemplateArgument (directive argument : String)
  deriving DecidableEq, Repr

def ConfigError.message : ConfigError → String
  | .invalidGroupBy option =>
    "Invalid `group_by_directive` option " ++ Text.shown option
      ++ ": expected `@directive(field)` or `@directive(field|=fallback)`"
  | .unknownTemplateArgument directive argument =>
    "The template configured for `@" ++ directive ++ "` references `\x7b" ++ argument
      ++ "\x7d`, but the directive declares no such argument"

/-- What a directive contributes: a text to descriptions and a badge. -/
structure Handlers where
  descriptor : Option Handler
  tag : Option Handler

/-- Handlers by name of the directive. -/
abbrev HandlerTable := OrderedMap Handlers

/-- A declared directive with its handlers. -/
structure CustomDirective where
  definition : DirectiveDef
  handlers : Handlers

namespace HandlerTable

/-- The entry that stands for every directive without an entry. -/
def wildcard : String := "*"

/-- The handlers of a directive: its own entry as a whole, or that of the wildcard. -/
def handlersFor? (table : HandlerTable) (directive : String) : Option Handlers :=
  (table.find? directive).or (table.find? wildcard)

/-- Whether the directive has handlers. -/
def covers (table : HandlerTable) (directive : String) : Bool :=
  (table.handlersFor? directive).isSome

end HandlerTable

/-- The words of the templates, those of the descriptor first. -/
def Handlers.placeholders (handlers : Handlers) : List String :=
  (handlers.descriptor.map Handler.placeholders).getD []
    ++ (handlers.tag.map Handler.placeholders).getD []

/-- The first word of a template that is no argument of the directive. -/
def CustomDirective.unknownArgument? (custom : CustomDirective) : Option String :=
  custom.handlers.placeholders.find? (!custom.definition.args.contains ·)

/-- The directive with its handlers, if it is declared and has some. -/
def HandlerTable.matched? (table : HandlerTable) : Entity → Option CustomDirective
  | .directive d => if d.isBuiltin then none else (table.handlersFor? d.name).map (⟨d, ·⟩)
  | _ => none

/-- The declared directives that have handlers, in schema order. -/
def Catalog.matched (catalog : Catalog) (table : HandlerTable) : OrderedMap CustomDirective :=
  catalog.directives.filterMap fun _ entity => table.matched? entity

/-- The matched directives, unless a template refers to an argument that its directive lacks. -/
def Catalog.customDirectives (catalog : Catalog) (table : HandlerTable) :
    Except ConfigError (OrderedMap CustomDirective) :=
  let matched := catalog.matched table
  match matched.values.findSome? fun custom =>
      custom.unknownArgument?.map (custom.definition.name, ·) with
  | some (directive, argument) => .error (.unknownTemplateArgument directive argument)
  | none => .ok matched

/-- The custom directives, or nothing at all if no directive is matched. -/
def Catalog.customDirectives? (catalog : Catalog) (table : HandlerTable) :
    Except ConfigError (Option (OrderedMap CustomDirective)) := do
  let customs ← catalog.customDirectives table
  return if customs.isEmpty then none else some customs

/-- The custom directives applied to an item, each once, in the order of application. -/
def Item.customDirectives (item : Item) (customs : OrderedMap CustomDirective) :
    OrderedMap CustomDirective :=
  item.applied.foldl (fun found application =>
    match customs.find? application.name with
    | some custom => found.insertNew application.name custom
    | none => found) .empty

end SchemaDoc
