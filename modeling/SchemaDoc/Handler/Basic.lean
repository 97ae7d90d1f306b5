-- SUMMARY: Texts that applied directives contribute to a page.
import SchemaDoc.Catalog.Entity
import SchemaDoc.Handler.Template

/-!
# Directive handlers

A handler makes a text from a directive applied to an item: by a template whose
placeholders are arguments of the directive, or by a function. The arguments are
those of the first application, completed by the declared defaults.
-/

namespace SchemaDoc

/-! ## Arguments -/

/-- Why a handler can give no text. -/
inductive DirectiveError where
  | argumentNotFound (directive argument : String)
  | notApplied (directive item : String)
  deriving DecidableEq, Repr

def DirectiveError.message : DirectiveError → String
  | .argumentNotFound directive argument =>
    "`@" ++ directive ++ "` has no value for argument `" ++ argument ++ "`"
  | .notApplied directive item => "`@" ++ directive ++ "` is not applied to `" ++ item ++ "`"

namespace Item

/-- The declared arguments that are written or have a default, then the others that are written. -/
def argsOf (directive : DirectiveDef) (application : AppliedDirective) : OrderedMap Value :=
  let declared := directive.args.filterMap fun name arg =>
    (application.args.find? name).or arg.default?
  application.args.entries.foldl (fun values entry => values.insertNew entry.1 entry.2) declared

/-- The arguments of a directive where it is first applied to the item. -/
def argValues (item : Item) (directive : DirectiveDef) : Except DirectiveError (OrderedMap Value) :=
  match AppliedDirective.first? item.applied directive.name with
  | some application => .ok (argsOf directive application)
  | none => .error (.notApplied directive.name item.name)

/-- One argument of a directive where it is first applied to the item. -/
def argValue (item : Item) (directive : DirectiveDef) (argument : String) :
    Except DirectiveError Value := do
  match (← item.argValues directive).find? argument with
  | some value => return value
  | none => throw (.argumentNotFound directive.name argument)

end Item

/-! ## Handlers -/

/-- A template, or a function of the directive and the item. -/
inductive Handler where
  | template (text : String)
  | native (run : DirectiveDef → Item → Except DirectiveError String)

namespace Handler

/-- The argument names that a template refers to; a function refers to none that can be known. -/
def placeholders : Handler → List String
  | .template text => Template.placeholders text
  | .native _ => []

/-- The text for a directive applied to an item. -/
def apply (directive : DirectiveDef) (item : Item) : Handler → Except DirectiveError String
  | .native run => run directive item
  | .template text =>
    Template.fill (fun argument => Value.plainText <$> item.argValue directive argument)
      (Template.pieces text.toList)

end Handler

end SchemaDoc
