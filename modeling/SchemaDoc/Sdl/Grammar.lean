-- SUMMARY: The grammar of schema documents.
import SchemaDoc.Sdl.Reader
import SchemaDoc.Sdl.Syntax

/-!
# Grammar

One reader for each form of the schema language. A document is read whole or
not at all; if it is malformed, the result is the position of the first token
that cannot continue it.
-/

namespace SchemaDoc.Sdl

open Reader

/-! ## Literals -/

def digitsValue (cs : List Char) : Nat :=
  cs.foldl (fun n c => 10 * n + (c.toNat - 48)) 0

/-- The sign and the rest of a number. -/
def splitSign : List Char → Bool × List Char
  | '-' :: rest => (true, rest)
  | '+' :: rest => (false, rest)
  | cs => (false, cs)

def signed (negative : Bool) (n : Nat) : Int :=
  if negative then -(n : Int) else n

/-- The number of an integer token, if it has at most 64 bits. -/
def intValue (cs : List Char) : Option Int :=
  let (negative, digits) := splitSign cs
  let n := signed negative (digitsValue digits)
  if -0x8000000000000000 ≤ n ∧ n < 0x8000000000000000 then some n else none

/-- The number of a floating-point token, unless its exponent is only a sign. -/
def floatValue (cs : List Char) : Option Binary64 :=
  let (mantissa, exponentText) := (splitLast isExponentMark cs).getD (cs, ['0'])
  let (exponentNegative, exponentDigits) := splitSign exponentText
  let (negative, unsigned) := splitSign mantissa
  let (whole, fraction) := (splitLast (· == '.') unsigned).getD (unsigned, [])
  if exponentDigits.isEmpty then none
  else some (.ofDecimal negative (digitsValue (whole ++ fraction))
    (signed exponentNegative (digitsValue exponentDigits) - fraction.length))

/-- The string that a string token stands for, if escapes are read with these letters. -/
def stringValue? (letters : EscapeLetters) : Lexeme → Option String
  | .string raw => (unescape letters raw).map String.ofList
  | .blockString raw => some (layOutBlock raw)
  | _ => none

def isString : Lexeme → Bool
  | .string _ => true
  | .blockString _ => true
  | _ => false

/-- A string before a definition or a member describes it. -/
def description : Reader (Option String) := fun ts =>
  match ts with
  | [] => .ok (none, [])
  | t :: _ => if isString t.lexeme then (some <$> token (stringValue? documentLetters)) ts else .ok (none, ts)

/-! ## Values -/

def nameValue : String → Value
  | "true" => .bool true
  | "false" => .bool false
  | "null" => .null
  | name => .enum name

/-- A value of one token. -/
def scalarValue? (letters : EscapeLetters) : Lexeme → Option Value
  | .name name => some (nameValue name)
  | .int cs => (intValue cs).map .int
  | .float cs => (floatValue cs).map .float
  | .string raw => (stringValue? letters (.string raw)).map .string
  | .blockString raw => (stringValue? letters (.blockString raw)).map .string
  | _ => none

/-- A key or argument name, a colon and what follows it. -/
def entry {α : Type} (item : Reader α) : Reader (String × α) := do
  let key ← name
  mark ':'
  return (key, ← item)

/-- A value in which lists and objects nest less than `depth` deep. -/
def valueWithin (letters : EscapeLetters) (varsAllowed : Bool) : Nat → Reader Value
  | 0 => unexpected
  | depth + 1 => do
    if ← skip (.mark '[') then
      return .list (← upTo ']' (valueWithin letters varsAllowed depth))
    else if ← skip (.mark '\x7b') then
      return .ofEntries (← upTo '\x7d' (entry (valueWithin letters varsAllowed depth)))
    else if varsAllowed && (← nextIs (.mark '$')) then
      mark '$'
      return .var (← name)
    else token (scalarValue? letters)

/-- A value of a document; no value nests deeper than it has tokens. -/
def value (varsAllowed : Bool) : Reader Value := fun ts =>
  valueWithin documentLetters varsAllowed ts.length ts

/-! ## Types and applied directives -/

/-- An exclamation mark after a type reference. -/
def nullability (type : TypeRef) : Reader TypeRef := do
  if ← skip (.mark '!') then return type.nonNull else return type

/-- A type reference in which lists nest less than `depth` deep. -/
def typeWithin : Nat → Reader TypeRef
  | 0 => unexpected
  | depth + 1 => do
    if ← skip (.mark '[') then
      let item ← typeWithin depth
      mark ']'
      nullability (.list item true)
    else
      nullability (.named (← name) true)

/-- A type reference; none nests deeper than it has tokens. -/
def typeRef : Reader TypeRef := fun ts =>
  typeWithin ts.length ts

def appliedDirective : Reader AppliedDirective := do
  mark '@'
  let name ← name
  let args ← optionalList '(' ')' (entry (value true))
  return ⟨name, .ofList args⟩

def appliedDirectives : Reader (List AppliedDirective) :=
  many (startsWith (.mark '@')) appliedDirective

/-! ## Members -/

def inputDecl : Reader InputDecl := do
  let position ← position
  let description ← description
  let name ← name
  mark ':'
  let type ← typeRef
  let default? ← if ← skip (.mark '=') then some <$> value false else pure none
  let applied ← appliedDirectives
  return { position, description, name, type, default?, applied }

def fieldDecl : Reader FieldDecl := do
  let position ← position
  let description ← description
  let name ← name
  let args ← optionalList '(' ')' inputDecl
  mark ':'
  let type ← typeRef
  let applied ← appliedDirectives
  return { position, description, name, args, type, applied }

def enumValueDecl : Reader EnumValueDecl := do
  let position ← position
  let description ← description
  let name ← name
  let applied ← appliedDirectives
  return { position, description, name, applied }

/-! ## Types -/

def interfaces : Reader (List String) := do
  if ← skip (.name "implements") then separated '&' name else return []

/-- A type definition from its keyword on. -/
def typeDecl (description : Option String) : Reader TypeDecl := do
  let position ← position
  let keyword ← name
  match keyword with
  | "scalar" =>
    let name ← name
    return { position, description, name, applied := ← appliedDirectives, body := .scalar }
  | "type" =>
    let name ← name
    let interfaces ← interfaces
    let applied ← appliedDirectives
    let fields ← optionalList '\x7b' '\x7d' fieldDecl
    return { position, description, name, applied, body := .object interfaces fields }
  | "interface" =>
    let name ← name
    let interfaces ← interfaces
    let applied ← appliedDirectives
    let fields ← optionalList '\x7b' '\x7d' fieldDecl
    return { position, description, name, applied, body := .interface interfaces fields }
  | "union" =>
    let name ← name
    let applied ← appliedDirectives
    let members ← if ← skip (.mark '=') then separated '|' Reader.name else pure []
    return { position, description, name, applied, body := .union members }
  | "enum" =>
    let name ← name
    let applied ← appliedDirectives
    let values ← optionalList '\x7b' '\x7d' enumValueDecl
    return { position, description, name, applied, body := .enum values }
  | "input" =>
    let name ← name
    let applied ← appliedDirectives
    let fields ← optionalList '\x7b' '\x7d' inputDecl
    return { position, description, name, applied, body := .input fields }
  | _ => failAt position

/-- Whether an extension adds nothing. Interfaces alone do not make one of an interface. -/
def TypeDecl.addsNothing (decl : TypeDecl) : Bool :=
  decl.applied.isEmpty &&
    match decl.body with
    | .enum values => values.isEmpty
    | .input fields => fields.isEmpty
    | .interface _ fields => fields.isEmpty
    | .object interfaces fields => interfaces.isEmpty && fields.isEmpty
    | .scalar => true
    | .union members => members.isEmpty

def extensionDecl : Reader TypeDecl := do
  lexeme (.name "extend")
  let decl ← typeDecl none
  if decl.addsNothing then failAt decl.position else return decl

/-! ## Directives -/

/-- The places to which a directive can be applied. -/
def directiveLocations : List String :=
  ["QUERY", "MUTATION", "SUBSCRIPTION", "FIELD", "FRAGMENT_DEFINITION", "FRAGMENT_SPREAD",
    "INLINE_FRAGMENT", "VARIABLE_DEFINITION", "SCHEMA", "SCALAR", "OBJECT", "FIELD_DEFINITION",
    "ARGUMENT_DEFINITION", "INTERFACE", "UNION", "ENUM", "ENUM_VALUE", "INPUT_OBJECT",
    "INPUT_FIELD_DEFINITION"]

def directiveLocation : Reader String :=
  token fun
    | .name text => if directiveLocations.contains text then some text else none
    | _ => none

/-- Whether a list of locations follows; a name or a bar commits to one. -/
def startsLocations : List Token → Bool
  | ⟨.name _, _⟩ :: _ => true
  | ⟨.mark c, _⟩ :: _ => c == '|'
  | _ => false

def locations : Reader (List String) := fun ts =>
  if startsLocations ts then separated '|' directiveLocation ts else .ok ([], ts)

/-- A directive definition from its keyword on. -/
def directiveDecl (description : Option String) : Reader DirectiveDecl := do
  let position ← position
  lexeme (.name "directive")
  mark '@'
  let name ← name
  let args ← optionalList '(' ')' inputDecl
  let repeatable ← skip (.name "repeatable")
  lexeme (.name "on")
  let locations ← locations
  return { position, description, name, args, repeatable, locations }

/-! ## Schema blocks -/

/-- Enters one line of a schema block; each operation has at most one. -/
def RootsDecl.enter (decl : RootsDecl) : String × String → Option RootsDecl
  | ("query", type) => if decl.query.isNone then some { decl with query := some type } else none
  | ("mutation", type) =>
    if decl.mutation.isNone then some { decl with mutation := some type } else none
  | ("subscription", type) =>
    if decl.subscription.isNone then some { decl with subscription := some type } else none
  | _ => none

/-- A schema block; a malformed one is reported where it starts, once it is read. -/
def rootsDecl : Reader RootsDecl := do
  let position ← position
  lexeme (.name "schema")
  let _ ← appliedDirectives
  mark '\x7b'
  let entries ← upTo '\x7d' (entry name)
  match entries.foldlM RootsDecl.enter ⟨position, none, none, none⟩ with
  | some decl => return decl
  | none => failAt position

/-! ## Documents -/

/-- One definition, with its description if it has one. -/
def definition : Reader Definition := do
  if ← nextIs (.name "schema") then
    return .roots (← rootsDecl)
  else if ← nextIs (.name "extend") then
    return .extension (← extensionDecl)
  else
    let description ← description
    if ← nextIs (.name "directive") then
      return .directive (← directiveDecl description)
    else
      return .type (← typeDecl description)

/-- At least one definition, up to the end of the tokens. -/
def definitions : Reader (List Definition) := do
  let first ← definition
  let rest ← many (!·.isEmpty) definition
  return first :: rest

/-- The definitions of a document, or the position at which it cannot be continued. -/
def parse (document : String) : Except Position (List Definition) :=
  let lexed := lex document
  match definitions lexed.tokens with
  | .ok (definitions, _) => if lexed.complete then .ok definitions else .error lexed.stop
  | .error failure => .error (failure.getD lexed.stop)

end SchemaDoc.Sdl
