-- SUMMARY: The code block of a page.
import SchemaDoc.Page.Context

/-!
# Code blocks

The code block repeats the definition of an entity without what is left out of
its page. A block is first built as a structure, which has the members that show,
and then written.
-/

namespace SchemaDoc

/-! ## Default values -/

namespace TypeRef

/-- The type of the items, where a list of this type is written; a name is its own item type. -/
def item : TypeRef → TypeRef
  | .list item _ => item
  | .named name nullable => .named name nullable

end TypeRef

namespace Value

/-- Whether literals of the type are written without quotes: numbers, booleans, enums and inputs. -/
def isBare (schema : Schema) (type : String) : Bool :=
  ["Boolean", "Float", "Int"].contains type ||
    match (schema.types.find? type).map TypeDef.kind with
    | some .enum => true
    | some .input => true
    | _ => false

/-- The literal of a value, between quotes unless its type is written without. -/
def leafText (schema : Schema) (type : TypeRef) (value : Value) : String :=
  if isBare schema type.name then value.text else "\"" ++ value.text ++ "\""

mutual

/-- A default value as written for its type: literals of unknown form get quotes. -/
def defaultText (schema : Schema) (type : TypeRef) : Value → String
  | .null => "null"
  | .list items => "[" ++ String.intercalate ", " (defaultTexts schema type.item items) ++ "]"
  | .string value => Sdl.quote value
  | value => leafText schema type value

def defaultTexts (schema : Schema) (type : TypeRef) : List Value → List String
  | [] => []
  | item :: items => defaultText schema type item :: defaultTexts schema type items

end

end Value

/-! ## Structure -/

namespace Code

/-- An argument, or a field of an input type. -/
structure Input where
  name : String
  type : TypeRef
  default? : Option String
  deprecated : Bool
  deriving DecidableEq, Repr, Inhabited

structure Field where
  name : String
  args : List Input
  type : TypeRef
  deprecated : Bool
  deriving DecidableEq, Repr, Inhabited

structure EnumValue where
  name : String
  deprecated : Bool
  deriving DecidableEq, Repr, Inhabited

end Code

/-- What a code block shows of an entity. -/
inductive Code where
  | enum (name : String) (values : List Code.EnumValue)
  | input (name : String) (fields : List Code.Input)
  | interface (name : String) (interfaces : List String) (fields : List Code.Field)
  | object (name : String) (interfaces : List String) (fields : List Code.Field)
  | scalar (name : String)
  | union (name : String) (members : List String)
  | directive (name : String) (args : List Code.Input) (repeatable : Bool) (places : List String)
  | operation (field : Code.Field)
  deriving DecidableEq, Repr, Inhabited

namespace PageContext

def codeInput (ctx : PageContext) (input : InputValue) : Code.Input where
  name := input.name
  type := input.type
  default? := input.default?.map (Value.defaultText ctx.schema input.type)
  deprecated := input.item.isDeprecated

/-- The arguments or input fields that show. -/
def codeInputs (ctx : PageContext) (inputs : OrderedMap InputValue) : List Code.Input :=
  (inputs.values.filter ctx.isInputPrinted).map ctx.codeInput

def codeField (ctx : PageContext) (field : Field) : Code.Field where
  name := field.name
  args := ctx.codeInputs field.args
  type := field.type
  deprecated := field.item.isDeprecated

/-- The fields that show. -/
def codeFields (ctx : PageContext) (fields : OrderedMap Field) : List Code.Field :=
  (fields.values.filter ctx.isFieldPrinted).map ctx.codeField

/-- The values that show. -/
def codeValues (ctx : PageContext) (values : OrderedMap EnumValue) : List Code.EnumValue :=
  (values.values.filter ctx.isValuePrinted).map fun value => ⟨value.name, value.item.isDeprecated⟩

/-- The code block of a type. -/
def codeOfType (ctx : PageContext) (type : TypeDef) : Code :=
  match type.body with
  | .enum values => .enum type.name (ctx.codeValues values)
  | .input fields => .input type.name (ctx.codeInputs fields)
  | .interface interfaces fields => .interface type.name interfaces (ctx.codeFields fields)
  | .object interfaces fields => .object type.name interfaces (ctx.codeFields fields)
  | .scalar => .scalar type.name
  | .union members => .union type.name (members.filter (!ctx.isTypeExcluded ·))

/-- The code block of an entity. -/
def code (ctx : PageContext) : Entity → Code
  | .type t => ctx.codeOfType t
  | .operation _ f => .operation (ctx.codeField f)
  | .directive d => .directive d.name (ctx.codeInputs d.args) d.repeatable d.places

end PageContext

/-! ## Text -/

namespace Code

/-- Two spaces for each level. -/
def indent (level : Nat) : String :=
  String.ofList (List.replicate (2 * level) ' ')

def mark (deprecated : Bool) : String :=
  if deprecated then " @deprecated" else ""

def Input.text (input : Input) : String :=
  input.name ++ ": " ++ input.type.text
    ++ (match input.default? with
      | some value => " = " ++ value
      | none => "")
    ++ mark input.deprecated

/-- An argument list with one argument per line, or nothing. -/
def argsText (args : List Input) (level : Nat) : String :=
  if args.isEmpty then ""
  else "(\n" ++ String.intercalate "\n" (args.map fun arg => indent level ++ arg.text) ++ "\n"
    ++ indent (level - 1) ++ ")"

def Field.text (field : Field) (level : Nat) : String :=
  field.name ++ argsText field.args (level + 1) ++ ": " ++ field.type.text ++ mark field.deprecated

def EnumValue.text (value : EnumValue) : String :=
  value.name ++ mark value.deprecated

/-- A keyword and a name, the interfaces, and the members between braces, one per line. -/
def blockText (keyword name : String) (interfaces members : List String) : String :=
  keyword ++ " " ++ name
    ++ (if interfaces.isEmpty then "" else " implements " ++ String.intercalate ", " interfaces)
    ++ (if members.isEmpty then ""
      else " \x7b\n" ++ String.intercalate "\n" (members.map (indent 1 ++ ·)) ++ "\n\x7d")

def text : Code → String
  | .enum name values => blockText "enum" name [] (values.map (·.text))
  | .input name fields => blockText "input" name [] (fields.map (·.text))
  | .interface name interfaces fields =>
    blockText "interface" name interfaces (fields.map (·.text 1))
  | .object name interfaces fields => blockText "type" name interfaces (fields.map (·.text 1))
  | .scalar name => "scalar " ++ name
  | .union name members =>
    "union " ++ name ++ (if members.isEmpty then "" else " = " ++ String.intercalate " | " members)
  | .directive name args repeatable places =>
    "directive @" ++ name ++ argsText args 1 ++ (if repeatable then " repeatable" else "") ++ " on "
      ++ String.intercalate " | " places
  | .operation field => field.text 0

end Code

end SchemaDoc
