-- SUMMARY: What the schema language defines without a declaration.
import SchemaDoc.Schema.TypeDef

/-!
# Built-in definitions

Five scalars, four directives, and the eight types through which a schema
describes itself. None of them has a place in a document.
-/

namespace SchemaDoc.Builtin

/-! ## Shorthands -/

/-- A type that may be null. -/
def optional (name : String) : TypeRef := .named name true

/-- A type that is never null. -/
def required (name : String) : TypeRef := .named name false

/-- A list without null items. -/
def listOf (name : String) (nullable : Bool) : TypeRef := .list (required name) nullable

def arg (name : String) (description : Option String) (type : TypeRef) (default? : Option Value) :
    InputValue where
  name := name
  description := description
  location := .builtin
  type := type
  default? := default?
  applied := []

def field (parent name : String) (description : Option String) (type : TypeRef)
    (args : List InputValue) : Field where
  name := name
  parent := parent
  description := description
  location := .builtin
  args := .ofList (args.map fun a => (a.name, a))
  type := type
  applied := []

def type (name description : String) (body : TypeBody) : TypeDef where
  name := name
  description := some description
  location := .builtin
  applied := []
  body := body

def scalar (name description : String) : TypeDef :=
  type name description .scalar

/-- An object type whose fields are given without their parent. -/
def object (name description : String) (fields : List (String → Field)) : TypeDef :=
  type name description (.object [] (.ofList ((fields.map (· name)).map fun f => (f.name, f))))

def enumValue (enum name : String) : EnumValue where
  name := name
  enum := enum
  description := none
  location := .builtin
  applied := []

/-- An enum whose values have no descriptions. -/
def enum (name description : String) (values : List String) : TypeDef :=
  type name description (.enum (.ofList ((values.map (enumValue name)).map fun v => (v.name, v))))

def directive (name description : String) (args : List InputValue) (places : List String) :
    DirectiveDef where
  name := name
  description := some description
  location := .builtin
  args := .ofList (args.map fun a => (a.name, a))
  repeatable := false
  places := places

/-- Whether deprecated members are listed too. -/
def includeDeprecated : InputValue :=
  arg "includeDeprecated" none (optional "Boolean") (some (.bool false))

/-! ## Scalars -/

def scalars : List TypeDef := [
  scalar "Boolean"
    "The `Boolean` scalar type represents `true` or `false`.",
  scalar "Float"
    "The `Float` scalar type represents signed double-precision fractional values as specified by [IEEE 754](https://en.wikipedia.org/wiki/IEEE_floating_point).",
  scalar "ID"
    "The `ID` scalar type represents a unique identifier, often used to refetch an object or as key for a cache. The ID type appears in a JSON response as a String; however, it is not intended to be human-readable. When expected as an input type, any string (such as `\"4\"`) or integer (such as `4`) input value will be accepted as an ID.",
  scalar "Int"
    "The `Int` scalar type represents non-fractional signed whole numeric values. Int can represent values between -(2^31) and 2^31 - 1.",
  scalar "String"
    "The `String` scalar type represents textual data, represented as UTF-8 character sequences. The String type is most often used by GraphQL to represent free-form human-readable text."]

/-- The built-in scalar of that name. -/
def scalar? (name : String) : Option TypeDef :=
  scalars.find? (·.name == name)

/-! ## Directives -/

def directives : List DirectiveDef := [
  directive "include"
    "Directs the executor to include this field or fragment only when the `if` argument is true."
    [arg "if"
      (some "Included when true.")
      (required "Boolean") none]
    ["FIELD", "FRAGMENT_SPREAD", "INLINE_FRAGMENT"],
  directive "skip"
    "Directs the executor to skip this field or fragment when the `if` argument is true."
    [arg "if"
      (some "Skipped when true.")
      (required "Boolean") none]
    ["FIELD", "FRAGMENT_SPREAD", "INLINE_FRAGMENT"],
  directive "deprecated"
    "Marks an element of a GraphQL schema as no longer supported."
    [arg "reason"
      (some "Explains why this element was deprecated, usually also including a suggestion for how to access supported similar data. Formatted using the Markdown syntax, as specified by [CommonMark](https://commonmark.org/).")
      (optional "String") (some (.string "No longer supported"))]
    ["FIELD_DEFINITION", "ARGUMENT_DEFINITION", "INPUT_FIELD_DEFINITION", "ENUM_VALUE"],
  directive "specifiedBy"
    "Exposes a URL that specifies the behavior of this scalar."
    [arg "url"
      (some "The URL that specifies the behavior of this scalar.")
      (required "String") none]
    ["SCALAR"]]

/-! ## Introspection -/

def schemaType : TypeDef :=
  object "__Schema"
    "A GraphQL Schema defines the capabilities of a GraphQL server. It exposes all available types and directives on the server, as well as the entry points for query, mutation, and subscription operations."
    [(field · "description" none (optional "String") []),
      (field · "types" (some "A list of all types supported by this server.") (listOf "__Type" false) []),
      (field · "queryType" (some "The type that query operations will be rooted at.") (required "__Type") []),
      (field · "mutationType" (some "If this server supports mutation, the type that mutation operations will be rooted at.") (optional "__Type") []),
      (field · "subscriptionType" (some "If this server support subscription, the type that subscription operations will be rooted at.") (optional "__Type") []),
      (field · "directives" (some "A list of all directives supported by this server.") (listOf "__Directive" false) [])]

def typeType : TypeDef :=
  object "__Type"
    "The fundamental unit of any GraphQL Schema is the type. There are many kinds of types in GraphQL as represented by the `__TypeKind` enum."
    [(field · "kind" none (required "__TypeKind") []),
      (field · "name" none (optional "String") []),
      (field · "description" none (optional "String") []),
      (field · "specifiedByURL" none (optional "String") []),
      (field · "fields" none (listOf "__Field" true) [includeDeprecated]),
      (field · "interfaces" none (listOf "__Type" true) []),
      (field · "possibleTypes" none (listOf "__Type" true) []),
      (field · "enumValues" none (listOf "__EnumValue" true) [includeDeprecated]),
      (field · "inputFields" none (listOf "__InputValue" true) [includeDeprecated]),
      (field · "ofType" none (optional "__Type") [])]

def typeKind : TypeDef :=
  enum "__TypeKind"
    "An enum describing what kind of type a given `__Type` is."
    ["SCALAR", "OBJECT", "INTERFACE", "UNION", "ENUM", "INPUT_OBJECT", "LIST", "NON_NULL"]

def fieldType : TypeDef :=
  object "__Field"
    "Object and Interface types are described by a list of Fields, each of which has a name, potentially a list of arguments, and a return type."
    [(field · "name" none (required "String") []),
      (field · "description" none (optional "String") []),
      (field · "args" none (listOf "__InputValue" false) [includeDeprecated]),
      (field · "type" none (required "__Type") []),
      (field · "isDeprecated" none (required "Boolean") []),
      (field · "deprecationReason" none (optional "String") [])]

def inputValueType : TypeDef :=
  object "__InputValue"
    "Arguments provided to Fields or Directives and the input fields of an InputObject are represented as Input Values which describe their type and optionally a default value."
    [(field · "name" none (required "String") []),
      (field · "description" none (optional "String") []),
      (field · "type" none (required "__Type") []),
      (field · "defaultValue" (some "A GraphQL-formatted string representing the default value for this input value.") (optional "String") []),
      (field · "isDeprecated" none (required "Boolean") []),
      (field · "deprecationReason" none (optional "String") [])]

def enumValueType : TypeDef :=
  object "__EnumValue"
    "One possible value for a given Enum. Enum values are unique values, not a placeholder for a string or numeric value. However an Enum value is returned in a JSON response as a string."
    [(field · "name" none (required "String") []),
      (field · "description" none (optional "String") []),
      (field · "isDeprecated" none (required "Boolean") []),
      (field · "deprecationReason" none (optional "String") [])]

def directiveType : TypeDef :=
  object "__Directive"
    "A Directive provides a way to describe alternate runtime execution and type validation behavior in a GraphQL document."
    [(field · "name" none (required "String") []),
      (field · "description" none (optional "String") []),
      (field · "isRepeatable" none (required "Boolean") []),
      (field · "locations" none (listOf "__DirectiveLocation" false) []),
      (field · "args" none (listOf "__InputValue" false) [includeDeprecated])]

def directiveLocation : TypeDef :=
  enum "__DirectiveLocation"
    "A Directive can be adjacent to many parts of the GraphQL language, a __DirectiveLocation describes one such possible adjacencies."
    ["QUERY", "MUTATION", "SUBSCRIPTION", "FIELD", "FRAGMENT_DEFINITION", "FRAGMENT_SPREAD",
      "INLINE_FRAGMENT", "VARIABLE_DEFINITION", "SCHEMA", "SCALAR", "OBJECT", "FIELD_DEFINITION",
      "ARGUMENT_DEFINITION", "INTERFACE", "UNION", "ENUM", "ENUM_VALUE", "INPUT_OBJECT",
      "INPUT_FIELD_DEFINITION"]

/-- The types through which a schema describes itself. -/
def introspection : List TypeDef :=
  [schemaType, typeType, typeKind, fieldType, inputValueType, enumValueType, directiveType, directiveLocation]

end SchemaDoc.Builtin
