-- SUMMARY: The types and directives of a schema, and how definitions and extensions make them.
import SchemaDoc.Sdl.Syntax

/-!
# Types and directives of a schema

Every item knows where it was declared. Members are ordered maps: a member that
is declared again keeps its place and takes the later content. `TypeDef.ofDecl`
makes a type from its definition, `TypeDef.extend` adds an extension to it.
-/

namespace SchemaDoc

/-! ## Locations -/

/-- Where an item was declared. What the language itself defines has no declaration. -/
inductive Location where
  | builtin
  | inFile (path : String) (position : Sdl.Position)
  deriving DecidableEq, Repr, Inhabited

/-- Whether a document declares the item. -/
def Location.isDeclared : Location → Bool
  | .builtin => false
  | .inFile .. => true

/-- `path:line:column`, or `builtin`. -/
def Location.text : Location → String
  | .builtin => "builtin"
  | .inFile path position => path ++ ":" ++ position.text

/-! ## Members -/

/-- An argument, or a field of an input type. -/
structure InputValue where
  name : String
  description : Option String
  location : Location
  type : TypeRef
  default? : Option Value
  applied : List AppliedDirective
  deriving Inhabited

/-- A field of an object or interface, which it names as its parent. -/
structure Field where
  name : String
  parent : String
  description : Option String
  location : Location
  args : OrderedMap InputValue
  type : TypeRef
  applied : List AppliedDirective
  deriving Inhabited

/-- A value of an enum, which it names. -/
structure EnumValue where
  name : String
  enum : String
  description : Option String
  location : Location
  applied : List AppliedDirective
  deriving Inhabited

def InputValue.ofDecl (file : String) (decl : Sdl.InputDecl) : InputValue where
  name := decl.name
  description := decl.description
  location := .inFile file decl.position
  type := decl.type
  default? := decl.default?
  applied := decl.applied

/-- The declared values under their names. -/
def InputValue.entries (file : String) (decls : List Sdl.InputDecl) : List (String × InputValue) :=
  decls.map fun decl => (decl.name, InputValue.ofDecl file decl)

def Field.ofDecl (file parent : String) (decl : Sdl.FieldDecl) : Field where
  name := decl.name
  parent := parent
  description := decl.description
  location := .inFile file decl.position
  args := .ofList (InputValue.entries file decl.args)
  type := decl.type
  applied := decl.applied

/-- The declared fields under their names. -/
def Field.entries (file parent : String) (decls : List Sdl.FieldDecl) : List (String × Field) :=
  decls.map fun decl => (decl.name, Field.ofDecl file parent decl)

def EnumValue.ofDecl (file enum : String) (decl : Sdl.EnumValueDecl) : EnumValue where
  name := decl.name
  enum := enum
  description := decl.description
  location := .inFile file decl.position
  applied := decl.applied

/-- The declared values under their names. -/
def EnumValue.entries (file enum : String) (decls : List Sdl.EnumValueDecl) :
    List (String × EnumValue) :=
  decls.map fun decl => (decl.name, EnumValue.ofDecl file enum decl)

/-- Whether the field or one of its arguments has this type, under any lists. -/
def Field.references (field : Field) (type : String) : Bool :=
  field.type.name == type || field.args.values.any (·.type.name == type)

/-! ## Types -/

/-- What a type of each kind consists of. -/
inductive TypeBody where
  | enum (values : OrderedMap EnumValue)
  | input (fields : OrderedMap InputValue)
  | interface (interfaces : List String) (fields : OrderedMap Field)
  | object (interfaces : List String) (fields : OrderedMap Field)
  | scalar
  | union (members : List String)
  deriving Inhabited

/-- A named type. -/
structure TypeDef where
  name : String
  description : Option String
  location : Location
  applied : List AppliedDirective
  body : TypeBody
  deriving Inhabited

def TypeBody.kind : TypeBody → TypeKind
  | .enum _ => .enum
  | .input _ => .input
  | .interface .. => .interface
  | .object .. => .object
  | .scalar => .scalar
  | .union _ => .union

def TypeDef.kind (type : TypeDef) : TypeKind := type.body.kind

/-- Appends the names that are not there yet, each once. -/
def appendNew (names more : List String) : List String :=
  more.foldl (fun names name => if names.contains name then names else names ++ [name]) names

/-- A definition keeps its interfaces as written, and names each member of a union once. -/
def TypeBody.ofDecl (file name : String) : Sdl.TypeDeclBody → TypeBody
  | .enum values => .enum (.ofList (EnumValue.entries file name values))
  | .input fields => .input (.ofList (InputValue.entries file fields))
  | .interface interfaces fields => .interface interfaces (.ofList (Field.entries file name fields))
  | .object interfaces fields => .object interfaces (.ofList (Field.entries file name fields))
  | .scalar => .scalar
  | .union members => .union (appendNew [] members)

def TypeDef.ofDecl (file : String) (decl : Sdl.TypeDecl) : TypeDef where
  name := decl.name
  description := decl.description
  location := .inFile file decl.position
  applied := decl.applied
  body := .ofDecl file decl.name decl.body

/-- Adds what an extension of the same kind declares. -/
def TypeBody.extend (file name : String) : TypeBody → Sdl.TypeDeclBody → Option TypeBody
  | .enum values, .enum more => some (.enum (values.insertAll (EnumValue.entries file name more)))
  | .input fields, .input more => some (.input (fields.insertAll (InputValue.entries file more)))
  | .interface interfaces fields, .interface others more =>
    some (.interface (appendNew interfaces others) (fields.insertAll (Field.entries file name more)))
  | .object interfaces fields, .object others more =>
    some (.object (appendNew interfaces others) (fields.insertAll (Field.entries file name more)))
  | .scalar, .scalar => some .scalar
  | .union members, .union more => some (.union (appendNew members more))
  | _, _ => none

/-- The type with an extension added, if the extension is of the same kind. -/
def TypeDef.extend (type : TypeDef) (file : String) (extension : Sdl.TypeDecl) : Option TypeDef :=
  (type.body.extend file type.name extension.body).map fun body =>
    { type with applied := type.applied ++ extension.applied, body }

/-- An extension can be added exactly if its kind is that of the type. -/
theorem TypeBody.extend_isSome (file name : String) (body : TypeBody) (extension : Sdl.TypeDeclBody) :
    (body.extend file name extension).isSome = (body.kind == extension.kind) := by
  cases body <;> cases extension <;> rfl

/-- The names of the types that a field mentions, its own type first. -/
def Field.referenced (field : Field) : List String :=
  field.type.name :: field.args.values.map (·.type.name)

/-- The names of the types that a type mentions, in the order in which it does. -/
def TypeBody.referenced : TypeBody → List String
  | .enum _ => []
  | .input fields => fields.values.map (·.type.name)
  | .interface interfaces fields => interfaces ++ fields.values.flatMap Field.referenced
  | .object interfaces fields => interfaces ++ fields.values.flatMap Field.referenced
  | .scalar => []
  | .union members => members

/-! ## Directives -/

/-- The definition of a directive. -/
structure DirectiveDef where
  name : String
  description : Option String
  location : Location
  args : OrderedMap InputValue
  repeatable : Bool
  /-- Where the directive can be applied. -/
  places : List String
  deriving Inhabited

/-- Whether the language defines the directive, and no document does. -/
def DirectiveDef.isBuiltin (directive : DirectiveDef) : Bool :=
  !directive.location.isDeclared

def DirectiveDef.ofDecl (file : String) (decl : Sdl.DirectiveDecl) : DirectiveDef where
  name := decl.name
  description := decl.description
  location := .inFile file decl.position
  args := .ofList (InputValue.entries file decl.args)
  repeatable := decl.repeatable
  places := decl.locations

end SchemaDoc
