-- SUMMARY: Schema documents as read: definitions with the positions where they stand.
import SchemaDoc.AppliedDirective
import SchemaDoc.TypeRef
import SchemaDoc.Sdl.Position

/-!
# Syntax of schema documents

A document is a list of definitions. An extension has the form of a type
definition without a description. Repeated members stay as they were written;
what a repetition means is settled when the schema is built.
-/

namespace SchemaDoc

/-- The three kinds of operation a schema may offer. -/
inductive OperationKind where
  | query
  | mutation
  | subscription
  deriving DecidableEq, Repr, Inhabited

/-- The six kinds of types. -/
inductive TypeKind where
  | enum
  | input
  | interface
  | object
  | scalar
  | union
  deriving DecidableEq, Repr, Inhabited

/-- The word that introduces a definition of the kind. -/
def TypeKind.keyword : TypeKind → String
  | .enum => "enum"
  | .input => "input"
  | .interface => "interface"
  | .object => "type"
  | .scalar => "scalar"
  | .union => "union"

namespace Sdl

/-- An argument or a field of an input type. -/
structure InputDecl where
  position : Position
  description : Option String
  name : String
  type : TypeRef
  default? : Option Value
  applied : List AppliedDirective

structure FieldDecl where
  position : Position
  description : Option String
  name : String
  args : List InputDecl
  type : TypeRef
  applied : List AppliedDirective

structure EnumValueDecl where
  position : Position
  description : Option String
  name : String
  applied : List AppliedDirective

/-- What a type of each kind consists of. -/
inductive TypeDeclBody where
  | enum (values : List EnumValueDecl)
  | input (fields : List InputDecl)
  | interface (interfaces : List String) (fields : List FieldDecl)
  | object (interfaces : List String) (fields : List FieldDecl)
  | scalar
  | union (members : List String)

def TypeDeclBody.kind : TypeDeclBody → TypeKind
  | .enum _ => .enum
  | .input _ => .input
  | .interface .. => .interface
  | .object .. => .object
  | .scalar => .scalar
  | .union _ => .union

/-- The definition of a type, or an extension of it. -/
structure TypeDecl where
  position : Position
  description : Option String
  name : String
  applied : List AppliedDirective
  body : TypeDeclBody

structure DirectiveDecl where
  position : Position
  description : Option String
  name : String
  args : List InputDecl
  repeatable : Bool
  locations : List String

/-- A schema block names the root types of operations. -/
structure RootsDecl where
  position : Position
  query : Option String
  mutation : Option String
  subscription : Option String

/-- What a document consists of. -/
inductive Definition where
  | roots (decl : RootsDecl)
  | type (decl : TypeDecl)
  | extension (decl : TypeDecl)
  | directive (decl : DirectiveDecl)

end Sdl

end SchemaDoc
