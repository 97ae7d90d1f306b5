-- SUMMARY: All that a definition says of names, types and deprecation, in the form of a code block.
import SchemaDoc.Page.Code
import SchemaDoc.Schema.TypeDef
import SchemaDoc.Proofs.Sdl.Lexing
import SchemaDoc.Sdl.Grammar

/-!
# Outlines

The outline of a definition has all its members, arguments and directive places
in order, with their types and whether they are deprecated, and leaves out
descriptions and other directives. Entities of a schema and definitions of a
document have outlines, so the two can be compared.
-/

namespace SchemaDoc

/-! ## Entities -/

def InputValue.outline (input : InputValue) : Code.Input where
  name := input.name
  type := input.type
  default? := input.default?.map Value.text
  deprecated := input.item.isDeprecated

def Field.outline (field : Field) : Code.Field where
  name := field.name
  args := field.args.values.map InputValue.outline
  type := field.type
  deprecated := field.item.isDeprecated

def EnumValue.outline (value : EnumValue) : Code.EnumValue :=
  ⟨value.name, value.item.isDeprecated⟩

def TypeBody.outline (name : String) : TypeBody → Code
  | .enum values => .enum name (values.values.map EnumValue.outline)
  | .input fields => .input name (fields.values.map InputValue.outline)
  | .interface interfaces fields => .interface name interfaces (fields.values.map Field.outline)
  | .object interfaces fields => .object name interfaces (fields.values.map Field.outline)
  | .scalar => .scalar name
  | .union members => .union name members

/-- All that an entity consists of. -/
def Entity.outline : Entity → Code
  | .type t => t.body.outline t.name
  | .operation _ f => .operation f.outline
  | .directive d => .directive d.name (d.args.values.map InputValue.outline) d.repeatable d.places

/-! ## Definitions of a document -/

namespace Sdl

def InputDecl.outline (decl : InputDecl) : Code.Input where
  name := decl.name
  type := decl.type
  default? := decl.default?.map Value.text
  deprecated := AppliedDirective.isDeprecated decl.applied

def FieldDecl.outline (decl : FieldDecl) : Code.Field where
  name := decl.name
  args := decl.args.map InputDecl.outline
  type := decl.type
  deprecated := AppliedDirective.isDeprecated decl.applied

def EnumValueDecl.outline (decl : EnumValueDecl) : Code.EnumValue :=
  ⟨decl.name, AppliedDirective.isDeprecated decl.applied⟩

def TypeDeclBody.outline (name : String) : TypeDeclBody → Code
  | .enum values => .enum name (values.map EnumValueDecl.outline)
  | .input fields => .input name (fields.map InputDecl.outline)
  | .interface interfaces fields => .interface name interfaces (fields.map FieldDecl.outline)
  | .object interfaces fields => .object name interfaces (fields.map FieldDecl.outline)
  | .scalar => .scalar name
  | .union members => .union name members

def TypeDecl.outline (decl : TypeDecl) : Code :=
  decl.body.outline decl.name

def DirectiveDecl.outline (decl : DirectiveDecl) : Code :=
  .directive decl.name (decl.args.map InputDecl.outline) decl.repeatable decl.locations

/-- What a definition defines; a schema block and an extension define nothing new. -/
def Definition.outline? : Definition → Option Code
  | .type decl => some decl.outline
  | .directive decl => some decl.outline
  | .roots _ | .extension _ => none

end Sdl

/-! ## Parts of outlines -/

namespace Code

/-- The kind of a type. -/
def kind? : Code → Option TypeKind
  | .enum .. => some .enum
  | .input .. => some .input
  | .interface .. => some .interface
  | .object .. => some .object
  | .scalar _ => some .scalar
  | .union .. => some .union
  | .directive .. | .operation _ => none

/-- The interfaces that an object or interface implements. -/
def interfaces : Code → List String
  | .interface _ interfaces _ | .object _ interfaces _ => interfaces
  | _ => []

/-- All arguments and input fields. -/
def inputs : Code → List Input
  | .enum .. | .scalar _ | .union .. => []
  | .input _ fields => fields
  | .interface _ _ fields | .object _ _ fields => fields.flatMap (·.args)
  | .directive _ args _ _ => args
  | .operation field => field.args

end Code

/-! ## Outlines that can be written down -/

/-- Whether the names in a type are proper and its lists nest no deeper than there is room. -/
def TypeRef.fits : TypeRef → Nat → Bool
  | .named name _, _ => Sdl.isName name
  | .list _ _, 0 => false
  | .list item _, room + 1 => item.fits room

namespace Code

/-- An argument or input field that can be declared where there is room for that many brackets. -/
structure Input.Fits (room : Nat) (input : Input) : Prop where
  name : Sdl.isName input.name = true
  type : input.type.fits room = true

/-- Arguments stand between brackets of their own. -/
structure Field.Fits (room : Nat) (field : Field) : Prop where
  name : Sdl.isName field.name = true
  type : field.type.fits room = true
  args : ∀ arg ∈ field.args, 0 < room ∧ arg.Fits (room - 1)

/-- Members and arguments stand between brackets of their own. -/
def Fits (room : Nat) : Code → Prop
  | .enum name values =>
    Sdl.isName name = true ∧ ∀ value ∈ values, 0 < room ∧ Sdl.isName value.name = true
  | .input name fields => Sdl.isName name = true ∧ ∀ field ∈ fields, 0 < room ∧ field.Fits (room - 1)
  | .interface name interfaces fields | .object name interfaces fields =>
    Sdl.isName name = true ∧ (∀ interface ∈ interfaces, Sdl.isName interface = true) ∧
      ∀ field ∈ fields, 0 < room ∧ field.Fits (room - 1)
  | .scalar name => Sdl.isName name = true
  | .union name members => Sdl.isName name = true ∧ ∀ member ∈ members, Sdl.isName member = true
  | .directive name args _ places => Sdl.isName name = true ∧
      (∀ arg ∈ args, 0 < room ∧ arg.Fits (room - 1)) ∧
      ∀ place ∈ places, Sdl.directiveLocations.contains place = true
  | .operation field => field.Fits room

instance (room : Nat) (input : Input) : Decidable (input.Fits room) :=
  decidable_of_iff (Sdl.isName input.name = true ∧ input.type.fits room = true)
    ⟨fun h => ⟨h.1, h.2⟩, fun h => ⟨h.name, h.type⟩⟩

instance (room : Nat) (field : Field) : Decidable (field.Fits room) :=
  decidable_of_iff (Sdl.isName field.name = true ∧ field.type.fits room = true ∧
      ∀ arg ∈ field.args, 0 < room ∧ arg.Fits (room - 1))
    ⟨fun h => ⟨h.1, h.2.1, h.2.2⟩, fun h => ⟨h.name, h.type, h.args⟩⟩

instance (room : Nat) : (code : Code) → Decidable (code.Fits room)
  | .enum .. => inferInstanceAs (Decidable (_ ∧ _))
  | .input .. => inferInstanceAs (Decidable (_ ∧ _))
  | .interface .. => inferInstanceAs (Decidable (_ ∧ _))
  | .object .. => inferInstanceAs (Decidable (_ ∧ _))
  | .scalar _ => inferInstanceAs (Decidable (_ = _))
  | .union .. => inferInstanceAs (Decidable (_ ∧ _))
  | .directive .. => inferInstanceAs (Decidable (_ ∧ _))
  | .operation field => inferInstanceAs (Decidable (field.Fits room))

/-- No two members have the same name, and no two arguments of a member do. -/
def Distinct : Code → Prop
  | .enum _ values => (values.map (·.name)).Nodup
  | .input _ fields => (fields.map (·.name)).Nodup
  | .interface _ _ fields | .object _ _ fields =>
    (fields.map (·.name)).Nodup ∧ ∀ field ∈ fields, (field.args.map (·.name)).Nodup
  | .scalar _ => True
  | .union _ members => members.Nodup
  | .directive _ args _ _ => (args.map (·.name)).Nodup
  | .operation field => (field.args.map (·.name)).Nodup

end Code

end SchemaDoc
