-- SUMMARY: What can be configured, and the defaults.
import SchemaDoc.Catalog.Groups
import SchemaDoc.Handler.Custom

/-!
# Settings

Everything that a configuration can change about the documentation.
-/

namespace SchemaDoc

/-- How deprecated members show. -/
inductive DeprecatedMode where
  /-- In place. -/
  | inline
  /-- In a block of their own after the other members. -/
  | group
  /-- Not at all. -/
  | skip
  deriving DecidableEq, Repr, Inhabited

/-- The folders into which pages are sorted. -/
inductive Hierarchy where
  /-- Operations and types apart, then by group and category. -/
  | api
  /-- By group and category. -/
  | entity
  /-- All in one. -/
  | flat
  deriving DecidableEq, Repr, Inhabited

namespace Settings

/-- What the front matter of a page allows. -/
structure Header where
  pagination : Bool
  toc : Bool
  deriving DecidableEq, Repr, Inhabited

/-- What a page shows. -/
structure Page where
  codeSection : Bool
  deprecated : DeprecatedMode
  header : Header
  hierarchy : Hierarchy
  parentTypePrefix : Bool
  relatedTypeSection : Bool
  typeBadges : Bool
  deriving DecidableEq, Repr, Inhabited

def Header.default : Header := ⟨true, true⟩

def Page.default : Page where
  codeSection := true
  deprecated := .inline
  header := .default
  hierarchy := .api
  parentTypePrefix := true
  relatedTypeSection := true
  typeBadges := true

end Settings

/-- All settings of the documentation. -/
structure Settings where
  baseUrl : String
  handlers : HandlerTable
  groupBy : Option GroupBy
  linkRoot : String
  /-- If there are any, only entities with one of these directives get a page. -/
  onlyDirectives : List String
  page : Settings.Page
  /-- Items with one of these directives are left out. -/
  skipDirectives : List String

/-- The settings where nothing is configured. -/
def Settings.default : Settings where
  baseUrl := "schema"
  handlers := .empty
  groupBy := none
  linkRoot := "/"
  onlyDirectives := []
  page := .default
  skipDirectives := []

instance : Inhabited Settings := ⟨.default⟩

end SchemaDoc
