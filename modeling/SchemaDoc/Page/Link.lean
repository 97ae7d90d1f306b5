-- SUMMARY: Addresses of pages, and links to them.
import SchemaDoc.Page.Context
import SchemaDoc.Page.Slug
import SchemaDoc.Text.Lines

/-!
# Links

The address of a page is made of the root, the base, what the hierarchy adds, and
the slug of the name, with single slashes in between. A link to a type without a
page is plain code.
-/

namespace SchemaDoc

namespace Page

/-- Joins the non-empty pieces between slashes; the path is absolute if the first segment is. -/
def joinPath (segments : List String) : String :=
  let pieces := (segments.flatMap (Text.split '/')).filter (!·.isEmpty)
  let leading := match segments with
    | first :: _ => first.toList.head? == some '/'
    | [] => false
  (if leading then "/" else "") ++ String.intercalate "/" pieces

/-- The folder of operations and that of everything else. -/
def folder (slot : Slot) : String :=
  if slot.isOperation then "operations" else "types"

/-- A text that may lead to a page. -/
structure Link where
  display : String
  target : Option String
  deriving DecidableEq, Repr, Inhabited

def Link.text (link : Link) : String :=
  match link.target with
  | some target => "[`" ++ link.display ++ "`](" ++ target ++ ")"
  | none => "`" ++ link.display ++ "`"

end Page

namespace PageContext

open Page

/-- What the hierarchy adds between the base and the slug. -/
def folders (ctx : PageContext) (slot : Slot) (name : String) : List String :=
  let group := ((ctx.group? slot name).map slug).toList
  match ctx.settings.page.hierarchy with
  | .api => folder slot :: group ++ [slot.name]
  | .entity => group ++ [slot.name]
  | .flat => []

/-- The address of the page of an entity. -/
def path (ctx : PageContext) (slot : Slot) (name : String) : String :=
  joinPath (ctx.settings.linkRoot :: ctx.settings.baseUrl :: ctx.folders slot name ++ [slug name])

/-- A link to the type of that name, shown as some text. -/
def link (ctx : PageContext) (display type : String) : Link :=
  match ctx.catalog.findType? type with
  | some (slot, entity) =>
    if ctx.isDocumented entity then ⟨display, some (ctx.path slot type)⟩ else ⟨display, none⟩
  | none => ⟨display, none⟩

/-- A link to the type under all lists, shown as the whole reference. -/
def typeLink (ctx : PageContext) (type : TypeRef) : Link :=
  ctx.link type.text type.name

end PageContext

end SchemaDoc
