-- SUMMARY: All pages of a schema.
import SchemaDoc.Page.Basic

/-!
# Rendering

Rendering writes a page for every documented entity, in the order of the
catalog. An entity whose page cannot be built is left out; settings that do not
fit the schema fail before any page is built.
-/

namespace SchemaDoc

/-- A page, and where it belongs. -/
structure Rendered where
  category : Slot
  group : Option String
  name : String
  slug : String
  body : String
  deriving DecidableEq, Repr, Inhabited

namespace PageContext

/-- The entities that get a page, with their slots. -/
def documented (ctx : PageContext) : List (Slot × Entity) :=
  ctx.catalog.entities.filter fun (_, entity) => ctx.isDocumented entity

/-- The page of an entity as text, unless it cannot be built. -/
def rendered? (ctx : PageContext) (slot : Slot) (entity : Entity) : Option Rendered :=
  match ctx.page entity.name entity with
  | .ok page => some {
      category := slot
      group := ctx.group? slot entity.name
      name := entity.name
      slug := Page.slug entity.name
      body := page.text }
  | .error _ => none

end PageContext

/-- The pages of a schema. -/
def Schema.render (schema : Schema) (settings : Settings) : Except ConfigError (List Rendered) := do
  let ctx ← PageContext.ofSchema schema settings
  return ctx.documented.filterMap fun (slot, entity) => ctx.rendered? slot entity

end SchemaDoc
