-- SUMMARY: What pages are made from, and which items they leave out.
import SchemaDoc.Settings.Basic

/-!
# Page context

A page depends on its entity and on a context: the schema with its catalog, the
settings, the custom directives and the groups. The context decides what is left
out: items with a skipped directive, items whose type has one, and deprecated
members where they are not shown.
-/

namespace SchemaDoc

/-- What the pages of a schema are made from. -/
structure PageContext where
  schema : Schema
  catalog : Catalog
  settings : Settings
  customs : OrderedMap CustomDirective
  groups : Option Groups

namespace PageContext

/-- The context for the pages of a schema; fails if the settings do not fit the schema. -/
def ofSchema (schema : Schema) (settings : Settings) : Except ConfigError PageContext := do
  let catalog := schema.catalog
  let customs ← catalog.customDirectives settings.handlers
  return { schema, catalog, settings, customs, groups := settings.groupBy.map catalog.groups }

/-- Whether the item carries a directive that is skipped. -/
def isSkipped (ctx : PageContext) (item : Item) : Bool :=
  ctx.settings.skipDirectives.any item.carries

/-- Whether the type of that name is left out; an unknown one is not. -/
def isTypeExcluded (ctx : PageContext) (type : String) : Bool :=
  (ctx.schema.types.find? type).any fun t => ctx.isSkipped t.item

/-- Whether an item of some type is left out. -/
def isExcluded (ctx : PageContext) (item : Item) (type : Option String) : Bool :=
  ctx.isSkipped item || type.any ctx.isTypeExcluded

/-- Whether a member shows on the page of its parent. -/
def isPrinted (ctx : PageContext) (item : Item) (type : Option String) : Bool :=
  !(ctx.settings.page.deprecated == .skip && item.isDeprecated) && !ctx.isExcluded item type

def isInputPrinted (ctx : PageContext) (input : InputValue) : Bool :=
  ctx.isPrinted input.item (some input.type.name)

def isFieldPrinted (ctx : PageContext) (field : Field) : Bool :=
  ctx.isPrinted field.item (some field.type.name)

def isValuePrinted (ctx : PageContext) (value : EnumValue) : Bool :=
  ctx.isPrinted value.item none

/-- Whether the entity gets a page. -/
def isDocumented (ctx : PageContext) (entity : Entity) : Bool :=
  let type := match entity with
    | .operation _ field => some field.type.name
    | _ => none
  let only := ctx.settings.onlyDirectives
  !ctx.isExcluded entity.item type && (only.isEmpty || only.any entity.item.carries)

/-- The group of an entity, if there are groups. -/
def group? (ctx : PageContext) (slot : Slot) (name : String) : Option String :=
  ctx.groups.bind (·.find? slot name)

end PageContext

end SchemaDoc
