-- SUMMARY: The sections of a page: members, references to types, and relations.
import SchemaDoc.Catalog.Relations
import SchemaDoc.Page.Link

/-!
# Sections

A section lists the members of an entity, the types it refers to, or the entities
related to it. Sections are built as structures that hold what a reader sees,
links included, and are then written. Building fails only where a handler has no
text for a directive.
-/

namespace SchemaDoc

namespace Page

/-- What stands between the parts of a page. -/
def paragraphBreak : String := "\n\n"

/-! ## Pieces of text -/

/-- A character inside the attribute of a badge. -/
def escapeAttribute (c : Char) : List Char :=
  if c = '&' then ['&', 'a', 'm', 'p', ';']
  else if c = '"' then ['&', 'q', 'u', 'o', 't', ';']
  else [c]

/-- A label as the attribute of a badge. -/
def escapedLabel (label : String) : String :=
  String.ofList (label.toList.flatMap escapeAttribute)

/-- A label in a box. -/
def badge (label : String) : String :=
  "<Badge class=\"badge badge--secondary\" text=\"" ++ escapedLabel label ++ "\"/>"

/-- Separates links in a row. -/
def bullet : String := "<Bullet />"

/-- The notice of a deprecation. -/
def deprecationNotice (reason : String) : String :=
  ":::caution DEPRECATED\n" ++ reason ++ "\n:::"

/-- The lines of some texts, each marked as a quotation. -/
def quoted (texts : List String) : String :=
  String.intercalate "\n" ((texts.flatMap Text.lines).map ("> " ++ ·))

/-- A name with what it belongs to, which leads somewhere. -/
structure Label where
  parent : Option String
  name : String
  target : String
  deriving DecidableEq, Repr, Inhabited

def Label.text (label : Label) : String :=
  "[<code style=\x7b\x7b fontWeight: 'normal' \x7d\x7d>"
    ++ (match label.parent with
      | some parent => parent ++ "."
      | none => "")
    ++ "<b>" ++ label.name ++ "</b></code>](" ++ label.target ++ ")"

/-! ## Entries -/

/-- A member: an argument, a field or an enum value. -/
structure Entry where
  label : Label
  /-- The type of the member, if it has one. -/
  type : Option Link
  badges : List String
  deprecation : Option String
  /-- The description, and what handlers add to it. -/
  texts : List String
  deriving DecidableEq, Repr, Inhabited

/-- The entry under a heading of some level. -/
def Entry.text (entry : Entry) (heading : String) : String :=
  let head := heading ++ " " ++ entry.label.text
    ++ (match entry.type with
      | some link => bullet ++ link.text
      | none => "")
    ++ String.join (entry.badges.map fun label => " " ++ badge label)
  let notice := (entry.deprecation.map deprecationNotice).toList
  let quotation := quoted entry.texts
  String.intercalate paragraphBreak
    (head :: notice ++ (if quotation.isEmpty then [] else [quotation]))

/-- A type to which an entity refers, with what that type says of itself. -/
structure Reference where
  label : Label
  /-- The slot of the type, if badges show. -/
  badge : Option Slot
  description : Option String
  deprecated : Bool
  deriving DecidableEq, Repr, Inhabited

def Reference.text (reference : Reference) : String :=
  "#### " ++ reference.label.text
    ++ (match reference.badge with
      | some slot => " " ++ Page.badge slot.singular
      | none => "")
    ++ (match reference.description with
      | some description => paragraphBreak ++ quoted [description]
      | none => "")

/-- What a section lists: a member with its arguments, or a type. -/
inductive SectionItem where
  | member (entry : Entry) (args : List Entry)
  | reference (reference : Reference)
  deriving DecidableEq, Repr

def SectionItem.isDeprecated : SectionItem → Bool
  | .member entry _ => entry.deprecation.isSome
  | .reference r => r.deprecated

def SectionItem.text : SectionItem → String
  | .member entry args =>
    String.intercalate paragraphBreak (entry.text "####" :: args.map (·.text "#####"))
  | .reference r => r.text

/-! ## Sections -/

/-- A title with items in the open, and items in a block that can be unfolded. -/
structure Listing where
  title : String
  shown : List SectionItem
  folded : List SectionItem
  deriving DecidableEq, Repr

/-- Places the deprecated items as the mode asks for. -/
def Listing.arrange (mode : DeprecatedMode) (title : String) (items : List SectionItem) : Listing :=
  match mode with
  | .inline => ⟨title, items, []⟩
  | .group => ⟨title, items.filter (!·.isDeprecated), items.filter (·.isDeprecated)⟩
  | .skip => ⟨title, items.filter (!·.isDeprecated), []⟩

/-- The section, or nothing if it has no items. -/
def Listing.text (listing : Listing) : String :=
  if listing.shown.isEmpty && listing.folded.isEmpty then ""
  else
    let folded := if listing.folded.isEmpty then []
      else ["<details>\n<summary>Show deprecated</summary>\n\n"
        ++ String.intercalate paragraphBreak (listing.folded.map (·.text)) ++ "\n\n</details>"]
    String.intercalate paragraphBreak (("### " ++ listing.title) :: listing.shown.map (·.text) ++ folded)

/-- A part of a page that describes its entity. -/
inductive Section where
  | listing (listing : Listing)
  /-- Where the values of a scalar are specified. -/
  | specification (url : String)
  deriving DecidableEq, Repr

def Section.text : Section → String
  | .listing l => l.text
  | .specification url => "### Specification" ++ paragraphBreak ++ "[" ++ url ++ "](" ++ url ++ ")"

/-- A link to a related entity. -/
structure RelationLink where
  slot : Slot
  name : String
  target : String
  deriving DecidableEq, Repr, Inhabited

/-- The related entities of one relation. -/
structure RelationSection where
  title : String
  links : List RelationLink
  deriving DecidableEq, Repr, Inhabited

def RelationLink.text (link : RelationLink) (badges : Bool) : String :=
  Link.text ⟨link.name, some link.target⟩
    ++ (if badges then " " ++ badge link.slot.singular else "")

def RelationSection.text (relation : RelationSection) (badges : Bool) : String :=
  if relation.links.isEmpty then ""
  else "### " ++ relation.title ++ paragraphBreak
    ++ String.intercalate bullet (relation.links.map (·.text badges))

/-- The texts that are not empty, as paragraphs. -/
def paragraphs (texts : List String) : String :=
  String.intercalate paragraphBreak (texts.filter (!·.isEmpty))

end Page

namespace PageContext

open Page

/-! ## Texts of handlers -/

/-- The texts that one handler of each directive applied to an item gives; empty ones are dropped. -/
def handlerTexts (ctx : PageContext) (item : Item) (handler : Handlers → Option Handler) :
    Except DirectiveError (List String) := do
  let texts ← (item.customDirectives ctx.customs).values.filterMapM fun custom =>
    match handler custom.handlers with
    | some h => some <$> h.apply custom.definition item
    | none => pure none
  return texts.filter (!·.isEmpty)

/-- What the directives applied to an item add to its description. -/
def descriptors (ctx : PageContext) (item : Item) : Except DirectiveError (List String) :=
  ctx.handlerTexts item (·.descriptor)

/-- The badges of the directives applied to an item. -/
def tags (ctx : PageContext) (item : Item) : Except DirectiveError (List String) :=
  ctx.handlerTexts item (·.tag)

/-! ## Members -/

/-- The badges that describe a type reference and the type it names. -/
def typeBadges (ctx : PageContext) (type : TypeRef) : List String :=
  (if type.nullable then [] else ["non-null"])
    ++ (if type.isList then ["list"] else [])
    ++ (match ctx.catalog.findType? type.name with
      | some (slot, _) => slot.singular :: (ctx.group? slot type.name).toList
      | none => [])

/-- The badges of a member: what it is, if these show, and the tags of its directives. -/
def badges (ctx : PageContext) (item : Item) (type : Option TypeRef) :
    Except DirectiveError (List String) := do
  let own := if ctx.settings.page.typeBadges then
      (if item.isDeprecated then ["deprecated"] else [])
        ++ (type.map ctx.typeBadges).getD []
    else []
  return own ++ (← ctx.tags item)

/-- A label with what its name belongs to, if this shows. -/
def label (ctx : PageContext) (parent : Option String) (name target : String) : Label where
  parent := if ctx.settings.page.parentTypePrefix then parent else none
  name := name
  target := target

def entry (ctx : PageContext) (parent : String) (item : Item) (description : Option String)
    (type : Option TypeRef) : Except DirectiveError Entry := do
  let badges ← ctx.badges item type
  let descriptors ← ctx.descriptors item
  return {
    label := ctx.label (some parent) item.name "#"
    type := type.map ctx.typeLink
    badges
    deprecation := item.deprecation?
    texts := description.toList ++ descriptors }

/-- The entries of the arguments or input fields that show. -/
def inputEntries (ctx : PageContext) (parent : String) (inputs : OrderedMap InputValue) :
    Except DirectiveError (List Entry) :=
  (inputs.values.filter ctx.isInputPrinted).mapM fun input =>
    ctx.entry parent input.item input.description (some input.type)

/-- Arguments or input fields as items of a section. -/
def inputItems (ctx : PageContext) (parent : String) (inputs : OrderedMap InputValue) :
    Except DirectiveError (List SectionItem) := do
  return (← ctx.inputEntries parent inputs).map (.member · [])

/-- The fields that show, each with its arguments. -/
def fieldItems (ctx : PageContext) (parent : String) (fields : OrderedMap Field) :
    Except DirectiveError (List SectionItem) :=
  (fields.values.filter ctx.isFieldPrinted).mapM fun field => do
    let entry ← ctx.entry parent field.item field.description (some field.type)
    let args ← ctx.inputEntries (parent ++ "." ++ field.name) field.args
    return .member entry args

/-- The enum values that show. -/
def valueItems (ctx : PageContext) (parent : String) (values : OrderedMap EnumValue) :
    Except DirectiveError (List SectionItem) :=
  (values.values.filter ctx.isValuePrinted).mapM fun value => do
    return .member (← ctx.entry parent value.item value.description none) []

/-! ## Types referred to -/

/-- A reference to the type of that name, if it has a page. -/
def reference? (ctx : PageContext) (type : String) : Option Reference :=
  match ctx.catalog.findType? type with
  | some (slot, entity) =>
    if ctx.isDocumented entity then
      some {
        label := ⟨none, type, ctx.path slot type⟩
        badge := if ctx.settings.page.typeBadges then some slot else none
        description := entity.description
        deprecated := entity.item.isDeprecated }
    else none
  | none => none

def references (ctx : PageContext) (types : List String) : List SectionItem :=
  (types.filterMap ctx.reference?).map .reference

/-! ## Sections of an entity -/

def listing (ctx : PageContext) (title : String) (items : List SectionItem) : Section :=
  .listing (.arrange ctx.settings.page.deprecated title items)

/-- The sections of a type. -/
def sectionsOfType (ctx : PageContext) (type : TypeDef) : Except DirectiveError (List Section) :=
  match type.body with
  | .enum values => return [ctx.listing "Values" (← ctx.valueItems type.name values)]
  | .input fields => return [ctx.listing "Fields" (← ctx.inputItems type.name fields)]
  | .interface interfaces fields =>
    return [ctx.listing "Fields" (← ctx.fieldItems type.name fields),
      ctx.listing "Interfaces" (ctx.references interfaces)]
  | .object interfaces fields =>
    return [ctx.listing "Fields" (← ctx.fieldItems type.name fields),
      ctx.listing "Interfaces" (ctx.references interfaces)]
  | .scalar => return (AppliedDirective.specification? type.applied).toList.map .specification
  | .union members => return [ctx.listing "Possible Types" (ctx.references members)]

/-- The sections of an entity. -/
def sections (ctx : PageContext) : Entity → Except DirectiveError (List Section)
  | .type t => ctx.sectionsOfType t
  | .operation _ f => return [ctx.listing "Arguments" (← ctx.inputItems f.name f.args),
      ctx.listing "Type" (ctx.references [f.type.name])]
  | .directive d => return [ctx.listing "Arguments" (← ctx.inputItems ("@" ++ d.name) d.args)]

/-! ## Relations of an entity -/

/-- The related entities that have a page. -/
def relationSection (ctx : PageContext) (title : String) (relation : Relation) : RelationSection where
  title := title
  links := relation.flatMap fun (slot, entities) =>
    (entities.filter ctx.isDocumented).map fun entity =>
      ⟨slot, entity.name, ctx.path slot entity.name⟩

/-- What uses a type; operations and directives have no such sections. -/
def relations (ctx : PageContext) : Entity → List RelationSection
  | .type t =>
    [ctx.relationSection "Returned By" (ctx.catalog.returning t.name),
      ctx.relationSection "Member Of" (ctx.catalog.unionsOf t.name)]
    ++ (match t.kind with
      | .interface => [ctx.relationSection "Implemented By" (ctx.catalog.implementing t.name)]
      | _ => [])
    ++ [ctx.relationSection "Used By" (ctx.catalog.mentioning t.name)]
  | _ => []

end PageContext

end SchemaDoc
