-- SUMMARY: The page of an entity.
import SchemaDoc.Page.Code
import SchemaDoc.Page.Section

/-!
# Pages

A page has, in order, front matter, a description, a code block, the sections of
its kind and the relations. It is built as a structure and then written as
Markdown.
-/

namespace SchemaDoc

/-- A page, before it is written. -/
structure Page where
  title : String
  header : Settings.Header
  deprecation : Option String
  description : String
  descriptors : List String
  code : Option Code
  sections : List Page.Section
  relations : List Page.RelationSection
  /-- Whether related entities carry the badge of their slot. -/
  relationBadges : Bool

/-- No text for a directive applied on the page of an entity. -/
structure PrintError where
  entity : String
  cause : DirectiveError
  deriving DecidableEq, Repr

def PrintError.message (e : PrintError) : String :=
  "Failed to print `" ++ e.entity ++ "`: " ++ e.cause.message

namespace Page

/-- The front matter of a page. -/
def frontMatter (header : Settings.Header) (id title : String) : String :=
  "---\nid: " ++ id ++ "\ntitle: " ++ title ++ "\n"
    ++ (if header.toc then "" else "hide_table_of_contents: true\n")
    ++ (if header.pagination then "" else "pagination_next: null\npagination_prev: null\n")
    ++ "---"

/-- The description where there is none. -/
def noDescription : String := "No description"

/-- The deprecation notice, the description and what handlers add to it. -/
def descriptionText (page : Page) : String :=
  String.intercalate paragraphBreak
    ((page.deprecation.map deprecationNotice).toList ++ page.description :: page.descriptors)

def codeFence (code : Code) : String :=
  "```graphql\n" ++ code.text ++ "\n```"

def text (page : Page) : String :=
  paragraphs
    ([frontMatter page.header (slug page.title) page.title, page.descriptionText]
      ++ (page.code.map codeFence).toList
      ++ [paragraphs (page.sections.map (·.text)),
        paragraphs (page.relations.map (·.text page.relationBadges))])
    ++ "\n"

end Page

namespace PageContext

/-- The page of an entity under some title. -/
def page (ctx : PageContext) (title : String) (entity : Entity) : Except PrintError Page :=
  let built : Except DirectiveError Page := do
    let descriptors ← ctx.descriptors entity.item
    let sections ← ctx.sections entity
    return {
      title
      header := ctx.settings.page.header
      deprecation := entity.item.deprecation?
      description := entity.description.getD Page.noDescription
      descriptors
      code := if ctx.settings.page.codeSection then some (ctx.code entity) else none
      sections
      relations := if ctx.settings.page.relatedTypeSection then ctx.relations entity else []
      relationBadges := ctx.settings.page.typeBadges }
  built.mapError fun cause => ⟨title, cause⟩

/-- The code block of an entity under some name; a name without an entity has none. -/
def codeText (ctx : PageContext) (name : String) : Option Entity → String
  | some entity => (ctx.code entity).text
  | none => "\"" ++ name ++ "\" not supported"

/-- The page of an entity under some name; a name without an entity has an empty one. -/
def pageText (ctx : PageContext) (name : String) : Option Entity → Except PrintError String
  | some entity => Page.text <$> ctx.page name entity
  | none => .ok ""

end PageContext

end SchemaDoc
