-- SUMMARY: The context of the pages of a schema, and the entities that get one.
import SchemaDoc.Proofs.Results
import SchemaDoc.Rendering
import SchemaDoc.Schema.Loading

/-!
# Contexts of pages

Settings fit a schema if no template refers to an argument that its directive
lacks; then the pages of the schema have a context. The entities that get a page
are those of the catalog that are neither left out nor unselected.
-/

namespace SchemaDoc

namespace PageContext

theorem ofSchema_eq_ok_iff {schema : Schema} {settings : Settings} {ctx : PageContext} :
    ofSchema schema settings = .ok ctx ↔
      ∃ customs, schema.catalog.customDirectives settings.handlers = .ok customs ∧
        ⟨schema, schema.catalog, settings, customs, settings.groupBy.map schema.catalog.groups⟩ = ctx := by
  simp only [ofSchema, Result.bind_eq_ok_iff, Result.pure_eq_ok_iff]

theorem render_eq {schema : Schema} {settings : Settings} {ctx : PageContext}
    (h : ofSchema schema settings = .ok ctx) :
    schema.render settings =
      .ok (ctx.documented.filterMap fun entry => ctx.rendered? entry.1 entry.2) := by
  simp only [Schema.render, h]
  rfl

/-- The document that has a page as its text. -/
def document (ctx : PageContext) (slot : Slot) (entity : Entity) (page : Page) : Rendered where
  category := slot
  group := ctx.group? slot entity.name
  name := entity.name
  slug := Page.slug entity.name
  body := page.text

theorem rendered?_eq_some_iff {ctx : PageContext} {slot : Slot} {entity : Entity} {document : Rendered} :
    ctx.rendered? slot entity = some document ↔
      ∃ page, ctx.page entity.name entity = .ok page ∧ ctx.document slot entity page = document := by
  unfold rendered?
  split
  · next page hpage => simp [hpage, PageContext.document]
  · next cause hcause => simp [hcause]

/-- Rendering pairs the entities whose pages can be built with their documents. -/
theorem forall₂_rendered (ctx : PageContext) (entries : List (Slot × Entity)) :
    List.Forall₂
      (fun entry document => ∃ page, ctx.page entry.2.name entry.2 = .ok page ∧
        ctx.document entry.1 entry.2 page = document)
      (entries.filter fun entry => (ctx.page entry.2.name entry.2).isOk)
      (entries.filterMap fun entry => ctx.rendered? entry.1 entry.2) := by
  induction entries with
  | nil => exact .nil
  | cons entry rest ih =>
    cases hpage : ctx.page entry.2.name entry.2 with
    | error cause =>
      have hnone : ctx.rendered? entry.1 entry.2 = none := by simp [rendered?, hpage]
      simpa [hnone, hpage, Except.toBool] using ih
    | ok page =>
      have hsome : ctx.rendered? entry.1 entry.2 = some (ctx.document entry.1 entry.2 page) :=
        rendered?_eq_some_iff.2 ⟨page, hpage, rfl⟩
      simp only [List.filterMap_cons, List.filter_cons, hsome, hpage, Except.isOk, Except.toBool, if_true]
      exact .cons ⟨page, hpage, rfl⟩ ih

theorem mem_documented_iff {ctx : PageContext} {slot : Slot} {entity : Entity} :
    (slot, entity) ∈ ctx.documented ↔
      (slot, entity) ∈ ctx.catalog.entities ∧ ctx.isDocumented entity = true := by
  simp only [documented, List.mem_filter]

/-! ## Contexts made from documents -/

/-- Whether documents make a schema that fits the settings, with a context that passes a test. -/
def passes (documents : List Document) (settings : Settings) (test : PageContext → Bool) : Bool :=
  match Schema.ofDocuments documents with
  | .error _ => false
  | .ok schema =>
    match ofSchema schema settings with
    | .error _ => false
    | .ok ctx => test ctx

theorem exists_of_passes {documents : List Document} {settings : Settings} {test : PageContext → Bool}
    (h : passes documents settings test = true) :
    ∃ schema ctx, Schema.ofDocuments documents = .ok schema ∧ ofSchema schema settings = .ok ctx ∧
      test ctx = true := by
  unfold passes at h
  split at h
  · cases h
  · next schema hschema =>
    split at h
    · cases h
    · next ctx hctx => exact ⟨schema, ctx, hschema, hctx, h⟩

end PageContext

end SchemaDoc
