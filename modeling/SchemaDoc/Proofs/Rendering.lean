-- SUMMARY: If handlers are templates, rendering leaves out the entities for which a template has no value.
import SchemaDoc.Proofs.Handler.Values
import SchemaDoc.Proofs.Page.Building
import SchemaDoc.Proofs.Page.Context

/-!
# Entities that are left out

Only handlers can keep a page from being built. A template does so if a
placeholder has no value where its directive is applied: to the entity itself if
the template adds to descriptions, or to a member or an argument that shows.
Every other entity has its document, whatever is left out besides.
-/

namespace SchemaDoc

namespace PageContext

variable {ctx : PageContext}

/-- Whether some template has no value on the page of an entity. -/
def leavesOut (ctx : PageContext) (entity : Entity) : Bool :=
  entity.item.lacksValue ctx.customs (·.descriptor) ||
    (ctx.members entity).any fun member => member.subjects.any fun subject =>
      subject.item.lacksValue ctx.customs (·.tag) ||
        subject.item.lacksValue ctx.customs (·.descriptor)

theorem isOk_handlerTexts_iff {item : Item} {handler : Handlers → Option Handler} :
    (ctx.handlerTexts item handler).isOk = true ↔
      ∀ custom ∈ (item.customDirectives ctx.customs).values, ∀ own, handler custom.handlers = some own →
        (own.apply custom.definition item).isOk = true := by
  simp only [handlerTexts, bind_pure_comp, Result.isOk_map, Result.isOk_filterMapM_iff]
  refine forall₂_congr fun custom _ => ?_
  cases handler custom.handlers with
  | none => simp [pure, Except.pure, Except.toBool]
  | some own => simp

/-- The handlers of one kind have all their texts for an item if no template lacks a value. -/
theorem isOk_handlerTexts (hkeyed : ctx.customs.Keyed (·.definition.name))
    {handler : Handlers → Option Handler}
    (htemplates : ∀ custom ∈ ctx.customs.values, (handler custom.handlers).all Handler.isTemplate = true)
    (item : Item) :
    (ctx.handlerTexts item handler).isOk = !item.lacksValue ctx.customs handler := by
  rw [Bool.eq_iff_iff, isOk_handlerTexts_iff]
  simp only [Item.mem_customDirectives_iff hkeyed, Item.lacksValue, Bool.not_eq_true', List.any_eq_false,
    Bool.not_eq_true, and_imp]
  exact forall₂_congr fun custom hcustom =>
    (CustomDirective.lacksValue_eq_false_iff (htemplates custom hcustom)).symm

/-- If handlers are templates, a page can be built unless some template has no value on it. -/
theorem isOk_page (hkeyed : ctx.customs.Keyed (·.definition.name))
    (hdescriptors : ∀ custom ∈ ctx.customs.values, custom.handlers.descriptor.all Handler.isTemplate = true)
    (htags : ∀ custom ∈ ctx.customs.values, custom.handlers.tag.all Handler.isTemplate = true)
    (title : String) (entity : Entity) :
    (ctx.page title entity).isOk = !ctx.leavesOut entity := by
  rw [Bool.eq_iff_iff, isOk_page_iff]
  simp only [descriptors, tags, isOk_handlerTexts hkeyed hdescriptors, isOk_handlerTexts hkeyed htags]
  simp [leavesOut]

end PageContext

/--
If handlers are templates, there is one document for each documented entity in
the order of the catalog, with the page of the entity, except for the entities on
whose pages some template has no value.
-/
theorem Schema.render_templates {documents : List Document} {schema : Schema} {settings : Settings}
    {customs : OrderedMap CustomDirective} (hschema : Schema.ofDocuments documents = .ok schema)
    (htemplates : settings.handlers.areTemplates = true)
    (hcustoms : schema.catalog.customDirectives settings.handlers = .ok customs) :
    ∃ ctx rendered, PageContext.ofSchema schema settings = .ok ctx ∧ ctx.customs = customs ∧
      schema.render settings = .ok rendered ∧
        List.Forall₂
          (fun entry document => ∃ page, ctx.page entry.2.name entry.2 = .ok page ∧
            ctx.document entry.1 entry.2 page = document)
          (schema.catalog.entities.filter fun entry =>
            ctx.isDocumented entry.2 && !ctx.leavesOut entry.2)
          rendered := by
  obtain ⟨ctx, hctx, rfl, hcatalog⟩ : ∃ ctx, PageContext.ofSchema schema settings = .ok ctx ∧
      ctx.customs = customs ∧ ctx.catalog = schema.catalog :=
    ⟨_, PageContext.ofSchema_eq_ok_iff.2 ⟨customs, hcustoms, rfl⟩, rfl, rfl⟩
  have hkeyed := (Schema.keyed_of_ofDocuments hschema).catalog.keyed_customs hcustoms
  have hcustomTemplates : ∀ custom ∈ ctx.customs.values,
      custom.handlers.descriptor.all Handler.isTemplate = true ∧
        custom.handlers.tag.all Handler.isTemplate = true := by
    intro custom hcustom
    have hall := List.all_eq_true.1 htemplates _ (Catalog.handlers_of_mem_customs hcustoms hcustom)
    exact Bool.and_eq_true_iff.1 hall
  have hok := PageContext.isOk_page hkeyed (fun custom h => (hcustomTemplates custom h).1)
    (fun custom h => (hcustomTemplates custom h).2)
  have hrendered := ctx.forall₂_rendered ctx.documented
  simp only [hok, PageContext.documented, List.filter_filter, hcatalog] at hrendered
  refine ⟨ctx, _, hctx, rfl, PageContext.render_eq hctx, ?_⟩
  simpa only [PageContext.documented, hcatalog, Bool.and_comm] using hrendered

/--
Directives without and with a value: on types, on a field, on an argument and on a
value of an enum, and another one on a type and on fields.
-/
def Document.beta : List Document :=
  [⟨some "a.graphql",
    "directive @beta(since: String) on OBJECT | FIELD_DEFINITION | ARGUMENT_DEFINITION | ENUM_VALUE " ++
      "directive @owner(name: String) on OBJECT | FIELD_DEFINITION " ++
        "type Query \x7b x: Old \x7d type Old @beta \x7b x: New \x7d type New @beta(since: \"v2\") \x7b x: Old \x7d"⟩,
    ⟨some "b.graphql",
      "type OldField \x7b x: ID @beta \x7d type OldArgument \x7b x(y: ID @beta): ID \x7d " ++
        "enum OldValue \x7b X @beta \x7d " ++
        "type Shared \x7b x: ID @owner \x7d type Owned @owner \x7b x: ID @owner(name: \"me\") \x7d"⟩]

/-- Says in descriptions since when the one directive counts, and in tags whom the other one names. -/
def Settings.beta : Settings :=
  { Settings.default with
    handlers := .ofList [("beta", ⟨some (.template "Beta since \x7bsince\x7d"), none⟩),
      ("owner", ⟨none, some (.template "\x7bname\x7d")⟩)] }

/--
What lacks a value for a description has no document, whether on itself, a member or an
argument. A tag counts on members only: a type may lack a value of its own for it.
-/
theorem Schema.render_templates_beta :
    ∃ schema rendered, Schema.ofDocuments Document.beta = .ok schema ∧
      schema.render Settings.beta = .ok rendered ∧
        schema.catalog.entities.map (·.2.name) =
          ["x", "beta", "owner", "include", "skip", "deprecated", "specifiedBy", "Old", "New", "OldField",
            "OldArgument", "Shared", "Owned", "OldValue", "ID", "String", "Boolean"] ∧
          rendered.map Rendered.name = ["x", "beta", "owner", "include", "skip", "deprecated", "specifiedBy", "New",
            "Owned", "ID", "String", "Boolean"] := by
  have hpasses : PageContext.passes Document.beta Settings.beta (fun ctx => decide (
      ctx.schema.catalog.entities.map (·.2.name) =
          ["x", "beta", "owner", "include", "skip", "deprecated", "specifiedBy", "Old", "New", "OldField",
            "OldArgument", "Shared", "Owned", "OldValue", "ID", "String", "Boolean"] ∧
        (ctx.schema.catalog.entities.filter fun entry =>
          ctx.isDocumented entry.2 && !ctx.leavesOut entry.2).map (·.2.name) =
            ["x", "beta", "owner", "include", "skip", "deprecated", "specifiedBy", "New", "Owned", "ID", "String",
              "Boolean"])) = true := by
    decide +kernel
  obtain ⟨schema, ctx, hschema, hctx, htest⟩ := PageContext.exists_of_passes hpasses
  obtain ⟨hentities, hkept⟩ := of_decide_eq_true htest
  obtain ⟨customs, hcustoms, rfl⟩ := PageContext.ofSchema_eq_ok_iff.1 hctx
  obtain ⟨ctx, rendered, hctx', -, hrendered, hdocuments⟩ :=
    Schema.render_templates hschema (by decide) hcustoms
  obtain rfl := Except.ok.inj (hctx.symm.trans hctx')
  refine ⟨schema, rendered, hschema, hrendered, hentities, ?_⟩
  rw [← hkept]
  apply Result.map_eq_map_of_forall₂ hdocuments
  rintro entry _ ⟨page, -, rfl⟩
  rfl

end SchemaDoc
