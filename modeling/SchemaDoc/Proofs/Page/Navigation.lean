-- SUMMARY: Where an entity refers to a type, the type lists the entity as related, and the other way round.
import Mathlib.Data.List.Nodup
import SchemaDoc.Proofs.Page.Blocks
import SchemaDoc.Proofs.Page.Links

/-!
# Navigation between pages

The relations of a type are found by a search through the catalog, the references
of an entity by looking types up under their names. Both come down to whether the
entity names the type: then each page leads to the other, provided that both
exist and that no references are left out for being deprecated.
-/

namespace SchemaDoc

open Page

/-! ## What a page leads to -/

/--
The page has a relation of that title with the link. The relation is printed: the
title stands above a row, and the link with its name and its target in the row.
-/
def Page.Lists (page : Page) (title : String) (link : RelationLink) : Prop :=
  ∃ relation ∈ page.relations, relation.title = title ∧ link ∈ relation.links ∧
    ∃ row, relation.blocks page.relationBadges = [[.words ("### " ++ title)], row] ∧
      .link ("`" ++ link.name ++ "`") link.target ∈ row ∧
        page.Prints (joined [[.words ("### " ++ title)], row])

/--
The page has a section of that title with a reference under the label, maybe one to be
unfolded. The section is printed: the title stands above blocks, and the label in one of them.
-/
def Page.Refers (page : Page) (title : String) (label : Label) : Prop :=
  ∃ listing, .listing listing ∈ page.sections ∧ listing.title = title ∧
    (∃ reference, .reference reference ∈ listing.shown ++ listing.folded ∧ reference.label = label) ∧
      ∃ rest, listing.blocks = [.words ("### " ++ title)] :: rest ∧ (∃ block ∈ rest, label.piece ∈ block) ∧
        page.Prints (joined ([.words ("### " ++ title)] :: rest))

/-- All relations of a page are printed. -/
theorem Page.lists_iff_mem {page : Page} {title : String} {link : RelationLink} :
    page.Lists title link ↔ ∃ relation ∈ page.relations, relation.title = title ∧ link ∈ relation.links := by
  constructor
  · rintro ⟨relation, hrelation, htitle, hlink, -⟩
    exact ⟨relation, hrelation, htitle, hlink⟩
  · rintro ⟨relation, hrelation, rfl, hlink⟩
    obtain ⟨row, hblocks, hrow⟩ := RelationSection.exists_row hlink page.relationBadges
    refine ⟨relation, hrelation, rfl, hlink, row, hblocks, hrow, ?_⟩
    rw [← hblocks, ← (relation.consists page.relationBadges).text_eq]
    exact prints_relation hrelation

/-- All references of a page are printed. -/
theorem Page.refers_iff_mem {page : Page} {title : String} {label : Label} :
    page.Refers title label ↔ ∃ listing, .listing listing ∈ page.sections ∧ listing.title = title ∧
      ∃ reference, .reference reference ∈ listing.shown ++ listing.folded ∧ reference.label = label := by
  constructor
  · rintro ⟨listing, hlisting, htitle, hreference, -⟩
    exact ⟨listing, hlisting, htitle, hreference⟩
  · rintro ⟨listing, hlisting, rfl, reference, hreference, rfl⟩
    obtain ⟨rest, hblocks, hlabel⟩ := Listing.exists_blocks hreference
    refine ⟨listing, hlisting, rfl, ⟨reference, hreference, rfl⟩, rest, hblocks, hlabel, ?_⟩
    rw [← hblocks, ← listing.consists.text_eq]
    exact prints_section hlisting

instance (page : Page) (title : String) (link : RelationLink) : Decidable (page.Lists title link) :=
  decidable_of_iff (∃ relation ∈ page.relations, relation.title = title ∧ link ∈ relation.links)
    Page.lists_iff_mem.symm

/-! ## Which types an entity names -/

/-- Where the relations of a type look for entities, these refer to the types of which the relation holds. -/
theorem Entity.referred?_of_slot (entity : Entity) :
    match entity.slot with
    | .objects | .interfaces => ∃ interfaces, entity.referred? = some ("Interfaces", interfaces) ∧
        ∀ type, entity.implements type = true ↔ type ∈ interfaces
    | .unions => ∃ members, entity.referred? = some ("Possible Types", members) ∧
        ∀ type, entity.hasMember type = true ↔ type ∈ members
    | .queries | .mutations | .subscriptions => ∃ returned, entity.referred? = some ("Type", [returned]) ∧
        ∀ type, entity.returns type = true ↔ type ∈ [returned]
    | .directives | .enums | .inputs | .scalars => entity.referred? = none := by
  cases entity with
  | operation kind field =>
    have hreturns : ∀ type, (operation kind field).returns type = true ↔ type ∈ [field.type.name] := by
      intro type
      simp only [returns, beq_iff_eq, List.mem_singleton]
      exact eq_comm
    cases kind <;> exact ⟨field.type.name, rfl, hreturns⟩
  | directive directive => rfl
  | type type =>
    obtain ⟨name, description, location, applied, body⟩ := type
    cases body with
    | object interfaces fields => exact ⟨interfaces, rfl, fun _ => List.contains_iff_mem⟩
    | interface interfaces fields => exact ⟨interfaces, rfl, fun _ => List.contains_iff_mem⟩
    | union members => exact ⟨members, rfl, fun _ => List.contains_iff_mem⟩
    | enum values => rfl
    | input fields => rfl
    | scalar => rfl

namespace PageContext

variable {ctx : PageContext} {slot : Slot} {entity : Entity} {title : String} {page : Page}

/-! ## References -/

/-- The references of a page are to the types that its entity names, if none are skipped. -/
theorem refers_iff (hmode : ctx.settings.page.deprecated ≠ .skip) {heading pageTitle : String}
    {types : List String} {label : Label} (hpage : ctx.page pageTitle entity = .ok page)
    (hreferred : entity.referred? = some (heading, types)) :
    page.Refers heading label ↔
      ∃ reference, .reference reference ∈ ctx.references types ∧ reference.label = label := by
  obtain ⟨descriptors, -, items, hitems, rfl⟩ := page_eq_ok_iff.1 hpage
  rw [Page.refers_iff_mem]
  -- items of members are no references
  have hmembers : ∀ reference, .reference reference ∉ items := by
    intro reference hreference
    obtain ⟨member, -, hmember⟩ := Result.exists_of_mem_right hitems hreference
    obtain ⟨entry, -, args, -, hitem⟩ := memberItem_eq_ok_iff.1 hmember
    cases hitem
  constructor
  · rintro ⟨listing, hlisting, -, reference, hreference, hlabel⟩
    rcases listing_mem_sectionsWith_iff.1 hlisting with ⟨own, -, rfl⟩ | ⟨refers, hrefers, rfl⟩
    · exact absurd (Listing.mem_of_mem_arrange hreference) (hmembers reference)
    · obtain rfl := Option.some.inj (hrefers.symm.trans hreferred)
      exact ⟨reference, Listing.mem_of_mem_arrange hreference, hlabel⟩
  · rintro ⟨reference, hreference, hlabel⟩
    refine ⟨_, listing_mem_sectionsWith_iff.2 (.inr ⟨_, hreferred, rfl⟩), Listing.title_arrange _ _ _,
      reference, ?_, hlabel⟩
    exact (Listing.mem_arrange_iff hmode).2 hreference

/-- A type is referred to if it is named. -/
theorem refers_iff_mem (hmode : ctx.settings.page.deprecated ≠ .skip) {heading pageTitle : String}
    {types : List String} (hpage : ctx.page pageTitle entity = .ok page)
    (hreferred : entity.referred? = some (heading, types)) {slotX : Slot} {x : TypeDef}
    (hx : ctx.isDocumented (.type x) = true)
    (hfind : ctx.catalog.findType? x.name = some (slotX, .type x)) :
    page.Refers heading (ctx.labelOf slotX (.type x)) ↔ x.name ∈ types := by
  rw [refers_iff hmode hpage hreferred, mem_labels_iff]
  constructor
  · rintro ⟨type, htype, slot, found, -, -, hlabel⟩
    obtain rfl : type = x.name := congrArg Label.name hlabel
    exact htype
  · intro hmem
    exact ⟨x.name, hmem, slotX, .type x, hfind, hx, rfl⟩

/-! ## Relations -/

theorem nodup_titles (ctx : PageContext) (entity : Entity) :
    ((ctx.relations entity).map RelationSection.title).Nodup := by
  cases entity with
  | operation kind field => exact List.nodup_nil
  | directive directive => exact List.nodup_nil
  | type type => cases hkind : type.kind <;> simp [relations, hkind, relationSection]

/-- What a page lists under a title is found by the relation of that title. -/
theorem lists_iff (hrelated : ctx.settings.page.relatedTypeSection = true) {pageTitle : String}
    {relation : RelationSection} {link : RelationLink} (hpage : ctx.page pageTitle entity = .ok page)
    (hrelation : relation ∈ ctx.relations entity) :
    page.Lists relation.title link ↔ link ∈ relation.links := by
  obtain ⟨descriptors, -, items, -, rfl⟩ := page_eq_ok_iff.1 hpage
  simp only [Page.lists_iff_mem, pageWith, hrelated, if_true]
  constructor
  · rintro ⟨other, hother, htitle, hlink⟩
    obtain rfl := List.inj_on_of_nodup_map (ctx.nodup_titles entity) hother hrelation htitle
    exact hlink
  · intro hlink
    exact ⟨relation, hrelation, rfl, hlink⟩

/-- An entity is listed if the relation looks at its slot and holds of it. -/
theorem lists_iff_holds (hkeyed : ctx.catalog.Keyed)
    (hrelated : ctx.settings.page.relatedTypeSection = true) {x : Entity} {pageTitle : String}
    {slots : List Slot} {holds : Entity → Bool} (hpage : ctx.page pageTitle x = .ok page)
    (hrelation : ctx.relationSection title (ctx.catalog.related slots holds) ∈ ctx.relations x)
    (hentity : (slot, entity) ∈ ctx.documented) :
    page.Lists title (ctx.linkTo slot entity) ↔ slot ∈ slots ∧ holds entity = true := by
  refine (lists_iff hrelated hpage hrelation).trans ?_
  rw [mem_links_iff hkeyed]
  constructor
  · rintro ⟨slot', entity', hslot, hdocumented, hholds, hlink⟩
    obtain rfl : slot' = slot := congrArg RelationLink.slot hlink
    obtain rfl : entity' = entity := hkeyed.unique (mem_documented_iff.1 hentity).1
      (mem_documented_iff.1 hdocumented).1 (congrArg RelationLink.name hlink)
    exact ⟨hslot, hholds⟩
  · rintro ⟨hslot, hholds⟩
    exact ⟨slot, entity, hslot, hentity, hholds, rfl⟩

/-! ## Both directions -/

section Both

variable {slotX : Slot} {x : TypeDef} {pageX : Page} (hkeyed : ctx.catalog.Keyed)
  (hrelated : ctx.settings.page.relatedTypeSection = true)
  (hmode : ctx.settings.page.deprecated ≠ .skip) (hx : ctx.isDocumented (.type x) = true)
  (hfind : ctx.catalog.findType? x.name = some (slotX, .type x))
  (hpageX : ctx.page x.name (.type x) = .ok pageX) (hentity : (slot, entity) ∈ ctx.documented)
  (hpage : ctx.page entity.name entity = .ok page)

include hkeyed hrelated hmode hx hfind hpageX hentity hpage

/-- If a relation holds of what names the type, each page leads to the other where it holds. -/
theorem lists_iff_refers {slots : List Slot} {holds : Entity → Bool}
    (hrelation : ctx.relationSection title (ctx.catalog.related slots holds) ∈ ctx.relations (.type x))
    (hslot : slot ∈ slots) {heading : String} {types : List String}
    (hreferred : entity.referred? = some (heading, types))
    (hholds : holds entity = true ↔ x.name ∈ types) :
    (pageX.Lists title (ctx.linkTo slot entity) ↔ page.Refers heading (ctx.labelOf slotX (.type x))) ∧
      (page.Refers heading (ctx.labelOf slotX (.type x)) ↔ holds entity = true) := by
  rw [lists_iff_holds hkeyed hrelated hpageX hrelation hentity,
    refers_iff_mem hmode hpage hreferred hx hfind, ← hholds]
  exact ⟨and_iff_right hslot, Iff.rfl⟩

theorem implementedBy_iff (hkind : x.kind = .interface) (hslot : slot = .objects ∨ slot = .interfaces) :
    (pageX.Lists "Implemented By" (ctx.linkTo slot entity) ↔
        page.Refers "Interfaces" (ctx.labelOf slotX (.type x))) ∧
      (page.Refers "Interfaces" (ctx.labelOf slotX (.type x)) ↔ entity.implements x.name = true) := by
  have hreferred := entity.referred?_of_slot
  rw [hkeyed.slot_eq (mem_documented_iff.1 hentity).1] at hreferred
  have hrelation : ctx.relationSection "Implemented By" (ctx.catalog.implementing x.name) ∈
      ctx.relations (.type x) := by
    simp [relations, hkind]
  obtain ⟨interfaces, hinterfaces, himplements⟩ : ∃ interfaces,
      entity.referred? = some ("Interfaces", interfaces) ∧
        ∀ type, entity.implements type = true ↔ type ∈ interfaces := by
    rcases hslot with rfl | rfl <;> exact hreferred
  exact lists_iff_refers hkeyed hrelated hmode hx hfind hpageX hentity hpage hrelation
    (by simpa using hslot) hinterfaces (himplements x.name)

theorem memberOf_iff (hslot : slot = .unions) :
    (pageX.Lists "Member Of" (ctx.linkTo slot entity) ↔
        page.Refers "Possible Types" (ctx.labelOf slotX (.type x))) ∧
      (page.Refers "Possible Types" (ctx.labelOf slotX (.type x)) ↔ entity.hasMember x.name = true) := by
  have hreferred := entity.referred?_of_slot
  rw [hkeyed.slot_eq (mem_documented_iff.1 hentity).1, hslot] at hreferred
  obtain ⟨members, hmembers, hhas⟩ := hreferred
  have hrelation : ctx.relationSection "Member Of" (ctx.catalog.unionsOf x.name) ∈
      ctx.relations (.type x) := by
    simp [relations]
  exact lists_iff_refers hkeyed hrelated hmode hx hfind hpageX hentity hpage hrelation
    (by simp [hslot]) hmembers (hhas x.name)

theorem returnedBy_iff (hslot : slot.isOperation = true) :
    (pageX.Lists "Returned By" (ctx.linkTo slot entity) ↔
        page.Refers "Type" (ctx.labelOf slotX (.type x))) ∧
      (page.Refers "Type" (ctx.labelOf slotX (.type x)) ↔ entity.returns x.name = true) := by
  have hreferred := entity.referred?_of_slot
  rw [hkeyed.slot_eq (mem_documented_iff.1 hentity).1] at hreferred
  have hrelation : ctx.relationSection "Returned By" (ctx.catalog.returning x.name) ∈
      ctx.relations (.type x) := by
    simp [relations]
  obtain ⟨type, htype, hreturns⟩ : ∃ type, entity.referred? = some ("Type", [type]) ∧
      ∀ other, entity.returns other = true ↔ other ∈ [type] := by
    cases slot <;> first | exact hreferred | cases hslot
  have hmem : slot ∈ [.queries, .mutations, .subscriptions] := by
    cases slot <;> first | decide | cases hslot
  exact lists_iff_refers hkeyed hrelated hmode hx hfind hpageX hentity hpage hrelation hmem htype
    (hreturns x.name)

end Both

end PageContext

/--
The pages of a type and of an entity lead to each other or neither does: an
interface and what implements it, a type and the unions of which it is a member,
a type and the operations that return it. They do if the entity names the type.
-/
theorem Schema.navigation_symmetric {documents : List Document} {schema : Schema}
    {settings : Settings} {ctx : PageContext} (hschema : Schema.ofDocuments documents = .ok schema)
    (hctx : PageContext.ofSchema schema settings = .ok ctx)
    (hrelated : settings.page.relatedTypeSection = true)
    (hmode : settings.page.deprecated ≠ .skip)
    {slotX slotY : Slot} {x : TypeDef} {y : Entity} {pageX pageY : Page}
    (hx : (slotX, .type x) ∈ ctx.documented) (hy : (slotY, y) ∈ ctx.documented)
    (hpageX : ctx.page x.name (.type x) = .ok pageX) (hpageY : ctx.page y.name y = .ok pageY) :
    (x.kind = .interface → slotY = .objects ∨ slotY = .interfaces →
        (pageX.Lists "Implemented By" (ctx.linkTo slotY y) ↔
            pageY.Refers "Interfaces" (ctx.labelOf slotX (.type x))) ∧
          (pageY.Refers "Interfaces" (ctx.labelOf slotX (.type x)) ↔ y.implements x.name = true)) ∧
      (slotY = .unions →
        (pageX.Lists "Member Of" (ctx.linkTo slotY y) ↔
            pageY.Refers "Possible Types" (ctx.labelOf slotX (.type x))) ∧
          (pageY.Refers "Possible Types" (ctx.labelOf slotX (.type x)) ↔ y.hasMember x.name = true)) ∧
      (slotY.isOperation = true →
        (pageX.Lists "Returned By" (ctx.linkTo slotY y) ↔
            pageY.Refers "Type" (ctx.labelOf slotX (.type x))) ∧
          (pageY.Refers "Type" (ctx.labelOf slotX (.type x)) ↔ y.returns x.name = true)) := by
  obtain ⟨customs, -, rfl⟩ := PageContext.ofSchema_eq_ok_iff.1 hctx
  have hkeyed := Schema.keyed_of_ofDocuments hschema
  obtain ⟨hentities, hdocumented⟩ := PageContext.mem_documented_iff.1 hx
  have hfind := hkeyed.findType?_of_type hentities
  exact ⟨PageContext.implementedBy_iff hkeyed.catalog hrelated hmode hdocumented hfind hpageX hy hpageY,
    PageContext.memberOf_iff hkeyed.catalog hrelated hmode hdocumented hfind hpageX hy hpageY,
    PageContext.returnedBy_iff hkeyed.catalog hrelated hmode hdocumented hfind hpageX hy hpageY⟩

/-- An object that implements a deprecated interface, is a member of a union, and is what an operation returns. -/
def Document.implementing : List Document :=
  [⟨some "a.graphql", "type Query \x7b widget: Widget \x7d interface Node @deprecated \x7b id: ID \x7d "
    ++ "type Widget implements Node \x7b id: ID \x7d union Pet = Widget"⟩]

/-- The page of a type lists an entity, and that of the entity refers to the type. -/
def PageContext.BothWays (ctx : PageContext) (title heading : String) (slotX : Slot) (x : TypeDef) (slotY : Slot)
    (y : Entity) : Prop :=
  ∃ pageX pageY, ctx.page x.name (.type x) = .ok pageX ∧ ctx.page y.name y = .ok pageY ∧
    pageX.Lists title (ctx.linkTo slotY y) ∧ pageY.Refers heading (ctx.labelOf slotX (.type x))

theorem Entity.exists_of_slot {entity : Entity} {kind : TypeKind} (h : entity.slot = .ofKind kind) :
    ∃ x, entity = .type x ∧ x.kind = kind := by
  cases entity with
  | operation other field => cases other <;> cases kind <;> cases h
  | directive directive => cases kind <;> cases h
  | type x => exact ⟨x, rfl, Slot.ofKind_inj.1 h⟩

/-- The page of the interface. -/
def Document.implementedText : String :=
  "---\nid: node\ntitle: Node\n---\n\n:::caution DEPRECATED\nNo longer supported\n:::\n\nNo description\n\n"
    ++ "```graphql\ninterface Node \x7b\n  id: ID\n\x7d\n```\n\n### Fields\n\n"
    ++ "#### [<code style=\x7b\x7b fontWeight: 'normal' \x7d\x7d>Node.<b>id</b></code>](#)<Bullet />"
    ++ "[`ID`](/schema/types/scalars/id) <Badge class=\"badge badge--secondary\" text=\"scalar\"/>\n\n"
    ++ "### Implemented By\n\n"
    ++ "[`Widget`](/schema/types/objects/widget) <Badge class=\"badge badge--secondary\" text=\"object\"/>\n"

/-- Each way to lead from one page to the other. -/
theorem Schema.navigation_symmetric_implementing :
    ∃ schema ctx node widget pet operation, Schema.ofDocuments Document.implementing = .ok schema ∧
      PageContext.ofSchema schema .default = .ok ctx ∧ node.name = "Node" ∧ widget.name = "Widget" ∧
        ctx.BothWays "Implemented By" "Interfaces" .interfaces node .objects (.type widget) ∧
          ctx.BothWays "Member Of" "Possible Types" .objects widget .unions pet ∧
            ctx.BothWays "Returned By" "Type" .objects widget .queries operation ∧
              ∃ page, ctx.page "Node" (.type node) = .ok page ∧ page.text = Document.implementedText := by
  have hpasses : PageContext.passes Document.implementing .default (fun ctx => decide (
      (∀ entry ∈ ctx.documented, (ctx.page entry.2.name entry.2).isOk = true) ∧
        ∃ node ∈ ctx.documented, node.1 = .interfaces ∧ node.2.slot = .ofKind .interface ∧ node.2.name = "Node" ∧
          ∃ widget ∈ ctx.documented, widget.1 = .objects ∧ widget.2.slot = .ofKind .object ∧ widget.2.name = "Widget" ∧
            ∃ pet ∈ ctx.documented, pet.1 = .unions ∧ ∃ operation ∈ ctx.documented, operation.1 = .queries ∧
              (ctx.page node.2.name node.2).toOption.any (fun page =>
                page.Lists "Implemented By" (ctx.linkTo .objects widget.2) ∧
                  page.text = Document.implementedText) = true ∧
              (ctx.page widget.2.name widget.2).toOption.any (fun page =>
                page.Lists "Member Of" (ctx.linkTo .unions pet.2) ∧
                  page.Lists "Returned By" (ctx.linkTo .queries operation.2)) = true)) = true := by
    decide +kernel
  obtain ⟨schema, ctx, hschema, hctx, htest⟩ := PageContext.exists_of_passes hpasses
  obtain ⟨hok, ⟨_, node⟩, hnode, rfl, hinterface, hnodeName, ⟨_, widget⟩, hwidget, rfl, hobject, hwidgetName,
    ⟨_, pet⟩, hpet, rfl, ⟨_, operation⟩, hoperation, rfl, himplemented, hlisted⟩ := of_decide_eq_true htest
  obtain ⟨node, rfl, hkind⟩ := Entity.exists_of_slot hinterface
  obtain ⟨widget, rfl, -⟩ := Entity.exists_of_slot hobject
  obtain ⟨nodePage, hnodePage⟩ := Result.isOk_iff.1 (hok _ hnode)
  obtain ⟨widgetPage, hwidgetPage⟩ := Result.isOk_iff.1 (hok _ hwidget)
  obtain ⟨petPage, hpetPage⟩ := Result.isOk_iff.1 (hok _ hpet)
  obtain ⟨operationPage, hoperationPage⟩ := Result.isOk_iff.1 (hok _ hoperation)
  rw [hnodePage] at himplemented
  rw [hwidgetPage] at hlisted
  obtain ⟨hnodeLists, htext⟩ := of_decide_eq_true himplemented
  obtain ⟨hmember, hreturned⟩ := of_decide_eq_true hlisted
  have hinterfaces := (Schema.navigation_symmetric hschema hctx rfl (by decide) hnode hwidget hnodePage
    hwidgetPage).1 hkind (.inl rfl)
  have hpossible := (Schema.navigation_symmetric hschema hctx rfl (by decide) hwidget hpet hwidgetPage
    hpetPage).2.1 rfl
  have htype := (Schema.navigation_symmetric hschema hctx rfl (by decide) hwidget hoperation hwidgetPage
    hoperationPage).2.2 rfl
  exact ⟨schema, ctx, node, widget, pet, operation, hschema, hctx, hnodeName, hwidgetName,
    ⟨nodePage, widgetPage, hnodePage, hwidgetPage, hnodeLists, hinterfaces.1.1 hnodeLists⟩,
    ⟨widgetPage, petPage, hwidgetPage, hpetPage, hmember, hpossible.1.1 hmember⟩,
    ⟨widgetPage, operationPage, hwidgetPage, hoperationPage, hreturned, htype.1.1 hreturned⟩,
    nodePage, hnodeName ▸ hnodePage, htext⟩

end SchemaDoc
