-- SUMMARY: Every link on the pages of a schema leads to one of its documents.
import SchemaDoc.Proofs.Catalog.Relations
import SchemaDoc.Proofs.Page.Blocks
import SchemaDoc.Proofs.Page.Building
import SchemaDoc.Proofs.Page.Context

/-!
# Links between documents

Links come from the types of members, from references to types, and from
relations. Each leads to the address of an entity of the catalog that gets a
page. The address can be read off the document of that page, so if all pages can
be built no link leads to a document that is not there.
-/

namespace SchemaDoc

open Page

/-! ## The links of a page -/

/-- Where the type of a member leads; the label of a member leads to itself only. -/
def Page.Entry.targets (entry : Entry) : List String := (entry.type.bind Link.target).toList

def Page.SectionItem.targets : SectionItem → List String
  | .member entry args => entry.targets ++ args.flatMap Entry.targets
  | .reference r => [r.label.target]

/-- The links of all items, those in the part that can be unfolded included. -/
def Page.Section.targets : Section → List String
  | .listing l => (l.shown ++ l.folded).flatMap SectionItem.targets
  | .specification _ => []

def Page.RelationSection.targets (relation : RelationSection) : List String :=
  relation.links.map RelationLink.target

/-- Where the links of a page to entities lead. -/
def Page.targets (page : Page) : List String :=
  page.sections.flatMap Section.targets ++ page.relations.flatMap RelationSection.targets

/-! ## The links of its text -/

/-- All links that are written on a page. -/
def Page.links (page : Page) : List String :=
  page.blocks.flatMap Block.targets

/-- Where the labels of a member and its arguments lead. -/
def Page.SectionItem.anchors : SectionItem → List String
  | .member entry args => (entry :: args).map (·.label.target)
  | .reference _ => []

namespace Page

@[simp] theorem Block.targets_nil : Block.targets [] = [] := rfl

@[simp] theorem Block.targets_words (words : String) (rest : Block) :
    Block.targets (.words words :: rest) = Block.targets rest := rfl

@[simp] theorem Block.targets_link (shown target : String) (rest : Block) :
    Block.targets (.link shown target :: rest) = target :: Block.targets rest := rfl

theorem Block.targets_append (first rest : Block) :
    Block.targets (first ++ rest) = Block.targets first ++ Block.targets rest :=
  List.filterMap_append

theorem Block.targets_map_words {α : Type} (words : α → String) (items : List α) :
    Block.targets (items.map fun item => .words (words item)) = [] := by
  rw [targets, List.filterMap_map]
  exact List.filterMap_eq_nil_iff.2 fun _ _ => rfl

theorem Block.targets_intercalate (words : String) (blocks : List Block) :
    Block.targets (List.intercalate [.words words] blocks) = blocks.flatMap Block.targets := by
  induction blocks with
  | nil => rfl
  | cons block rest ih =>
    cases rest with
    | nil => simp
    | cons next rest =>
      rw [List.intercalate_cons_cons, targets_append, targets_append, ih]
      simp

theorem Entry.targets_heading (entry : Entry) (level : String) :
    Block.targets (entry.heading level) = entry.label.target :: entry.targets := by
  rw [heading, List.cons_append, Block.targets_words, List.cons_append, Label.piece, Block.targets_link,
    Block.targets_append, Block.targets_map_words, List.append_nil, targets]
  rcases entry.type with _ | ⟨display, _ | target⟩ <;> rfl

theorem Entry.targets_annotations (entry : Entry) : entry.annotations.flatMap Block.targets = [] := by
  rw [annotations, List.flatMap_append, List.append_eq_nil_iff]
  constructor
  · cases entry.deprecation <;> rfl
  · split <;> rfl

theorem Entry.targets_blocks (entry : Entry) (level : String) :
    (entry.blocks level).flatMap Block.targets = entry.label.target :: entry.targets := by
  rw [blocks, List.flatMap_cons, targets_heading, targets_annotations, List.append_nil]

theorem Reference.targets_blocks (reference : Reference) :
    reference.blocks.flatMap Block.targets = [reference.label.target] := by
  obtain ⟨label, badge, description, deprecated⟩ := reference
  cases badge <;> cases description <;> rfl

theorem RelationSection.targets_blocks (relation : RelationSection) (badges : Bool) :
    (relation.blocks badges).flatMap Block.targets = relation.targets := by
  have hlink (link : RelationLink) : Block.targets (link.pieces badges) = [link.target] := by
    cases badges <;> rfl
  rw [blocks, targets]
  split
  · next hlinks => rw [hlinks]; rfl
  · rw [List.flatMap_cons, List.flatMap_singleton, Block.targets_intercalate, List.flatMap_map]
    simp [hlink, ← List.map_eq_flatMap]

section Written

variable {target : String}

theorem SectionItem.mem_links_iff {item : SectionItem} :
    target ∈ item.blocks.flatMap Block.targets ↔ target ∈ item.targets ∨ target ∈ item.anchors := by
  cases item with
  | reference r => simp [blocks, targets, anchors, r.targets_blocks]
  | member entry args =>
    rw [blocks, List.flatMap_append, Entry.targets_blocks, List.flatMap_assoc]
    simp only [Entry.targets_blocks, targets, anchors, List.mem_append, List.mem_cons, List.map_cons, List.mem_flatMap,
      List.mem_map, and_or_left, exists_or, eq_comm (a := target)]
    grind

theorem targets_sectionBlocks (title : String) (opened closed : List Block) :
    (sectionBlocks title opened closed).flatMap Block.targets = (opened ++ closed).flatMap Block.targets := by
  rw [sectionBlocks]
  split
  · next hempty =>
    obtain ⟨rfl, rfl⟩ := hempty
    rfl
  · split
    · next hclosed => simp [hclosed]
    · simp

theorem Section.mem_links_iff {part : Section} :
    target ∈ part.blocks.flatMap Block.targets ↔ target ∈ part.targets ∨ part = .specification target ∨
      ∃ listing, part = .listing listing ∧ ∃ item ∈ listing.shown ++ listing.folded, target ∈ item.anchors := by
  cases part with
  | specification url => simp [blocks, targets, eq_comm]
  | listing l =>
    rw [blocks, Listing.blocks, targets_sectionBlocks, ← List.flatMap_append, List.flatMap_assoc]
    simp only [List.mem_flatMap (l := l.shown ++ l.folded), SectionItem.mem_links_iff, targets, and_or_left, exists_or]
    simp

/-- The links to entities are those that are written, apart from the labels of members and from specifications. -/
theorem mem_links_iff {page : Page} :
    target ∈ page.links ↔ target ∈ page.targets ∨ .specification target ∈ page.sections ∨
      ∃ listing, .listing listing ∈ page.sections ∧
        ∃ item ∈ listing.shown ++ listing.folded, target ∈ item.anchors := by
  have hcode : (page.code.map fenced).toList.flatMap Block.targets = [] := by cases page.code <;> rfl
  have hdescription : (if page.descriptionText = "" then [] else [[Piece.words page.descriptionText]]).flatMap
      Block.targets = [] := by
    split <;> rfl
  have hrelations : (page.relations.flatMap (·.blocks page.relationBadges)).flatMap Block.targets =
      page.relations.flatMap RelationSection.targets := by
    rw [List.flatMap_assoc]
    exact List.flatMap_congr fun relation _ => relation.targets_blocks page.relationBadges
  have hlinks : page.links = page.sections.flatMap (fun part => part.blocks.flatMap Block.targets)
      ++ page.relations.flatMap RelationSection.targets := by
    rw [links, blocks]
    simp only [List.flatMap_append, List.flatMap_cons, hcode, hdescription, hrelations, List.flatMap_assoc]
    rfl
  have hlisting : (∃ part ∈ page.sections, ∃ listing, part = .listing listing ∧
      ∃ item ∈ listing.shown ++ listing.folded, target ∈ item.anchors) ↔
        ∃ listing, .listing listing ∈ page.sections ∧
          ∃ item ∈ listing.shown ++ listing.folded, target ∈ item.anchors := by
    constructor
    · rintro ⟨_, hpart, listing, rfl, hitem⟩
      exact ⟨listing, hpart, hitem⟩
    · rintro ⟨listing, hpart, hitem⟩
      exact ⟨_, hpart, listing, rfl, hitem⟩
  rw [hlinks, Page.targets, List.mem_append, List.mem_append, List.mem_flatMap, List.mem_flatMap (l := page.sections)]
  simp only [Section.mem_links_iff, and_or_left, exists_or, exists_eq_right, hlisting]
  rw [or_right_comm]

end Written

end Page

/-! ## Addresses of documents -/

/-- The folders of a document between the base and its own name. -/
def Rendered.folders (document : Rendered) : Hierarchy → List String
  | .api =>
    (if document.category.isOperation then "operations" else "types")
      :: (document.group.map Page.slug).toList ++ [document.category.name]
  | .entity => (document.group.map Page.slug).toList ++ [document.category.name]
  | .flat => []

/-- The address at which a document belongs. -/
def Rendered.address (document : Rendered) (settings : Settings) : String :=
  joinPath (settings.linkRoot :: settings.baseUrl :: document.folders settings.page.hierarchy
    ++ [document.slug])

namespace PageContext

variable {ctx : PageContext}

theorem address_document (ctx : PageContext) (slot : Slot) (entity : Entity) (page : Page) :
    (ctx.document slot entity page).address ctx.settings = ctx.path slot entity.name := by
  rw [Rendered.address, path, folders]
  cases ctx.settings.page.hierarchy <;> rfl

/-! ## What is referred to -/

/-- The label under which a page refers to an entity. -/
def labelOf (ctx : PageContext) (slot : Slot) (entity : Entity) : Label :=
  ⟨none, entity.name, ctx.path slot entity.name⟩

/-- The link with which a page names an entity as related. -/
def linkTo (ctx : PageContext) (slot : Slot) (entity : Entity) : RelationLink :=
  ⟨slot, entity.name, ctx.path slot entity.name⟩

/-- References are to the documented types among those named. -/
theorem mem_labels_iff {types : List String} {label : Label} :
    (∃ reference, .reference reference ∈ ctx.references types ∧ reference.label = label) ↔
      ∃ type ∈ types, ∃ slot entity, ctx.catalog.findType? type = some (slot, entity) ∧
        ctx.isDocumented entity = true ∧ ⟨none, type, ctx.path slot type⟩ = label := by
  simp only [references, List.mem_map, List.mem_filterMap, SectionItem.reference.injEq, exists_eq_right]
  constructor
  · rintro ⟨reference, ⟨type, htype, hsome⟩, rfl⟩
    unfold reference? at hsome
    split at hsome
    · next slot entity hfind =>
      split at hsome
      · next hdocumented =>
        cases hsome
        exact ⟨type, htype, slot, entity, hfind, hdocumented, rfl⟩
      · cases hsome
    · cases hsome
  · rintro ⟨type, htype, slot, entity, hfind, hdocumented, rfl⟩
    obtain ⟨reference, hsome, hlabel⟩ : ∃ reference, ctx.reference? type = some reference ∧
        reference.label = ⟨none, type, ctx.path slot type⟩ := by
      simp [reference?, hfind, hdocumented]
    exact ⟨reference, ⟨type, htype, hsome⟩, hlabel⟩

/-- Relations are to the documented entities of some slots of which something holds. -/
theorem mem_links_iff (hkeyed : ctx.catalog.Keyed) {title : String} {slots : List Slot}
    {holds : Entity → Bool} {link : RelationLink} :
    link ∈ (ctx.relationSection title (ctx.catalog.related slots holds)).links ↔
      ∃ slot entity, slot ∈ slots ∧ (slot, entity) ∈ ctx.documented ∧ holds entity = true ∧
        ctx.linkTo slot entity = link := by
  have hlists := hkeyed.lists_related slots fun entity => Iff.rfl (a := holds entity = true)
  simp only [relationSection, List.mem_flatMap, List.mem_map, List.mem_filter, mem_documented_iff,
    Catalog.mem_entities_iff, linkTo]
  constructor
  · rintro ⟨⟨slot, entities⟩, hentry, entity, ⟨hentity, hdocumented⟩, rfl⟩
    obtain ⟨hslot, hvalue, hholds⟩ := (hlists.mem_iff slot entity).1 ⟨entities, hentry, hentity⟩
    exact ⟨slot, entity, hslot, ⟨hvalue, hdocumented⟩, hholds, rfl⟩
  · rintro ⟨slot, entity, hslot, ⟨hvalue, hdocumented⟩, hholds, rfl⟩
    obtain ⟨entities, hentry, hentity⟩ := (hlists.mem_iff slot entity).2 ⟨hslot, hvalue, hholds⟩
    exact ⟨(slot, entities), hentry, entity, ⟨hentity, hdocumented⟩, rfl⟩

/-! ## Where links lead -/

/-- The address is that of a documented entity. -/
def Leads (ctx : PageContext) (target : String) : Prop :=
  ∃ entry ∈ ctx.documented, target = ctx.path entry.1 entry.2.name

theorem leads_of_findType? (hkeyed : ctx.catalog.Keyed) {type : String} {slot : Slot} {entity : Entity}
    (hfind : ctx.catalog.findType? type = some (slot, entity))
    (hdocumented : ctx.isDocumented entity = true) : ctx.Leads (ctx.path slot type) := by
  obtain ⟨hmem, rfl⟩ := hkeyed.of_findType? hfind
  exact ⟨(slot, entity), mem_documented_iff.2 ⟨hmem, hdocumented⟩, rfl⟩

theorem leads_link (hkeyed : ctx.catalog.Keyed) {display type target : String}
    (h : (ctx.link display type).target = some target) : ctx.Leads target := by
  unfold link at h
  split at h
  · next slot entity hfind =>
    split at h
    · next hdocumented =>
      cases h
      exact leads_of_findType? hkeyed hfind hdocumented
    · cases h
  · cases h

theorem leads_subjectEntry (hkeyed : ctx.catalog.Keyed) {subject : Subject} {entry : Entry}
    (h : ctx.subjectEntry subject = .ok entry) : ∀ target ∈ entry.targets, ctx.Leads target := by
  obtain ⟨badges, -, descriptors, -, rfl⟩ := subjectEntry_eq_ok_iff.1 h
  intro target htarget
  obtain ⟨link, hlink, hto⟩ := Option.bind_eq_some_iff.1 (Option.mem_toList.1 htarget)
  obtain ⟨type, -, rfl⟩ := Option.map_eq_some_iff.1 hlink
  exact leads_link hkeyed hto

theorem leads_memberItem (hkeyed : ctx.catalog.Keyed) {member : Member} {item : SectionItem}
    (h : ctx.memberItem member = .ok item) : ∀ target ∈ item.targets, ctx.Leads target := by
  obtain ⟨entry, hentry, args, hargs, rfl⟩ := memberItem_eq_ok_iff.1 h
  intro target htarget
  rcases List.mem_append.1 htarget with hown | harg
  · exact leads_subjectEntry hkeyed hentry target hown
  · obtain ⟨arg, hmem, hto⟩ := List.mem_flatMap.1 harg
    obtain ⟨subject, -, hsubject⟩ := Result.exists_of_mem_right hargs hmem
    exact leads_subjectEntry hkeyed hsubject target hto

theorem leads_references (hkeyed : ctx.catalog.Keyed) {types : List String} {item : SectionItem}
    (h : item ∈ ctx.references types) : ∀ target ∈ item.targets, ctx.Leads target := by
  obtain ⟨reference, hreference, rfl⟩ := List.mem_map.1 h
  obtain ⟨type, -, slot, entity, hfind, hdocumented, hlabel⟩ := mem_labels_iff.1 ⟨reference, h, rfl⟩
  intro target htarget
  obtain rfl := List.mem_singleton.1 htarget
  rw [← hlabel]
  exact leads_of_findType? hkeyed hfind hdocumented

theorem leads_relationSection (hkeyed : ctx.catalog.Keyed) (title : String) (slots : List Slot)
    (holds : Entity → Bool) :
    ∀ target ∈ (ctx.relationSection title (ctx.catalog.related slots holds)).targets,
      ctx.Leads target := by
  intro target htarget
  obtain ⟨link, hlink, rfl⟩ := List.mem_map.1 htarget
  obtain ⟨slot, entity, -, hdocumented, -, rfl⟩ := (mem_links_iff hkeyed).1 hlink
  exact ⟨(slot, entity), hdocumented, rfl⟩

theorem leads_listing {title : String} {items : List SectionItem}
    (h : ∀ item ∈ items, ∀ target ∈ item.targets, ctx.Leads target) :
    ∀ target ∈ (ctx.listing title items).targets, ctx.Leads target := by
  intro target htarget
  obtain ⟨item, hitem, hto⟩ := List.mem_flatMap.1 htarget
  exact h item (Listing.mem_of_mem_arrange hitem) target hto

theorem targets_specifications {entity : Entity} {part : Section} (h : part ∈ entity.specifications) :
    part.targets = [] := by
  unfold Entity.specifications at h
  split at h
  · split at h
    · obtain ⟨url, -, rfl⟩ := List.mem_map.1 h
      rfl
    all_goals cases h
  all_goals cases h

theorem leads_sectionsWith (hkeyed : ctx.catalog.Keyed) {entity : Entity} {items : List SectionItem}
    (hitems : ∀ item ∈ items, ∀ target ∈ item.targets, ctx.Leads target) :
    ∀ part ∈ ctx.sectionsWith entity items, ∀ target ∈ part.targets, ctx.Leads target := by
  intro part hpart
  simp only [sectionsWith, List.mem_append, Option.mem_toList, Option.map_eq_some_iff] at hpart
  rcases hpart with (⟨title, -, rfl⟩ | ⟨refers, -, rfl⟩) | hspecification
  · exact leads_listing hitems
  · exact leads_listing fun item => leads_references hkeyed
  · simp [targets_specifications hspecification]

/-- Every relation looks for entities of some kind in some slots. -/
theorem exists_related_of_mem_relations {entity : Entity} {relation : RelationSection}
    (h : relation ∈ ctx.relations entity) :
    ∃ title slots holds, ctx.relationSection title (ctx.catalog.related slots holds) = relation := by
  cases entity with
  | operation kind field => cases h
  | directive directive => cases h
  | type type =>
    simp only [relations, List.mem_append, List.mem_cons, List.not_mem_nil, or_false] at h
    rcases h with ((rfl | rfl) | himplemented) | rfl
    · exact ⟨_, _, _, rfl⟩
    · exact ⟨_, _, _, rfl⟩
    · split at himplemented
      · obtain rfl := List.mem_singleton.1 himplemented
        exact ⟨_, _, _, rfl⟩
      · cases himplemented
    · exact ⟨_, _, _, rfl⟩

/-- All links of a page lead to documented entities. -/
theorem leads_page (hkeyed : ctx.catalog.Keyed) {title : String} {entity : Entity} {page : Page}
    (h : ctx.page title entity = .ok page) : ∀ target ∈ page.targets, ctx.Leads target := by
  obtain ⟨descriptors, -, items, hitems, rfl⟩ := page_eq_ok_iff.1 h
  have hitemsLead : ∀ item ∈ items, ∀ target ∈ item.targets, ctx.Leads target := by
    intro item hitem
    obtain ⟨member, -, hmember⟩ := Result.exists_of_mem_right hitems hitem
    exact leads_memberItem hkeyed hmember
  intro target htarget
  rcases List.mem_append.1 htarget with hsection | hrelation
  · obtain ⟨part, hpart, hto⟩ := List.mem_flatMap.1 hsection
    exact leads_sectionsWith hkeyed hitemsLead part hpart target hto
  · obtain ⟨relation, hmem, hto⟩ := List.mem_flatMap.1 hrelation
    simp only [pageWith] at hmem
    split at hmem
    · obtain ⟨title, slots, holds, rfl⟩ := exists_related_of_mem_relations hmem
      exact leads_relationSection hkeyed title slots holds target hto
    · cases hmem

/-- The labels of members lead nowhere else. -/
theorem anchors_memberItem {member : Member} {item : SectionItem} (h : ctx.memberItem member = .ok item) :
    ∀ target ∈ item.anchors, target = "#" := by
  have hanchor {subject : Subject} {entry : Entry} (h : ctx.subjectEntry subject = .ok entry) :
      entry.label.target = "#" := by
    obtain ⟨badges, -, descriptors, -, rfl⟩ := subjectEntry_eq_ok_iff.1 h
    rfl
  obtain ⟨entry, hentry, args, hargs, rfl⟩ := memberItem_eq_ok_iff.1 h
  refine List.forall_mem_map.2 (List.forall_mem_cons.2 ⟨hanchor hentry, fun arg harg => ?_⟩)
  obtain ⟨subject, -, hsubject⟩ := Result.exists_of_mem_right hargs harg
  exact hanchor hsubject

/-- Whatever is written as a link is one to an entity, the label of a member or a specification. -/
theorem links_page {title target : String} {entity : Entity} {page : Page} (hpage : ctx.page title entity = .ok page)
    (htarget : target ∈ page.links) :
    target = "#" ∨ .specification target ∈ page.sections ∨ target ∈ page.targets := by
  rcases Page.mem_links_iff.1 htarget with htarget | hspecification | ⟨listing, hlisting, item, hitem, hanchor⟩
  · exact .inr (.inr htarget)
  · exact .inr (.inl hspecification)
  · obtain ⟨descriptors, -, items, hitems, rfl⟩ := page_eq_ok_iff.1 hpage
    refine .inl ?_
    rcases listing_mem_sectionsWith_iff.1 hlisting with ⟨heading, -, rfl⟩ | ⟨refers, -, rfl⟩
    · obtain ⟨member, -, hmember⟩ := Result.exists_of_mem_right hitems (Listing.mem_of_mem_arrange hitem)
      exact anchors_memberItem hmember target hanchor
    · obtain ⟨reference, -, rfl⟩ := List.mem_map.1 (Listing.mem_of_mem_arrange hitem)
      cases hanchor

end PageContext

/-! ## No link dangles -/

/--
If all pages can be built, every link of every document leads to the address of a document.
These links are all that is written as a link in the text of the document, apart from the
labels of members, which stay where they are, and from specifications.
-/
theorem Schema.links_lead_to_documents {documents : List Document} {schema : Schema}
    {settings : Settings} {ctx : PageContext} (hschema : Schema.ofDocuments documents = .ok schema)
    (hctx : PageContext.ofSchema schema settings = .ok ctx)
    (hprints : ∀ entry ∈ ctx.documented, (ctx.page entry.2.name entry.2).isOk = true) :
    ∃ rendered, schema.render settings = .ok rendered ∧
      List.Forall₂
        (fun entry document => ∃ page, ctx.page entry.2.name entry.2 = .ok page ∧
          ctx.document entry.1 entry.2 page = document ∧
            (∀ target ∈ page.targets, ∃ other ∈ rendered, target = other.address settings) ∧
              document.body = joined page.blocks ++ "\n" ∧ (∀ target ∈ page.targets, target ∈ page.links) ∧
                ∀ target ∈ page.links, target = "#" ∨ .specification target ∈ page.sections ∨ target ∈ page.targets)
        ctx.documented rendered := by
  have hrendered := ctx.forall₂_rendered ctx.documented
  rw [List.filter_eq_self.2 hprints] at hrendered
  refine ⟨_, PageContext.render_eq hctx, hrendered.imp ?_⟩
  obtain ⟨customs, -, rfl⟩ := PageContext.ofSchema_eq_ok_iff.1 hctx
  have hkeyed := (Schema.keyed_of_ofDocuments hschema).catalog
  rintro entry _ ⟨page, hpage, rfl⟩
  refine ⟨page, hpage, rfl, ?_, page.text_eq, fun target htarget => Page.mem_links_iff.2 (.inl htarget),
    fun target => PageContext.links_page hpage⟩
  intro target htarget
  obtain ⟨other, hother, rfl⟩ := PageContext.leads_page hkeyed hpage target htarget
  obtain ⟨document, hdocument, otherPage, -, rfl⟩ := Result.exists_of_mem_left hrendered hother
  exact ⟨_, hdocument, (PageContext.address_document _ other.1 other.2 otherPage).symm⟩

/-- An operation that returns a type with a category. -/
def Document.linked : List Document :=
  [⟨some "a.graphql",
    "directive @doc(category: String) on OBJECT type Query { widget: Widget } type Widget @doc(category: \"Tools\") { id: ID }"⟩]

/-- Entities are grouped by the category of their documentation. -/
def Settings.grouped : Settings :=
  { Settings.default with groupBy := some ⟨"doc", "category", "Common"⟩ }

/-- The operation links to the type, whose document stands in its group. -/
theorem Schema.links_lead_to_documents_grouped :
    ∃ schema rendered, Schema.ofDocuments Document.linked = .ok schema ∧
      schema.render Settings.grouped = .ok rendered ∧
        ∃ document ∈ rendered, document.address Settings.grouped = "/schema/types/tools/objects/widget" := by
  have hpasses : PageContext.passes Document.linked Settings.grouped (fun ctx =>
      (ctx.documented.all fun entry => (ctx.page entry.2.name entry.2).isOk) &&
        (ctx.documented.any fun entry => (ctx.page entry.2.name entry.2).toOption.any
          (·.targets.contains "/schema/types/tools/objects/widget"))) = true := by
    decide +kernel
  obtain ⟨schema, ctx, hschema, hctx, htest⟩ := PageContext.exists_of_passes hpasses
  obtain ⟨hall, hany⟩ := Bool.and_eq_true_iff.1 htest
  obtain ⟨rendered, hrendered, hlinks⟩ := Schema.links_lead_to_documents hschema hctx (List.all_eq_true.1 hall)
  obtain ⟨entry, hentry, htarget⟩ := List.any_eq_true.1 hany
  obtain ⟨document, hdocument, page, hpage, -, hleads, -⟩ := Result.exists_of_mem_left hlinks hentry
  rw [hpage] at htarget
  obtain ⟨other, hother, haddress⟩ := hleads _ (List.contains_iff_mem.1 htarget)
  exact ⟨schema, rendered, hschema, hrendered, other, hother, haddress.symm⟩

end SchemaDoc
