-- SUMMARY: What a page is built from: one entry for each member that shows, and sections that need no handlers.
import SchemaDoc.Page.Basic
import SchemaDoc.Proofs.Results

/-!
# How pages are built

Arguments, fields and enum values all become entries in the same way. So a page
is determined by its entity, by the members that show and their arguments, and
by the texts of handlers; only these texts can be missing. `page_eq_ok_iff` says
this once for entities of every kind.
-/

namespace SchemaDoc

open Page

/-! ## Subjects of entries -/

/-- What an entry is made from: an item with its description and type, and the name before its own. -/
structure Subject where
  parent : String
  item : Item
  description : Option String
  type : Option TypeRef

def InputValue.subject (parent : String) (input : InputValue) : Subject :=
  ⟨parent, input.item, input.description, some input.type⟩

def EnumValue.subject (parent : String) (value : EnumValue) : Subject :=
  ⟨parent, value.item, value.description, none⟩

def Field.subject (parent : String) (field : Field) : Subject :=
  ⟨parent, field.item, field.description, some field.type⟩

/-- A member of an entity, with its arguments if it is a field that has some. -/
structure Member where
  subject : Subject
  args : List Subject

/-- A member without arguments. -/
def Subject.member (subject : Subject) : Member := ⟨subject, []⟩

/-- All that get an entry with the member, itself first. -/
def Member.subjects (member : Member) : List Subject := member.subject :: member.args

namespace PageContext

variable {ctx : PageContext}

def subjectEntry (ctx : PageContext) (subject : Subject) : Except DirectiveError Entry :=
  ctx.entry subject.parent subject.item subject.description subject.type

def memberItem (ctx : PageContext) (member : Member) : Except DirectiveError SectionItem := do
  let entry ← ctx.subjectEntry member.subject
  let args ← member.args.mapM ctx.subjectEntry
  return .member entry args

/-- The entry of a subject, given what handlers contribute. -/
def entryWith (ctx : PageContext) (subject : Subject) (badges descriptors : List String) : Entry where
  label := ctx.label (some subject.parent) subject.item.name "#"
  type := subject.type.map ctx.typeLink
  badges := badges
  deprecation := subject.item.deprecation?
  texts := subject.description.toList ++ descriptors

theorem subjectEntry_eq_ok_iff {subject : Subject} {entry : Entry} :
    ctx.subjectEntry subject = .ok entry ↔
      ∃ badges, ctx.badges subject.item subject.type = .ok badges ∧
        ∃ descriptors, ctx.descriptors subject.item = .ok descriptors ∧
          ctx.entryWith subject badges descriptors = entry := by
  simp only [subjectEntry, PageContext.entry, Result.bind_eq_ok_iff, Result.pure_eq_ok_iff, entryWith]

theorem memberItem_eq_ok_iff {member : Member} {item : SectionItem} :
    ctx.memberItem member = .ok item ↔
      ∃ entry, ctx.subjectEntry member.subject = .ok entry ∧
        ∃ args, List.Forall₂ (fun arg entry => ctx.subjectEntry arg = .ok entry) member.args args ∧
          .member entry args = item := by
  simp only [memberItem, Result.bind_eq_ok_iff, Result.pure_eq_ok_iff, Result.mapM_eq_ok_iff]

/-! ## The members that show -/

/-- The arguments or input fields that show. -/
def shownInputs (ctx : PageContext) (parent : String) (inputs : OrderedMap InputValue) : List Subject :=
  (inputs.values.filter ctx.isInputPrinted).map (·.subject parent)

/-- A field with those of its arguments that show. -/
def fieldMember (ctx : PageContext) (parent : String) (field : Field) : Member :=
  ⟨field.subject parent, ctx.shownInputs (parent ++ "." ++ field.name) field.args⟩

/-- The fields that show. -/
def shownFields (ctx : PageContext) (parent : String) (fields : OrderedMap Field) : List Member :=
  (fields.values.filter ctx.isFieldPrinted).map (ctx.fieldMember parent)

/-- The enum values that show. -/
def shownValues (ctx : PageContext) (parent : String) (values : OrderedMap EnumValue) : List Subject :=
  (values.values.filter ctx.isValuePrinted).map (·.subject parent)

/-- The members that show on the page of an entity. -/
def members (ctx : PageContext) : Entity → List Member
  | .operation _ f => (ctx.shownInputs f.name f.args).map Subject.member
  | .directive d => (ctx.shownInputs ("@" ++ d.name) d.args).map Subject.member
  | .type t =>
    match t.body with
    | .enum values => (ctx.shownValues t.name values).map Subject.member
    | .input fields => (ctx.shownInputs t.name fields).map Subject.member
    | .interface _ fields => ctx.shownFields t.name fields
    | .object _ fields => ctx.shownFields t.name fields
    | .scalar | .union _ => []

/-- A member without arguments needs the texts of its own entry only. -/
theorem mapM_memberItem (ctx : PageContext) (subjects : List Subject) :
    (subjects.map Subject.member).mapM ctx.memberItem =
      List.map (.member · []) <$> subjects.mapM ctx.subjectEntry := by
  rw [List.mapM_map]
  induction subjects with
  | nil => simp
  | cons subject rest ih => simp [ih, memberItem, Subject.member]

theorem inputEntries_eq (ctx : PageContext) (parent : String) (inputs : OrderedMap InputValue) :
    ctx.inputEntries parent inputs = (ctx.shownInputs parent inputs).mapM ctx.subjectEntry := by
  rw [shownInputs, List.mapM_map]
  rfl

theorem inputItems_eq (ctx : PageContext) (parent : String) (inputs : OrderedMap InputValue) :
    ctx.inputItems parent inputs =
      ((ctx.shownInputs parent inputs).map Subject.member).mapM ctx.memberItem := by
  rw [mapM_memberItem, inputItems, inputEntries_eq, map_eq_pure_bind]

theorem fieldItems_eq (ctx : PageContext) (parent : String) (fields : OrderedMap Field) :
    ctx.fieldItems parent fields = (ctx.shownFields parent fields).mapM ctx.memberItem := by
  rw [shownFields, List.mapM_map, fieldItems]
  congr 1
  funext field
  rw [inputEntries_eq]
  rfl

theorem valueItems_eq (ctx : PageContext) (parent : String) (values : OrderedMap EnumValue) :
    ctx.valueItems parent values =
      ((ctx.shownValues parent values).map Subject.member).mapM ctx.memberItem := by
  rw [shownValues, List.map_map, List.mapM_map, valueItems]
  rfl

end PageContext

/-! ## Sections -/

namespace Entity

/-- The title of the section of members. -/
def membersTitle? : Entity → Option String
  | .operation _ _ => some "Arguments"
  | .directive _ => some "Arguments"
  | .type t =>
    match t.body with
    | .enum _ => some "Values"
    | .input _ => some "Fields"
    | .interface _ _ => some "Fields"
    | .object _ _ => some "Fields"
    | .scalar | .union _ => none

/-- The types to which an entity refers as a whole, and the title of their section. -/
def referred? : Entity → Option (String × List String)
  | .operation _ f => some ("Type", [f.type.name])
  | .directive _ => none
  | .type t =>
    match t.body with
    | .interface interfaces _ => some ("Interfaces", interfaces)
    | .object interfaces _ => some ("Interfaces", interfaces)
    | .union members => some ("Possible Types", members)
    | .enum _ | .input _ | .scalar => none

/-- Where the values of a scalar are specified. -/
def specifications : Entity → List Section
  | .type t =>
    match t.body with
    | .scalar => (AppliedDirective.specification? t.applied).toList.map .specification
    | .enum _ | .input _ | .interface _ _ | .object _ _ | .union _ => []
  | .operation _ _ | .directive _ => []

end Entity

namespace Page.Listing

@[simp] theorem title_arrange (mode : DeprecatedMode) (title : String) (items : List SectionItem) :
    (arrange mode title items).title = title := by
  cases mode <;> rfl

theorem mem_of_mem_arrange {mode : DeprecatedMode} {title : String} {items : List SectionItem}
    {item : SectionItem} (h : item ∈ (arrange mode title items).shown ++ (arrange mode title items).folded) :
    item ∈ items := by
  cases mode <;> simp only [arrange, List.append_nil, List.mem_append, List.mem_filter] at h
  · exact h
  · rcases h with h | h <;> exact h.1
  · exact h.1

/-- Unless deprecated items are skipped, all are listed. -/
theorem mem_arrange_iff {mode : DeprecatedMode} (hmode : mode ≠ .skip) {title : String}
    {items : List SectionItem} {item : SectionItem} :
    item ∈ (arrange mode title items).shown ++ (arrange mode title items).folded ↔ item ∈ items := by
  refine ⟨mem_of_mem_arrange, fun h => ?_⟩
  cases mode with
  | inline => exact List.mem_append_left _ h
  | group => cases hitem : item.isDeprecated <;> simp [arrange, h, hitem]
  | skip => exact absurd rfl hmode

end Page.Listing

namespace PageContext

variable {ctx : PageContext}

/-- All sections, given the items of the members. -/
def sectionsWith (ctx : PageContext) (entity : Entity) (items : List SectionItem) : List Section :=
  (entity.membersTitle?.map (ctx.listing · items)).toList
    ++ (entity.referred?.map fun refers => ctx.listing refers.1 (ctx.references refers.2)).toList
    ++ entity.specifications

/-- Listings are those of the members and of the types referred to. -/
theorem listing_mem_sectionsWith_iff {entity : Entity} {items : List SectionItem} {listing : Listing} :
    .listing listing ∈ ctx.sectionsWith entity items ↔
      (∃ title, entity.membersTitle? = some title ∧
        .arrange ctx.settings.page.deprecated title items = listing) ∨
      ∃ refers, entity.referred? = some refers ∧
        .arrange ctx.settings.page.deprecated refers.1 (ctx.references refers.2) = listing := by
  have hspecification : .listing listing ∉ entity.specifications := by
    unfold Entity.specifications
    split
    · split <;> simp
    · simp
    · simp
  simp only [sectionsWith, hspecification, List.mem_append, Option.mem_toList, Option.map_eq_some_iff,
    PageContext.listing, Section.listing.injEq, or_false]

theorem sections_eq (ctx : PageContext) (entity : Entity) :
    ctx.sections entity = ctx.sectionsWith entity <$> (ctx.members entity).mapM ctx.memberItem := by
  cases entity with
  | operation kind field =>
    rw [members, ← inputItems_eq, map_eq_pure_bind]
    rfl
  | directive directive =>
    rw [members, ← inputItems_eq, map_eq_pure_bind]
    rfl
  | type type =>
    obtain ⟨name, description, location, applied, body⟩ := type
    cases body with
    | enum values => rw [members, ← valueItems_eq, map_eq_pure_bind]; rfl
    | input fields => rw [members, ← inputItems_eq, map_eq_pure_bind]; rfl
    | interface interfaces fields => rw [members, ← fieldItems_eq, map_eq_pure_bind]; rfl
    | object interfaces fields => rw [members, ← fieldItems_eq, map_eq_pure_bind]; rfl
    | scalar => rfl
    | union members => rfl

/-! ## Pages -/

/-- The page of an entity, given what handlers contribute and the items of the members. -/
def pageWith (ctx : PageContext) (title : String) (entity : Entity) (descriptors : List String)
    (items : List SectionItem) : Page where
  title := title
  header := ctx.settings.page.header
  deprecation := entity.item.deprecation?
  description := entity.description.getD Page.noDescription
  descriptors := descriptors
  code := if ctx.settings.page.codeSection then some (ctx.code entity) else none
  sections := ctx.sectionsWith entity items
  relations := if ctx.settings.page.relatedTypeSection then ctx.relations entity else []
  relationBadges := ctx.settings.page.typeBadges

theorem page_eq_ok_iff {title : String} {entity : Entity} {page : Page} :
    ctx.page title entity = .ok page ↔
      ∃ descriptors, ctx.descriptors entity.item = .ok descriptors ∧
        ∃ items, List.Forall₂ (fun member item => ctx.memberItem member = .ok item)
          (ctx.members entity) items ∧ ctx.pageWith title entity descriptors items = page := by
  simp only [PageContext.page, sections_eq, Result.mapError_eq_ok_iff, Result.bind_eq_ok_iff,
    Result.map_eq_ok_iff, Result.pure_eq_ok_iff, Result.mapM_eq_ok_iff]
  constructor
  · rintro ⟨descriptors, hdescriptors, _, ⟨items, hitems, rfl⟩, rfl⟩
    exact ⟨descriptors, hdescriptors, items, hitems, rfl⟩
  · rintro ⟨descriptors, hdescriptors, items, hitems, rfl⟩
    exact ⟨descriptors, hdescriptors, _, ⟨items, hitems, rfl⟩, rfl⟩

/-! ## When pages can be built -/

theorem isOk_subjectEntry_iff {subject : Subject} :
    (ctx.subjectEntry subject).isOk = true ↔
      (ctx.tags subject.item).isOk = true ∧ (ctx.descriptors subject.item).isOk = true := by
  unfold subjectEntry PageContext.entry
  have hbadges : (ctx.badges subject.item subject.type).isOk = (ctx.tags subject.item).isOk := by
    rw [badges, bind_pure_comp, Result.isOk_map]
  rw [← hbadges]
  refine Result.isOk_bind_iff fun badges => ?_
  rw [bind_pure_comp, Result.isOk_map]

theorem isOk_memberItem_iff {member : Member} :
    (ctx.memberItem member).isOk = true ↔
      ∀ subject ∈ member.subjects, (ctx.subjectEntry subject).isOk = true := by
  rw [Member.subjects, List.forall_mem_cons, ← Result.isOk_mapM_iff]
  refine Result.isOk_bind_iff fun entry => ?_
  rw [bind_pure_comp, Result.isOk_map]

/-- Only texts of handlers can be missing: those of the entity and of what gets an entry. -/
theorem isOk_page_iff {title : String} {entity : Entity} :
    (ctx.page title entity).isOk = true ↔
      (ctx.descriptors entity.item).isOk = true ∧
        ∀ member ∈ ctx.members entity, ∀ subject ∈ member.subjects,
          (ctx.tags subject.item).isOk = true ∧ (ctx.descriptors subject.item).isOk = true := by
  simp only [← isOk_subjectEntry_iff, ← isOk_memberItem_iff]
  rw [← Result.isOk_mapM_iff, PageContext.page, Result.isOk_mapError]
  refine Result.isOk_bind_iff fun descriptors => ?_
  rw [sections_eq, bind_pure_comp, Result.isOk_map, Result.isOk_map]

end PageContext

end SchemaDoc
