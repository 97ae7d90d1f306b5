-- SUMMARY: The text of a page is a sequence of blocks, made of words and of links.
import Mathlib.Data.List.Forall2
import SchemaDoc.Page.Basic
import SchemaDoc.Proofs.Text.Joining

/-!
# Blocks of a page

A page is written in parts that are joined to larger parts, and parts that are
empty are dropped on the way. What comes out is a flat sequence of blocks with
empty lines in between. The blocks of every part of a page are spelled out here,
with the links that stand in them.
-/

namespace SchemaDoc.Page

/-! ## Words and links -/

/-- A piece of a block. -/
inductive Piece where
  | words (text : String)
  | link (shown target : String)
  deriving DecidableEq, Repr

def Piece.text : Piece → String
  | .words text => text
  | .link shown target => "[" ++ shown ++ "](" ++ target ++ ")"

@[simp] theorem Piece.text_words (text : String) : (words text).text = text := rfl

/-- Where a link leads. -/
def Piece.target? : Piece → Option String
  | .words _ => none
  | .link _ target => some target

/-- Pieces that follow each other. -/
abbrev Block := List Piece

def Block.text (block : Block) : String :=
  String.join (block.map Piece.text)

def Block.targets (block : Block) : List String :=
  block.filterMap Piece.target?

/-- Blocks with empty lines in between. -/
def joined (blocks : List Block) : String :=
  "\n\n".intercalate (blocks.map Block.text)

/-! ## Blocks of each part -/

def Label.piece (label : Label) : Piece :=
  .link
    ("<code style=\x7b\x7b fontWeight: 'normal' \x7d\x7d>"
      ++ ((label.parent.map (· ++ ".")).getD "" ++ "<b>" ++ label.name) ++ "</b></code>")
    label.target

def Link.piece (link : Link) : Piece :=
  match link.target with
  | some target => .link ("`" ++ link.display ++ "`") target
  | none => .words ("`" ++ link.display ++ "`")

/-- The notice of a deprecation. -/
def notice (reason : String) : Block :=
  [.words (":::caution DEPRECATED\n" ++ reason ++ "\n:::")]

/-- The label of an entry with its type and its badges. -/
def Entry.heading (entry : Entry) (level : String) : Block :=
  .words (level ++ " ") :: entry.label.piece
    :: (entry.type.map fun link => [.words "<Bullet />", link.piece]).getD []
    ++ entry.badges.map fun label => .words (" " ++ badge label)

/-- The notice of a deprecation, and what is quoted. -/
def Entry.annotations (entry : Entry) : List Block :=
  (entry.deprecation.map notice).toList
    ++ if quoted entry.texts = "" then [] else [[.words (quoted entry.texts)]]

def Entry.blocks (entry : Entry) (level : String) : List Block :=
  entry.heading level :: entry.annotations

/-- A heading, and what is quoted. -/
def Reference.blocks (reference : Reference) : List Block :=
  (.words "#### " :: reference.label.piece
      :: (reference.badge.map fun slot => .words (" " ++ Page.badge slot.singular)).toList)
    :: (reference.description.map fun description => [.words (quoted [description])]).toList

/-- The arguments of a member follow it, one level below. -/
def SectionItem.blocks : SectionItem → List Block
  | .member entry args => entry.blocks "####" ++ args.flatMap (·.blocks "#####")
  | .reference r => r.blocks

/-- A title, blocks in the open, and blocks that can be unfolded; or nothing. -/
def sectionBlocks (title : String) (opened closed : List Block) : List Block :=
  if opened = [] ∧ closed = [] then []
  else [.words ("### " ++ title)]
    :: (opened ++ if closed = [] then []
      else [.words "<details>\n<summary>Show deprecated</summary>"] :: (closed ++ [[.words "</details>"]]))

def Listing.blocks (listing : Listing) : List Block :=
  sectionBlocks listing.title (listing.shown.flatMap SectionItem.blocks)
    (listing.folded.flatMap SectionItem.blocks)

def Section.blocks : Section → List Block
  | .listing l => l.blocks
  | .specification url => [[.words "### Specification"], [.link url url]]

def RelationLink.pieces (link : RelationLink) (badges : Bool) : Block :=
  .link ("`" ++ link.name ++ "`") link.target
    :: if badges then [.words (" " ++ badge link.slot.singular)] else []

/-- A title and a row of links; or nothing if there are none. -/
def RelationSection.blocks (relation : RelationSection) (badges : Bool) : List Block :=
  if relation.links = [] then []
  else [[.words ("### " ++ relation.title)],
    List.intercalate [.words "<Bullet />"] (relation.links.map (·.pieces badges))]

/-- The code block between its fences. -/
def fenced (code : Code) : Block :=
  [.words ("```graphql\n" ++ code.text ++ "\n```")]

/-- The front matter, the description and the code block, then the sections and the relations. -/
def blocks (page : Page) : List Block :=
  [.words (frontMatter page.header (slug page.title) page.title)]
    :: (if page.descriptionText = "" then [] else [[.words page.descriptionText]])
    ++ (page.code.map fenced).toList
    ++ page.sections.flatMap Section.blocks
    ++ page.relations.flatMap (·.blocks page.relationBadges)

/-! ## Texts of blocks -/

@[simp] theorem Block.text_nil : Block.text [] = "" := rfl

@[simp] theorem Block.text_cons (piece : Piece) (rest : Block) :
    Block.text (piece :: rest) = piece.text ++ Block.text rest :=
  String.join_cons

@[simp] theorem Block.text_append (first rest : Block) :
    Block.text (first ++ rest) = Block.text first ++ Block.text rest := by
  rw [text, List.map_append, String.join_append]
  rfl

@[simp] theorem Block.text_words (words : String) : Block.text [.words words] = words := by
  simp

theorem joined_cons_ne_empty {block : Block} (h : block.text ≠ "") (rest : List Block) :
    joined (block :: rest) ≠ "" :=
  Text.intercalate_cons_ne_empty h

theorem joined_flatten {parts : List (List Block)} (h : ∀ blocks ∈ parts, blocks ≠ []) :
    joined parts.flatten = "\n\n".intercalate (parts.map joined) := by
  rw [joined, List.map_flatten, ← List.flatMap_def]
  exact Text.intercalate_flatMap fun blocks hblocks => by simpa using h blocks hblocks

/-- The text is written in these blocks; it is empty only if there are none. -/
structure Consists (text : String) (blocks : List Block) : Prop where
  text_eq : text = joined blocks
  ne_empty : blocks ≠ [] → text ≠ ""

namespace Consists

variable {text : String} {texts : List String} {blocks : List Block} {parts : List (List Block)}

theorem nil : Consists "" [] := ⟨rfl, fun h => absurd rfl h⟩

theorem cons {block : Block} {rest : List Block} (htext : text = joined (block :: rest))
    (h : block.text ≠ "") : Consists text (block :: rest) :=
  ⟨htext, fun _ => htext ▸ joined_cons_ne_empty h rest⟩

theorem isEmpty_eq (h : Consists text blocks) : text.isEmpty = blocks.isEmpty := by
  cases blocks with
  | nil => rw [h.text_eq]; rfl
  | cons block rest => simpa using h.ne_empty (List.cons_ne_nil _ _)

/-- Where empty texts are dropped, the blocks of all texts follow each other. -/
theorem paragraphs (h : List.Forall₂ Consists texts parts) : Consists (paragraphs texts) parts.flatten := by
  have hkept : texts.filter (!·.isEmpty) = (parts.filter (!·.isEmpty)).map joined := by
    induction h with
    | nil => rfl
    | cons htext _ ih =>
      rw [List.filter_cons, List.filter_cons, htext.isEmpty_eq, ih]
      split
      · rw [List.map_cons, htext.text_eq]
      · rfl
  have hne : ∀ blocks ∈ parts.filter (!·.isEmpty), blocks ≠ [] := by simp
  constructor
  · rw [← List.flatten_filter_not_isEmpty, joined_flatten hne, ← hkept]
    rfl
  · intro hblocks
    rw [Page.paragraphs]
    cases htexts : texts.filter (!·.isEmpty) with
    | nil =>
      rw [htexts, eq_comm, List.map_eq_nil_iff] at hkept
      rw [← List.flatten_filter_not_isEmpty, hkept] at hblocks
      exact absurd rfl hblocks
    | cons first rest =>
      have hfirst : first ∈ texts.filter (!·.isEmpty) := by simp [htexts]
      exact Text.intercalate_cons_ne_empty (by simpa using (List.mem_filter.1 hfirst).2)

/-- The blocks of texts that are all written follow each other. -/
theorem intercalate (h : List.Forall₂ Consists texts parts) (hne : ∀ blocks ∈ parts, blocks ≠ []) :
    "\n\n".intercalate texts = joined parts.flatten := by
  have htexts : texts = parts.map joined := by
    clear hne
    induction h with
    | nil => rfl
    | cons htext _ ih => rw [List.map_cons, htext.text_eq, ← ih]
  rw [joined_flatten hne, htexts]

end Consists

theorem forall₂_map {α : Type} {text : α → String} {blocks : α → List Block}
    (h : ∀ a, Consists (text a) (blocks a)) (items : List α) :
    List.Forall₂ Consists (items.map text) (items.map blocks) := by
  rw [List.forall₂_map_left_iff, List.forall₂_map_right_iff]
  exact List.forall₂_same.2 fun a _ => h a

/-! ## Texts of each part -/

/-- A link of which the text starts and ends with some words, with these words next to its brackets. -/
theorem Piece.text_link_append (opening middle closing target : String) :
    (Piece.link (opening ++ middle ++ closing) target).text =
      ("[" ++ opening) ++ middle ++ (closing ++ "](") ++ target ++ ")" := by
  simp only [text, String.append_assoc]

theorem Label.text_piece (label : Label) : label.piece.text = label.text := by
  have hmiddle (opening first second third : String) :
      opening ++ (first ++ second ++ third) = opening ++ first ++ second ++ third := by
    simp only [String.append_assoc]
  obtain ⟨parent, name, target⟩ := label
  rw [piece, Piece.text_link_append, hmiddle]
  cases parent <;> rfl

theorem Link.text_piece_some (display target : String) :
    (Piece.link ("`" ++ display ++ "`") target).text = Link.text ⟨display, some target⟩ :=
  Piece.text_link_append "`" display "`" target

theorem Link.text_piece (link : Link) : link.piece.text = link.text := by
  obtain ⟨display, target⟩ := link
  cases target with
  | none => rfl
  | some target => exact text_piece_some display target

theorem Block.text_map_words {α : Type} (words : α → String) (items : List α) :
    Block.text (items.map fun item => .words (words item)) = String.join (items.map words) := by
  rw [text, List.map_map]
  rfl

theorem Entry.blocks_ne_nil (entry : Entry) (level : String) : entry.blocks level ≠ [] := by
  simp [blocks]

theorem Entry.consists (entry : Entry) (level : String) : Consists (entry.text level) (entry.blocks level) := by
  have hnotice : (entry.deprecation.map notice).toList.map Block.text =
      (entry.deprecation.map deprecationNotice).toList := by
    cases entry.deprecation with
    | none => rfl
    | some reason => exact congrArg (List.cons · []) (Block.text_words _)
  have hquotation : (if quoted entry.texts = "" then [] else [[Piece.words (quoted entry.texts)]]).map Block.text =
      if (quoted entry.texts).isEmpty then [] else [quoted entry.texts] := by
    simp only [String.isEmpty_iff]
    split <;> simp
  refine .cons ?_ (by simp [heading, String.append_eq_empty_iff])
  rw [text, joined, List.map_cons, annotations, List.map_append, hnotice, hquotation, heading, Block.text_append,
    Block.text_cons, Block.text_cons, Block.text_map_words, Label.text_piece]
  cases entry.type <;> simp only [Option.map_none, Option.map_some, Option.getD_none, Option.getD_some,
    Block.text_nil, Block.text_cons, Piece.text_words, Link.text_piece, bullet, paragraphBreak, List.cons_append,
    String.append_assoc, String.append_empty]

theorem Reference.consists (reference : Reference) : Consists reference.text reference.blocks := by
  obtain ⟨label, badge, description, deprecated⟩ := reference
  refine .cons ?_ (by simp [String.append_eq_empty_iff])
  rw [text, joined, List.map_cons, Block.text_cons, Block.text_cons, Label.text_piece]
  cases badge <;> cases description <;> simp [paragraphBreak, String.append_assoc]

theorem SectionItem.blocks_ne_nil (item : SectionItem) : item.blocks ≠ [] := by
  cases item with
  | member entry args => simp [blocks, entry.blocks_ne_nil]
  | reference r => simp [blocks, Reference.blocks]

theorem SectionItem.consists (item : SectionItem) : Consists item.text item.blocks := by
  cases item with
  | reference r => exact r.consists
  | member entry args =>
    have hparts : List.Forall₂ Consists (entry.text "####" :: args.map (·.text "#####"))
        (entry.blocks "####" :: args.map (·.blocks "#####")) :=
      .cons (entry.consists "####") (forall₂_map (fun arg => arg.consists "#####") args)
    have htext := Consists.intercalate hparts (by simp [Entry.blocks_ne_nil])
    rw [List.flatten_cons, ← List.flatMap_def] at htext
    refine ⟨htext, fun _ => ?_⟩
    exact Text.intercalate_cons_ne_empty ((entry.consists "####").ne_empty (entry.blocks_ne_nil "####"))

theorem SectionItem.consists_items {items : List SectionItem} (h : items ≠ []) :
    Consists ("\n\n".intercalate (items.map SectionItem.text)) (items.flatMap SectionItem.blocks) := by
  have htext := Consists.intercalate (forall₂_map SectionItem.consists items)
    (List.forall_mem_map.2 fun item _ => item.blocks_ne_nil)
  rw [← List.flatMap_def] at htext
  refine ⟨htext, fun _ => ?_⟩
  obtain ⟨item, rest, rfl⟩ := List.exists_cons_of_ne_nil h
  exact Text.intercalate_cons_ne_empty (item.consists.ne_empty item.blocks_ne_nil)

theorem joined_enclosed {blocks : List Block} (h : blocks ≠ []) (opening closing : String) :
    joined ([.words opening] :: (blocks ++ [[.words closing]])) =
      (opening ++ "\n\n") ++ joined blocks ++ ("\n\n" ++ closing) := by
  have htexts : blocks.map Block.text ≠ [] := by simpa using h
  rw [joined, List.map_cons, List.map_append, List.map_singleton, Block.text_words, Block.text_words,
    String.intercalate_cons_of_ne_nil (by simp),
    String.intercalate_append_of_ne_nil htexts (List.cons_ne_nil _ _), String.intercalate_singleton]
  simp only [joined, String.append_assoc]

theorem consists_words {words : String} (h : words ≠ "") : Consists words [[.words words]] := by
  refine .cons ?_ (by rwa [Block.text_words])
  rw [joined, List.map_singleton, String.intercalate_singleton, Block.text_words]

/-- The items that can be unfolded. -/
theorem SectionItem.consists_folded {items : List SectionItem} (h : items ≠ []) :
    Consists ("<details>\n<summary>Show deprecated</summary>\n\n" ++ "\n\n".intercalate (items.map SectionItem.text)
        ++ "\n\n</details>")
      ([.words "<details>\n<summary>Show deprecated</summary>"]
        :: (items.flatMap SectionItem.blocks ++ [[.words "</details>"]])) := by
  have hne : items.flatMap SectionItem.blocks ≠ [] := by
    obtain ⟨item, rest, rfl⟩ := List.exists_cons_of_ne_nil h
    simp [item.blocks_ne_nil]
  refine .cons ?_ ?_
  · rw [joined_enclosed hne, ← (consists_items h).text_eq]
    rfl
  · rw [Block.text_words]
    decide

theorem Listing.consists (listing : Listing) : Consists listing.text listing.blocks := by
  obtain ⟨title, shown, folded⟩ := listing
  have hitems (items : List SectionItem) : items.flatMap SectionItem.blocks = [] ↔ items = [] := by
    cases items <;> simp [SectionItem.blocks_ne_nil]
  simp only [text, blocks, sectionBlocks, hitems, Bool.and_eq_true, List.isEmpty_iff]
  by_cases hempty : shown = [] ∧ folded = []
  · rw [if_pos hempty, if_pos hempty]
    exact .nil
  · have htitle : ("### " ++ title) ≠ "" := by simp [String.append_eq_empty_iff]
    have hopened : List.Forall₂ Consists (("### " ++ title) :: shown.map SectionItem.text)
        ([[.words ("### " ++ title)]] :: shown.map SectionItem.blocks) :=
      .cons (consists_words htitle) (forall₂_map SectionItem.consists shown)
    have hne : ∀ blocks ∈ [[.words ("### " ++ title)]] :: shown.map SectionItem.blocks, blocks ≠ [] :=
      List.forall_mem_cons.2 ⟨List.cons_ne_nil _ _, List.forall_mem_map.2 fun item _ => item.blocks_ne_nil⟩
    rw [if_neg hempty, if_neg hempty]
    refine .cons ?_ (by rwa [Block.text_words])
    by_cases hfolded : folded = []
    · have htext := Consists.intercalate hopened hne
      rw [List.flatten_cons, ← List.flatMap_def] at htext
      rw [if_pos hfolded, if_pos hfolded, List.append_nil, List.append_nil]
      exact htext
    · have hparts := List.rel_append hopened (.cons (SectionItem.consists_folded hfolded) .nil)
      have htext := Consists.intercalate hparts
        (List.forall_mem_append.2 ⟨hne, List.forall_mem_singleton.2 (List.cons_ne_nil _ _)⟩)
      rw [List.flatten_append, List.flatten_cons, ← List.flatMap_def, List.flatten_singleton] at htext
      rw [if_neg hfolded, if_neg hfolded]
      exact htext

theorem consists_link (shown target : String) :
    Consists ("[" ++ shown ++ "](" ++ target ++ ")") [[.link shown target]] := by
  refine .cons ?_ (by simp [Piece.text, String.append_eq_empty_iff])
  rw [joined, List.map_singleton, String.intercalate_singleton, Block.text_cons, Block.text_nil, Piece.text,
    String.append_empty]

theorem Section.consists (part : Section) : Consists part.text part.blocks := by
  cases part with
  | listing l => exact l.consists
  | specification url =>
    have hparts : List.Forall₂ Consists ["### Specification", "[" ++ url ++ "](" ++ url ++ ")"]
        [[[.words "### Specification"]], [[.link url url]]] :=
      .cons (consists_words (by decide)) (.cons (consists_link url url) .nil)
    have htext := Consists.intercalate hparts (by simp)
    rw [String.intercalate_cons_cons, String.intercalate_singleton] at htext
    have happend (first second third fourth fifth : String) :
        first ++ second ++ third ++ url ++ fourth ++ url ++ fifth =
          first ++ second ++ (third ++ url ++ fourth ++ url ++ fifth) := by
      simp only [String.append_assoc]
    refine .cons ((happend _ _ _ _ _).trans htext) ?_
    rw [Block.text_words]
    decide

theorem Block.text_intercalate (separator : Block) (blocks : List Block) :
    Block.text (separator.intercalate blocks) = (Block.text separator).intercalate (blocks.map Block.text) := by
  induction blocks with
  | nil => rfl
  | cons block rest ih =>
    cases rest with
    | nil => simp
    | cons next rest =>
      rw [List.intercalate_cons_cons, text_append, text_append, ih]
      simp [String.append_assoc]

theorem RelationLink.text_pieces (link : RelationLink) (badges : Bool) :
    Block.text (link.pieces badges) = link.text badges := by
  rw [pieces, Block.text_cons, Link.text_piece_some, text]
  cases badges <;> simp

theorem RelationSection.consists (relation : RelationSection) (badges : Bool) :
    Consists (relation.text badges) (relation.blocks badges) := by
  rw [text, blocks]
  by_cases hlinks : relation.links = []
  · simpa [hlinks] using Consists.nil
  · rw [if_neg (by simpa using hlinks), if_neg hlinks]
    refine .cons ?_ (by simp)
    simp [joined, Block.text_intercalate, Function.comp_def, RelationLink.text_pieces, bullet, paragraphBreak]

/-- The text of a page is written in its blocks, and ends with a line break. -/
theorem text_eq (page : Page) : page.text = joined page.blocks ++ "\n" := by
  have hdescription : Consists page.descriptionText
      (if page.descriptionText = "" then [] else [[.words page.descriptionText]]) := by
    split
    · next h => rw [h]; exact .nil
    · next h => exact consists_words h
  have hfront : frontMatter page.header (slug page.title) page.title ≠ "" := by
    simp [frontMatter, String.append_eq_empty_iff]
  have hcode : List.Forall₂ Consists (page.code.map codeFence).toList
      (page.code.map fun code => [fenced code]).toList := by
    cases page.code with
    | none => exact .nil
    | some code => exact .cons (consists_words (by simp [codeFence, String.append_eq_empty_iff])) .nil
  have hsections : Consists (paragraphs (page.sections.map Section.text)) (page.sections.flatMap Section.blocks) := by
    rw [List.flatMap_def]
    exact .paragraphs (forall₂_map Section.consists page.sections)
  have hrelations : Consists (paragraphs (page.relations.map (·.text page.relationBadges)))
      (page.relations.flatMap (·.blocks page.relationBadges)) := by
    rw [List.flatMap_def]
    exact .paragraphs (forall₂_map (·.consists page.relationBadges) page.relations)
  have hparts := List.rel_append (.cons (consists_words hfront) (.cons hdescription hcode))
    (.cons hsections (.cons hrelations .nil))
  rw [text, blocks]
  refine congrArg (· ++ "\n") ((Consists.paragraphs hparts).text_eq.trans (congrArg joined ?_))
  cases page.code <;> simp

/-! ## Links under a title -/

theorem mem_intercalate {piece : Piece} {block separator : Block} {blocks : List Block} (hblock : block ∈ blocks)
    (hpiece : piece ∈ block) : piece ∈ separator.intercalate blocks := by
  induction blocks with
  | nil => cases hblock
  | cons first rest ih =>
    cases rest with
    | nil =>
      obtain rfl := List.mem_singleton.1 hblock
      simpa using hpiece
    | cons next rest =>
      rw [List.intercalate_cons_cons]
      rcases List.mem_cons.1 hblock with rfl | hrest
      · simp [hpiece]
      · simp [ih hrest]

/-- A relation is a title and a row, in which each of its links stands. -/
theorem RelationSection.exists_row {relation : RelationSection} {link : RelationLink} (h : link ∈ relation.links)
    (badges : Bool) :
    ∃ row, relation.blocks badges = [[.words ("### " ++ relation.title)], row] ∧
      .link ("`" ++ link.name ++ "`") link.target ∈ row :=
  ⟨_, if_neg (List.ne_nil_of_mem h), mem_intercalate (List.mem_map_of_mem h) List.mem_cons_self⟩

theorem exists_sectionBlocks {block : Block} {opened closed : List Block} (h : block ∈ opened ++ closed)
    (title : String) :
    ∃ rest, sectionBlocks title opened closed = [.words ("### " ++ title)] :: rest ∧ block ∈ rest := by
  have hne : ¬(opened = [] ∧ closed = []) := by
    rintro ⟨rfl, rfl⟩
    cases h
  refine ⟨_, if_neg hne, ?_⟩
  rcases List.mem_append.1 h with hopened | hclosed
  · exact List.mem_append_left _ hopened
  · refine List.mem_append_right _ ?_
    rw [if_neg (List.ne_nil_of_mem hclosed)]
    exact List.mem_cons_of_mem _ (List.mem_append_left _ hclosed)

/-- A listing is a title and blocks, among which each of its references has a label. -/
theorem Listing.exists_blocks {listing : Listing} {reference : Reference}
    (h : .reference reference ∈ listing.shown ++ listing.folded) :
    ∃ rest, listing.blocks = [.words ("### " ++ listing.title)] :: rest ∧
      ∃ block ∈ rest, reference.label.piece ∈ block := by
  obtain ⟨heading, hheading, hlabel⟩ : ∃ block ∈ (SectionItem.reference reference).blocks,
      reference.label.piece ∈ block :=
    ⟨_, List.mem_cons_self, List.mem_cons_of_mem _ List.mem_cons_self⟩
  have hmem : heading ∈ listing.shown.flatMap SectionItem.blocks ++ listing.folded.flatMap SectionItem.blocks := by
    rw [← List.flatMap_append]
    exact List.mem_flatMap.2 ⟨_, h, hheading⟩
  obtain ⟨rest, hblocks, hrest⟩ := exists_sectionBlocks hmem listing.title
  exact ⟨rest, hblocks, heading, hrest, hlabel⟩

/-! ## What is printed -/

/-- The text stands on the page between empty lines, or there is none. -/
def Prints (page : Page) (text : String) : Prop :=
  text = "" ∨ ∃ before after : List String, page.text = "\n\n".intercalate (before ++ text :: after) ++ "\n"

/-- Blocks that follow each other on a page are printed as one text. -/
theorem Consists.prints {page : Page} {text : String} {blocks : List Block} (h : Consists text blocks)
    (hblocks : blocks <:+: page.blocks) : page.Prints text := by
  by_cases hempty : blocks = []
  · exact .inl (h.text_eq.trans (congrArg joined hempty))
  · obtain ⟨before, after, heq⟩ := hblocks
    refine .inr ⟨before.map Block.text, after.map Block.text, ?_⟩
    have htexts : blocks.map Block.text ≠ [] := by simpa using hempty
    have htext := h.text_eq
    rw [joined] at htext
    rw [Page.text_eq, ← heq, joined, List.map_append, List.map_append, Text.intercalate_append_append htexts, htext]

section Prints

variable {page : Page}

theorem prints_section {part : Section} (h : part ∈ page.sections) : page.Prints part.text := by
  have hpart : part.blocks <:+: page.sections.flatMap Section.blocks := by
    rw [List.flatMap_def]
    exact List.infix_of_mem_flatten (List.mem_map_of_mem h)
  have hsections : page.sections.flatMap Section.blocks <:+: page.blocks :=
    (List.suffix_append _ _).isInfix.trans (List.prefix_append _ _).isInfix
  exact part.consists.prints (hpart.trans hsections)

theorem prints_relation {relation : RelationSection} (h : relation ∈ page.relations) :
    page.Prints (relation.text page.relationBadges) := by
  have hrelation : relation.blocks page.relationBadges <:+: page.relations.flatMap (·.blocks page.relationBadges) := by
    rw [List.flatMap_def]
    exact List.infix_of_mem_flatten (List.mem_map_of_mem h)
  exact (relation.consists page.relationBadges).prints (hrelation.trans (List.suffix_append _ _).isInfix)

end Prints

end SchemaDoc.Page
