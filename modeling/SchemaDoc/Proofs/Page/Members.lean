-- SUMMARY: The code block of a page and its section of members show the same members.
import SchemaDoc.Proofs.Page.Context
import SchemaDoc.Proofs.Page.Fence
import SchemaDoc.Proofs.Page.SectionReading

/-!
# Members in code and in sections

A page shows its members twice: in the code block, and in a section with an entry
for each. Both leave out the same members and arguments, keep their order and
mark the same ones as deprecated. Where deprecated members are grouped, the
section shows the others first. So the members that are read off the text of the
section are those that are read off the lines of the code block.
-/

namespace SchemaDoc

open Page

/-! ## What sections show -/

def Subject.mention (subject : Subject) : Mention := ⟨subject.item.name, subject.item.isDeprecated⟩

def Member.mention (member : Member) : MemberMention :=
  ⟨member.subject.mention, member.args.map Subject.mention⟩

namespace PageContext

variable {ctx : PageContext}

end PageContext

/-! ## Proper labels -/

/-- The name of an item is proper, and what stands before it does not open a tag. -/
structure Subject.Proper (subject : Subject) : Prop where
  name : Sdl.isName subject.item.name = true
  parent : '<' ∉ subject.parent.toList

namespace PageContext

variable {ctx : PageContext}

end PageContext

/-! ## Arranging items -/

namespace PageContext

variable {ctx : PageContext}

/-- Only the code block of a union is that of a union. -/
theorem kind?_code_ne_union (ctx : PageContext) {entity : Entity} (h : entity.slot ≠ .unions) :
    (ctx.code entity).kind? ≠ some .union := by
  cases entity with
  | operation kind field => nofun
  | directive directive => nofun
  | type type =>
    obtain ⟨name, description, location, applied, body⟩ := type
    cases body with
    | union members => exact absurd rfl h
    | enum values => nofun
    | input fields => nofun
    | interface interfaces fields => nofun
    | object interfaces fields => nofun
    | scalar => nofun

end PageContext

section Documents

variable {documents : List Document} {schema : Schema} {entity : Entity}

/-- The types that are read off a code block are those that it was made from. -/
theorem Schema.readTypes_code (h : Schema.ofDocuments documents = .ok schema) (hentity : schema.Has entity)
    (ctx : PageContext) (hslot : entity.slot ≠ .unions) :
    (Code.readTypes (ctx.code entity).text).Perm (ctx.code entity).typeNames := by
  obtain ⟨room, hfits⟩ := exists_outline_fits h hentity
  rw [Code.readTypes, Code.splitOn_text (plain_lines_code h hentity ctx)]
  exact Code.filterMap_lines (ctx.fits_code hfits) (ctx.kind?_code_ne_union hslot)

end Documents

end SchemaDoc
