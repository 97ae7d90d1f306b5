-- SUMMARY: Members and arguments can be read off the blocks of a section.
import SchemaDoc.Proofs.Page.Blocks
import SchemaDoc.Proofs.Page.Building
import SchemaDoc.Proofs.Page.CodeReading

/-!
# Reading sections

A block that starts with four hash marks and a label is the heading of a member,
and one with five that of an argument. The notice of a deprecation is a block of
its own behind the heading; what is quoted says nothing of these. So blocks are
read from the last one on, as the lines of code blocks are.
-/

namespace SchemaDoc.Page

/-! ## Blocks -/

/-- An entry of a deprecated item carries a notice. -/
def Entry.mention (entry : Entry) : Mention := ⟨entry.label.name, entry.deprecation.isSome⟩

/-- The name of a label is proper, and what stands before it does not open a tag. -/
structure Label.Proper (label : Label) : Prop where
  name : Sdl.isName label.name = true
  parent : ∀ parent ∈ label.parent, '<' ∉ parent.toList

/-- What stands before the name in a label. -/
def Label.before (label : Label) : String := (label.parent.map (· ++ ".")).getD ""

namespace Entry

variable {entry : Entry}

end Entry

/-! ## Items -/

/-- The labels of a member and of its arguments are proper. -/
def SectionItem.Proper : SectionItem → Prop
  | .member entry args => entry.label.Proper ∧ ∀ arg ∈ args, arg.label.Proper
  | .reference _ => False

end SchemaDoc.Page
