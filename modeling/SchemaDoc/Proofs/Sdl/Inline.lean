-- SUMMARY: Names, types and literals are written without control characters.
import SchemaDoc.Proofs.Page.Outline
import SchemaDoc.Proofs.Sdl.ConstantText

/-!
# Texts on one line

A text without control characters stays on the line where it is written. Names
and types have no such characters, and a string that has some is written with
escapes in their place.
-/

namespace SchemaDoc

/-- The control characters of ASCII, of which line breaks are made. -/
def Text.isControl (c : Char) : Bool :=
  c.toNat < 0x20 || c.toNat == 0x7F

/-- A text without control characters. -/
def Inline (s : String) : Prop :=
  ∀ c ∈ s.toList, Text.isControl c = false

instance (s : String) : Decidable (Inline s) :=
  decidable_of_iff (s.toList.all (!Text.isControl ·) = true) (by simp [Inline])

namespace Inline

theorem append {s t : String} (hs : Inline s) (ht : Inline t) : Inline (s ++ t) := by
  unfold Inline
  rw [String.toList_append]
  exact List.forall_mem_append.2 ⟨hs, ht⟩

theorem intercalate {separator : String} (hseparator : Inline separator) {texts : List String}
    (h : ∀ text ∈ texts, Inline text) : Inline (separator.intercalate texts) := by
  unfold Inline
  rw [String.toList_intercalate]
  exact Value.forall_mem_intercalate hseparator (List.forall_mem_map.2 h)

end Inline

namespace Sdl

theorem isControl_of_high {c : Char} (h : 128 ≤ c.toNat) : Text.isControl c = false := by
  simp only [Text.isControl, Bool.or_eq_false_iff, decide_eq_false_iff_not, beq_eq_false_iff_ne]
  omega

/-- What needs no escape is no control character. -/
theorem isControl_of_escapeChar {c : Char} : escapeChar c = [c] → Text.isControl c = false :=
  forall_char (P := fun c => escapeChar c = [c] → Text.isControl c = false) (by decide)
    (fun _ hc _ => isControl_of_high hc) c

theorem isControl_of_mem_escapeChar {c d : Char} (h : d ∈ escapeChar c) : Text.isControl d = false := by
  have hall : (escapeChar c).all (!Text.isControl ·) = true := by
    refine forall_char (P := fun c => (escapeChar c).all (!Text.isControl ·) = true) (by decide) ?_ c
    intro c hc
    rw [escapeChar_of_high hc, List.all_cons, List.all_nil, Bool.and_true, isControl_of_high hc]
    rfl
  simpa using List.all_eq_true.1 hall d h

theorem inline_quote (s : String) : Inline (quote s) := by
  intro d hd
  rw [quote, String.toList_ofList, quoteChars, List.mem_cons, List.mem_append, List.mem_singleton] at hd
  rcases hd with rfl | hinside | rfl
  · rfl
  · obtain ⟨c, -, hc⟩ := List.mem_flatMap.1 hinside
    exact isControl_of_mem_escapeChar hc
  · rfl

theorem inline_name {name : String} (h : isName name = true) : Inline name :=
  (Value.verbatim_name h).forall_mem fun _ => isControl_of_escapeChar

end Sdl

theorem TypeRef.inline_text {type : TypeRef} {room : Nat} (h : type.fits room = true) : Inline type.text := by
  have hmark (nullable : Bool) : Inline (if nullable then "" else "!") := by cases nullable <;> decide
  induction type generalizing room with
  | named name nullable => exact (Sdl.inline_name h).append (hmark nullable)
  | list item nullable ih =>
    cases room with
    | zero => cases h
    | succ inner =>
      have hitem : Inline item.text := ih h
      have hopening : Inline "[" := by decide
      have hclosing : Inline "]" := by decide
      exact ((hopening.append hitem).append hclosing).append (hmark nullable)

/-- A literal is on one line, as the strings in it are. -/
theorem Value.inline_text {v : Value} (h : v.Loadable) : Inline v.text :=
  forall_mem_text (fun _ => Sdl.isControl_of_escapeChar) h fun s _ => Sdl.inline_quote s

end SchemaDoc
