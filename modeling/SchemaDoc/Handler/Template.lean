-- SUMMARY: Texts with placeholders, and filling them in.
import SchemaDoc.Text.Word

/-!
# Templates

A placeholder is a word between braces. Everything else stands for itself, also
braces that enclose no word. Reading from the left, each placeholder is replaced
by the text of its word; what was filled in is not read again.
-/

namespace SchemaDoc.Template

/-- A character that stands for itself, or a placeholder. -/
inductive Piece where
  | char (c : Char)
  | placeholder (word : String)
  deriving DecidableEq, Repr

/-- After an opening brace: a word and the closing brace, and what follows them. -/
def placeholder? (cs : List Char) : Option (String × List Char) :=
  match Text.spanWord cs with
  | ([], _) => none
  | (word, '\x7d' :: rest) => some (String.ofList word, rest)
  | _ => none

theorem length_of_placeholder? {cs rest : List Char} {word : String}
    (h : placeholder? cs = some (word, rest)) : rest.length < cs.length := by
  simp only [placeholder?, Text.spanWord] at h
  have hle : (cs.dropWhile Text.isWordChar).length ≤ cs.length := (List.dropWhile_sublist _).length_le
  split at h
  · simp at h
  · next heq =>
    simp only [Prod.mk.injEq] at heq
    simp only [Option.some.injEq, Prod.mk.injEq] at h
    rw [heq.2, h.2] at hle
    exact hle
  · simp at h

/-- The pieces of a template from left to right. -/
def pieces : List Char → List Piece
  | [] => []
  | c :: cs =>
    if c = '\x7b' then
      match h : placeholder? cs with
      | some (word, rest) =>
        have := length_of_placeholder? h
        .placeholder word :: pieces rest
      | none => .char c :: pieces cs
    else .char c :: pieces cs
termination_by cs => cs.length

/-- The words between braces from left to right. -/
def placeholders (template : String) : List String :=
  (pieces template.toList).filterMap fun
    | .placeholder word => some word
    | .char _ => none

/-- Replaces each placeholder by its text; the first word without a text fails. -/
def fill {ε : Type} (resolve : String → Except ε String) : List Piece → Except ε String
  | [] => .ok ""
  | .char c :: rest => return c.toString ++ (← fill resolve rest)
  | .placeholder word :: rest => do
    let text ← resolve word
    return text ++ (← fill resolve rest)

end SchemaDoc.Template
