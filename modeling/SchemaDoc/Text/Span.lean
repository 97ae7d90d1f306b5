-- SUMMARY: Sets of code points written as evenly spaced runs.

/-!
# Spans of code points

A character property is tabulated as a list of spans. A span is a run of code
points at a fixed distance, so that scripts which alternate capital and small
letters take one entry instead of one per letter.
-/

namespace SchemaDoc.Text

/-- The code points `first`, `first + step`, … up to `last`. -/
structure Span where
  first : Nat
  last : Nat
  step : Nat
  deriving Repr, DecidableEq

/-- Whether a code point lies on the run. -/
def Span.holds (s : Span) (n : Nat) : Bool :=
  s.first ≤ n && n ≤ s.last && (n - s.first) % s.step == 0

/-- Whether some span of the table holds the character. -/
def inSpans (table : List Span) (c : Char) : Bool :=
  table.any (·.holds c.toNat)

end SchemaDoc.Text
