-- SUMMARY: Patterns of texts: literals, alternatives and the two ends of a text.

/-!
# Patterns

The part of regular expressions that is needed to recognise names. A pattern
matches a text if it matches anywhere in it; only the anchors tie a match to the
ends of the text.
-/

namespace SchemaDoc.Text

inductive Pattern where
  | start
  | stop
  | literal (text : String)
  | seq (first second : Pattern)
  | either (first second : Pattern)
  deriving Repr, Inhabited

namespace Pattern

/-- One of several patterns, of which the first is given. -/
def anyOf (first : Pattern) : List Pattern → Pattern
  | [] => first
  | second :: rest => .either first (anyOf second rest)

/-- Where matches can end that begin at a place; a place is the number of characters before it. -/
def ends (text : List Char) : Pattern → Nat → List Nat
  | .start, place => if place = 0 then [place] else []
  | .stop, place => if place = text.length then [place] else []
  | .literal part, place =>
    if part.toList.isPrefixOf (text.drop place) then [place + part.toList.length] else []
  | .seq first second, place => (first.ends text place).flatMap (second.ends text)
  | .either first second, place => first.ends text place ++ second.ends text place

/-- Whether the pattern matches somewhere in the text. -/
def isMatch (pattern : Pattern) (text : String) : Bool :=
  (List.range (text.toList.length + 1)).any fun place => !(pattern.ends text.toList place).isEmpty

end Pattern

end SchemaDoc.Text
