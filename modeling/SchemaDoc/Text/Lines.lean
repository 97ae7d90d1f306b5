-- SUMMARY: Splitting a text into lines, and at a separator.

/-!
# Lines

A line ends at a line feed, and a carriage return right before it belongs to the
line break. The text after the last line break is a line only if it is not
empty, so a final line break opens no further line.
-/

namespace SchemaDoc.Text

/-- The lines of a text without their line breaks. -/
def lineChars : List Char → List (List Char)
  | [] => []
  | '\n' :: cs => [] :: lineChars cs
  | '\r' :: '\n' :: cs => [] :: lineChars cs
  | c :: cs =>
    match lineChars cs with
    | [] => [[c]]
    | line :: lines => (c :: line) :: lines

def lines (s : String) : List String :=
  (lineChars s.toList).map String.ofList

/-- Splits at every occurrence of a separating character; the pieces may be empty. -/
def splitChars (separator : Char) : List Char → List (List Char)
  | [] => [[]]
  | c :: cs =>
    if c = separator then [] :: splitChars separator cs
    else match splitChars separator cs with
      | [] => [[c]]
      | piece :: pieces => (c :: piece) :: pieces

def split (separator : Char) (s : String) : List String :=
  (splitChars separator s.toList).map String.ofList

end SchemaDoc.Text
