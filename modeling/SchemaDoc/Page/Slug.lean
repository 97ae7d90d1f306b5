-- SUMMARY: Names in a form for addresses.
import SchemaDoc.Text.Case
import SchemaDoc.Text.Numeric

/-!
# Slugs

A slug has the letters and numbers of a name in lower case, and a hyphen between
two words. Words are separated by any other characters, or meet where the case or
the kind of character changes: `PetFilter` becomes `pet-filter`, and
`HTTPServer2` becomes `http-server-2`.
-/

namespace SchemaDoc.Page

/-- Whether a word starts at a character, given the ones right before and after it. -/
def startsWord (previous c : Char) (next : Option Char) : Bool :=
  (Text.isLowercase previous && Text.isUppercase c)
    || (Text.isAlphabetic previous && Text.isNumeric c)
    || (Text.isNumeric previous && Text.isAlphabetic c)
    || (Text.isUppercase previous && Text.isUppercase c && next.any Text.isLowercase)

/-- The slug after the letter or number `previous`; `apart` if others came in between. -/
def slugAfter (previous : Option Char) (apart : Bool) : List Char → List Char
  | [] => []
  | c :: cs =>
    if Text.isAlphanumeric c then
      let hyphen := previous.any fun p => apart || startsWord p c cs.head?
      (if hyphen then ['-'] else []) ++ Text.lowered c ++ slugAfter (some c) false cs
    else slugAfter previous true cs

def slugChars (cs : List Char) : List Char :=
  slugAfter none false cs

/-- A name in the form that addresses and ids take. -/
def slug (name : String) : String :=
  String.ofList (slugChars name.toList)

end SchemaDoc.Page
