-- SUMMARY: The tokens of schema documents, and the numbers among them.
import SchemaDoc.Sdl.Position

/-!
# Tokens

A token is a lexeme with the position where it starts. Names and numbers are
runs of characters; a number runs up to the next character that could follow
one, and is then checked as a whole.
-/

namespace SchemaDoc.Sdl

/-- What a token says. -/
inductive Lexeme where
  /-- One of the thirteen marks of one character. -/
  | mark (c : Char)
  /-- Three dots. -/
  | spread
  | name (text : String)
  | int (text : List Char)
  | float (text : List Char)
  /-- What stands between the quotes. -/
  | string (raw : List Char)
  /-- What stands between the triple quotes. -/
  | blockString (raw : List Char)
  deriving DecidableEq, Repr

/-- A lexeme and where it starts. -/
structure Token where
  lexeme : Lexeme
  position : Position
  deriving DecidableEq, Repr

/-! ## Character classes -/

def isNameStart (c : Char) : Bool :=
  c.isAlpha || c == '_'

def isNameChar (c : Char) : Bool :=
  c.isAlphanum || c == '_'

def isMark (c : Char) : Bool :=
  ['(', ')', '[', ']', '\x7b', '\x7d', '!', '$', ':', '=', '@', '|', '&'].contains c

/-- The characters that end a number. -/
def endsNumber (c : Char) : Bool :=
  [' ', '\n', '\r', '\t', ',', '#'].contains c || isMark c

def isOpening (c : Char) : Bool :=
  c == '(' || c == '[' || c == '\x7b'

def isClosing (c : Char) : Bool :=
  c == ')' || c == ']' || c == '\x7d'

/-! ## Numbers -/

def allDigits (cs : List Char) : Bool :=
  cs.all Char.isDigit

/-- What stands before and after the last character of a kind. -/
def splitLast (p : Char → Bool) : List Char → Option (List Char × List Char)
  | [] => none
  | c :: cs =>
    match splitLast p cs with
    | some (before, after) => some (c :: before, after)
    | none => if p c then some ([], cs) else none

def isExponentMark (c : Char) : Bool :=
  c == 'e' || c == 'E'

/-- A zero, or digits that do not start with one; a minus sign may precede. -/
def isIntText : List Char → Bool
  | ['0'] => true
  | ['-', '0'] => true
  | '0' :: _ => false
  | '-' :: '0' :: _ => false
  | ['-'] => false
  | _ :: rest => allDigits rest
  | [] => false

/-- A sign or a digit from 1 to 8, then digits. -/
def isExponentText : List Char → Bool
  | [] => false
  | c :: rest => (c == '-' || c == '+' || ('1' ≤ c && c ≤ '8')) && allDigits rest

/-- An integer with an optional fraction of at least one digit. -/
def isMantissaText (cs : List Char) : Bool :=
  match splitLast (· == '.') cs with
  | some (whole, fraction) => isIntText whole && !fraction.isEmpty && allDigits fraction
  | none => isIntText cs

def isFloatText (cs : List Char) : Bool :=
  match splitLast isExponentMark cs with
  | some (mantissa, exponent) => isMantissaText mantissa && isExponentText exponent
  | none => isMantissaText cs

/-- The token of a run of characters that starts like a number. -/
def Lexeme.ofNumber? (cs : List Char) : Option Lexeme :=
  if cs.any (fun c => c == '.' || isExponentMark c) then
    if isFloatText cs then some (.float cs) else none
  else if isIntText cs then some (.int cs)
  else none

end SchemaDoc.Sdl
