-- SUMMARY: Places in a schema document, and how reading moves them.

/-!
# Positions

Lines and columns count from one. Reading a character moves the position; the
rules differ between the characters that separate tokens and the tokens.
-/

namespace SchemaDoc.Sdl

/-- A place in a document. -/
structure Position where
  line : Nat
  column : Nat
  deriving DecidableEq, Repr, Inhabited

namespace Position

def start : Position := ⟨1, 1⟩

def right (p : Position) (columns : Nat) : Position :=
  { p with column := p.column + columns }

def nextLine (p : Position) : Position :=
  ⟨p.line + 1, 1⟩

/-- Past a text that may span lines: the column counts the characters after its last line feed. -/
def past (p : Position) (text : List Char) : Position :=
  match text.count '\n' with
  | 0 => p.right text.length
  | breaks => ⟨p.line + breaks, (text.reverse.takeWhile (· != '\n')).length + 1⟩

/-- `line:column`. -/
def text (p : Position) : String :=
  toString p.line ++ ":" ++ toString p.column

end Position

end SchemaDoc.Sdl
