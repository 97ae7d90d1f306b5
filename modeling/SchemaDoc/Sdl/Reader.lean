-- SUMMARY: Reading a list of tokens, one token of look-ahead at a time.
import SchemaDoc.Sdl.Lexer

/-!
# Readers

A reader takes what it needs from the front of a list of tokens, or says where
it could not go on: at the first token that does not fit, or, if there is none,
where the tokens end.
-/

namespace SchemaDoc.Sdl

/-- Where reading failed: at a token, or where the tokens end. -/
abbrev Failure := Option Position

/-- Takes tokens from the front of a list, or fails. -/
abbrev Reader := StateT (List Token) (Except Failure)

namespace Reader

variable {α : Type}

/-- Fails at the next token. -/
def unexpected : Reader α := fun ts => .error (ts.head?.map (·.position))

/-- Fails at a given position. -/
def failAt (p : Position) : Reader α := fun _ => .error (some p)

/-- Whether the next token is this one. -/
def startsWith (lexeme : Lexeme) (ts : List Token) : Bool :=
  (ts.head?.map (·.lexeme)) == some lexeme

def nextIs (lexeme : Lexeme) : Reader Bool := fun ts =>
  .ok (startsWith lexeme ts, ts)

/-- The position of the next token. -/
def position : Reader Position
  | [] => .error none
  | t :: ts => .ok (t.position, t :: ts)

/-- Takes a token to which `f` gives a meaning. -/
def token (f : Lexeme → Option α) : Reader α
  | [] => .error none
  | t :: ts =>
    match f t.lexeme with
    | some a => .ok (a, ts)
    | none => .error (some t.position)

/-- Takes exactly this token. -/
def lexeme (l : Lexeme) : Reader Unit :=
  token fun next => if next = l then some () else none

def mark (c : Char) : Reader Unit :=
  lexeme (.mark c)

def name : Reader String :=
  token fun
    | .name text => some text
    | _ => none

/-- Takes the token if it is the next one, and says whether it was. -/
def skip (l : Lexeme) : Reader Bool := do
  if ← nextIs l then
    lexeme l
    return true
  else return false

/-- Reads items as long as `more` holds of the tokens left. -/
def many (more : List Token → Bool) (item : Reader α) (ts : List Token) :
    Except Failure (List α × List Token) :=
  if more ts then
    match item ts with
    | .error failure => .error failure
    | .ok (a, rest) =>
      -- An item takes at least one token; a reader that takes none ends the list.
      if rest.length < ts.length then
        match many more item rest with
        | .error failure => .error failure
        | .ok (as, rest) => .ok (a :: as, rest)
      else .ok ([a], rest)
  else .ok ([], ts)
termination_by ts.length

/-- Items up to a closing mark, which is taken too. -/
def upTo (closing : Char) (item : Reader α) : Reader (List α) := do
  let items ← many (fun ts => !startsWith (.mark closing) ts) item
  mark closing
  return items

/-- At least one item, then further ones up to a closing mark. -/
def someUpTo (closing : Char) (item : Reader α) : Reader (List α) := do
  let first ← item
  let rest ← upTo closing item
  return first :: rest

/-- A bracketed list of at least one item, or nothing. -/
def optionalList (opening closing : Char) (item : Reader α) : Reader (List α) := do
  if ← skip (.mark opening) then someUpTo closing item else return []

/-- At least one item; the separator may also precede the first. -/
def separated (separator : Char) (item : Reader α) : Reader (List α) := do
  let _ ← skip (.mark separator)
  let first ← item
  let rest ← many (startsWith (.mark separator)) (do mark separator; item)
  return first :: rest

end Reader

end SchemaDoc.Sdl
