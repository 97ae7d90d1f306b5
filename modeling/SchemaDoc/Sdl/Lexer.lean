-- SUMMARY: From characters to tokens.
import SchemaDoc.Sdl.Token

/-!
# Lexing

`lex` splits a document into tokens. Reading stops at the end of the document or
at the first characters that form no token; a document is complete if it stopped
at the end. Brackets nest at most fifty deep: an opening bracket beyond that
forms no token.
-/

namespace SchemaDoc.Sdl

/-! ## Between tokens -/

/--
Skips what separates tokens. A comment runs up to a line feed or a carriage
return, either of which ends a line there; a comment that the document ends in
does not move the position.
-/
def skipIgnored (inComment : Bool) (p : Position) : List Char → Position × List Char
  | [] => (p, [])
  | c :: cs =>
    if inComment then
      if c = '\n' ∨ c = '\r' then skipIgnored false p.nextLine cs else skipIgnored true p cs
    else if c = '\n' then skipIgnored false p.nextLine cs
    else if c = ' ' ∨ c = ',' then skipIgnored false (p.right 1) cs
    else if c = '\t' then skipIgnored false (p.right 8) cs
    else if c = '\r' ∨ c = '\uFEFF' then skipIgnored false p cs
    else if c = '#' then skipIgnored true p cs
    else (p, c :: cs)

theorem length_skipIgnored (inComment : Bool) (p : Position) (cs : List Char) :
    (skipIgnored inComment p cs).2.length ≤ cs.length := by
  induction cs generalizing inComment p with
  | nil => simp [skipIgnored]
  | cons c cs ih =>
    simp only [skipIgnored]
    repeat' split
    all_goals first
      | exact Nat.le_succ_of_le (ih _ _)
      | exact Nat.le_refl _

/-! ## Strings -/

/-- What stands before the closing quote: a string ends on its line, at the first quote not escaped. -/
def stringBody (escaped : Bool) : List Char → Option (List Char)
  | [] => none
  | c :: cs =>
    if c = '"' ∧ !escaped then some []
    else if c = '\n' then none
    else (stringBody (!escaped && c == '\\') cs).map (c :: ·)

/-- What stands before three closing quotes that no backslash precedes. -/
def blockBody (escaped : Bool) : List Char → Option (List Char)
  | '"' :: '"' :: '"' :: cs =>
    if escaped then (blockBody false cs).map ('"' :: '"' :: '"' :: ·) else some []
  | c :: cs => (blockBody (c == '\\') cs).map (c :: ·)
  | [] => none

/-! ## Tokens -/

/-- The lexeme that a character starts, and how many of the characters after it belong to it. -/
def lexeme? (c : Char) (cs : List Char) : Option (Lexeme × Nat) :=
  if isNameStart c then
    let run := cs.takeWhile isNameChar
    some (.name (String.ofList (c :: run)), run.length)
  else if c = '-' ∨ c.isDigit then
    let run := cs.takeWhile (!endsNumber ·)
    (Lexeme.ofNumber? (c :: run)).map (·, run.length)
  else if c = '"' then
    match cs with
    | '"' :: '"' :: rest => (blockBody false rest).map fun raw => (.blockString raw, raw.length + 5)
    | _ => (stringBody false cs).map fun raw => (.string raw, raw.length + 1)
  else if c = '.' then
    match cs with
    | '.' :: '.' :: _ => some (.spread, 2)
    | _ => none
  else if isMark c then some (.mark c, 0)
  else none

/-- How many more brackets may be opened after this token, unless it opens one too many. -/
def roomAfter (room : Nat) : Lexeme → Option Nat
  | .mark c =>
    if isOpening c then (if room = 0 then none else some (room - 1))
    else if isClosing c then some (room + 1)
    else some room
  | _ => some room

/-- The tokens of a document up to where reading stopped. -/
structure Lexed where
  tokens : List Token
  stop : Position
  complete : Bool
  deriving DecidableEq, Repr

/-- The tokens from some characters on; `room` is the number of brackets that may still be opened. -/
def lexFrom (room : Nat) (before : Position) (cs : List Char) : Lexed :=
  match _h : skipIgnored false before cs with
  | (p, []) => ⟨[], p, true⟩
  | (p, c :: rest) =>
    match lexeme? c rest with
    | none => ⟨[], p, false⟩
    | some (lexeme, n) =>
      match roomAfter room lexeme with
      | none => ⟨[], p, false⟩
      | some room =>
        let lexed := lexFrom room (p.past (c :: rest.take n)) (rest.drop n)
        { lexed with tokens := ⟨lexeme, p⟩ :: lexed.tokens }
termination_by cs.length
decreasing_by
  have hlen := length_skipIgnored false before cs
  rw [_h, List.length_cons] at hlen
  rw [List.length_drop]
  omega

/-- The depth to which brackets may nest. -/
def nestingLimit : Nat := 50

/-- The tokens of a document. -/
def lex (document : String) : Lexed :=
  lexFrom nestingLimit .start document.toList

end SchemaDoc.Sdl
