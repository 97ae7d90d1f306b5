-- SUMMARY: Quoted strings and block strings of the schema language, written and read.
import SchemaDoc.Text.Blank
import SchemaDoc.Text.Lines

/-!
# String literals

`quote` writes a string between double quotes; `unescape` reads what stands
between the quotes of such a literal. Block strings have no escapes but a
backslash before three quotes; their content is laid out: common indentation
and blank lines at either end are removed.
-/

namespace SchemaDoc.Sdl

/-! ## Writing -/

/-- The upper-case hexadecimal digit of a number below sixteen. -/
def hexDigit (n : Nat) : Char :=
  if n < 10 then Char.ofNat (48 + n) else Char.ofNat (55 + n)

/-- A backslash, `u` and four hexadecimal digits. -/
def escapeCode (c : Char) : List Char :=
  let n := c.toNat
  ['\\', 'u', hexDigit (n / 4096 % 16), hexDigit (n / 256 % 16), hexDigit (n / 16 % 16), hexDigit (n % 16)]

/-- A character as it stands between the quotes of a literal. -/
def escapeChar (c : Char) : List Char :=
  if c = '"' then ['\\', '"']
  else if c = '\\' then ['\\', '\\']
  else if c = '\n' then ['\\', 'n']
  else if c = '\r' then ['\\', 'r']
  else if c = '\t' then ['\\', 't']
  else if c = '\x08' then ['\\', 'b']
  else if c = '\x0c' then ['\\', 'f']
  else if c.toNat < 0x20 || c.toNat == 0x7F then escapeCode c
  else [c]

def quoteChars (cs : List Char) : List Char :=
  '"' :: (cs.flatMap escapeChar ++ ['"'])

/-- The string as a literal of the schema language, on one line. -/
def quote (s : String) : String :=
  String.ofList (quoteChars s.toList)

/-! ## Reading quoted strings -/

/-- What a letter after a backslash stands for. -/
abbrev EscapeLetters := Char → Option Char

/-- The letters as the language defines them. -/
def standardLetters : EscapeLetters
  | '"' => some '"'
  | '\\' => some '\\'
  | '/' => some '/'
  | 'b' => some '\x08'
  | 'f' => some '\x0c'
  | 'n' => some '\n'
  | 'r' => some '\r'
  | 't' => some '\t'
  | _ => none

/-- The letters as schema documents are read: the same, but `b` stands for U+0010. -/
def documentLetters : EscapeLetters
  | 'b' => some '\x10'
  | c => standardLetters c

def hexValue (c : Char) : Option Nat :=
  if c.isDigit then some (c.toNat - 48)
  else if 'a' ≤ c && c ≤ 'f' then some (c.toNat - 87)
  else if 'A' ≤ c && c ≤ 'F' then some (c.toNat - 55)
  else none

def hexNumber (cs : List Char) : Option Nat :=
  cs.foldlM (fun n c => (hexValue c).map (16 * n + ·)) 0

/-- The character of four hexadecimal digits; a plus sign may stand for the first of them. -/
def decodeCode (cs : List Char) : Option Char := do
  let digits := match cs with
    | '+' :: rest => rest
    | _ => cs
  let n ← hexNumber digits
  if h : n.isValidChar then some (Char.ofNatAux n h) else none

/-- The string written between the quotes, or nothing if an escape is malformed. -/
def unescape (letters : EscapeLetters) : List Char → Option (List Char)
  | [] => some []
  | '\\' :: 'u' :: a :: b :: c :: d :: rest => do
    let decoded ← decodeCode [a, b, c, d]
    let tail ← unescape letters rest
    return decoded :: tail
  | '\\' :: letter :: rest => do
    let decoded ← letters letter
    let tail ← unescape letters rest
    return decoded :: tail
  | ['\\'] => none
  | c :: rest => do
    let tail ← unescape letters rest
    return c :: tail

/-! ## Reading block strings -/

/-- The length of the text in UTF-8, the unit in which indentation is counted. -/
def byteLength : List Char → Nat
  | [] => 0
  | c :: cs => c.utf8Size + byteLength cs

/-- The indentation of a line, unless it is blank. -/
def indentation (line : List Char) : Option Nat :=
  if line.all Text.isBlank then none else some (byteLength (line.takeWhile Text.isBlank))

/-- The least indentation of the lines that are not blank, the first line left aside. -/
def commonIndentation (lines : List (List Char)) : Option Nat :=
  (lines.drop 1).filterMap indentation |>.min?

/-- Drops characters until that many bytes are gone. -/
def dropBytes : Nat → List Char → List Char
  | 0, cs => cs
  | _, [] => []
  | n, c :: cs => dropBytes (n - c.utf8Size) cs

/-- Removes the indentation from a line that is at least that long. -/
def dedent (indent : Option Nat) (line : List Char) : List Char :=
  match indent with
  | none => line
  | some n => if n ≤ byteLength line then dropBytes n line else line

/-- Three quotes after a backslash are three quotes. -/
def unescapeBlock : List Char → List Char
  | '\\' :: '"' :: '"' :: '"' :: rest => '"' :: '"' :: '"' :: unescapeBlock rest
  | c :: rest => c :: unescapeBlock rest
  | [] => []

def dropBlankEnds (lines : List (List Char)) : List (List Char) :=
  let isBlankLine (line : List Char) : Bool := line.all Text.isBlank
  ((lines.dropWhile isBlankLine).reverse.dropWhile isBlankLine).reverse

/-- The string written between the triple quotes. -/
def layOutBlock (raw : List Char) : String :=
  let lines := Text.lineChars raw
  let indent := commonIndentation lines
  let dedented := lines.take 1 ++ (lines.drop 1).map (dedent indent)
  String.intercalate "\n" ((dropBlankEnds dedented).map fun line => String.ofList (unescapeBlock line))

end SchemaDoc.Sdl
