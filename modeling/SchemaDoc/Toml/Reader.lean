-- SUMMARY: The lexical forms of configuration files: keys, strings, numbers, lists and inline tables.
import SchemaDoc.Toml.Table

/-!
# Values of configuration files

Readers for the plain part of the configuration language: bare and quoted keys,
strings on one line, booleans, integers, lists and inline tables. A reader gives
what it read and the characters after it, or nothing if the text is malformed.
-/

namespace SchemaDoc.Toml

abbrev Reader := StateT (List Char) Option

/-! ## Blanks -/

/-- Characters that comments and strings may hold: no controls but the tab. -/
def isPlain (c : Char) : Bool :=
  c == '\t' || (0x20 ≤ c.toNat && c.toNat != 0x7F)

/-- Skips spaces and tabs. -/
def skipSpaces (cs : List Char) : List Char :=
  cs.dropWhile fun c => c == ' ' || c == '\t'

def spaces : Reader Unit := modify skipSpaces

/-- Skips spaces, line breaks and comments. -/
def skipBlanks (inComment : Bool) : List Char → List Char
  | [] => []
  | '\n' :: cs => skipBlanks false cs
  | '\r' :: '\n' :: cs => skipBlanks false cs
  | c :: cs =>
    if inComment then (if isPlain c then skipBlanks true cs else c :: cs)
    else if c = ' ' ∨ c = '\t' then skipBlanks false cs
    else if c = '#' then skipBlanks true cs
    else c :: cs

def blanks : Reader Unit := modify (skipBlanks false)

/-- Whether nothing but a comment stands before the end of the line. -/
def endsLine (cs : List Char) : Bool :=
  match skipSpaces cs with
  | [] => true
  | '\n' :: _ => true
  | '\r' :: '\n' :: _ => true
  | '#' :: _ => true
  | _ => false

/-- Takes exactly this character. -/
def char (c : Char) : Reader Unit
  | d :: cs => if d = c then some ((), cs) else none
  | [] => none

/-- Takes the character if it is the next one, and says whether it was. -/
def skip (c : Char) : Reader Bool
  | d :: cs => if d = c then some (true, cs) else some (false, d :: cs)
  | [] => some (false, [])

/-! ## Strings and keys -/

/-- The character of hexadecimal digits. -/
def codeChar (digits : List Char) : Option Char := do
  let n ← Sdl.hexNumber digits
  if h : n.isValidChar then some (Char.ofNatAux n h) else none

def escapeLetter : Char → Option Char
  | 'b' => some '\x08'
  | 't' => some '\t'
  | 'n' => some '\n'
  | 'f' => some '\x0c'
  | 'r' => some '\r'
  | '"' => some '"'
  | '\\' => some '\\'
  | _ => none

/-- What stands before the closing quote, with escapes resolved, and what follows the quote. -/
def basicBody : List Char → Option (List Char × List Char)
  | '"' :: cs => some ([], cs)
  | '\\' :: 'u' :: a :: b :: c :: d :: cs => do
    let decoded ← codeChar [a, b, c, d]
    let (body, rest) ← basicBody cs
    return (decoded :: body, rest)
  | '\\' :: 'U' :: a :: b :: c :: d :: e :: f :: g :: h :: cs => do
    let decoded ← codeChar [a, b, c, d, e, f, g, h]
    let (body, rest) ← basicBody cs
    return (decoded :: body, rest)
  | '\\' :: letter :: cs => do
    let decoded ← escapeLetter letter
    let (body, rest) ← basicBody cs
    return (decoded :: body, rest)
  | c :: cs =>
    if isPlain c then do
      let (body, rest) ← basicBody cs
      return (c :: body, rest)
    else none
  | [] => none

/-- What stands before the closing apostrophe, and what follows it. -/
def literalBody : List Char → Option (List Char × List Char)
  | '\'' :: cs => some ([], cs)
  | c :: cs =>
    if isPlain c then do
      let (body, rest) ← literalBody cs
      return (c :: body, rest)
    else none
  | [] => none

/-- A string between quotes or apostrophes. -/
def string : Reader String
  | '"' :: cs => (basicBody cs).map fun (body, rest) => (String.ofList body, rest)
  | '\'' :: cs => (literalBody cs).map fun (body, rest) => (String.ofList body, rest)
  | _ => none

def isBareKeyChar (c : Char) : Bool :=
  c.isAlphanum || c == '_' || c == '-'

def startsString : List Char → Bool
  | c :: _ => c == '"' || c == '\''
  | [] => false

/-- A bare or quoted key. -/
def simpleKey : Reader String := fun cs =>
  if startsString cs then string cs
  else
    let key := cs.takeWhile isBareKeyChar
    if key.isEmpty then none else some (String.ofList key, cs.dropWhile isBareKeyChar)

/-- At least one item, then more as long as the separator follows; `bound` limits their number. -/
def separated {α : Type} (separator : Char) (item : Reader α) : Nat → Reader (List α)
  | 0 => fun _ => none
  | bound + 1 => do
    let first ← item
    spaces
    if ← skip separator then
      spaces
      return first :: (← separated separator item bound)
    else return [first]

/-- Keys have fewer parts than this, and lists and tables nest less deep. -/
def depthLimit : Nat := 80

/-- Keys between dots. -/
def key : Reader (List String) := fun cs => do
  let (path, rest) ← separated '.' simpleKey cs.length cs
  if path.length < depthLimit then some (path, rest) else none

/-! ## Values -/

/-- The number of some digits, with single underscores between them. -/
def digitsValue (base : Nat) (cs : List Char) : Option Nat :=
  let digitValue (c : Char) : Option Nat := (Sdl.hexValue c).filter (· < base)
  let groups := Text.splitChars '_' cs
  if groups.any (·.isEmpty) then none
  else groups.flatten.foldlM (fun n c => (digitValue c).map (base * n + ·)) 0

/-- The number of decimal digits without leading zeros. -/
def decimalValue (digits : List Char) : Option Nat :=
  if digits.length ≠ 1 ∧ digits.head? = some '0' then none else digitsValue 10 digits

/-- An integer: decimal with or without a sign, or with a prefix that gives the base. -/
def integerValue : List Char → Option Int
  | '0' :: 'x' :: digits => (digitsValue 16 digits).map Int.ofNat
  | '0' :: 'o' :: digits => (digitsValue 8 digits).map Int.ofNat
  | '0' :: 'b' :: digits => (digitsValue 2 digits).map Int.ofNat
  | '-' :: digits => (decimalValue digits).map fun n => -(n : Int)
  | '+' :: digits => (decimalValue digits).map Int.ofNat
  | digits => (decimalValue digits).map Int.ofNat

/-- Integers have at most 64 bits. -/
def isInteger (cs : List Char) : Bool :=
  match integerValue cs with
  | some n => -0x8000000000000000 ≤ n && n < 0x8000000000000000
  | none => false

/-- A boolean or an integer: the run of characters that can stand in one. -/
def word : Reader RawSetting := fun cs =>
  let isWordChar (c : Char) : Bool := isBareKeyChar c || c == '+' || c == '.' || c == ':'
  let run := cs.takeWhile isWordChar
  let rest := cs.dropWhile isWordChar
  match String.ofList run with
  | "true" => some (.bool true, rest)
  | "false" => some (.bool false, rest)
  | text => if isInteger run then some (.number text, rest) else none

/-- Items of a list, with blanks around them and possibly a comma after the last one. -/
def items (item : Reader RawSetting) : Nat → Reader (List RawSetting)
  | 0 => fun _ => none
  | bound + 1 => do
    blanks
    if ← skip ']' then return []
    else
      let first ← item
      blanks
      if ← skip ',' then return first :: (← items item bound)
      else
        char ']'
        return [first]

/-- A key, an equals sign and a value. -/
def keyValue (item : Reader RawSetting) : Reader (List String × RawSetting) := do
  let path ← key
  spaces
  char '='
  spaces
  return (path, ← item)

/-- A string, a boolean or an integer. -/
def scalar : Reader RawSetting := fun cs =>
  if startsString cs then (fun (s, rest) => (.text s, rest)) <$> string cs else word cs

/-- A value in which lists and tables nest at most `depth` deep. -/
def valueWithin : Nat → Reader RawSetting
  | 0 => scalar
  | depth + 1 => fun cs =>
    match cs with
    | '[' :: rest => (fun (values, rest) => (.list values, rest)) <$> items (valueWithin depth) cs.length rest
    | '\x7b' :: rest => inlineTable (keyValue (valueWithin depth)) (skipSpaces rest)
    | _ => scalar cs
where
  /-- The entries of an inline table after its opening brace. -/
  inlineTable (entry : Reader (List String × RawSetting)) : Reader RawSetting
    | '\x7d' :: rest => some (.table [], rest)
    | cs => do
      let (assignments, rest) ← separated ',' entry cs.length cs
      let ((), rest) ← char '\x7d' rest
      let nodes ← assignments.foldlM (fun nodes a => assign a.1 a.2 nodes) []
      return (.table (settingEntries nodes), rest)

/-- A value. -/
def value : Reader RawSetting :=
  valueWithin (depthLimit - 1)

end SchemaDoc.Toml
