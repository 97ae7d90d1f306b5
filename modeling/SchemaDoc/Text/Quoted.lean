-- SUMMARY: Texts between double quotes, as messages show them.
import SchemaDoc.Text.Printable

/-!
# Quoted texts in messages

A message that repeats what the user wrote puts it between double quotes and
escapes what would be ambiguous or invisible: quotes and backslashes, line
breaks, tabs and NUL by a letter, and every other character that is not
printable by its code point in lower-case hexadecimal.
-/

namespace SchemaDoc.Text

/-- A character as it stands between the quotes. -/
def escapeShown (c : Char) : String :=
  if c = '"' then "\\\""
  else if c = '\\' then "\\\\"
  else if c = '\n' then "\\n"
  else if c = '\r' then "\\r"
  else if c = '\t' then "\\t"
  else if c = '\x00' then "\\0"
  else if isPrintable c then c.toString
  else "\\u\x7b" ++ String.ofList (Nat.toDigits 16 c.toNat) ++ "\x7d"

/-- A text from the user or a path of the file system, between double quotes. -/
def shown (s : String) : String :=
  "\"" ++ String.join (s.toList.map escapeShown) ++ "\""

end SchemaDoc.Text
