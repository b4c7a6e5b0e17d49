import StorageEngine.Text.Extender
import StorageEngine.Text.Invisible

/-!
# Quoted text

A text between double quotes, written so that every character of it can be told from the
printed form.  The quote and the backslash follow a backslash; the null character, the tab,
the carriage return and the line feed have a letter each; any other character that shows
nothing, or that is drawn onto the one before it, is written by its number.
-/

namespace StorageEngine.Text

/-- A character by its number, in base 16. -/
def numbered (c : Char) : String :=
  "\\u\x7b" ++ String.ofList (Nat.toDigits 16 c.toNat) ++ "\x7d"

/-- A character as it stands between quotes. -/
def quoteChar (c : Char) : String :=
  if c = '\x00' then "\\0"
  else if c = '\t' then "\\t"
  else if c = '\r' then "\\r"
  else if c = '\n' then "\\n"
  else if c = '"' then "\\\""
  else if c = '\\' then "\\\\"
  else if isInvisible c || isExtender c then numbered c
  else c.toString

/-- A text between quotes. -/
def quote (s : String) : String :=
  "\"" ++ String.join (s.toList.map quoteChar) ++ "\""

end StorageEngine.Text
