import TreeShapes.Text.Unprintable

namespace TreeShapes
namespace Text

/-!
# Quoted text

A text between double quotes, written so that every character can be seen:
quotes and backslashes are escaped, four control characters have short escapes,
and other unprintable characters appear as code points.
-/

/-- A character by its code point, in hexadecimal digits between braces. -/
def codePoint (char : Char) : String :=
  "\\u\x7b" ++ String.ofList (Nat.toDigits 16 char.toNat) ++ "\x7d"

/-- How a character appears between quotes. -/
def escape (char : Char) : String :=
  if char == '\x22' then "\\\""
  else if char == '\x5c' then "\\\\"
  else if char == '\x00' then "\\0"
  else if char == '\x09' then "\\t"
  else if char == '\x0a' then "\\n"
  else if char == '\x0d' then "\\r"
  else if isUnprintable char then codePoint char
  else char.toString

def quote (text : String) : String :=
  "\"" ++ String.join (text.toList.map escape) ++ "\""

end Text
end TreeShapes
