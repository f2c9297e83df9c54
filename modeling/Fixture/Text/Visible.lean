import Fixture.Unicode.Printable

/-!
# Texts shown to a reader

A text inside a message stands in double quotes, and every character in it that could not be seen,
or that would be read as something else, is spelled out. The same text is never shown in two ways.
-/

namespace Fixture.Text

/-- A character inside double quotes. -/
def visibleChar (c : Char) : String :=
  if c == '"' then "\\\""
  else if c == '\\' then "\\\\"
  else if c == '\n' then "\\n"
  else if c == '\r' then "\\r"
  else if c == '\t' then "\\t"
  else if c == '\x00' then "\\0"
  else if Unicode.standsAlone c then c.toString
  else "\\u\x7b" ++ String.ofList (Nat.toDigits 16 c.toNat) ++ "\x7d"

/-- A text in double quotes. -/
def visible (text : String) : String :=
  "\"" ++ String.join (text.toList.map visibleChar) ++ "\""

end Fixture.Text
