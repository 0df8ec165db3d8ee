import Retrace.Text.Shown

/-!
# Quoted text

Text between double quotes, with a backslash before what could not be read
there otherwise: the quote and the backslash themselves, the line break, the
carriage return, the tab and the null character by a letter of their own, and
every other character that is not shown as itself by its code point in
hexadecimal digits between braces.
-/

namespace Retrace.Text

/-- The hexadecimal digits of a natural number, in lower case. -/
def hexadecimal (n : Nat) : String :=
  String.ofList (Nat.toDigits 16 n)

/-- A character as it stands between quotes. -/
def escape (c : Char) : String :=
  if c = '\x00' then "\\0"
  else if c = '\t' then "\\t"
  else if c = '\r' then "\\r"
  else if c = '\n' then "\\n"
  else if c = '\\' then "\\\\"
  else if c = '"' then "\\\""
  else if isShown c then c.toString
  else "\\u\x7b" ++ hexadecimal c.toNat ++ "\x7d"

/-- A text between quotes. -/
def quoted (s : String) : String :=
  "\"" ++ String.join (s.toList.map escape) ++ "\""

end Retrace.Text
