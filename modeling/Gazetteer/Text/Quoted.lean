import Gazetteer.Text.Visibility

/-!
# Quoted texts

Messages show a text that a person gave in double quotes. Inside, quotes and backslashes are escaped,
the common controls have a letter each, and characters that could not be seen, or would alter the
character before them, are given by number.
-/

set_option autoImplicit false

namespace Gazetteer.Text

/-- A number in lower-case hexadecimal digits, without leading zeros. -/
def hex (n : Nat) : String := String.ofList (Nat.toDigits 16 n)

/-- A character as it stands between quotes. -/
def quoteChar (c : Char) : String :=
  if c = '"' then "\\\""
  else if c = '\\' then "\\\\"
  else if c = '\n' then "\\n"
  else if c = '\r' then "\\r"
  else if c = '\t' then "\\t"
  else if c.toNat = 0 then "\\0"
  else if isExtender c || isUnprintable c then "\\u\x7b" ++ hex c.toNat ++ "\x7d"
  else c.toString

/-- The text between double quotes, fit to be read in a message. -/
def quoted (s : String) : String := "\"" ++ String.join (s.toList.map quoteChar) ++ "\""

end Gazetteer.Text
