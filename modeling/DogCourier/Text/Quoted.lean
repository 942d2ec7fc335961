import DogCourier.Text.Printable
import DogCourier.Text.GraphemeExtend

/-! # Quoted strings for messages

    Messages show a name as a quoted literal: it stands between double quotes, the quote
    and the backslash get a backslash, tab, return, newline and NUL get their letter
    escapes, and a character that extends the grapheme before it or does not print on its
    own is written `\u{hex}` in lowercase hexadecimal. Every other character, the single
    quote included, is written as itself. -/

namespace DogCourier

namespace Quoted

/-- The character is written as a `\u{hex}` escape. -/
def needsCode (c : Char) : Bool := extendsGrapheme c || !printsAlone c

/-- Lowercase hexadecimal digits of a number, without leading zeros. -/
def hex (n : Nat) : String :=
  String.ofList ((Nat.toDigits 16 n).map Char.toLower)

/-- The written form of one character inside the quotes. -/
def escape (c : Char) : String :=
  if c = '"' then "\\\""
  else if c = '\\' then "\\\\"
  else if c = '\t' then "\\t"
  else if c = '\r' then "\\r"
  else if c = '\n' then "\\n"
  else if c.toNat = 0 then "\\0"
  else if needsCode c then "\\u" ++ "\x7b" ++ hex c.toNat ++ "\x7d"
  else String.singleton c

end Quoted

/-- A string between double quotes with its special characters escaped. -/
def quoted (s : String) : String := "\"" ++ String.join (s.toList.map Quoted.escape) ++ "\""

end DogCourier
