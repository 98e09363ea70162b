import SchemaAtlas.Text.CharacterSet

/-!
# Quotations in messages

A text as it is shown inside a message: between double quotes, with backslash
escapes for the quote, the backslash and the common control characters, and
every other character without a picture by number.
-/

namespace SchemaAtlas.Text

/-- The digits of a code point in lower-case hexadecimal. -/
def hexadecimal (value : Nat) : String := String.ofList (Nat.toDigits 16 value)

/-- A character written by its number. -/
def numbered (letter : Char) : String :=
  "\\u\x7b" ++ hexadecimal letter.toNat ++ "\x7d"

/-- One character of a quotation. -/
def quotedCharacter (letter : Char) : String :=
  if letter = '\x00' then "\\0"
  else if letter = '\t' then "\\t"
  else if letter = '\r' then "\\r"
  else if letter = '\n' then "\\n"
  else if letter = '"' then "\\\""
  else if letter = '\\' then "\\\\"
  else if letter.toNat < 0x20 || isInvisible letter then numbered letter
  else letter.toString

/-- The text between double quotes, with escapes. -/
def quoted (text : String) : String :=
  "\"" ++ String.join (text.toList.map quotedCharacter) ++ "\""

end SchemaAtlas.Text
