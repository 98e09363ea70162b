import SchemaAtlas.Json.Fault

/-!
# JSON strings

Writing a text as a JSON string and reading one back.  The writer escapes the
quote, the backslash and the characters below `U+0020`, and nothing else.  The
reader takes every escape of the format; characters beyond the first plane
come as two escapes, a leading and a trailing surrogate.
-/

namespace SchemaAtlas.Json

/-- The two lower-case hexadecimal digits of a number below 256. -/
def twoHexDigits (value : Nat) : List Char :=
  [Nat.digitChar (value / 16), Nat.digitChar (value % 16)]

/-- The written form of one character of a string. -/
def escapeCharacter (letter : Char) : List Char :=
  if letter = '"' then ['\\', '"']
  else if letter = '\\' then ['\\', '\\']
  else if letter = '\x08' then ['\\', 'b']
  else if letter = '\t' then ['\\', 't']
  else if letter = '\n' then ['\\', 'n']
  else if letter = '\x0c' then ['\\', 'f']
  else if letter = '\r' then ['\\', 'r']
  else if letter.toNat < 0x20 then
    ['\\', 'u', '0', '0'] ++ twoHexDigits letter.toNat
  else [letter]

/-- A text as a JSON string, quotes included. -/
def quoteLetters (letters : List Char) : List Char :=
  '"' :: (letters.flatMap escapeCharacter ++ ['"'])

def quote (text : String) : String := String.ofList (quoteLetters text.toList)

/-- The value of a hexadecimal digit of either case. -/
def hexValue? (letter : Char) : Option Nat :=
  let code := letter.toNat
  if 48 ≤ code ∧ code ≤ 57 then some (code - 48)
  else if 97 ≤ code ∧ code ≤ 102 then some (code - 87)
  else if 65 ≤ code ∧ code ≤ 70 then some (code - 55)
  else none

/-- The number that four hexadecimal digits stand for. -/
def hexUnit? (a b c d : Char) : Option Nat :=
  match hexValue? a, hexValue? b, hexValue? c, hexValue? d with
  | some a, some b, some c, some d => some (((a * 16 + b) * 16 + c) * 16 + d)
  | _, _, _, _ => none

/-- Whether a 16-bit unit is the first half of a surrogate pair. -/
def isLeading (unit : Nat) : Bool := 0xD800 ≤ unit && unit ≤ 0xDBFF

/-- Whether a 16-bit unit is the second half of a surrogate pair. -/
def isTrailing (unit : Nat) : Bool := 0xDC00 ≤ unit && unit ≤ 0xDFFF

/-- The character that a surrogate pair stands for. -/
def pairedCharacter (leading trailing : Nat) : Char :=
  Char.ofNat (0x10000 + (leading - 0xD800) * 0x400 + (trailing - 0xDC00))

/--
The fault of a `\u` escape with fewer than four characters behind it: the
escape is broken if these take four bytes all the same, and the text ends too
early if not.
-/
def shortEscape (rest : List Char) : Fault :=
  if 4 ≤ rest.foldl (fun size letter => size + letter.utf8Size) 0 then
    .badEscape
  else .endInString

/-- The character of a one-letter escape. -/
def simpleEscape? (letter : Char) : Option Char :=
  if letter = '"' then some '"'
  else if letter = '\\' then some '\\'
  else if letter = '/' then some '/'
  else if letter = 'b' then some '\x08'
  else if letter = 'f' then some '\x0c'
  else if letter = 'n' then some '\n'
  else if letter = 'r' then some '\r'
  else if letter = 't' then some '\t'
  else none

/-- Puts a letter in front of what was read. -/
def prepend (letter : Char) (read : List Char × List Char) :
    List Char × List Char :=
  (letter :: read.1, read.2)

/-- Reads a string from behind its opening quote: its letters, and the text
behind its closing quote. -/
def unquoteLetters : List Char → Except Fault (List Char × List Char)
  | [] => .error .endInString
  | '"' :: rest => .ok ([], rest)
  | '\\' :: 'u' :: a :: b :: c :: d :: rest =>
      match hexUnit? a b c d with
      | none => .error .badEscape
      | some unit =>
          if isTrailing unit then .error .loneSurrogate
          else if isLeading unit then
            match rest with
            | '\\' :: 'u' :: e :: f :: g :: h :: rest =>
                match hexUnit? e f g h with
                | none => .error .badEscape
                | some second =>
                    if isTrailing second then
                      (unquoteLetters rest).map
                        (prepend (pairedCharacter unit second))
                    else .error .loneSurrogate
            | '\\' :: 'u' :: rest => .error (shortEscape rest)
            | [] => .error .endInString
            | ['\\'] => .error .endInString
            | _ => .error .unpairedSurrogate
          else (unquoteLetters rest).map (prepend (Char.ofNat unit))
  | '\\' :: 'u' :: rest => .error (shortEscape rest)
  | ['\\'] => .error .endInString
  | '\\' :: letter :: rest =>
      match simpleEscape? letter with
      | some plain => (unquoteLetters rest).map (prepend plain)
      | none => .error .badEscape
  | letter :: rest =>
      if letter.toNat < 0x20 then .error .controlCharacter
      else (unquoteLetters rest).map (prepend letter)

/-- Passes over a string from behind its opening quote, checking the form of
its escapes only. -/
def skipString : List Char → Except Fault (List Char)
  | [] => .error .endInString
  | '"' :: rest => .ok rest
  | '\\' :: 'u' :: a :: b :: c :: d :: rest =>
      match hexUnit? a b c d with
      | none => .error .badEscape
      | some _ => skipString rest
  | '\\' :: 'u' :: rest => .error (shortEscape rest)
  | ['\\'] => .error .endInString
  | '\\' :: letter :: rest =>
      match simpleEscape? letter with
      | some _ => skipString rest
      | none => .error .badEscape
  | letter :: rest =>
      if letter.toNat < 0x20 then .error .controlCharacter else skipString rest

end SchemaAtlas.Json
