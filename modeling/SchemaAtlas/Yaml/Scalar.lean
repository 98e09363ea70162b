import SchemaAtlas.Decimal.Written
import SchemaAtlas.Text.Digits
import SchemaAtlas.Yaml.Letters

/-!
# Writing YAML scalars

The four written forms of a text, which of them a text gets, and how it is
written in each.  A text that would be read as something else when it stands
bare goes between quotes; one with line breaks becomes a literal block; one
with characters that have to be escaped goes between double quotes.
-/

namespace SchemaAtlas.Yaml

/-- The written form of a scalar. -/
inductive Style where
  | plain
  | singleQuoted
  | doubleQuoted
  | literal
  | folded
deriving DecidableEq, Inhabited

namespace Scalar

/-! ## Texts that look like something else -/

/-- The words that are read as nothing. -/
def nullWords : List String := ["null", "Null", "NULL", "~"]

/-- The words that are read as truth values. -/
def boolWords : List String :=
  ["true", "True", "TRUE", "false", "False", "FALSE"]

/-- The text without the given start; `none` if it does not start so. -/
def without? (start : String) (letters : List Char) : Option (List Char) :=
  if start.toList.isPrefixOf letters then some (letters.drop start.length)
  else none

/-- The number that a text stands for behind a mark of its base. -/
def based? (letters : List Char) : Option Nat :=
  match letters with
  | '0' :: 'x' :: digits => Text.natural? 16 digits
  | '0' :: 'o' :: digits => Text.natural? 8 digits
  | '0' :: 'b' :: digits => Text.natural? 2 digits
  | _ => none

/-- Whether the text is two or more digits of which the first is zero, behind
an optional sign. -/
def hasLeadingZero (letters : List Char) : Bool :=
  let digits :=
    match letters with
    | '-' :: rest => rest
    | '+' :: rest => rest
    | _ => letters
  match digits with
  | '0' :: second :: rest => (second :: rest).all Char.isDigit
  | _ => false

/-- The integer without minus sign that a text stands for: decimal, or to base
16, 8 or 2 behind a mark. -/
def unsigned? (letters : List Char) : Option Nat :=
  let digits :=
    match letters with
    | '+' :: rest => rest
    | _ => letters
  match based? digits with
  | some value => some value
  | none => if hasLeadingZero letters then none else Text.natural? 10 digits

/-- The size of the integer with minus sign that a text stands for. -/
def negative? (letters : List Char) : Option Nat :=
  match letters with
  | '-' :: digits =>
      match based? digits with
      | some value => some value
      | none => if hasLeadingZero letters then none else Text.natural? 10 digits
  | _ => none

/-- Whether the text is an integer of at most 128 bits. -/
def looksInteger (letters : List Char) : Bool :=
  (match unsigned? letters with
    | some value => value < Nat.pow 2 128
    | none => false) ||
  (match negative? letters with
    | some value => value ≤ Nat.pow 2 127
    | none => false)

/-- Whether the text, behind an optional sign, is a decimal number with
optional fraction and exponent that rounds to a finite double. -/
def looksDecimal (letters : List Char) : Bool :=
  (Decimal.Written.ofLetters? letters).any (·.isFinite)

/-- Whether the text is read as a fractional number: a decimal, an infinity or
not a number. -/
def looksFractional (letters : List Char) : Bool :=
  let unsigned :=
    match letters with
    | '+' :: rest => rest
    | _ => letters
  let doubleSign :=
    letters.head? == some '+' &&
      (unsigned.head? == some '+' || unsigned.head? == some '-')
  !doubleSign &&
    ([".inf", ".Inf", ".INF"].contains (String.ofList unsigned) ||
      ["-.inf", "-.Inf", "-.INF", ".nan", ".NaN", ".NAN"].contains
        (String.ofList letters) ||
      looksDecimal unsigned)

/-- Whether the text has to be quoted because it would otherwise not be read
as a text. -/
def looksOther (text : String) : Bool :=
  text.isEmpty || nullWords.contains text || boolWords.contains text ||
    looksInteger text.toList || hasLeadingZero text.toList ||
    looksFractional text.toList

/-! ## The form of a text -/

/-- Whether a neighbouring pair in the text has the first and second
property. -/
def hasPair (first second : Char → Bool) : List Char → Bool
  | a :: b :: rest => (first a && second b) || hasPair first second (b :: rest)
  | _ => false

/-- Whether the letter is the blank that is not a tab. -/
def isSpace (letter : Char) : Bool := letter = ' '

/-- Whether the text holds a character that has to be escaped. -/
def needsEscapes (letters : List Char) : Bool :=
  letters.any fun letter => !isPrintable letter

/-- The characters that may not begin a bare text. -/
def openingIndicators : List Char :=
  ['#', ',', '[', ']', '{', '}', '&', '*', '!', '|', '>', '\'', '"', '%',
    '@', '\x60']

/-- Whether the first character keeps a text from standing bare. -/
def opensAsIndicator : List Char → Bool
  | [] => false
  | first :: rest =>
      openingIndicators.contains first ||
        ((first = '?' || first = ':' || first = '-') && atGap rest) ||
        ("---".toList.isPrefixOf (first :: rest)) ||
        ("...".toList.isPrefixOf (first :: rest))

/-- Whether a colon before a gap, or a number sign behind one, keeps a text
from standing bare. -/
def holdsIndicator : (behindGap : Bool) → List Char → Bool
  | _, [] => false
  | behindGap, letter :: rest =>
      (letter = ':' && atGap rest) || (letter = '#' && behindGap) ||
        holdsIndicator (isBlank letter || isBreak letter) rest

/-- Whether the text may stand bare. -/
def allowsPlain (letters : List Char) : Bool :=
  let edge := fun (letter : Char) => isSpace letter || isBreak letter
  !(letters.head?.any edge) && !(letters.getLast?.any edge) &&
    !(letters.any isBreak) && !(needsEscapes letters) &&
    !(opensAsIndicator letters) && !(holdsIndicator true letters)

/-- Whether the text may stand between single quotes. -/
def allowsSingle (letters : List Char) : Bool :=
  !(hasPair isBreak isSpace letters) && !(hasPair isSpace isBreak letters) &&
    !(needsEscapes letters)

/-- Whether the text may stand as a literal block. -/
def allowsLiteral (letters : List Char) : Bool :=
  !letters.isEmpty && !(letters.getLast?.any isSpace) &&
    !(hasPair isSpace isBreak letters) && !(needsEscapes letters)

/-- The form in which a text is written. -/
def styleOf (text : String) : Style :=
  let letters := text.toList
  let quoted :=
    if allowsSingle letters then Style.singleQuoted else .doubleQuoted
  if letters.contains '\n' then
    if allowsLiteral letters then .literal else .doubleQuoted
  else if looksOther text then quoted
  else if allowsPlain letters then .plain
  else quoted

/-! ## Writing -/

def blanks (count : Nat) : List Char := List.replicate count ' '

/-- The upper-case hexadecimal digits of a number, at least `width` of them. -/
def hexDigits (width value : Nat) : List Char :=
  let digits := (Nat.toDigits 16 value).map Char.toUpper
  List.replicate (width - digits.length) '0' ++ digits

/-- A character between double quotes. -/
def doubleQuotedLetter (letter : Char) : List Char :=
  let code := letter.toNat
  if isPrintable letter && !isBreak letter && letter ≠ '"' && letter ≠ '\\' then
    [letter]
  else if code = 0 then ['\\', '0']
  else if code = 7 then ['\\', 'a']
  else if code = 8 then ['\\', 'b']
  else if code = 9 then ['\\', 't']
  else if code = 10 then ['\\', 'n']
  else if code = 11 then ['\\', 'v']
  else if code = 12 then ['\\', 'f']
  else if code = 13 then ['\\', 'r']
  else if code = 0x1B then ['\\', 'e']
  else if code = 0x22 then ['\\', '"']
  else if code = 0x5C then ['\\', '\\']
  else if code = 0x85 then ['\\', 'N']
  else if code = 0xA0 then ['\\', '_']
  else if code = 0x2028 then ['\\', 'L']
  else if code = 0x2029 then ['\\', 'P']
  else if code ≤ 0xFF then '\\' :: 'x' :: hexDigits 2 code
  else if code ≤ 0xFFFF then '\\' :: 'u' :: hexDigits 4 code
  else '\\' :: 'U' :: hexDigits 8 code

/-- The letters of a text with line breaks, each line that is not empty behind
blanks. -/
def indentedLines (indent : Nat) : (lineStart : Bool) → List Char → List Char
  | _, [] => []
  | lineStart, letter :: rest =>
      if isBreak letter then letter :: indentedLines indent true rest
      else
        (if lineStart then blanks indent else []) ++
          letter :: indentedLines indent false rest

/-- The letters of a text between single quotes, quotes doubled and lines
behind blanks. -/
def singleQuotedLetters (indent : Nat) :
    (behindBreak : Bool) → List Char → List Char
  | behindBreak, [] => if behindBreak then blanks indent else []
  | behindBreak, letter :: rest =>
      if isBreak letter then letter :: singleQuotedLetters indent true rest
      else
        (if behindBreak then blanks indent else []) ++
          (if letter = '\'' then ['\'', '\''] else [letter]) ++
          singleQuotedLetters indent false rest

/-- How many blanks deeper a level is than the one around it. -/
def indentStep : Nat := 2

/--
What stands behind the bar of a literal block: the indentation, if the text
does not show it by itself, and what becomes of the line breaks at the end.
-/
def literalHints (letters : List Char) : List Char :=
  (if letters.head?.any (fun letter => isSpace letter || isBreak letter) then
      Nat.toDigits 10 indentStep
    else []) ++
  match letters.reverse with
  | [] => ['-']
  | [only] => if isBreak only then ['+'] else ['-']
  | last :: previous :: _ =>
      if !isBreak last then ['-'] else if isBreak previous then ['+'] else []

/-- The written form of a text, the further lines of which are indented by
`indent`. -/
def write (indent : Nat) (style : Style) (letters : List Char) : List Char :=
  match style with
  | .plain => letters
  | .singleQuoted =>
      '\'' :: (singleQuotedLetters indent false letters ++ ['\''])
  | .doubleQuoted => '"' :: (letters.flatMap doubleQuotedLetter ++ ['"'])
  | .literal | .folded =>
      '|' :: (literalHints letters ++ '\n' :: indentedLines indent true letters)

/-- The written form of a text up to the end of its line. -/
def writeLine (indent : Nat) (style : Style) (letters : List Char) :
    List Char :=
  let written := write indent style letters
  if written.getLast?.any isBreak then written else written ++ ['\n']

end Scalar

end SchemaAtlas.Yaml
