/-!
# Characters of YAML text

Line breaks, blanks and the characters that may stand in YAML text as they
are, and the causes for which a text is refused.
-/

namespace SchemaAtlas.Yaml

/-- The causes for which YAML text, or the data in it, is refused. -/
inductive Fault where
  | controlCharacter
  /-- A character starts no part of a text. -/
  | badCharacter
  /-- A tab stands where only blanks may indent. -/
  | tabIndentation
  | unclosedQuote
  /-- A mark between documents stands inside a quoted text. -/
  | markInQuote
  | badEscape
  /-- A colon stands before a flow indicator. -/
  | badColon
  /-- The header of a block text is malformed. -/
  | badBlockHeader
  /-- A list entry stands where none may begin. -/
  | misplacedEntry
  /-- A key stands where none may begin. -/
  | misplacedKey
  /-- A value stands where none may begin. -/
  | misplacedValue
  /-- A key is not followed by its colon. -/
  | keyWithoutValue
  /-- A collection is not continued or ended as it should be. -/
  | badCollection
  /-- A value is missing where there has to be one. -/
  | missingNode
  /-- There is more than one document, or text behind the document. -/
  | extraDocument
  /-- The name of a part is malformed. -/
  | badName
  /-- A name is used that no part has been given. -/
  | unknownName
  | badTag
  /-- A handle is used that stands for nothing. -/
  | unknownHandle
  /-- A directive is malformed, or given twice. -/
  | badDirective
  /-- The document is written in another version of the language. -/
  | wrongVersion
  | wrongType (expected : String)
  | duplicateField (name : String)
deriving DecidableEq

def Fault.message : Fault → String
  | .controlCharacter => "control characters are not allowed"
  | .badCharacter => "found character that cannot start any token"
  | .tabIndentation =>
      "found a tab character where an indentation space is expected"
  | .unclosedQuote => "found unexpected end of stream"
  | .markInQuote => "found unexpected document indicator"
  | .badEscape => "found unknown escape character"
  | .badColon => "found unexpected ':'"
  | .badBlockHeader => "did not find expected comment or line break"
  | .misplacedEntry => "block sequence entries are not allowed in this context"
  | .misplacedKey => "mapping keys are not allowed in this context"
  | .misplacedValue => "mapping values are not allowed in this context"
  | .keyWithoutValue => "could not find expected ':'"
  | .badCollection => "did not find expected key, entry or end of a collection"
  | .missingNode => "did not find expected node content"
  | .extraDocument => "more than one document"
  | .badName => "did not find expected alphabetic or numeric character"
  | .unknownName => "unknown anchor"
  | .badTag => "did not find expected tag"
  | .unknownHandle => "found undefined tag handle"
  | .badDirective => "did not find expected directive"
  | .wrongVersion => "found incompatible YAML document"
  | .wrongType expected => "invalid type, expected " ++ expected
  | .duplicateField name => "duplicate field `" ++ name ++ "`"

/-- Whether the character ends a line: carriage return, line feed, next line,
line or paragraph separator. -/
def isBreak (letter : Char) : Bool :=
  letter = '\n' || letter = '\r' || letter = '\u0085' || letter = '\u2028' ||
    letter = '\u2029'

/-- Whether the character is a blank within a line. -/
def isBlank (letter : Char) : Bool := letter = ' ' || letter = '\t'

/-- Whether a text is at an end, at a blank or at a line break. -/
def atGap : List Char → Bool
  | [] => true
  | letter :: _ => isBlank letter || isBreak letter

/-- Whether the character may stand in a text at all. -/
def isAllowed (letter : Char) : Bool :=
  let code := letter.toNat
  code == 9 || code == 10 || code == 13 || (0x20 ≤ code && code ≤ 0x7E) ||
    code == 0x85 || (0xA0 ≤ code && code ≤ 0xFFFD) || 0x10000 ≤ code

/--
Whether the character is written as it is rather than as an escape: a line
feed, or one that may stand in a text and is no other control character and no
byte order mark.
-/
def isPrintable (letter : Char) : Bool :=
  let code := letter.toNat
  code == 10 || (0x20 ≤ code && code ≤ 0x7E) ||
    (0xA0 ≤ code && code ≤ 0xFFFD && code != 0xFEFF) || 0x10000 ≤ code

/-- Whether the text starts with the mark of a document's start or end, by
itself. -/
def atDocumentMark : List Char → Bool
  | '-' :: '-' :: '-' :: rest => atGap rest
  | '.' :: '.' :: '.' :: rest => atGap rest
  | _ => false

/-- Takes one line break off the front of a text; gives the character it is
read as. -/
def takeBreak : List Char → Option (Char × List Char)
  | '\r' :: '\n' :: rest => some ('\n', rest)
  | letter :: rest =>
      if letter = '\n' || letter = '\r' || letter = '\u0085' then
        some ('\n', rest)
      else if letter = '\u2028' || letter = '\u2029' then some (letter, rest)
      else none
  | [] => none

/-- Taking a line break shortens the text. -/
theorem length_of_takeBreak {text rest : List Char} {letter : Char}
    (taken : takeBreak text = some (letter, rest)) :
    rest.length < text.length := by
  unfold takeBreak at taken
  split at taken
  · cases taken
    simp only [List.length_cons]
    omega
  · split at taken
    · cases taken
      simp
    · split at taken
      · cases taken
        simp
      · cases taken
  · cases taken

end SchemaAtlas.Yaml
