import SchemaAtlas.Text.Digits
import SchemaAtlas.Yaml.Letters

/-!
# Names and tags

What may stand in front of a part of a document: a name under which the part
can be used again, and a tag that says what the part is.  A tag is written in
full between angle brackets, or as a suffix behind a handle, which stands for
the start of the tag.
-/

namespace SchemaAtlas.Yaml

/-! ## Names -/

/-- Whether a letter may be in a name. -/
def isNameLetter (letter : Char) : Bool :=
  letter.isAlphanum || letter = '_' || letter = '-'

/-- The letters behind which a name may end, next to blanks and line breaks. -/
def nameEnds : List Char := ['?', ':', ',', ']', '}', '%', '@', '\x60']

/-- Reads the name of a part. -/
def readName (text : List Char) : Except Fault (List Char × List Char) :=
  let name := text.takeWhile isNameLetter
  let rest := text.drop name.length
  if !name.isEmpty && (atGap rest || rest.head?.any nameEnds.contains) then
    .ok (name, rest)
  else .error .badName

/-! ## Tags -/

/-- The octets of a text. -/
def octetsOf (text : List Char) : List UInt8 :=
  (String.ofList text).toUTF8.toList

/-- What a part of a document is, by octets that need not be a text. -/
structure Tag where
  octets : List UInt8
deriving DecidableEq, Inhabited

/-- A tag as it is written. -/
structure WrittenTag where
  /-- The handle; it is empty if the tag is written in full. -/
  handle : List Char
  suffix : List UInt8
deriving DecidableEq, Inhabited

/-- The starts of tags that handles stand for; the first entry for a handle
counts. -/
abbrev Handles := List (List Char × List UInt8)

namespace Tag

/-- The start of the tags of the language itself. -/
def languageStart : List UInt8 := octetsOf "tag:yaml.org,2002:".toList

def integer : Tag := ⟨languageStart ++ octetsOf "int".toList⟩

/-- The handles that need no directive. -/
def standardHandles : Handles :=
  [(['!'], octetsOf ['!']), (['!', '!'], languageStart)]

/-- The tag that is written; `none` if its handle stands for nothing. -/
def ofWritten? (handles : Handles) (written : WrittenTag) : Option Tag :=
  if written.handle.isEmpty then some ⟨written.suffix⟩
  else
    (handles.lookup written.handle).map fun start => ⟨start ++ written.suffix⟩

/-- The letters of a tag that stand for themselves, next to those of names. -/
def plainLetters : List Char :=
  [';', '/', '?', ':', '@', '&', '=', '+', '$', '.', '!', '~', '*', '\'',
    '(', ')']

/-- The further letters of a tag that stand for themselves where it is written
in full. -/
def flowLetters : List Char := [',', '[', ']']

/-- Whether a letter of a tag stands for itself. -/
def isPlain (inFull : Bool) (letter : Char) : Bool :=
  isNameLetter letter || plainLetters.contains letter ||
    (inFull && flowLetters.contains letter)

/-- The octet given by two hexadecimal digits behind a percent sign, and what
follows. -/
def octet? : List Char → Option (UInt8 × List Char)
  | '%' :: high :: low :: rest =>
      (Text.natural? 16 [high, low]).map fun value => (UInt8.ofNat value, rest)
  | _ => none

/-- How many octets follow the first one of a character. -/
def following? (first : UInt8) : Option Nat :=
  let value := first.toNat
  if value < 0x80 then some 0
  else if 0xC0 ≤ value && value < 0xE0 then some 1
  else if 0xE0 ≤ value && value < 0xF0 then some 2
  else if 0xF0 ≤ value && value < 0xF8 then some 3
  else none

/-- Whether an octet is one of those that follow the first one of a
character. -/
def isFollowing (octet : UInt8) : Bool :=
  0x80 ≤ octet.toNat && octet.toNat < 0xC0

/-- Reads octets that follow the first one of a character. -/
def readFollowing :
    (count : Nat) → List Char → Except Fault (List UInt8 × List Char)
  | 0, text => .ok ([], text)
  | count + 1, text =>
      match octet? text with
      | some (octet, rest) =>
          if isFollowing octet then
            (readFollowing count rest).map fun (octets, rest) =>
              (octet :: octets, rest)
          else .error .badTag
      | none => .error .badTag

/-- Reads a character given by its octets. -/
def readEscape (text : List Char) : Except Fault (List UInt8 × List Char) :=
  match octet? text with
  | some (octet, rest) =>
      match following? octet with
      | some count =>
          (readFollowing count rest).map fun (octets, rest) =>
            (octet :: octets, rest)
      | none => .error .badTag
  | none => .error .badTag

/-- Reads the letters of a tag.  Every round takes at least one letter. -/
def readOctets (inFull : Bool) :
    (rounds : Nat) → List Char → Except Fault (List UInt8 × List Char)
  | 0, text => .ok ([], text)
  | rounds + 1, text =>
      match text with
      | [] => .ok ([], [])
      | '%' :: _ => do
          let (octets, rest) ← readEscape text
          let (further, rest) ← readOctets inFull rounds rest
          pure (octets ++ further, rest)
      | letter :: rest =>
          if isPlain inFull letter then
            (readOctets inFull rounds rest).map fun (octets, rest) =>
              (octetsOf [letter] ++ octets, rest)
          else .ok ([], text)

/-- The octets up to the first zero, which ends a tag. -/
def untilZero (octets : List UInt8) : List UInt8 := octets.takeWhile (· != 0)

/-- Reads the octets of a tag or of its start, of which there has to be one. -/
def readSome (inFull : Bool) (text : List Char) :
    Except Fault (List UInt8 × List Char) := do
  let (octets, rest) ← readOctets inFull text.length text
  if octets.isEmpty then throw .badTag
  pure (untilZero octets, rest)

/-- Reads a handle: an exclamation mark, by itself or in front of a name that
another one ends, or else what is the beginning of a suffix. -/
def readHandle : List Char → Except Fault (List Char × List Char)
  | '!' :: rest =>
      let name := rest.takeWhile isNameLetter
      match rest.drop name.length with
      | '!' :: rest => .ok ('!' :: (name ++ ['!']), rest)
      | rest => .ok ('!' :: name, rest)
  | _ => .error .badTag

/-- Whether what was read as a handle is one that an exclamation mark ends. -/
def isEnded (handle : List Char) : Bool :=
  2 ≤ handle.length && handle.getLast? == some '!'

/-- Reads a tag up to its last letter.  An exclamation mark by itself is the
whole tag. -/
def readWritten (text : List Char) : Except Fault (WrittenTag × List Char) :=
  match text with
  | '!' :: '<' :: rest => do
      let (octets, rest) ← readSome true rest
      match rest with
      | '>' :: rest => pure (⟨[], octets⟩, rest)
      | _ => throw .badTag
  | _ => do
      let (handle, rest) ← readHandle text
      if isEnded handle then
        let (suffix, rest) ← readSome false rest
        pure (⟨handle, suffix⟩, rest)
      else
        let (octets, rest) ← readOctets false rest.length rest
        let suffix := untilZero (octetsOf (handle.drop 1) ++ octets)
        pure
          (if suffix.isEmpty then ⟨[], octetsOf ['!']⟩ else ⟨['!'], suffix⟩,
          rest)

/-- Reads a tag, behind which there has to be a blank, a line break or the
end, or in a flow collection a comma. -/
def read (inFlow : Bool) (text : List Char) :
    Except Fault (WrittenTag × List Char) := do
  let (written, rest) ← readWritten text
  if atGap rest || (inFlow && rest.head? == some ',') then pure (written, rest)
  else throw .badTag

/-! ### Writing -/

/-- An octet as it is written in a tag. -/
def octetLetters (octet : UInt8) : List Char :=
  let letter := Char.ofNat octet.toNat
  if octet.toNat < 0x80 && isPlain true letter then [letter]
  else ['%', Nat.digitChar (octet.toNat / 16), Nat.digitChar (octet.toNat % 16)]

/-- A tag written in full. -/
def letters (tag : Tag) : List Char :=
  '!' :: '<' :: (tag.octets.flatMap octetLetters ++ ['>'])

end Tag

end SchemaAtlas.Yaml
