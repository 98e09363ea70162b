import SchemaAtlas.Yaml.Scalar

/-!
# Reading YAML scalars

Each form of a scalar is read from the front of a text.  Within a plain or
quoted text a single line break becomes a blank, of several the first goes,
and blanks at either end of a line do not count.
-/

namespace SchemaAtlas.Yaml.Scalar

/-- What separates the part of a text that has been read from the next:
nothing, blanks within a line, or line breaks, the first of them apart. -/
inductive Gap where
  | none
  | blanks (letters : List Char)
  | breaks (first further : List Char)
deriving DecidableEq

namespace Gap

/-- The gap with one more blank; a blank at the start of a line does not
count. -/
def addBlank (letter : Char) : Gap → Gap
  | .none => .blanks [letter]
  | .blanks letters => .blanks (letters ++ [letter])
  | .breaks first further => .breaks first further

/-- The gap with one more line break; blanks at the end of a line do not
count. -/
def addBreak (letter : Char) : Gap → Gap
  | .breaks first further => .breaks first (further ++ [letter])
  | _ => .breaks [letter] []

/-- Whether the gap has a line break. -/
def isBroken : Gap → Bool
  | .breaks _ _ => true
  | _ => false

/-- Whether there is a gap at all. -/
def isOpen : Gap → Bool
  | .none => false
  | _ => true

/-- What the gap stands for in the text. -/
def letters : Gap → List Char
  | .none => []
  | .blanks letters => letters
  | .breaks first further =>
      if first = ['\n'] then (if further.isEmpty then [' '] else further)
      else first ++ further

end Gap

/-- Puts letters in front of what was read. -/
def withFront {α : Type} (front : List Char) (read : List Char × α) :
    List Char × α :=
  (front ++ read.1, read.2)

/--
Reads a plain text: its letters, whether the gap behind it has a line break,
and what follows that gap.  Outside of flow collections a further line has to
start at column `indent` or beyond.
-/
def readPlain (inFlow : Bool) (indent : Int) :
    Gap → (column : Nat) → List Char →
      Except Fault (List Char × Bool × List Char)
  | gap, _, [] => .ok ([], gap.isBroken, [])
  | gap, _, '\r' :: '\n' :: rest =>
      readPlain inFlow indent (gap.addBreak '\n') 0 rest
  | gap, column, letter :: rest =>
      if isBlank letter then
        if gap.isBroken && (column : Int) < indent && letter = '\t' then
          .error .tabIndentation
        else readPlain inFlow indent (gap.addBlank letter) (column + 1) rest
      else if isBreak letter then
        let read :=
          if letter = '\u2028' || letter = '\u2029' then letter else '\n'
        readPlain inFlow indent (gap.addBreak read) 0 rest
      else if gap.isBroken && !inFlow && (column : Int) < indent then
        .ok ([], true, letter :: rest)
      else if gap.isOpen && letter = '#' then
        .ok ([], gap.isBroken, letter :: rest)
      else if column = 0 && atDocumentMark (letter :: rest) then
        .ok ([], gap.isBroken, letter :: rest)
      else if inFlow && letter = ':' &&
          (rest.head?.any fun next =>
            [',', '?', '[', ']', '{', '}'].contains next) then
        .error .badColon
      else if letter = ':' && atGap rest then
        .ok ([], gap.isBroken, letter :: rest)
      else if inFlow && [',', '[', ']', '{', '}'].contains letter then
        .ok ([], gap.isBroken, letter :: rest)
      else
        (readPlain inFlow indent .none (column + 1) rest).map
          (withFront (gap.letters ++ [letter]))

/-- Reads a text from behind its opening single quote. -/
def readSingleQuoted :
    Gap → (lineStart : Bool) → List Char → Except Fault (List Char × List Char)
  | _, _, [] => .error .unclosedQuote
  | gap, _, '\r' :: '\n' :: rest =>
      readSingleQuoted (gap.addBreak '\n') true rest
  | gap, _, '\'' :: '\'' :: rest =>
      (readSingleQuoted .none false rest).map
        (withFront (gap.letters ++ ['\'']))
  | gap, lineStart, letter :: rest =>
      if isBlank letter then readSingleQuoted (gap.addBlank letter) false rest
      else if isBreak letter then
        let read :=
          if letter = '\u2028' || letter = '\u2029' then letter else '\n'
        readSingleQuoted (gap.addBreak read) true rest
      else if lineStart && atDocumentMark (letter :: rest) then
        .error .markInQuote
      else if letter = '\'' then .ok (gap.letters, rest)
      else
        (readSingleQuoted .none false rest).map
          (withFront (gap.letters ++ [letter]))

/-- The character of a one-letter escape. -/
def escape? (letter : Char) : Option Char :=
  if letter = '0' then some '\x00'
  else if letter = 'a' then some '\x07'
  else if letter = 'b' then some '\x08'
  else if letter = 't' || letter = '\t' then some '\t'
  else if letter = 'n' then some '\n'
  else if letter = 'v' then some '\x0b'
  else if letter = 'f' then some '\x0c'
  else if letter = 'r' then some '\r'
  else if letter = 'e' then some '\x1b'
  else if letter = ' ' then some ' '
  else if letter = '"' then some '"'
  else if letter = '/' then some '/'
  else if letter = '\\' then some '\\'
  else if letter = 'N' then some '\u0085'
  else if letter = '_' then some '\u00a0'
  else if letter = 'L' then some '\u2028'
  else if letter = 'P' then some '\u2029'
  else none

/-- The number of hexadecimal digits that a numeric escape has. -/
def escapeWidth? (letter : Char) : Option Nat :=
  if letter = 'x' then some 2
  else if letter = 'u' then some 4
  else if letter = 'U' then some 8
  else none

/-- Reads a text from behind its opening double quote.  An escaped line break
joins two lines. -/
def readDoubleQuoted :
    (rounds : Nat) → Gap → (lineStart : Bool) → List Char →
      Except Fault (List Char × List Char)
  | 0, _, _, _ => .error .unclosedQuote
  | _ + 1, _, _, [] => .error .unclosedQuote
  | rounds + 1, gap, lineStart, letter :: rest =>
      if isBlank letter then
        readDoubleQuoted rounds (gap.addBlank letter) false rest
      else
        match takeBreak (letter :: rest) with
        | some (read, rest) =>
            readDoubleQuoted rounds (gap.addBreak read) true rest
        | none =>
            if lineStart && atDocumentMark (letter :: rest) then
              .error .markInQuote
            else if letter = '"' then .ok (gap.letters, rest)
            else if letter ≠ '\\' then
              (readDoubleQuoted rounds .none false rest).map
                (withFront (gap.letters ++ [letter]))
            else
              match takeBreak rest with
              | some (_, rest) =>
                  (readDoubleQuoted rounds (.breaks [] []) true rest).map
                    (withFront gap.letters)
              | none =>
                  match rest with
                  | [] => .error .badEscape
                  | kind :: rest =>
                      match escape? kind with
                      | some plain =>
                          (readDoubleQuoted rounds .none false rest).map
                            (withFront (gap.letters ++ [plain]))
                      | none =>
                          match escapeWidth? kind with
                          | none => .error .badEscape
                          | some width =>
                              if rest.length < width then .error .badEscape
                              else
                                match (Text.natural? 16 (rest.take width)).bind
                                  Text.numbered? with
                                | none => .error .badEscape
                                | some plain =>
                                    (readDoubleQuoted rounds .none false
                                      (rest.drop width)).map
                                      (withFront (gap.letters ++ [plain]))

/-! ## Block texts -/

/-- What becomes of the line breaks at the end of a block text. -/
inductive Chomping where
  | strip
  | clip
  | keep
deriving DecidableEq

/-- The header of a block text: what becomes of its last line breaks, and its
indentation if given. -/
structure BlockHeader where
  chomping : Chomping
  increment : Option Nat

/-- The mark that says what becomes of the last line breaks. -/
def chomping? (letter : Char) : Option Chomping :=
  if letter = '+' then some .keep
  else if letter = '-' then some .strip
  else none

/-- The mark that gives the indentation of a block text. -/
def increment? (letter : Char) : Option Nat :=
  if '1' ≤ letter && letter ≤ '9' then some (letter.toNat - 48) else none

/-- Reads the header of a block text, up to its line break. -/
def readHeader (text : List Char) : BlockHeader × List Char :=
  match text with
  | [] => (⟨.clip, none⟩, [])
  | first :: rest =>
      match chomping? first with
      | some chomping =>
          match rest with
          | second :: rest' =>
              match increment? second with
              | some increment => (⟨chomping, some increment⟩, rest')
              | none => (⟨chomping, none⟩, rest)
          | [] => (⟨chomping, none⟩, [])
      | none =>
          match increment? first with
          | none => (⟨.clip, none⟩, text)
          | some increment =>
              match rest with
              | second :: rest' =>
                  match chomping? second with
                  | some chomping => (⟨chomping, some increment⟩, rest')
                  | none => (⟨.clip, some increment⟩, rest)
              | [] => (⟨.clip, some increment⟩, [])

/-- The line breaks and the indentation in front of a line of a block text. -/
structure Margin where
  breaks : List Char
  column : Nat
  widest : Nat
  rest : List Char

/-- Passes over indentation and empty lines.  Without an `indent` all blanks
count as indentation. -/
def readMargin (indent : Option Nat) :
    (breaks : List Char) → (column widest : Nat) → List Char →
      Except Fault Margin
  | breaks, column, widest, [] => .ok ⟨breaks, column, max widest column, []⟩
  | breaks, column, widest, '\r' :: '\n' :: rest =>
      readMargin indent (breaks ++ ['\n']) 0 (max widest column) rest
  | breaks, column, widest, letter :: rest =>
      let inside := indent.all fun width => column < width
      if letter = ' ' && inside then
        readMargin indent breaks (column + 1) widest rest
      else if letter = '\t' && inside then .error .tabIndentation
      else if isBreak letter then
        let read :=
          if letter = '\u2028' || letter = '\u2029' then letter else '\n'
        readMargin indent (breaks ++ [read]) 0 (max widest column) rest
      else .ok ⟨breaks, column, max widest column, letter :: rest⟩

/-- What has been read of a block text: its letters, the line break behind
them, and whether the last line starts with a blank. -/
structure BlockSoFar where
  letters : List Char
  leadingBreak : List Char
  leadingBlank : Bool

/-- Reads the lines of a block text for as long as they are indented far
enough. -/
def readLines (isLiteral : Bool) (indent : Nat) :
    (rounds : Nat) → BlockSoFar → Margin → Except Fault (BlockSoFar × Margin)
  | 0, soFar, margin => .ok (soFar, margin)
  | rounds + 1, soFar, margin =>
      if margin.column = indent && !margin.rest.isEmpty then do
        let startsBlank := margin.rest.head?.any isBlank
        let joint :=
          if !isLiteral && soFar.leadingBreak == ['\n'] &&
              !soFar.leadingBlank && !startsBlank then
            (if margin.breaks.isEmpty then [' '] else [])
          else soFar.leadingBreak
        let line := margin.rest.takeWhile fun letter => !isBreak letter
        let rest := margin.rest.dropWhile fun letter => !isBreak letter
        let (leadingBreak, rest) :=
          match takeBreak rest with
          | some (letter, rest) => ([letter], rest)
          | none => ([], rest)
        let letters := soFar.letters ++ joint ++ margin.breaks ++ line
        let margin ← readMargin (some indent) [] 0 0 rest
        readLines isLiteral indent rounds
          ⟨letters, leadingBreak, startsBlank⟩ margin
      else pure (soFar, margin)

/-- Reads a block text from behind its bar, inside a level indented by
`parent`. -/
def readBlock (isLiteral : Bool) (parent : Int) (text : List Char) :
    Except Fault (List Char × List Char) := do
  let (header, rest) := readHeader text
  let rest := rest.dropWhile isBlank
  let rest :=
    if rest.head? = some '#' then rest.dropWhile (fun letter => !isBreak letter)
    else rest
  let rest ←
    match takeBreak rest with
    | some (_, rest) => pure rest
    | none => if rest.isEmpty then pure [] else .error .badBlockHeader
  let given :=
    header.increment.map fun increment => (max parent 0).toNat + increment
  let margin ← readMargin given [] 0 0 rest
  let indent := given.getD (max margin.widest (max (parent + 1) 1).toNat)
  let (soFar, margin) ←
    readLines isLiteral indent (rest.length + 1) ⟨[], [], false⟩ margin
  let letters :=
    match header.chomping with
    | .strip => soFar.letters
    | .clip => soFar.letters ++ soFar.leadingBreak
    | .keep => soFar.letters ++ soFar.leadingBreak ++ margin.breaks
  pure (letters, blanks margin.column ++ margin.rest)

end SchemaAtlas.Yaml.Scalar
