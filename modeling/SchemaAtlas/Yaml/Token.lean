import SchemaAtlas.Yaml.Directive
import SchemaAtlas.Yaml.Scalar.Reader

/-!
# Tokens of YAML text

A YAML text as a list of tokens, in which indentation has become explicit
starts and ends of collections.  A key is known as such only when its colon
comes, so the place of every possible key is remembered; the tokens that
announce the key are put there later.

A name stands for a number: a part that is given a name gets as its number how
many different names were given before, and a use of the name stands for the
number that it has at that place.
-/

namespace SchemaAtlas.Yaml

inductive Token where
  | directive (directive : Directive)
  | documentStart
  | documentEnd
  | blockSequenceStart
  | blockMappingStart
  | blockEnd
  | flowSequenceStart
  | flowSequenceEnd
  | flowMappingStart
  | flowMappingEnd
  | blockEntry
  | flowEntry
  | key
  | value
  /-- The number of the part that follows. -/
  | anchor (number : Nat)
  /-- The part with a number. -/
  | reference (number : Nat)
  | tag (written : WrittenTag)
  | scalar (style : Style) (letters : List Char)
deriving DecidableEq, Inhabited

namespace Token

/-- A place in a text. -/
structure Position where
  line : Nat
  column : Nat
  /-- How many bytes come before the place. -/
  offset : Nat
deriving DecidableEq, Inhabited

/-- The place behind some letters. -/
def Position.after (position : Position) : List Char → Position
  | [] => position
  | '\r' :: '\n' :: rest =>
      Position.after ⟨position.line + 1, 0, position.offset + 2⟩ rest
  | letter :: rest =>
      let offset := position.offset + letter.utf8Size
      if isBreak letter then Position.after ⟨position.line + 1, 0, offset⟩ rest
      else Position.after ⟨position.line, position.column + 1, offset⟩ rest

/-- A place where a key may have begun. -/
structure PossibleKey where
  /-- Whether the place has to be a key: nothing else may stand there. -/
  required : Bool
  /-- How many tokens come before it. -/
  tokens : Nat
  position : Position
deriving DecidableEq, Inhabited

/-- How far the lexer has come. -/
structure Lexer where
  rest : List Char
  position : Position
  /-- The tokens so far, the last one first. -/
  tokens : List Token
  /-- The columns of the open block collections, the innermost one first; `-1`
  outside of all. -/
  indents : List Int
  /-- Whether a key may begin here. -/
  keyAllowed : Bool
  /-- The possible keys: one place for the block level and one for each open
  flow collection, the innermost one first. -/
  keys : List (Option PossibleKey)
  /-- The names so far, each once, with their numbers. -/
  names : List (List Char × Nat)
deriving Inhabited

namespace Lexer

/-- The state before the first letter. -/
def start (text : List Char) : Lexer :=
  ⟨text, ⟨0, 0, 0⟩, [], [-1], true, [none], []⟩

/-- How many flow collections are open. -/
def flowLevel (lexer : Lexer) : Nat := lexer.keys.length - 1

/-- Whether the place is inside a flow collection. -/
def inFlow (lexer : Lexer) : Bool := 0 < lexer.flowLevel

/-- The column of the innermost open block collection. -/
def indent (lexer : Lexer) : Int := lexer.indents.headD (-1)

/-- The state behind what was read, given the text that is left. -/
def moveTo (lexer : Lexer) (rest : List Char) : Lexer :=
  let read := lexer.rest.take (lexer.rest.length - rest.length)
  { lexer with rest := rest, position := lexer.position.after read }

/-- The state behind the next letters. -/
def skip (count : Nat) (lexer : Lexer) : Lexer :=
  lexer.moveTo (lexer.rest.drop count)

def emit (token : Token) (lexer : Lexer) : Lexer :=
  { lexer with tokens := token :: lexer.tokens }

/-- Adds a token behind the first `count` ones. -/
def emitAt (count : Nat) (token : Token) (lexer : Lexer) : Lexer :=
  let later := lexer.tokens.length - count
  { lexer with
    tokens := lexer.tokens.take later ++ token :: lexer.tokens.drop later }

/--
Whether the character is passed over before a token: a blank, a tab where it
cannot be taken for indentation, and a byte order mark at the start of a line.
-/
def isPassedOver (lexer : Lexer) (letter : Char) : Bool :=
  letter = ' ' || (letter = '\t' && (lexer.inFlow || !lexer.keyAllowed)) ||
    (letter = '\ufeff' && lexer.position.column = 0)

/-- Passes over blanks, comments and line breaks. -/
def skipGap : (rounds : Nat) → Lexer → Lexer
  | 0, lexer => lexer
  | rounds + 1, lexer =>
      match lexer.rest with
      | [] => lexer
      | letter :: rest =>
          if lexer.isPassedOver letter then
            skipGap rounds (lexer.moveTo rest)
          else if letter = '#' then
            skipGap rounds
              (lexer.moveTo (rest.dropWhile fun letter => !isBreak letter))
          else
            match takeBreak (letter :: rest) with
            | some (_, rest) =>
                let moved := lexer.moveTo rest
                skipGap rounds
                  { moved with keyAllowed := moved.keyAllowed || !moved.inFlow }
            | none => lexer

/-- The longest key, in bytes. -/
def longestKey : Nat := 1024

/-- Gives up the possible keys that lie on an earlier line or too far back. -/
def dropStaleKeys (lexer : Lexer) : Except Fault Lexer := do
  let isStale := fun (possible : PossibleKey) =>
    possible.position.line < lexer.position.line ||
      possible.position.offset + longestKey < lexer.position.offset
  if lexer.keys.any
      (·.any fun possible => isStale possible && possible.required) then
    .error .keyWithoutValue
  else
    pure
      { lexer with
        keys := lexer.keys.map (·.filter fun possible => !isStale possible) }

/-- Ends the block collections that begin right of a column. -/
def unroll (column : Int) (lexer : Lexer) : Lexer :=
  if lexer.inFlow then lexer
  else
    let ended := lexer.indents.takeWhile fun indent => column < indent
    { lexer with
      indents := lexer.indents.drop ended.length
      tokens := List.replicate ended.length .blockEnd ++ lexer.tokens }

/-- Begins a block collection at a column, if it lies right of the innermost
one; its token goes behind the first `count` tokens. -/
def roll (column : Nat) (count : Nat) (token : Token) (lexer : Lexer) : Lexer :=
  if lexer.inFlow then lexer
  else if lexer.indent < column then
    { lexer.emitAt count token with indents := (column : Int) :: lexer.indents }
  else lexer

/-- Gives up the possible key of the innermost level. -/
def dropKey (lexer : Lexer) : Except Fault Lexer :=
  match lexer.keys with
  | some possible :: outer =>
      if possible.required then .error .keyWithoutValue
      else .ok { lexer with keys := none :: outer }
  | _ => .ok lexer

/-- Remembers that a key may begin here. -/
def saveKey (lexer : Lexer) : Except Fault Lexer :=
  if lexer.keyAllowed then do
    let required :=
      !lexer.inFlow && lexer.indent == (lexer.position.column : Int)
    let lexer ← lexer.dropKey
    let possible : PossibleKey :=
      ⟨required, lexer.tokens.length, lexer.position⟩
    pure { lexer with keys := some possible :: lexer.keys.drop 1 }
  else .ok lexer

def readDirective (lexer : Lexer) : Except Fault Lexer := do
  let lexer ← (lexer.unroll (-1)).dropKey
  let (found, rest) ← Directive.read (lexer.rest.drop 1)
  pure (({ lexer with keyAllowed := false }.moveTo rest).emit
    (.directive found))

def readDocumentMark (token : Token) (lexer : Lexer) : Except Fault Lexer := do
  let lexer ← (lexer.unroll (-1)).dropKey
  pure (({ lexer with keyAllowed := false }.skip 3).emit token)

def readFlowStart (token : Token) (lexer : Lexer) : Except Fault Lexer := do
  let lexer ← lexer.saveKey
  pure
    (({ lexer with keyAllowed := true, keys := none :: lexer.keys }.skip 1).emit
      token)

def readFlowEnd (token : Token) (lexer : Lexer) : Except Fault Lexer := do
  let lexer ← lexer.dropKey
  let keys := if lexer.inFlow then lexer.keys.drop 1 else lexer.keys
  pure (({ lexer with keyAllowed := false, keys := keys }.skip 1).emit token)

/-- Reads the comma between entries of a flow collection. -/
def readFlowEntry (lexer : Lexer) : Except Fault Lexer := do
  let lexer ← lexer.dropKey
  pure (({ lexer with keyAllowed := true }.skip 1).emit .flowEntry)

/-- Reads the dash before an entry of a block sequence. -/
def readBlockEntry (lexer : Lexer) : Except Fault Lexer := do
  if !lexer.inFlow && !lexer.keyAllowed then throw .misplacedEntry
  let lexer ←
    (lexer.roll lexer.position.column lexer.tokens.length
      .blockSequenceStart).dropKey
  pure (({ lexer with keyAllowed := true }.skip 1).emit .blockEntry)

/-- Reads the question mark before a key. -/
def readKey (lexer : Lexer) : Except Fault Lexer := do
  if !lexer.inFlow && !lexer.keyAllowed then throw .misplacedKey
  let lexer ←
    (lexer.roll lexer.position.column lexer.tokens.length
      .blockMappingStart).dropKey
  pure (({ lexer with keyAllowed := !lexer.inFlow }.skip 1).emit .key)

/-- Reads the colon before a value, and announces the key before it. -/
def readValue (lexer : Lexer) : Except Fault Lexer := do
  match lexer.keys with
  | some possible :: outer =>
      let lexer :=
        (lexer.emitAt possible.tokens .key).roll possible.position.column
          possible.tokens .blockMappingStart
      pure
        (({ lexer with keys := none :: outer, keyAllowed := false }.skip 1).emit
          .value)
  | _ =>
      if !lexer.inFlow && !lexer.keyAllowed then throw .misplacedValue
      let lexer :=
        lexer.roll lexer.position.column lexer.tokens.length .blockMappingStart
      pure (({ lexer with keyAllowed := !lexer.inFlow }.skip 1).emit .value)

def readAnchor (lexer : Lexer) : Except Fault Lexer := do
  let lexer ← lexer.saveKey
  let (name, rest) ← readName (lexer.rest.drop 1)
  let number := lexer.names.length
  let names := (name, number) :: lexer.names.filter (·.1 != name)
  pure (({ lexer with keyAllowed := false, names := names }.moveTo rest).emit
    (.anchor number))

/-- Reads the use of a name. -/
def readReference (lexer : Lexer) : Except Fault Lexer := do
  let lexer ← lexer.saveKey
  let (name, rest) ← readName (lexer.rest.drop 1)
  match lexer.names.lookup name with
  | some number =>
      pure (({ lexer with keyAllowed := false }.moveTo rest).emit
        (.reference number))
  | none => throw .unknownName

def readTag (lexer : Lexer) : Except Fault Lexer := do
  let lexer ← lexer.saveKey
  let (written, rest) ← Tag.read lexer.inFlow lexer.rest
  pure (({ lexer with keyAllowed := false }.moveTo rest).emit (.tag written))

def readQuoted (style : Style) (lexer : Lexer) : Except Fault Lexer := do
  let lexer ← lexer.saveKey
  let inside := lexer.rest.drop 1
  let (letters, rest) ←
    if style = .singleQuoted then Scalar.readSingleQuoted .none false inside
    else Scalar.readDoubleQuoted (inside.length + 1) .none false inside
  pure (({ lexer with keyAllowed := false }.moveTo rest).emit
    (.scalar style letters))

def readBlockText (style : Style) (lexer : Lexer) : Except Fault Lexer := do
  let lexer ← lexer.dropKey
  let (letters, rest) ←
    Scalar.readBlock (style == .literal) lexer.indent (lexer.rest.drop 1)
  pure (({ lexer with keyAllowed := true }.moveTo rest).emit
    (.scalar style letters))

/-- Reads a plain text.  Behind a line break a key may begin again. -/
def readPlain (lexer : Lexer) : Except Fault Lexer := do
  let lexer ← lexer.saveKey
  let (letters, broken, rest) ←
    Scalar.readPlain lexer.inFlow (lexer.indent + 1) .none lexer.position.column
      lexer.rest
  pure (({ lexer with keyAllowed := broken }.moveTo rest).emit
    (.scalar .plain letters))

/-- Whether a plain text may begin here. -/
def atPlain (lexer : Lexer) : Bool :=
  match lexer.rest with
  | [] => false
  | letter :: rest =>
      !(isBlank letter || isBreak letter ||
          Scalar.openingIndicators.contains letter ||
          ['-', '?', ':'].contains letter) ||
        (letter = '-' && !(rest.head?.any isBlank)) ||
        (!lexer.inFlow && (letter = '?' || letter = ':') && !atGap rest)

/-- Reads the token that begins with the given letter. -/
def readToken (letter : Char) (lexer : Lexer) : Except Fault Lexer :=
  let behind := lexer.rest.drop 1
  if lexer.position.column = 0 && letter = '%' then lexer.readDirective
  else if lexer.position.column = 0 && atDocumentMark lexer.rest then
    lexer.readDocumentMark
      (if letter = '-' then .documentStart else .documentEnd)
  else if letter = '[' then lexer.readFlowStart .flowSequenceStart
  else if letter = '{' then lexer.readFlowStart .flowMappingStart
  else if letter = ']' then lexer.readFlowEnd .flowSequenceEnd
  else if letter = '}' then lexer.readFlowEnd .flowMappingEnd
  else if letter = ',' then lexer.readFlowEntry
  else if letter = '-' && atGap behind then lexer.readBlockEntry
  else if letter = '?' && (lexer.inFlow || atGap behind) then lexer.readKey
  else if letter = ':' && (lexer.inFlow || atGap behind) then lexer.readValue
  else if letter = '*' then lexer.readReference
  else if letter = '&' then lexer.readAnchor
  else if letter = '!' then lexer.readTag
  else if letter = '|' && !lexer.inFlow then lexer.readBlockText .literal
  else if letter = '>' && !lexer.inFlow then lexer.readBlockText .folded
  else if letter = '\'' then lexer.readQuoted .singleQuoted
  else if letter = '"' then lexer.readQuoted .doubleQuoted
  else if lexer.atPlain then lexer.readPlain
  else .error .badCharacter

/-- Reads all tokens.  Every round takes at least one letter. -/
def readAll : (rounds : Nat) → Lexer → Except Fault (List Token)
  | 0, lexer => .ok lexer.tokens.reverse
  | rounds + 1, lexer => do
      let lexer := lexer.skipGap (lexer.rest.length + 1)
      let lexer ← lexer.dropStaleKeys
      match lexer.rest with
      | [] =>
          let lexer ← (lexer.unroll (-1)).dropKey
          pure lexer.tokens.reverse
      | letter :: _ =>
          let lexer ← (lexer.unroll lexer.position.column).readToken letter
          readAll rounds lexer

end Lexer

def ofText (text : String) : Except Fault (List Token) :=
  if text.toList.all isAllowed then
    let letters := text.toList
    (Lexer.start letters).readAll (letters.length + 1)
  else .error .controlCharacter

end Token

end SchemaAtlas.Yaml
