import SchemaAtlas.Pattern
import SchemaAtlas.Text.Blank
import SchemaAtlas.Text.CharacterSet
import SchemaAtlas.Text.Digits

/-!
# Reading patterns

The pattern that a text stands for.  Counted repetitions, properties of
characters, references to groups and looking ahead or behind are not taken.
`Pattern.ofText?` reads a whole text; the readers of parts take the part off
the front of what is left.
-/

namespace SchemaAtlas.Pattern

/-- What is left of a text, and what of the text before it matters for reading
on. -/
structure Remainder where
  rest : List Char
  /-- Whether white space and comments between the parts are passed over. -/
  spaced : Bool
  /-- The names of the groups so far. -/
  names : List (List Char)
deriving Inhabited

namespace Remainder

def withRest (remainder : Remainder) (rest : List Char) : Remainder :=
  { remainder with rest := rest }

/-- The text behind white space and comments; a comment ends with its line. -/
def behindGap : (inComment : Bool) → List Char → List Char
  | _, [] => []
  | true, letter :: rest => behindGap (letter != '\n') rest
  | false, letter :: rest =>
      if Text.isBlank letter then behindGap false rest
      else if letter = '#' then behindGap true rest
      else letter :: rest

/-- The remainder behind white space and comments, where these are passed
over. -/
def skipGap (remainder : Remainder) : Remainder :=
  if remainder.spaced then remainder.withRest (behindGap false remainder.rest)
  else remainder

/--
The letter behind the next one, without white space where that is passed over.
The sign of a comment is passed over with it, but the comment itself is not.
-/
def second? (remainder : Remainder) : Option Char :=
  let behind := remainder.rest.drop 1
  if remainder.spaced then
    match behind.dropWhile Text.isBlank with
    | '#' :: rest => (rest.dropWhile Text.isBlank).head?
    | rest => rest.head?
  else behind.head?

end Remainder

/-- What takes a part off the front of a remainder. -/
abbrev Reader (α : Type) := Remainder → Option (α × Remainder)

/-! ## Escapes -/

/-- The value of some hexadecimal digits. -/
def readDigits : (count value : Nat) → Reader Nat
  | 0, value, remainder => some (value, remainder.skipGap)
  | count + 1, value, remainder =>
      let remainder := remainder.skipGap
      match remainder.rest with
      | [] => none
      | letter :: rest =>
          (Text.digitValue? 16 letter).bind fun digit =>
            readDigits count (value * 16 + digit) (remainder.withRest rest)

/-- Reads a letter given by a number of so many digits, from behind the kind
of the escape. -/
def readNumbered (digits : Nat) : Reader Pattern := fun remainder => do
  let (value, remainder) ← readDigits digits 0 remainder
  let letter ← Text.numbered? value
  pure (.literal ⟨letter, digits == 2⟩, remainder)

/-- The letters that control something in a text, by their one-letter
escapes. -/
def controlLetter? (letter : Char) : Option Char :=
  match letter with
  | 'a' => some '\x07'
  | 'f' => some '\x0c'
  | 't' => some '\t'
  | 'n' => some '\n'
  | 'r' => some '\r'
  | 'v' => some '\x0b'
  | _ => none

/-- Reads an escape, from behind its backslash. -/
def readEscape : Reader Pattern := fun remainder =>
  match remainder.rest with
  | [] => none
  | letter :: rest =>
      let remainder := remainder.withRest rest
      if letter = 'x' then readNumbered 2 remainder
      else if letter = 'u' then readNumbered 4 remainder
      else if letter = 'U' then readNumbered 8 remainder
      else if ['d', 's', 'w'].contains letter then
        some (.abbreviated false, remainder)
      else if ['D', 'S', 'W'].contains letter then
        some (.abbreviated true, remainder)
      else if letter = 'A' || letter = 'z' then some (.anchor, remainder)
      else if ['b', 'B', '<', '>'].contains letter then
        if letter = 'b' && rest.head? = some '{' then none
        else some (.wordBoundary, remainder)
      else if letter.isAlphanum then
        (controlLetter? letter).map fun letter =>
          (.literal ⟨letter, false⟩, remainder)
      else if letter.toNat < 0x80 then
        some (.literal ⟨letter, false⟩, remainder)
      else none

/-! ## Sets of characters -/

def classNames : List String :=
  ["alnum", "alpha", "ascii", "blank", "cntrl", "digit", "graph", "lower",
    "print", "punct", "space", "upper", "word", "xdigit"]

/-- Reads the name of a class of ASCII characters, from behind its bracket. -/
def readNamed : Reader CharacterClass := fun remainder =>
  match remainder.rest with
  | ':' :: rest =>
      let (negated, rest) :=
        match rest with
        | '^' :: rest => (true, rest)
        | _ => (false, rest)
      let name := String.ofList (rest.takeWhile (· != ':'))
      match rest.dropWhile (· != ':') with
      | ':' :: ']' :: rest =>
          if classNames.contains name then
            some (.named negated, remainder.withRest rest)
          else none
      | _ => none
  | _ => none

/-- The set of what a part matches that may stand in brackets. -/
def classOf? : Pattern → Option CharacterClass
  | .literal letter => some (.literal letter)
  | .abbreviated negated => some (.abbreviated negated)
  | _ => none

def letterOf? : Pattern → Option Letter
  | .literal letter => some letter
  | _ => none

/-- Reads a letter or an escape in brackets. -/
def readItem : Reader Pattern := fun remainder =>
  match remainder.rest with
  | [] => none
  | '\\' :: rest => readEscape (remainder.withRest rest)
  | letter :: rest => some (.literal ⟨letter, false⟩, remainder.withRest rest)

/-- Reads a member of a set: a letter, an escape or a range. -/
def readMember : Reader CharacterClass := fun remainder => do
  let (first, remainder) ← readItem remainder
  let remainder := remainder.skipGap
  let isRange :=
    remainder.rest.head? == some '-' &&
      remainder.second? != some ']' && remainder.second? != some '-'
  if isRange then
    let (last, remainder) ←
      readItem (remainder.withRest (remainder.rest.drop 1)).skipGap
    let first ← letterOf? first
    let last ← letterOf? last
    if first.value ≤ last.value then pure (.range first last, remainder)
    else none
  else
    let member ← classOf? first
    pure (member, remainder)

/-- The operation whose sign stands at the front of a text. -/
def operation? : List Char → Option Operation
  | '&' :: '&' :: _ => some .intersection
  | '-' :: '-' :: _ => some .difference
  | '~' :: '~' :: _ => some .symmetricDifference
  | _ => none

/-- The set of some members, which come last first. -/
def unionOf : List CharacterClass → CharacterClass
  | [member] => member
  | members => .union members.reverse

/-- The set that a set makes together with what stands before its operation. -/
def combined (before : Option (Operation × CharacterClass))
    (right : CharacterClass) : CharacterClass :=
  match before with
  | none => right
  | some (operation, left) => .combination operation left right

/-- Reads the dashes at the start of a set, which stand for themselves. -/
def readDashes : (rounds : Nat) → List CharacterClass → Remainder →
    List CharacterClass × Remainder
  | 0, members, remainder => (members, remainder)
  | rounds + 1, members, remainder =>
      match remainder.rest with
      | '-' :: rest =>
          readDashes rounds (.literal ⟨'-', false⟩ :: members)
            (remainder.withRest rest).skipGap
      | _ => (members, remainder)

/--
Reads the start of a set, from behind its bracket: whether the others of the
set are meant, and the members that would mean something else further on.
-/
def readStart (remainder : Remainder) :
    (Bool × List CharacterClass) × Remainder :=
  let remainder := remainder.skipGap
  let (negated, remainder) :=
    match remainder.rest with
    | '^' :: rest => (true, (remainder.withRest rest).skipGap)
    | _ => (false, remainder)
  let (members, remainder) := readDashes remainder.rest.length [] remainder
  match members, remainder.rest with
  | [], ']' :: rest =>
      ((negated, [.literal ⟨']', false⟩]), remainder.withRest rest)
  | members, _ => ((negated, members), remainder)

mutual

/-- Reads a set from behind its bracket, and whether the others of the set are
meant. -/
def readBrackets : (rounds : Nat) → Reader (Bool × CharacterClass)
  | 0, _ => none
  | rounds + 1, remainder =>
      let ((negated, members), remainder) := readStart remainder
      (readMembers rounds none members remainder).map
        fun (content, remainder) => ((negated, content), remainder)

/-- Reads the members of a set and its closing bracket, given what stands
before the last operation and the members behind it, the last one first. -/
def readMembers :
    (rounds : Nat) → (before : Option (Operation × CharacterClass)) →
      (members : List CharacterClass) → Reader CharacterClass
  | 0, _, _, _ => none
  | rounds + 1, before, members, remainder =>
      let remainder := remainder.skipGap
      match remainder.rest with
      | [] => none
      | ']' :: rest =>
          some (combined before (unionOf members), remainder.withRest rest)
      | '[' :: rest =>
          match readNamed (remainder.withRest rest) with
          | some (named, remainder) =>
              readMembers rounds before (named :: members) remainder
          | none =>
              (readBrackets rounds (remainder.withRest rest)).bind
                fun ((negated, content), remainder) =>
                  readMembers rounds before
                    (.brackets negated content :: members) remainder
      | letters =>
          match operation? letters with
          | some operation =>
              readMembers rounds
                (some (operation, combined before (unionOf members))) []
                (remainder.withRest (letters.drop 2))
          | none =>
              (readMember remainder).bind fun (member, remainder) =>
                readMembers rounds before (member :: members) remainder

end

/-! ## Groups -/

/-- What a letter of the settings sets. -/
def flag? (letter : Char) : Option Flag :=
  match letter with
  | 'i' => some .caseless
  | 'm' => some .multiLine
  | 's' => some .anyLine
  | 'U' => some .swapGreed
  | 'u' => some .unicode
  | 'R' => some .carriageReturns
  | 'x' => some .spaced
  | _ => none

/-- Reads settings up to the letter that ends them.  Behind a dash they are
switched off; there is at most one dash, and nothing is set twice. -/
def readSettings : (on afterDash : Bool) → Settings → List Char →
    Option (Settings × Char × List Char)
  | _, _, _, [] => none
  | on, afterDash, settings, letter :: rest =>
      if letter = ':' || letter = ')' then
        if afterDash then none else some (settings.reverse, letter, rest)
      else if letter = '-' then
        if on then readSettings false true settings rest else none
      else
        (flag? letter).bind fun flag =>
          if settings.any (·.1 == flag) then none
          else readSettings on false ((flag, on) :: settings) rest

/-- What a parenthesis opens. -/
inductive Opening where
  /-- Nothing: there are only settings for what follows. -/
  | settings (settings : Settings)
  | group (settings : Settings)

/-- Whether a letter may be in the name of a group. -/
def isNameLetter (isFirst : Bool) (letter : Char) : Bool :=
  if isFirst then letter = '_' || Text.isAlphabetic letter
  else ['_', '.', '[', ']'].contains letter || Text.isAlphanumeric letter

def isName : List Char → Bool
  | [] => false
  | first :: rest => isNameLetter true first && rest.all (isNameLetter false)

/-- Reads the name of a group, from behind its opening mark.  No two groups
have one name. -/
def readName : Reader Opening := fun remainder =>
  let name := remainder.rest.takeWhile (· != '>')
  match remainder.rest.drop name.length with
  | '>' :: rest =>
      if isName name && !remainder.names.contains name then
        some (.group [],
          { remainder with rest := rest, names := name :: remainder.names })
      else none
  | _ => none

/-- Reads what follows a parenthesis. -/
def readOpening : Reader Opening := fun remainder =>
  let remainder := remainder.skipGap
  match remainder.rest with
  | '?' :: 'P' :: '<' :: rest => readName (remainder.withRest rest)
  | '?' :: '<' :: rest =>
      if rest.head? = some '=' || rest.head? = some '!' then none
      else readName (remainder.withRest rest)
  | '?' :: rest =>
      (readSettings true false [] rest).bind fun (settings, last, rest) =>
        if last = ':' then some (.group settings, remainder.withRest rest)
        else if settings.isEmpty then none
        else some (.settings settings, remainder.withRest rest)
  | _ => some (.group [], remainder)

def Remainder.set (settings : Settings) (remainder : Remainder) : Remainder :=
  { remainder with
    spaced :=
      ((settings.find? (·.1 == .spaced)).map (·.2)).getD remainder.spaced }

/-! ## Whole patterns -/

/-- Reads a single letter, an escape or a letter with a meaning of its own. -/
def readPart : Reader Pattern := fun remainder =>
  match remainder.rest with
  | [] => none
  | '\\' :: rest => readEscape (remainder.withRest rest)
  | '.' :: rest => some (.anyLetter, remainder.withRest rest)
  | letter :: rest =>
      some
        (if letter = '^' || letter = '$' then .anchor
          else .literal ⟨letter, false⟩,
        remainder.withRest rest)

/-- The text behind the sign of a repetition; a question mark that follows at
once belongs to it. -/
def behindSign : List Char → List Char
  | '?' :: rest => rest
  | rest => rest

/-- The pattern of some parts, which come last first. -/
def sequenceOf : List Pattern → Pattern
  | [part] => part
  | parts => .sequence parts.reverse

/-- The pattern of some alternatives, which come last first. -/
def alternativesOf : List Pattern → Pattern
  | [part] => part
  | parts => .alternatives parts.reverse

mutual

/-- Reads alternatives, given the earlier ones, the last one first. -/
def readAlternatives :
    (rounds : Nat) → (earlier : List Pattern) → Reader Pattern
  | 0, _, _ => none
  | rounds + 1, earlier, remainder =>
      (readSequence rounds [] remainder).bind fun (part, remainder) =>
        match remainder.rest with
        | '|' :: rest =>
            readAlternatives rounds (part :: earlier) (remainder.withRest rest)
        | _ => some (alternativesOf (part :: earlier), remainder)

/-- Reads parts up to the end of an alternative, given the earlier ones, the
last one first. -/
def readSequence : (rounds : Nat) → (earlier : List Pattern) → Reader Pattern
  | 0, _, _ => none
  | rounds + 1, earlier, remainder =>
      let remainder := remainder.skipGap
      match remainder.rest with
      | [] | ')' :: _ | '|' :: _ => some (sequenceOf earlier, remainder)
      | '(' :: rest =>
          (readOpening (remainder.withRest rest)).bind fun (opening, inside) =>
            match opening with
            | .settings settings =>
                readSequence rounds (.setting settings :: earlier)
                  (inside.set settings)
            | .group settings =>
                (readAlternatives rounds [] (inside.set settings)).bind
                  fun (part, inside) =>
                  match inside.rest with
                  | ')' :: rest =>
                      readSequence rounds (.group settings part :: earlier)
                        { inside with rest := rest, spaced := remainder.spaced }
                  | _ => none
      | '[' :: rest =>
          (readBrackets (2 * rest.length + 2) (remainder.withRest rest)).bind
            fun ((negated, content), remainder) =>
              readSequence rounds (.brackets negated content :: earlier)
                remainder
      | '{' :: _ => none
      | '*' :: rest | '+' :: rest | '?' :: rest =>
          match earlier with
          | [] | .setting _ :: _ => none
          | part :: earlier =>
              readSequence rounds (.repetition part :: earlier)
                (remainder.withRest (behindSign rest))
      | _ =>
          (readPart remainder).bind fun (part, remainder) =>
            readSequence rounds (part :: earlier) remainder

end

def ofText? (text : String) : Option Pattern :=
  let letters := text.toList
  match readAlternatives (2 * letters.length + 2) [] ⟨letters, false, []⟩ with
  | some (pattern, remainder) =>
      if remainder.rest.isEmpty then some pattern else none
  | none => none

end SchemaAtlas.Pattern
