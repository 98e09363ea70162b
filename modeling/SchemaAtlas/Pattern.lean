/-!
# Patterns

Regular expressions, as far as it matters whether one can be used.  A pattern
is usable if it is not nested too deeply and every part of it can be matched
letter by letter: over the characters of Unicode that rules out the classes of
letters and digits, word boundaries and letters in any case, all of which need
tables of characters; over the bytes of ASCII it rules out what matches bytes
that are no ASCII.

Settings within a pattern choose between the two.  They hold up to the end of
the group they stand in, as `modeBehind?_group` says.
-/

namespace SchemaAtlas

namespace Pattern

/-- What can be set within a pattern. -/
inductive Flag where
  | caseless
  | multiLine
  | anyLine
  | swapGreed
  | unicode
  | carriageReturns
  | spaced
deriving DecidableEq, Inhabited

/-- What is set, and whether it is switched on or off. -/
abbrev Settings := List (Flag × Bool)

/-- A letter of a pattern. -/
structure Letter where
  value : Char
  /-- Whether it is given by two hexadecimal digits, which outside of Unicode
  stand for a byte. -/
  isByte : Bool
deriving DecidableEq, Inhabited

/-- How two sets of characters are combined. -/
inductive Operation where
  | intersection
  | difference
  | symmetricDifference
deriving DecidableEq, Inhabited

/-- A set of characters, as it stands in brackets. -/
inductive CharacterClass where
  | literal (letter : Letter)
  | range (first last : Letter)
  /-- The digits, the white space or the letters of words, by their one-letter
  name. -/
  | abbreviated (negated : Bool)
  /-- A class of ASCII characters, by its name between colons. -/
  | named (negated : Bool)
  | brackets (negated : Bool) (content : CharacterClass)
  | union (members : List CharacterClass)
  | combination (operation : Operation) (left right : CharacterClass)
deriving Inhabited

end Pattern

/-- A regular expression. -/
inductive Pattern where
  | literal (letter : Pattern.Letter)
  | anyLetter
  | anchor
  | wordBoundary
  /-- The digits, the white space or the letters of words, by their one-letter
  name. -/
  | abbreviated (negated : Bool)
  | brackets (negated : Bool) (content : Pattern.CharacterClass)
  /-- Settings for what follows. -/
  | setting (settings : Pattern.Settings)
  | repetition (part : Pattern)
  /-- A part in parentheses, with settings of its own. -/
  | group (settings : Pattern.Settings) (part : Pattern)
  | sequence (parts : List Pattern)
  | alternatives (parts : List Pattern)
deriving Inhabited

namespace Pattern

/-! ## Nesting -/

/-- The level that a list of parts adds: none if it has a single part, or no
part at all. -/
def listLevel (count : Nat) : Nat := if count ≤ 1 then 0 else 1

namespace CharacterClass

mutual

/-- How deeply a set is nested. -/
def depth : CharacterClass → Nat
  | .literal _ | .range _ _ | .abbreviated _ | .named _ => 0
  | .brackets _ content => content.depth + 1
  | .union members => depths members + listLevel members.length
  | .combination _ left right => max left.depth right.depth + 1

def depths : List CharacterClass → Nat
  | [] => 0
  | member :: rest => max member.depth (depths rest)

end

end CharacterClass

mutual

/-- How deeply a pattern is nested. -/
def depth : Pattern → Nat
  | .literal _ | .anyLetter | .anchor | .wordBoundary
  | .abbreviated _ | .setting _ => 0
  | .brackets _ content => content.depth + 1
  | .repetition part => part.depth + 1
  | .group _ part => part.depth + 1
  | .sequence parts => depths parts + listLevel parts.length
  | .alternatives parts => depths parts + listLevel parts.length

def depths : List Pattern → Nat
  | [] => 0
  | part :: rest => max part.depth (depths rest)

end

/-- The deepest nesting of a usable pattern. -/
def deepest : Nat := 250

/-! ## What can be matched letter by letter -/

/-- How the letters of a part are compared. -/
structure Mode where
  /-- Over the characters of Unicode, or else over the bytes of ASCII. -/
  unicode : Bool
  caseless : Bool
deriving DecidableEq, Inhabited

namespace Mode

/-- How letters are compared where nothing is set. -/
def standard : Mode := ⟨true, false⟩

/-- The mode with some settings, of which the last one counts. -/
def set (mode : Mode) (settings : Settings) : Mode :=
  settings.foldl (fun mode (flag, on) =>
    match flag with
    | .unicode => { mode with unicode := on }
    | .caseless => { mode with caseless := on }
    | _ => mode) mode

/-- Whether a letter that stands by itself can be matched. -/
def takes (mode : Mode) (letter : Letter) : Bool :=
  if mode.unicode then !mode.caseless
  else letter.value.toNat < 0x80 || (!letter.isByte && !mode.caseless)

/-- Whether a letter in brackets can be matched. -/
def takesInBrackets (mode : Mode) (letter : Letter) : Bool :=
  if mode.unicode then !mode.caseless else letter.value.toNat < 0x80

/-- Whether a set in brackets can be matched: outside of Unicode the others of
a set are not all in ASCII. -/
def takesBrackets (mode : Mode) (negated : Bool) : Bool :=
  mode.unicode || !negated

/-- Whether digits, white space and letters of words, or all others, can be
matched. -/
def takesAbbreviated (mode : Mode) (negated : Bool) : Bool :=
  !mode.unicode && !negated

/-- Whether a named class of ASCII characters, or all others, can be matched. -/
def takesNamed (mode : Mode) (negated : Bool) : Bool :=
  if mode.unicode then !mode.caseless else !negated

end Mode

namespace CharacterClass

mutual

/-- Whether a set can be matched letter by letter. -/
def isMatchable (mode : Mode) : CharacterClass → Bool
  | .literal letter => mode.takesInBrackets letter
  | .range first last => mode.takesInBrackets first && mode.takesInBrackets last
  | .abbreviated negated => mode.takesAbbreviated negated
  | .named negated => mode.takesNamed negated
  | .brackets negated content =>
      mode.takesBrackets negated && content.isMatchable mode
  | .union members => areMatchable mode members
  | .combination _ left right => left.isMatchable mode && right.isMatchable mode

def areMatchable (mode : Mode) : List CharacterClass → Bool
  | [] => true
  | member :: rest => member.isMatchable mode && areMatchable mode rest

end

end CharacterClass

mutual

/-- The mode behind a pattern that can be matched letter by letter; `none` for
any other pattern. -/
def modeBehind? (mode : Mode) : Pattern → Option Mode
  | .literal letter => if mode.takes letter then some mode else none
  | .anyLetter => if mode.unicode then some mode else none
  | .anchor => some mode
  | .wordBoundary => if mode.unicode then none else some mode
  | .abbreviated negated =>
      if mode.takesAbbreviated negated then some mode else none
  | .brackets negated content =>
      if mode.takesBrackets negated && content.isMatchable mode then some mode
      else none
  | .setting settings => some (mode.set settings)
  | .repetition part => modeBehind? mode part
  | .group settings part =>
      (modeBehind? (mode.set settings) part).map fun _ => mode
  | .sequence parts => modeBehindAll? mode parts
  | .alternatives parts => modeBehindAll? mode parts

/-- The mode behind patterns that follow one another; `none` if one of them
cannot be matched. -/
def modeBehindAll? (mode : Mode) : List Pattern → Option Mode
  | [] => some mode
  | part :: rest =>
      (modeBehind? mode part).bind fun mode => modeBehindAll? mode rest

end

/-- Whether a pattern can be used. -/
def isUsable (pattern : Pattern) : Bool :=
  pattern.depth ≤ deepest && (pattern.modeBehind? .standard).isSome

/-- A group keeps its settings to itself. -/
theorem modeBehind?_group
    {mode after : Mode} {settings : Settings} {part : Pattern}
    (known : modeBehind? mode (.group settings part) = some after) :
    after = mode := by
  rw [modeBehind?, Option.map_eq_some_iff] at known
  obtain ⟨_, _, same⟩ := known
  exact same.symm

end Pattern

end SchemaAtlas
