import SchemaAtlas.Yaml.Tag

/-!
# Directives of YAML text

Lines in front of a document that begin with a percent sign: one says which
version of the language the document is written in, and others give handles
for the tags in it.
-/

namespace SchemaAtlas.Yaml

inductive Directive where
  | version (major minor : Nat)
  | handle (letters : List Char) (start : List UInt8)
deriving DecidableEq, Inhabited

namespace Directive

/-- The most digits that a number of a version may have. -/
def mostDigits : Nat := 9

def readNumber (text : List Char) : Except Fault (Nat × List Char) :=
  let digits := text.takeWhile Char.isDigit
  match Text.natural? 10 digits with
  | some value =>
      if digits.length ≤ mostDigits then .ok (value, text.drop digits.length)
      else .error .badDirective
  | none => .error .badDirective

/-- Reads a version: two numbers with a point between them. -/
def readVersion (text : List Char) : Except Fault (Directive × List Char) := do
  let (major, rest) ← readNumber text
  match rest with
  | '.' :: rest =>
      let (minor, rest) ← readNumber rest
      pure (.version major minor, rest)
  | _ => throw .badDirective

/-- Reads a handle, and behind blanks the start of a tag that it stands for. -/
def readMeaning (text : List Char) : Except Fault (Directive × List Char) := do
  let (letters, rest) ← Tag.readHandle text
  if letters != ['!'] && !Tag.isEnded letters then throw .badDirective
  if !rest.head?.any isBlank then throw .badDirective
  let (start, rest) ← Tag.readSome true (rest.dropWhile isBlank)
  if atGap rest then pure (.handle letters start, rest) else throw .badDirective

/-- The text behind the end of a line, on which there is nothing more but
perhaps a comment. -/
def endLine (text : List Char) : Except Fault (List Char) :=
  let rest := text.dropWhile isBlank
  let rest :=
    if rest.head? = some '#' then rest.dropWhile (fun letter => !isBreak letter)
    else rest
  match takeBreak rest with
  | some (_, rest) => .ok rest
  | none => if rest.isEmpty then .ok [] else .error .badDirective

/-- Reads a directive from behind its percent sign, and its line to the end. -/
def read (text : List Char) : Except Fault (Directive × List Char) := do
  let name := text.takeWhile isNameLetter
  let rest := text.drop name.length
  if !atGap rest then throw .badDirective
  let value := rest.dropWhile isBlank
  let (directive, rest) ←
    match String.ofList name with
    | "YAML" => readVersion value
    | "TAG" => readMeaning value
    | _ => throw .badDirective
  pure (directive, ← endLine rest)

end Directive

end SchemaAtlas.Yaml
