import SchemaAtlas.Yaml.Node

/-!
# Writing YAML documents

The text of a document: one line for every scalar, the entries of a mapping
indented below its key, and the items of a sequence right below it.
Collections with nothing in them are written in brackets.
-/

namespace SchemaAtlas.Yaml.Node

def ofString (text : String) : Node := .scalar (Scalar.styleOf text) text.toList

def ofNat (value : Nat) : Node := .scalar .plain (Nat.toDigits 10 value)

def numberLetters (number : Nat) : List Char := Nat.toDigits 10 number

/-- What is said in front of a part, each thing behind a blank. -/
def propertyLetters (properties : Properties) : List Char :=
  ((properties.anchor.map fun number =>
    ' ' :: '&' :: numberLetters number).getD []) ++
    ((properties.tag.map fun tag => ' ' :: tag.letters).getD [])

/-- The letters of a key that is a scalar or given by its number; other keys
are not written. -/
def keyLetters : Node → List Char
  | .scalar style letters => Scalar.write 0 style letters
  | .reference number => '*' :: (numberLetters number ++ [' '])
  | .marked properties key =>
      (propertyLetters properties).drop 1 ++ ' ' :: keyLetters key
  | _ => []

mutual

/-- What stands behind the colon of a key at column `indent`, up to the end of
its last line.  The items of a sequence are put at column `dashes`. -/
def behindKey (indent dashes : Nat) : Node → List Char
  | .scalar style letters =>
      ' ' :: Scalar.writeLine (indent + Scalar.indentStep) style letters
  | .sequence [] => " []\n".toList
  | .sequence items => '\n' :: itemLines dashes items
  | .mapping [] => " \x7b\x7d\n".toList
  | .mapping entries => '\n' :: entryLines (indent + Scalar.indentStep) entries
  | .reference number => ' ' :: '*' :: (numberLetters number ++ ['\n'])
  | .marked properties part =>
      propertyLetters properties ++ behindKey indent dashes part

/-- What stands behind the dash of an item at column `indent`, up to the end
of its last line. -/
def behindDash (indent : Nat) : Node → List Char
  | .scalar style letters =>
      ' ' :: Scalar.writeLine (indent + Scalar.indentStep) style letters
  | .sequence [] => " []\n".toList
  | .sequence (item :: rest) =>
      ' ' :: '-' :: (behindDash (indent + Scalar.indentStep) item ++
        itemLines (indent + Scalar.indentStep) rest)
  | .mapping [] => " \x7b\x7d\n".toList
  | .mapping ((key, value) :: rest) =>
      ' ' :: (keyLetters key ++
        ':' ::
          (behindKey (indent + Scalar.indentStep) (indent + Scalar.indentStep)
            value ++ entryLines (indent + Scalar.indentStep) rest))
  | .reference number => ' ' :: '*' :: (numberLetters number ++ ['\n'])
  | .marked properties part =>
      propertyLetters properties ++
        behindKey indent (indent + Scalar.indentStep) part

def itemLines (indent : Nat) : List Node → List Char
  | [] => []
  | item :: rest =>
      Scalar.blanks indent ++
        '-' :: (behindDash indent item ++ itemLines indent rest)

def entryLines (indent : Nat) : List (Node × Node) → List Char
  | [] => []
  | (key, value) :: rest =>
      Scalar.blanks indent ++ (keyLetters key ++
        ':' :: (behindKey indent indent value ++ entryLines indent rest))

end

def documentLetters : Node → List Char
  | .scalar style letters => Scalar.writeLine Scalar.indentStep style letters
  | .sequence [] => "[]\n".toList
  | .sequence items => itemLines 0 items
  | .mapping [] => "\x7b\x7d\n".toList
  | .mapping entries => entryLines 0 entries
  | .reference number => '*' :: (numberLetters number ++ ['\n'])
  | .marked properties part =>
      (propertyLetters properties).drop 1 ++ behindKey 0 0 part

def render (node : Node) : String := String.ofList node.documentLetters

end SchemaAtlas.Yaml.Node
