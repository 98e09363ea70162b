import SchemaAtlas.Json.Quoted

/-!
# Printing JSON

`Value.compact` writes a value without any blanks; `Value.indented` gives
every item and member a line of its own, two blanks deeper than what encloses
it.
-/

namespace SchemaAtlas.Json

namespace Value

mutual

/-- The letters of a value, without blanks. -/
def compactLetters : Value → List Char
  | .null => "null".toList
  | .bool true => "true".toList
  | .bool false => "false".toList
  | .number held => held.render.toList
  | .string held => quoteLetters held.toList
  | .array [] => ['[', ']']
  | .array (item :: rest) => '[' :: (item.compactLetters ++ compactItems rest)
  | .object [] => ['{', '}']
  | .object ((key, value) :: rest) =>
      '{' :: (quoteLetters key.toList ++
        ':' :: (value.compactLetters ++ compactMembers rest))

/-- The letters of further items and of the end of their array. -/
def compactItems : List Value → List Char
  | [] => [']']
  | item :: rest => ',' :: (item.compactLetters ++ compactItems rest)

/-- The letters of further members and of the end of their object. -/
def compactMembers : List (String × Value) → List Char
  | [] => ['}']
  | (key, value) :: rest =>
      ',' :: (quoteLetters key.toList ++
        ':' :: (value.compactLetters ++ compactMembers rest))

end

/-- The text of a value, without blanks. -/
def compact (value : Value) : String := String.ofList value.compactLetters

/-- A line break and two blanks for each enclosing array or object. -/
def lineBreak (depth : Nat) : List Char :=
  '\n' :: List.replicate (2 * depth) ' '

mutual

/-- The letters of a value that `depth` arrays and objects enclose, on lines
of their own. -/
def indentedLetters (depth : Nat) : Value → List Char
  | .array [] => ['[', ']']
  | .array (item :: rest) =>
      '[' :: (lineBreak (depth + 1) ++ item.indentedLetters (depth + 1) ++
        indentedItems depth rest)
  | .object [] => ['{', '}']
  | .object ((key, value) :: rest) =>
      '{' :: (lineBreak (depth + 1) ++ quoteLetters key.toList ++ ':' :: ' ' ::
        (value.indentedLetters (depth + 1) ++ indentedMembers depth rest))
  | other => other.compactLetters

/-- The letters of further items and of the end of their array. -/
def indentedItems (depth : Nat) : List Value → List Char
  | [] => lineBreak depth ++ [']']
  | item :: rest =>
      ',' :: (lineBreak (depth + 1) ++ item.indentedLetters (depth + 1) ++
        indentedItems depth rest)

/-- The letters of further members and of the end of their object. -/
def indentedMembers (depth : Nat) : List (String × Value) → List Char
  | [] => lineBreak depth ++ ['}']
  | (key, value) :: rest =>
      ',' :: (lineBreak (depth + 1) ++ quoteLetters key.toList ++ ':' :: ' ' ::
        (value.indentedLetters (depth + 1) ++ indentedMembers depth rest))

end

/-- The text of a value, one line for each item and member. -/
def indented (value : Value) : String := String.ofList (value.indentedLetters 0)

/-- A list of texts as an array. -/
def ofTexts (texts : List String) : Value := .array (texts.map .string)

end Value

end SchemaAtlas.Json
