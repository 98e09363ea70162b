/-!
# Identifiers in statements

How a table name is written into a statement.  A plain name stands as it is;
any other goes between backticks, and a backtick inside it is written behind a
backslash.
-/

namespace SchemaAtlas.Identifier

/-- Whether the character may stand in a bare identifier. -/
def isWordLetter (letter : Char) : Bool := letter.isAlphanum || letter = '_'

/-- Whether the name may stand bare: ASCII letters, digits and underscores,
not starting with a digit. -/
def isPlain (name : String) : Bool :=
  match name.toList with
  | [] => false
  | first :: rest => !first.isDigit && (first :: rest).all isWordLetter

/-- The letters of a name between backticks, without these. -/
def escapeLetters : List Char → List Char
  | [] => []
  | '`' :: rest => '\\' :: '`' :: escapeLetters rest
  | letter :: rest => letter :: escapeLetters rest

def escape (name : String) : String :=
  if isPlain name then name
  else String.ofList ('`' :: (escapeLetters name.toList ++ ['`']))

end SchemaAtlas.Identifier
