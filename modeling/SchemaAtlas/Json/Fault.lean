import SchemaAtlas.Json.Value
import SchemaAtlas.Decimal.Shortest
import SchemaAtlas.Text.Quoted

/-!
# What can be wrong with JSON data

The causes for which JSON text, or a JSON value offered where data of a given
shape is wanted, is refused, and the one sentence that reports each of them.
-/

namespace SchemaAtlas.Json

/--
The text of a double: the shortest digits that read back, written plainly when
the first digit stands between the fifth place after the point and the
sixteenth before it, else with an exponent.
-/
def doubleText (value : Binary64) : String :=
  let sign := if value.negative then "-" else ""
  if value.isZero then sign ++ "0.0"
  else
    let ⟨digits, exponent⟩ := Decimal.shortest value
    let text := fun (letters : List Char) => String.ofList letters
    if 0 ≤ exponent ∧ exponent ≤ 15 then
      let whole := exponent.toNat + 1
      let padded := digits ++ List.replicate (whole - digits.length) '0'
      let fraction := digits.drop whole
      sign ++ text (padded.take whole) ++ "." ++
        (if fraction.isEmpty then "0" else text fraction)
    else if -5 ≤ exponent ∧ exponent < 0 then
      sign ++ "0." ++ text (List.replicate ((-exponent).toNat - 1) '0') ++
        text digits
    else
      let fraction := digits.drop 1
      let power :=
        (if 0 ≤ exponent then "+" else "-") ++ toString exponent.natAbs
      sign ++ text (digits.take 1) ++
        (if fraction.isEmpty then "" else "." ++ text fraction) ++ "e" ++ power

def Number.render : Number → String
  | .integer value => toString value
  | .double value => doubleText value

/-- What was found where something else was wanted. -/
inductive Found where
  | null
  | bool (value : Bool)
  | number (value : Number)
  | string (value : String)
  | sequence
  | mapping
deriving DecidableEq

/-- What a value shows of itself when it is refused. -/
def Found.ofValue : Value → Found
  | .null => .null
  | .bool value => .bool value
  | .number value => .number value
  | .string value => .string value
  | .array _ => .sequence
  | .object _ => .mapping

def Found.describe : Found → String
  | .null => "null"
  | .bool value => "boolean `" ++ (if value then "true" else "false") ++ "`"
  | .number (.integer value) => "integer `" ++ toString value ++ "`"
  | .number (.double value) => "floating point `" ++ doubleText value ++ "`"
  | .string value => "string " ++ Text.quoted value
  | .sequence => "sequence"
  | .mapping => "map"

/-- The causes for which JSON data is refused. -/
inductive Fault where
  /-- The text ends where a value is wanted. -/
  | endInValue
  | endInList
  | endInObject
  | endInString
  /-- No value starts here. -/
  | noValue
  /-- A word that starts like `null`, `true` or `false` goes on differently. -/
  | badWord
  /-- A key is not followed by a colon. -/
  | noColon
  /-- An item is followed by neither a comma nor the end of its array. -/
  | noListEnd
  /-- A member is followed by neither a comma nor the end of its object. -/
  | noObjectEnd
  /-- A member does not start with a string. -/
  | keyNotString
  /-- A comma stands before the end of an array or object. -/
  | trailingComma
  /-- Something follows where nothing more may stand. -/
  | trailingCharacters
  | badNumber
  /-- The number is beyond the largest double. -/
  | numberTooLarge
  /-- The character after a backslash, or the digits after `\u`, are no
  escape. -/
  | badEscape
  /-- A surrogate escape stands without its partner. -/
  | loneSurrogate
  /-- A leading surrogate escape is not followed by another escape. -/
  | unpairedSurrogate
  /-- A string holds an unescaped control character. -/
  | controlCharacter
  | tooDeep
  /-- A value has the wrong type. -/
  | wrongType (found : Found) (expected : String)
  /-- A value has the right type and cannot be used. -/
  | wrongValue (found : Found) (expected : String)
  | missingField (name : String)
  | duplicateField (name : String)
  /-- A list has the wrong number of elements. -/
  | wrongLength (length : Nat) (expected : String)
  /-- A choice has a name that is not among the alternatives. -/
  | unknownChoice (name : String) (alternatives : List String)
deriving DecidableEq

/-- The enumeration of alternatives in a message. -/
def alternativesText : List String → String
  | [] => "there are no variants"
  | [only] => "expected `" ++ only ++ "`"
  | [first, second] => "expected `" ++ first ++ "` or `" ++ second ++ "`"
  | many =>
      "expected one of " ++
        String.intercalate ", " (many.map fun name => "`" ++ name ++ "`")

def Fault.message : Fault → String
  | .endInValue => "EOF while parsing a value"
  | .endInList => "EOF while parsing a list"
  | .endInObject => "EOF while parsing an object"
  | .endInString => "EOF while parsing a string"
  | .noValue => "expected value"
  | .badWord => "expected ident"
  | .noColon => "expected `:`"
  | .noListEnd => "expected `,` or `]`"
  | .noObjectEnd => "expected `,` or `\x7d`"
  | .keyNotString => "key must be a string"
  | .trailingComma => "trailing comma"
  | .trailingCharacters => "trailing characters"
  | .badNumber => "invalid number"
  | .numberTooLarge => "number out of range"
  | .badEscape => "invalid escape"
  | .loneSurrogate => "lone leading surrogate in hex escape"
  | .unpairedSurrogate => "unexpected end of hex escape"
  | .controlCharacter =>
      "control character (\\u0000-\\u001F) found while parsing a string"
  | .tooDeep => "recursion limit exceeded"
  | .wrongType found expected =>
      "invalid type: " ++ found.describe ++ ", expected " ++ expected
  | .wrongValue found expected =>
      "invalid value: " ++ found.describe ++ ", expected " ++ expected
  | .missingField name => "missing field `" ++ name ++ "`"
  | .duplicateField name => "duplicate field `" ++ name ++ "`"
  | .wrongLength length expected =>
      "invalid length " ++ toString length ++ ", expected " ++ expected
  | .unknownChoice name alternatives =>
      "unknown variant `" ++ name ++ "`, " ++ alternativesText alternatives

end SchemaAtlas.Json
