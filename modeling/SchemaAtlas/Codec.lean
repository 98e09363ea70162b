import SchemaAtlas.Json.Decoder
import SchemaAtlas.Run

/-!
# Asking a value codec

A codec takes values to a binary form and back, shows values in that form, and
reads literals of the query language.  It is given by its answers.
-/

namespace SchemaAtlas

open Json (Decoder Value)

/-- A value codec, by its answers. -/
structure Codec where
  /-- The binary form of a value. -/
  encode : Value → Except Failure ByteArray
  decode : ByteArray → Except Failure Value
  /-- The text that shows a value in binary form. -/
  present : ByteArray → ValueFormat → (pretty : Bool) → Except Failure String
  /-- The binary form of a literal. -/
  literal : (text : String) → Except Failure ByteArray

def ValueFormat.decoder : Decoder ValueFormat :=
  .choice [("json", .json), ("surreal_ql", .surrealQl)]

def ValueFormat.toJson : ValueFormat → Value
  | .json => .string "json"
  | .surrealQl => .string "surreal_ql"

namespace Codec

def formatValue (codec : Codec) (value : Value) (format : ValueFormat)
    (pretty : Bool) : Attempt String := do
  let binary ← Attempt.ask .encode (codec.encode value)
  Attempt.ask (.present binary.size format pretty)
    (codec.present binary format pretty)

def parseValue (codec : Codec) (text : String) : Attempt Value := do
  let binary ← Attempt.ask (.literal text) (codec.literal text)
  Attempt.ask (.decode binary.size) (codec.decode binary)

end Codec

end SchemaAtlas
