import SchemaAtlas.Json.Decoder
import SchemaAtlas.Json.Printer

/-!
# Query responses

One result of a statement sent to the database: a status, a value, and the
time it took as text.
-/

namespace SchemaAtlas

open Json (Value Decoder)

/-- The result of one statement. -/
structure Response where
  status : String
  result : Value
  time : Option String
deriving Inhabited

namespace Response

def okStatus : String := "OK"

def ok (result : Value) : Response := ⟨okStatus, result, none⟩

def failed (message : String) : Response := ⟨"ERR", .string message, none⟩

/-- Two texts are equal when the case of ASCII letters is ignored. -/
def equalIgnoringCase (first second : String) : Bool :=
  first.toList.map Char.toLower == second.toList.map Char.toLower

/-- Whether the response reports success, in any case of letters. -/
def isOk (response : Response) : Bool :=
  equalIgnoringCase response.status okStatus

/-- A response as JSON; a time that is not known is left out. -/
def toJson (response : Response) : Value :=
  .object ([("status", .string response.status), ("result", response.result)] ++
    (match response.time with
      | some time => [("time", .string time)]
      | none => []))

/-- Reads a response; the result and the time may be left out. -/
def decoder : Decoder Response :=
  .record (σ := Option String × Option Value × Option (Option String))
    "QueryResponse"
    [ { name := "status", optional := false, seen := (·.1.isSome)
        value := Decoder.string.map fun value state => (some value, state.2) },
      { name := "result", optional := true, seen := (·.2.1.isSome)
        value := Decoder.any.map fun value state =>
          (state.1, some value, state.2.2) },
      { name := "time", optional := true, seen := (·.2.2.isSome)
        value := (Decoder.orNull none (Decoder.string.map some)).map
          fun value state => (state.1, state.2.1, some value) } ]
    (none, none, none)
    fun (status, result, time) => do
      pure
        { status := ← Decoder.need "status" status
          result := result.getD .null
          time := time.getD none }

/-- Equality up to the order of the members of objects. -/
def alike (first second : Response) : Bool :=
  first.status == second.status && first.result.alike second.result &&
    first.time == second.time

end Response

end SchemaAtlas
