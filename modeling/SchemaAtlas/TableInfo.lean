import SchemaAtlas.Json.Decoder
import SchemaAtlas.Json.Printer

/-!
# Table metadata

What the database tells about one table: the definitions of its fields,
indexes and events, each a statement under the name of what it defines, in the
order given.
-/

namespace SchemaAtlas

open Json (Value Decoder)

/-- The definitions that belong to a table. -/
structure TableInfo where
  fields : Dict String
  indexes : Dict String
  events : Dict String
deriving DecidableEq

namespace TableInfo

def empty : TableInfo := ⟨∅, ∅, ∅⟩

instance : Inhabited TableInfo := ⟨empty⟩

def textsToJson (texts : Dict String) : Value :=
  .object (texts.entries.map fun entry => (entry.1, .string entry.2))

def toJson (info : TableInfo) : Value :=
  .object [("fd", textsToJson info.fields), ("ix", textsToJson info.indexes),
    ("ev", textsToJson info.events)]

/-- Reads a dictionary of texts, for which `null` may stand if it is empty. -/
def textsOrNull : Decoder (Dict String) := .orNull ∅ (.dict .string)

/-- Reads metadata; each of the three dictionaries may be left out or be
`null`. -/
def decoder : Decoder TableInfo :=
  .record
    (σ := Option (Dict String) × Option (Dict String) × Option (Dict String))
    "TableInfo"
    [ { name := "fd", optional := true, seen := (·.1.isSome)
        value := textsOrNull.map fun value state => (some value, state.2) },
      { name := "ix", optional := true, seen := (·.2.1.isSome)
        value := textsOrNull.map fun value state =>
          (state.1, some value, state.2.2) },
      { name := "ev", optional := true, seen := (·.2.2.isSome)
        value := textsOrNull.map fun value state =>
          (state.1, state.2.1, some value) } ]
    (none, none, none)
    fun (fields, indexes, events) =>
      pure
        { fields := fields.getD ∅
          indexes := indexes.getD ∅
          events := events.getD ∅ }

/-- Equality up to the order of definitions. -/
def alike (first second : TableInfo) : Bool :=
  first.fields.alike (· == ·) second.fields &&
    first.indexes.alike (· == ·) second.indexes &&
    first.events.alike (· == ·) second.events

end TableInfo

end SchemaAtlas
