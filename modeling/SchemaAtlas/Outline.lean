import SchemaAtlas.Json.Decoder
import SchemaAtlas.Json.Printer

/-!
# Table outlines and edges

The outline of a table: its fields, each with the tables that it links to.  A
table is an edge of the graph if it has a field `in` and a field `out`; what
these link to are the endpoints.
-/

namespace SchemaAtlas

open Json (Value Decoder)

/-- A field and the tables that it links to. -/
structure FieldOutline where
  name : String
  targets : List String
deriving DecidableEq, Inhabited

/-- A table and its fields, in order. -/
structure TableOutline where
  name : String
  fields : List FieldOutline
deriving DecidableEq, Inhabited

/-- Whether a table is an edge, and what its two endpoints may be; an empty
list allows any table. -/
structure EdgeVerdict where
  isEdge : Bool
  inTargets : List String
  outTargets : List String
deriving DecidableEq, Inhabited

def inField : String := "in"

def outField : String := "out"

namespace EdgeVerdict

/-- What has been seen of a table's endpoints: the targets of the last field
of either name. -/
structure Seen where
  inTargets : Option (List String) := none
  outTargets : Option (List String) := none

/-- Takes one more field into account. -/
def Seen.add (seen : Seen) (field : FieldOutline) : Seen :=
  if field.name = inField then { seen with inTargets := some field.targets }
  else if field.name = outField then
    { seen with outTargets := some field.targets }
  else seen

/-- The verdict on a list of fields; of several fields of one name the last
counts. -/
def ofFields (fields : List FieldOutline) : EdgeVerdict :=
  let seen := fields.foldl Seen.add ⟨none, none⟩
  { isEdge := seen.inTargets.isSome && seen.outTargets.isSome
    inTargets := seen.inTargets.getD []
    outTargets := seen.outTargets.getD [] }

def toJson (verdict : EdgeVerdict) : Value :=
  .object
    [ ("is_edge", .bool verdict.isEdge),
      ("in_targets", .ofTexts verdict.inTargets),
      ("out_targets", .ofTexts verdict.outTargets) ]

def decoder : Decoder EdgeVerdict :=
  .record (σ := Option Bool × Option (List String) × Option (List String))
    "EdgeClassification"
    [ { name := "is_edge", optional := false, seen := (·.1.isSome)
        value := Decoder.bool.map fun value state => (some value, state.2) },
      { name := "in_targets", optional := false, seen := (·.2.1.isSome)
        value := (Decoder.list .string).map fun value state =>
          (state.1, some value, state.2.2) },
      { name := "out_targets", optional := false, seen := (·.2.2.isSome)
        value := (Decoder.list .string).map fun value state =>
          (state.1, state.2.1, some value) } ]
    (none, none, none)
    fun (isEdge, inTargets, outTargets) => do
      pure
        { isEdge := ← Decoder.need "is_edge" isEdge
          inTargets := ← Decoder.need "in_targets" inTargets
          outTargets := ← Decoder.need "out_targets" outTargets }

end EdgeVerdict

def TableOutline.edge (table : TableOutline) : EdgeVerdict :=
  .ofFields table.fields

def TableOutline.isEdge (table : TableOutline) : Bool := table.edge.isEdge

def FieldOutline.toJson (field : FieldOutline) : Value :=
  .object
    [("name", .string field.name), ("kind_tables", .ofTexts field.targets)]

/-- Reads a field outline; the targets may be left out. -/
def FieldOutline.decoder : Decoder FieldOutline :=
  .record (σ := Option String × Option (List String)) "FieldDefinition"
    [ { name := "name", optional := false, seen := (·.1.isSome)
        value := Decoder.string.map fun value state => (some value, state.2) },
      { name := "kind_tables", optional := true, seen := (·.2.isSome)
        value := (Decoder.list .string).map fun value state =>
          (state.1, some value) } ]
    (none, none)
    fun (name, targets) => do
      pure { name := ← Decoder.need "name" name, targets := targets.getD [] }

def TableOutline.toJson (table : TableOutline) : Value :=
  .object
    [ ("name", .string table.name),
      ("fields", .array (table.fields.map FieldOutline.toJson)) ]

/-- Reads a table outline; the fields may be left out. -/
def TableOutline.decoder : Decoder TableOutline :=
  .record (σ := Option String × Option (List FieldOutline)) "TableDefinition"
    [ { name := "name", optional := false, seen := (·.1.isSome)
        value := Decoder.string.map fun value state => (some value, state.2) },
      { name := "fields", optional := true, seen := (·.2.isSome)
        value := (Decoder.list FieldOutline.decoder).map fun value state =>
          (state.1, some value) } ]
    (none, none)
    fun (name, fields) => do
      pure { name := ← Decoder.need "name" name, fields := fields.getD [] }

end SchemaAtlas
