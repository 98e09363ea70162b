import SchemaAtlas.TableInfo
import SchemaAtlas.Folder

/-!
# Recorded schemas

A schema that was recorded earlier: the definitions of its tables and, under
the names of tables, their metadata.  Snapshots are kept as JSON files.
-/

namespace SchemaAtlas

open Json (Value Decoder)

/-- A recorded schema. -/
structure Snapshot where
  tables : Dict String
  info : Dict TableInfo
deriving DecidableEq

namespace Snapshot

def empty : Snapshot := ⟨∅, ∅⟩

instance : Inhabited Snapshot := ⟨empty⟩

/-- Records a table with its definition and metadata, instead of what was
recorded under its name. -/
def withTable (snapshot : Snapshot) (name definition : String)
    (info : TableInfo) : Snapshot :=
  ⟨snapshot.tables.insert name definition, snapshot.info.insert name info⟩

def toJson (snapshot : Snapshot) : Value :=
  .object
    [ ("tables", TableInfo.textsToJson snapshot.tables),
      ("table_info",
        .object (snapshot.info.entries.map fun entry =>
          (entry.1, entry.2.toJson))) ]

/-- Reads a snapshot; each of its two dictionaries may be left out. -/
def decoder : Decoder Snapshot :=
  .record (σ := Option (Dict String) × Option (Dict TableInfo))
    "SnapshotSchemaSource"
    [ { name := "tables", optional := true, seen := (·.1.isSome)
        value := (Decoder.dict .string).map fun value state =>
          (some value, state.2) },
      { name := "table_info", optional := true, seen := (·.2.isSome)
        value := (Decoder.dict TableInfo.decoder).map fun value state =>
          (state.1, some value) } ]
    (none, none)
    fun (tables, info) => pure { tables := tables.getD ∅, info := info.getD ∅ }

def render (snapshot : Snapshot) : String := snapshot.toJson.compact

/-- Makes a snapshot of what reading a file gave. -/
def ofFile (path : String) (content : Except FileFault String) :
    Except Failure Snapshot :=
  match content with
  | .error fault => .error (.file ("Failed to read snapshot: " ++ path) fault)
  | .ok text =>
      match decoder.ofText text with
      | .error fault =>
          .error ((Failure.ofJson fault).within ("Invalid snapshot " ++ path))
      | .ok snapshot => .ok snapshot

def load (folder : Folder) (path : String) : Except Failure Snapshot :=
  ofFile path (folder.read path)

/-- Equality up to the order of tables and definitions. -/
def alike (first second : Snapshot) : Bool :=
  first.tables.alike (· == ·) second.tables &&
    first.info.alike TableInfo.alike second.info

end Snapshot

end SchemaAtlas
