import SchemaAtlas.SaveRequest
import SchemaAtlas.Failure
import SchemaAtlas.Text.Blank

/-!
# Settings

What a user may set about exports, the values that hold where nothing is set,
and the checks that settings have to pass before they are used.
-/

namespace SchemaAtlas

open Json (Decoder Value)

structure ExportSettings where
  /-- The title of the request for a place to save. -/
  dialogTitle : String
  /-- The file name that is suggested. -/
  defaultFileName : String
  /-- The label of the file type on offer. -/
  filterName : String
  /-- The extensions of that file type. -/
  extensions : List String
  /-- The comment in the first line of a script, before the time. -/
  banner : String
  /-- How many lookups of table metadata may be open at once. -/
  maxConcurrent : Nat
deriving DecidableEq

structure Settings where
  exporting : ExportSettings
deriving DecidableEq

namespace ExportSettings

/-- The settings that hold where nothing is set. -/
def standard : ExportSettings where
  dialogTitle := "Save database schema"
  defaultFileName := "schema.surql"
  filterName := "SurrealDB Schema"
  extensions := ["surql", "sql", "surrealql"]
  banner := "Export generated by surql-introspect on"
  maxConcurrent := 4

instance : Inhabited ExportSettings := ⟨standard⟩

/-! ## Settings of which some are given -/

/-- The settings that are given. -/
structure Given where
  dialogTitle : Option String
  defaultFileName : Option String
  filterName : Option String
  extensions : Option (List String)
  banner : Option String
  maxConcurrent : Option Nat
deriving DecidableEq, Inhabited

namespace Given

/-- No setting is given. -/
def nothing : Given := ⟨none, none, none, none, none, none⟩

/-- The given settings, with the standard values where nothing is given. -/
def completed (given : Given) : ExportSettings where
  dialogTitle := given.dialogTitle.getD standard.dialogTitle
  defaultFileName := given.defaultFileName.getD standard.defaultFileName
  filterName := given.filterName.getD standard.filterName
  extensions := given.extensions.getD standard.extensions
  banner := given.banner.getD standard.banner
  maxConcurrent := given.maxConcurrent.getD standard.maxConcurrent

@[simp] theorem completed_nothing : nothing.completed = standard := rfl

end Given

/-- Reads export settings, each of which may be left out. -/
def decoder : Decoder ExportSettings :=
  .record (σ := Given) "ExportConfig"
    [ { name := "dialog_title", optional := true, seen := (·.dialogTitle.isSome)
        value := Decoder.string.map fun value given =>
          { given with dialogTitle := some value } },
      { name := "default_file_name", optional := true,
        seen := (·.defaultFileName.isSome)
        value := Decoder.string.map fun value given =>
          { given with defaultFileName := some value } },
      { name := "filter_name", optional := true, seen := (·.filterName.isSome)
        value := Decoder.string.map fun value given =>
          { given with filterName := some value } },
      { name := "extensions", optional := true, seen := (·.extensions.isSome)
        value := (Decoder.list .string).map fun value given =>
          { given with extensions := some value } },
      { name := "banner", optional := true, seen := (·.banner.isSome)
        value := Decoder.string.map fun value given =>
          { given with banner := some value } },
      { name := "max_concurrent_table_queries", optional := true,
        seen := (·.maxConcurrent.isSome)
        value := Decoder.count.map fun value given =>
          { given with maxConcurrent := some value } } ]
    .nothing fun given => pure given.completed

def toJson (settings : ExportSettings) : Value :=
  .object
    [ ("dialog_title", .string settings.dialogTitle),
      ("default_file_name", .string settings.defaultFileName),
      ("filter_name", .string settings.filterName),
      ("extensions", .ofTexts settings.extensions),
      ("banner", .string settings.banner),
      ("max_concurrent_table_queries",
        .number (.integer settings.maxConcurrent)) ]

end ExportSettings

namespace Settings

/-- The settings that hold where nothing is set. -/
def standard : Settings := ⟨.standard⟩

instance : Inhabited Settings := ⟨standard⟩

/-- Reads settings, each part of which may be left out. -/
def decoder : Decoder Settings :=
  .record (σ := Option ExportSettings) "IntrospectConfig"
    [ { name := "export", optional := true, seen := (·.isSome)
        value := ExportSettings.decoder.map fun value _ => some value } ]
    none fun exporting => pure ⟨exporting.getD .standard⟩

def toJson (settings : Settings) : Value :=
  .object [("export", settings.exporting.toJson)]

end Settings

/-!
## Checks

Each check reports the field that holds the value.
-/

namespace Check

/-- A number has to be positive. -/
def positive (field : String) (value : Nat) : Except Failure Unit :=
  if value = 0 then
    .error (.validation (field ++ " must be greater than 0") (some field))
  else .ok ()

/-- A text has to hold more than white space. -/
def notBlank (field value : String) : Except Failure Unit :=
  if Text.isBlankText value then
    .error (.validation (field ++ " must not be empty") (some field))
  else .ok ()

/-- A list has to have an entry, and none of its entries may be blank. -/
def entries (field : String) (values : List String) : Except Failure Unit :=
  if values.isEmpty then
    .error (.validation (field ++ " must contain at least one entry")
      (some field))
  else values.forM (notBlank field)

end Check

/-- Checks export settings; the first of the checks that fails is reported. -/
def ExportSettings.validate (settings : ExportSettings) :
    Except Failure Unit := do
  Check.notBlank "default_file_name" settings.defaultFileName
  Check.notBlank "filter_name" settings.filterName
  Check.entries "extensions" settings.extensions
  Check.positive "max_concurrent_table_queries" settings.maxConcurrent

def Settings.validate (settings : Settings) : Except Failure Unit :=
  match settings.exporting.validate with
  | .ok () => .ok ()
  | .error failure =>
      .error (.settings ("Invalid export configuration: " ++ failure.message)
        (some "export"))

/-- The request for a place to save that the settings call for. -/
def SaveRequest.ofSettings (settings : ExportSettings) : SaveRequest where
  title := settings.dialogTitle
  defaultPath := settings.defaultFileName
  filters := [⟨settings.filterName, settings.extensions⟩]

end SchemaAtlas
