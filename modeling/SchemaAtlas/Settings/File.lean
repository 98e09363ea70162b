import SchemaAtlas.Settings
import SchemaAtlas.Folder
import SchemaAtlas.Yaml.Node.Printer
import SchemaAtlas.Yaml.Node.Reader

/-!
# Settings files

Settings are kept as YAML mappings.  A file may leave out any setting and may
hold others, which are passed over; where a mapping or list is expected,
nothing at all stands for an empty one.  Tags say nothing here, but that a
block of text can be a number.
-/

namespace SchemaAtlas

open Yaml (Node Document)

namespace Yaml

/-- Whether the part is left out: an empty plain scalar. -/
def Node.isAbsent : Node → Bool
  | .scalar .plain [] => true
  | _ => false

namespace Document

/-- The text of a scalar of any form. -/
def text (document : Document) (part : Node) : Except Fault String :=
  match (document.target part).bare with
  | .scalar _ letters => .ok (String.ofList letters)
  | _ => .error (.wrongType "a string")

/-- Whether a scalar of some form can be a number: a plain one always, and a
literal one if its tag says so. -/
def isNumeral (style : Style) (tag : Option Tag) : Bool :=
  style = .plain || (style = .literal && tag = some Tag.integer)

/-- The integer of 64 bits without sign that a scalar stands for. -/
def count (document : Document) (part : Node) : Except Fault Nat :=
  let target := document.target part
  match target.bare with
  | .scalar style letters =>
      match Scalar.unsigned? letters with
      | some value =>
          if isNumeral style target.tag? && value < Nat.pow 2 64 then .ok value
          else .error (.wrongType "usize")
      | none => .error (.wrongType "usize")
  | _ => .error (.wrongType "usize")

def items (document : Document) (part : Node) : Except Fault (List Node) :=
  match (document.target part).bare with
  | .sequence items => .ok items
  | other => if other.isAbsent then .ok [] else .error (.wrongType "a sequence")

def entries (document : Document) (expected : String) (part : Node) :
    Except Fault (List (Node × Node)) :=
  match (document.target part).bare with
  | .mapping entries => .ok entries
  | other => if other.isAbsent then .ok [] else .error (.wrongType expected)

/--
Takes the fields of a record from a mapping, in the order of the mapping.
`field?` gives, for the name of a field, whether it has been seen and how its
value changes the state; other names are passed over.
-/
def fields {σ : Type} (document : Document)
    (field? : String → Option ((σ → Bool) × (Node → Except Fault (σ → σ)))) :
    List (Node × Node) → σ → Except Fault σ
  | [], state => .ok state
  | (key, value) :: rest, state => do
      let name ← document.text key
      match field? name with
      | none => fields document field? rest state
      | some (seen, change) =>
          if seen state then throw (.duplicateField name)
          else
            let change ← change value
            fields document field? rest (change state)

end Document

end Yaml

namespace ExportSettings

/-- The fields of export settings in a document, by name. -/
def field? (document : Document) (name : String) :
    Option ((Given → Bool) × (Node → Except Yaml.Fault (Given → Given))) :=
  match name with
  | "dialog_title" => some
      ((·.dialogTitle.isSome), fun part =>
        (document.text part).map fun value given =>
          { given with dialogTitle := some value })
  | "default_file_name" => some
      ((·.defaultFileName.isSome), fun part =>
        (document.text part).map fun value given =>
          { given with defaultFileName := some value })
  | "filter_name" => some
      ((·.filterName.isSome), fun part =>
        (document.text part).map fun value given =>
          { given with filterName := some value })
  | "extensions" => some
      ((·.extensions.isSome), fun part =>
        ((document.items part).bind fun items => items.mapM document.text).map
          fun value given =>
          { given with extensions := some value })
  | "banner" => some
      ((·.banner.isSome), fun part =>
        (document.text part).map fun value given =>
          { given with banner := some value })
  | "max_concurrent_table_queries" => some
      ((·.maxConcurrent.isSome), fun part =>
        (document.count part).map fun value given =>
          { given with maxConcurrent := some value })
  | _ => none

/-- The export settings in a part of a document. -/
def ofPart (document : Document) (part : Node) :
    Except Yaml.Fault ExportSettings := do
  let entries ← document.entries "struct ExportConfig" part
  let given ← document.fields (field? document) entries .nothing
  pure given.completed

def toNode (settings : ExportSettings) : Node :=
  .mapping
    [ (.ofString "dialog_title", .ofString settings.dialogTitle),
      (.ofString "default_file_name", .ofString settings.defaultFileName),
      (.ofString "filter_name", .ofString settings.filterName),
      (.ofString "extensions",
        .sequence (settings.extensions.map Node.ofString)),
      (.ofString "banner", .ofString settings.banner),
      (.ofString "max_concurrent_table_queries",
        .ofNat settings.maxConcurrent) ]

end ExportSettings

namespace Settings

/-- The parts of settings in a document, by name. -/
def field? (document : Document) (name : String) :
    Option ((Option ExportSettings → Bool) ×
      (Node →
        Except Yaml.Fault (Option ExportSettings → Option ExportSettings))) :=
  match name with
  | "export" => some
      (Option.isSome, fun part =>
        (ExportSettings.ofPart document part).map fun value _ => some value)
  | _ => none

/-- The settings in a document. -/
def ofDocument (document : Document) : Except Yaml.Fault Settings := do
  let entries ← document.entries "struct IntrospectConfig" document.content
  let exporting ← document.fields (field? document) entries none
  pure ⟨exporting.getD .standard⟩

def toNode (settings : Settings) : Node :=
  .mapping [(.ofString "export", settings.exporting.toNode)]

/-- The settings in YAML text. -/
def ofYaml (text : String) : Except Failure Settings :=
  match (Document.ofText text).bind ofDocument with
  | .ok settings => .ok settings
  | .error fault => .error (.ofYaml fault.message)

def toYaml (settings : Settings) : String := settings.toNode.render

/-- Makes settings of what reading a file gave. -/
def ofFile (path : String) (content : Except FileFault String) :
    Except Failure Settings :=
  match content with
  | .error fault =>
      .error (.file ("Failed to read config file: " ++ path) fault)
  | .ok text =>
      match ofYaml text with
      | .ok settings => .ok settings
      | .error failure =>
          .error (failure.within ("Invalid config file " ++ path))

def load (folder : Folder) (path : String) : Except Failure Settings :=
  ofFile path (folder.read path)

/-- Saves settings to a file; gives the folder with that file. -/
def save (settings : Settings) (folder : Folder) (path : String) :
    Except Failure Folder :=
  match folder.write path settings.toYaml with
  | .ok folder => .ok folder
  | .error fault =>
      .error (.file ("Failed to write config file: " ++ path) fault)

end Settings

end SchemaAtlas
