import SchemaAtlas.Json.Decoder
import SchemaAtlas.Json.Printer

/-!
# Requests for a place to save

What is asked of whoever chooses the destination of an export: a title, a
suggested file name and the file types on offer.
-/

namespace SchemaAtlas

open Json (Value Decoder)

/-- A type of files, by its label and extensions. -/
structure FileFilter where
  name : String
  extensions : List String
deriving DecidableEq, Inhabited

/-- A request for a place to save. -/
structure SaveRequest where
  title : String
  defaultPath : String
  filters : List FileFilter
deriving DecidableEq, Inhabited

def FileFilter.toJson (filter : FileFilter) : Value :=
  .object
    [("name", .string filter.name), ("extensions", .ofTexts filter.extensions)]

def FileFilter.decoder : Decoder FileFilter :=
  .record (σ := Option String × Option (List String)) "FileFilter"
    [ { name := "name", optional := false, seen := (·.1.isSome)
        value := Decoder.string.map fun value state => (some value, state.2) },
      { name := "extensions", optional := false, seen := (·.2.isSome)
        value := (Decoder.list .string).map fun value state =>
          (state.1, some value) } ]
    (none, none)
    fun (name, extensions) => do
      pure
        { name := ← Decoder.need "name" name
          extensions := ← Decoder.need "extensions" extensions }

def SaveRequest.toJson (request : SaveRequest) : Value :=
  .object
    [ ("title", .string request.title),
      ("default_path", .string request.defaultPath),
      ("filters", .array (request.filters.map FileFilter.toJson)) ]

def SaveRequest.decoder : Decoder SaveRequest :=
  .record (σ := Option String × Option String × Option (List FileFilter))
    "SaveRequest"
    [ { name := "title", optional := false, seen := (·.1.isSome)
        value := Decoder.string.map fun value state => (some value, state.2) },
      { name := "default_path", optional := false, seen := (·.2.1.isSome)
        value := Decoder.string.map fun value state =>
          (state.1, some value, state.2.2) },
      { name := "filters", optional := false, seen := (·.2.2.isSome)
        value := (Decoder.list FileFilter.decoder).map fun value state =>
          (state.1, state.2.1, some value) } ]
    (none, none, none)
    fun (title, defaultPath, filters) => do
      pure
        { title := ← Decoder.need "title" title
          defaultPath := ← Decoder.need "default_path" defaultPath
          filters := ← Decoder.need "filters" filters }

end SchemaAtlas
