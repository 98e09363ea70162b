import SchemaAtlas.Script
import SchemaAtlas.Settings
import SchemaAtlas.Text.Quoted

/-!
# Exporting schemas

An export fetches all tables of a source and writes the script that defines
them.  It can be saved to a place that a `SaveTarget` chooses.  Nothing is
asked of the target before the whole script is there, so a failure to fetch
leaves every place as it was.
-/

namespace SchemaAtlas

/-- Whoever chooses the place of an export and writes it there. -/
structure SaveTarget where
  /-- The place to save; `none` if saving was called off. -/
  choose : SaveRequest → Attempt (Option String)
  write : (path content : String) → Attempt Unit

/-- How saving an export ended. -/
inductive SaveOutcome where
  /-- The script is at the path and has so many bytes. -/
  | saved (path : String) (bytes : Nat)
  | cancelled
deriving DecidableEq, Inhabited

namespace SaveTarget

/-- A target that records what is asked of it and gives the answers set for
it. -/
def answering (place : Except Failure (Option String))
    (writing : Except Failure Unit) : SaveTarget where
  choose := fun request => Attempt.ask (.choosePath request) place
  write := fun path content => Attempt.ask (.write path content) writing

/-- How a place that may have been chosen is spelled in the log. -/
def placeText : Option String → String
  | none => "None"
  | some path => "Some(" ++ Text.quoted path ++ ")"

/-- The line that tells of a request to a target the place of which is fixed. -/
def requestLine (request : SaveRequest) (place : Option String) : String :=
  "Save requested ('" ++ request.title ++ "', suggested " ++
    request.defaultPath ++ "), destination " ++ placeText place

def writeFailure (path : String) (fault : FileFault) : Failure :=
  .saving "Failed to write schema export" (some path) (some fault)

/-- The target that saves to a fixed place, if there is one; `writing` tells
how writing a text to a path ends. -/
def file (place : Option String)
    (writing : (path content : String) → Except FileFault Unit) :
    SaveTarget where
  choose := fun request => do
    Attempt.note .debug .saving (requestLine request place)
    Attempt.ask (.choosePath request) (.ok place)
  write := fun path content =>
    Attempt.ask (.write path content) <|
      match writing path content with
      | .ok () => .ok ()
      | .error fault => .error (writeFailure path fault)

end SaveTarget

namespace Export

/-- The text of the script that defines all tables of a source. -/
def text (source : Source) (settings : ExportSettings) (time : Timestamp) :
    Attempt String := do
  let tables ← Fetch.schemas source settings.maxConcurrent
  pure (Script.ofTables settings.banner time tables).text

def savedLine (path : String) (bytes : Nat) : String :=
  "Schema exported to " ++ path ++ " (" ++ toString bytes ++ " bytes)"

/-- Writes the script that defines all tables of a source to the place that a
target chooses. -/
def save (source : Source) (target : SaveTarget) (settings : ExportSettings)
    (time : Timestamp) : Attempt SaveOutcome := do
  let script ← text source settings time
  match ← target.choose (.ofSettings settings) with
  | none => do
      Attempt.note .info .exporting "Schema export cancelled, nothing written"
      pure .cancelled
  | some path => do
      target.write path script
      Attempt.note .info .exporting (savedLine path script.utf8ByteSize)
      pure (.saved path script.utf8ByteSize)

end Export

/-- The folder after the writes among some acts; writes that fail change
nothing. -/
def Folder.after (folder : Folder) (acts : List Act) : Folder :=
  acts.foldl (fun folder act =>
    match act with
    | .write path content =>
        match folder.write path content with
        | .ok changed => changed
        | .error _ => folder
    | _ => folder) folder

end SchemaAtlas
