import Std.Time.DateTime.Timestamp
import SchemaAtlas.CommandLine.Program

/-!
# Running the program

The session of the program carried out on real files, with its log on the
error stream.
-/

namespace SchemaAtlas.CommandLine

/-- Whether the code of an operating system's error is a given one; some
operations negate it. -/
def isCode (code wanted : UInt32) : Bool := code == wanted || 0 - code == wanted

/-- The fault that an error of the operating system stands for. -/
def faultOf : IO.Error → FileFault
  | .noFileOrDirectory _ _ _ => .notFound
  | .permissionDenied _ _ _ => .permissionDenied
  | .inappropriateType _ code _ =>
      if isCode code 20 then .notDirectory else .isDirectory
  | .invalidArgument _ code details =>
      if isCode code 36 then .nameTooLong
      else .other (toString (IO.Error.invalidArgument none code details))
  | error => .other (toString error)

def readReal (path : String) : IO (Except FileFault String) := do
  if path.toList.contains '\x00' then return .error .nullInPath
  match ← (IO.FS.readBinFile path).toBaseIO with
  | .error error => pure (.error (faultOf error))
  | .ok bytes =>
      match String.fromUTF8? bytes with
      | some text => pure (.ok text)
      | none => pure (.error .notText)

def writeReal (path content : String) : IO (Except FileFault Unit) := do
  if path.toList.contains '\x00' then return .error .nullInPath
  match ← (IO.FS.writeFile path content).toBaseIO with
  | .error error => pure (.error (faultOf error))
  | .ok () => pure (.ok ())

def probeReal (path : String) : IO Bool := do
  match ← readReal path with
  | .error .notFound | .error .notDirectory | .error .nameTooLong
  | .error .nullInPath => pure false
  | _ => pure true

def currentTime : IO Timestamp := do
  let now ← Std.Time.Timestamp.now
  pure ⟨now.val.second.val, now.val.nano.val.toNat⟩

/-- Shows a line of the log, behind the time. -/
def showLine (line : LogLine) : IO Unit := do
  let time ← currentTime
  let gap := String.ofList (List.replicate (5 - line.level.name.length) ' ')
  IO.eprintln (time.render ++ " " ++ gap ++ line.shown)

/-- Carries out a session on real files. -/
def Session.perform {α : Type} (filter : LogFilter) : Session α → IO α
  | .done result => pure result
  | .note line rest => do
      if filter.shows line then showLine line
      rest.perform filter
  | .probe path next => do
      let answer ← probeReal path
      (next answer).perform filter
  | .read path next => do
      let answer ← readReal path
      (next answer).perform filter
  | .write path content next => do
      let answer ← writeReal path content
      (next answer).perform filter

end SchemaAtlas.CommandLine

def main (arguments : List String) : IO UInt32 := do
  let wantedLog ← IO.getEnv "RUST_LOG"
  let time ← SchemaAtlas.CommandLine.currentTime
  let (filter, session) :=
    SchemaAtlas.CommandLine.program arguments wantedLog time
  let report ← session.perform filter
  IO.print report.output
  IO.eprint report.complaint
  pure report.exitCode.toUInt32
