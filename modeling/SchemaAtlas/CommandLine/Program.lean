import SchemaAtlas.CommandLine.Arguments
import SchemaAtlas.CommandLine.LogFilter
import SchemaAtlas.CommandLine.Session
import SchemaAtlas.Export
import SchemaAtlas.Settings.File

/-!
# The program

What the program does for each command, as a session, and what it reports in
the end.  Settings come first: they are read and checked before the command is
looked at.  Every command prints at its very end, so a failed run prints
nothing.

The help, and the words about arguments that are refused, belong to the library
that reads the arguments.  Their text is not reproduced: `Report.usage` stands
in its place, so that only the exit code, and the stream that is written to,
are what the program has there.
-/

namespace SchemaAtlas.CommandLine

open Json (Decoder Value)

def programName : String := "surql-introspect"

def version : String := "0.3.0"

/-- What the program has to complain about in the end. -/
inductive Complaint where
  /-- A failure as it is, with the fault underneath. -/
  | failure (fault : Failure)
  /-- A sentence that already says all. -/
  | sentence (text : String)
deriving DecidableEq, Inhabited

/-- A text with every line behind the first moved in by four blanks. -/
def indentFurther (text : String) : String :=
  String.intercalate "\n    " (text.splitOn "\n")

/-- What a complaint looks like when it is printed. -/
def Complaint.render : Complaint → String
  | .sentence text => "Error: " ++ text
  | .failure fault =>
      "Error: " ++ fault.message ++
        (match fault.cause? with
          | some cause => "\n\nCaused by:\n    " ++ indentFurther cause
          | none => "")

/-- A session that may end in a complaint. -/
abbrev Task (α : Type) := ExceptT Complaint Session α

namespace Task

/-- The steps of a session that cannot go wrong. -/
def ofSession {α : Type} (session : Session α) : Task α := ExceptT.lift session

/-- An outcome, of which a failure is a complaint as it is. -/
def orFail {α : Type} : Except Failure α → Task α
  | .ok value => pure value
  | .error failure => throw (.failure failure)

/-- An outcome, of which a failure is told in a sentence. -/
def orExplain {α : Type} (start : String) : Except Failure α → Task α
  | .ok value => pure value
  | .error failure => throw (.sentence (start ++ failure.message))

def readFile (path : String) : Task (Except FileFault String) :=
  ofSession (.read path .done)

def note (level : Level) (topic : Topic) (text : String) : Task Unit :=
  ofSession (.note ⟨level, topic, text⟩ (.done ()))

end Task

/-! ## Settings -/

/-- The settings files that are used if they are there, the first one before
the second. -/
def standardSettingsPaths : List String :=
  [".surql-introspect.yml", ".surql-introspect.yaml"]

/-- The first of some paths at which something is. -/
def firstPresent : List String → Session (Option String)
  | [] => .done none
  | path :: rest =>
      .probe path fun present =>
        if present then .done (some path) else firstPresent rest

def chooseSettings : Option String → Session (Option String)
  | some path => .done (some path)
  | none => firstPresent standardSettingsPaths

/-- The settings in a file, or the standard ones if there is none. -/
def readSettings : Option String → Task Settings
  | none => pure .standard
  | some path => do
      Task.note .debug .settings ("Loading configuration from " ++ path)
      let content ← Task.readFile path
      Task.orExplain ("Failed to load configuration from " ++ path ++ ": ")
        (Settings.ofFile path content)

def loadSettings (named : Option String) : Task Settings := do
  let path ← Task.ofSession (chooseSettings named)
  let settings ← readSettings path
  Task.orExplain "Configuration validation failed: " settings.validate
  pure settings

/-! ## Commands -/

/-- Lines of text, each with its end. -/
def lines (texts : List String) : String := String.join (texts.map (· ++ "\n"))

/-- The indented text of a value, as a line of its own. -/
def jsonLine (value : Value) : String := value.indented ++ "\n"

def readJson {α : Type} (decoder : Decoder α) (path : String) : Task α := do
  match ← Task.readFile path with
  | .error fault =>
      throw (.sentence ("Failed to read " ++ path ++ ": " ++ fault.message))
  | .ok text =>
      match decoder.ofText text with
      | .ok value => pure value
      | .error fault =>
          throw
            (.sentence ("Invalid JSON in " ++ path ++ ": " ++ fault.message))

/-- Export settings with a limit from the command line. -/
def withLimit (settings : ExportSettings) : Option Nat → ExportSettings
  | none => settings
  | some limit => { settings with maxConcurrent := limit }

/-- The export of a source to a file. -/
def saveTo (path : String) (source : Source) (settings : ExportSettings)
    (time : Timestamp) (writing : Except FileFault Unit) :
    Attempt SaveOutcome := do
  let outcome ←
    Export.save source (.file (some path) fun _ _ => writing) settings time
  match outcome with
  | .saved path bytes =>
      Attempt.note .info .commands
        ("Wrote " ++ toString bytes ++ " bytes to " ++ path)
  | .cancelled => Attempt.note .info .commands "Export cancelled"
  pure outcome

def exportOutput (settings : Settings) (time : Timestamp) (snapshot : String)
    (out : Option String) (limit : Option Nat) : Task String := do
  let settings := withLimit settings.exporting limit
  Task.orExplain "Invalid export options: " settings.validate
  let content ← Task.readFile snapshot
  let recorded ← Task.orFail (Snapshot.ofFile snapshot content)
  let source := Source.ofSnapshot recorded
  match out with
  | some path => do
      let outcome ←
        Task.ofSession (.ofAttempt (saveTo path source settings time))
      let _ ← Task.orFail outcome
      pure ""
  | none => do
      let outcome ←
        Task.ofSession (.ofRun (Export.text source settings time).run)
      let script ← Task.orFail outcome
      pure (script ++ "\n")

/-- The tables that one end of an edge links to, as text. -/
def targetsText (targets : List String) : String :=
  if targets.isEmpty then "any" else String.intercalate ", " targets

def edgeLine (table : TableOutline) : String :=
  let verdict := table.edge
  if verdict.isEdge then
    table.name ++ ": edge (in: " ++ targetsText verdict.inTargets ++
      " | out: " ++ targetsText verdict.outTargets ++ ")"
  else table.name ++ ": table"

/-- What is told about a table and its ends, as JSON. -/
def edgeEntry (table : TableOutline) : Value :=
  let verdict := table.edge
  .object
    [ ("table", .string table.name), ("is_edge", .bool verdict.isEdge),
      ("in_targets", .ofTexts verdict.inTargets),
      ("out_targets", .ofTexts verdict.outTargets) ]

def edgesOutput (path : String) (onlyEdges : Bool) (form : ReportForm) :
    Task String := do
  let tables ← readJson (.list TableOutline.decoder) path
  let shown := tables.filter fun table => table.isEdge || !onlyEdges
  match form with
  | .text => pure (lines (shown.map edgeLine))
  | .json => pure (jsonLine (.array (shown.map edgeEntry)))

def liveOutput (path : String) (form : ReportForm) : Task String := do
  let trees ← readJson (.list .any) path
  let indices := Statement.liveIndices (trees.map Statement.mk)
  match form with
  | .text => pure (lines (indices.map toString))
  | .json =>
      pure (jsonLine (.array
        (indices.map fun index => .number (.integer (index : Nat)))))

def kindsOutput (path : String) (form : ReportForm) : Task String := do
  let tree ← readJson .any path
  let kind ← Task.ofSession (.ofRun (Parser.kindOf tree))
  match form with
  | .text => pure (lines kind.tables)
  | .json => pure (jsonLine (.ofTexts kind.tables))

/-- Does what a command asks for; gives what is to be printed. -/
def Command.task (settings : Settings) (time : Timestamp) :
    Command → Task String
  | .exportSchema snapshot out limit =>
      exportOutput settings time snapshot out limit
  | .listEdges tables onlyEdges form => edgesOutput tables onlyEdges form
  | .listLive ast form => liveOutput ast form
  | .listKinds ast form => kindsOutput ast form
  | .printDefaults => pure Settings.standard.toYaml

/-- Loads the settings and then does what is asked for. -/
def Invocation.task (invocation : Invocation) (time : Timestamp) :
    Task String := do
  let settings ← loadSettings invocation.settingsPath
  invocation.command.task settings time

/-! ## Reports -/

/-- What a run of the program leaves behind. -/
structure Report where
  exitCode : Nat
  output : String
  complaint : String
deriving DecidableEq, Inhabited

namespace Report

/-- The report of a run that ends well or in a complaint. -/
def ofResult : Except Complaint String → Report
  | .ok output => ⟨0, output, ""⟩
  | .error complaint => ⟨1, "", complaint.render ++ "\n"⟩

/-- Stands for the help and for the words about refused arguments, the text of
which is not reproduced. -/
def usage : String :=
  "usage: " ++ programName ++ " [-v] [-c PATH] " ++
    "(export --snapshot PATH [-o PATH] [--max-concurrent N] | " ++
    "edges --tables PATH [--only-edges] [--format text|json] | " ++
    "live --ast PATH [--format text|json] | " ++
    "kinds --ast PATH [--format text|json] | print-default-config)\n"

/-- The report of a run that does nothing because of its words. -/
def ofEnding : Ending → Report
  | .refused => ⟨2, "", usage⟩
  | .version => ⟨0, programName ++ " " ++ version ++ "\n", ""⟩
  | .help => ⟨0, usage, ""⟩

end Report

/-- What the program does at a time, given its words: the filter of its log
and the session that it carries out. -/
def program (words : List String) (wantedLog : Option String)
    (time : Timestamp) : LogFilter × Session Report :=
  match read words with
  | .error ending => (.select wantedLog false, .done (.ofEnding ending))
  | .ok invocation =>
      (.select wantedLog invocation.verbose,
        (invocation.task time).run.bind fun result => .done (.ofResult result))

/-- The program carried out on a folder: the report, the lines of the log that
are shown, and the folder that is left. -/
def runOn (folder : Folder) (words : List String) (wantedLog : Option String)
    (time : Timestamp) : Session.Outcome Report :=
  let (filter, session) := program words wantedLog time
  let outcome := session.on folder
  { outcome with log := outcome.log.filter filter.shows }

end SchemaAtlas.CommandLine
