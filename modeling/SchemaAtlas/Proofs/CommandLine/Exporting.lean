import SchemaAtlas.Proofs.CommandLine.Task
import SchemaAtlas.Proofs.Folder
import SchemaAtlas.Proofs.Recorded
import SchemaAtlas.Proofs.Saving
import SchemaAtlas.Proofs.Settings
import SchemaAtlas.Proofs.Snapshot

/-!
# Exports printed and exports saved

An export from the command line works on settings, a limit and a snapshot.
`Exportable` lists what has to hold of them.  All of it is looked at before
anything is printed or written, and none of the tasks that look change the
folder.  The script is built before the first file is touched, since reading
a snapshot does nothing but write to the log.

The last theorem puts the two kinds of export side by side.  Both succeed if
what they work on is `Exportable`, the one that saves only if the file can be
written; what the one prints is what the other writes, and an export that
fails prints and changes nothing.
-/

namespace SchemaAtlas.CommandLine

/-! ## The file that an export writes -/

theorem Session.firstWrite?_append (first second : List Act) :
    Session.firstWrite? (first ++ second) =
      (Session.firstWrite? first).or (Session.firstWrite? second) :=
  List.findSome?_append

theorem Session.firstWrite?_of_onlyNotes
    {α : Type} {attempt : Attempt α} (only : attempt.OnlyDoes Act.IsNote) :
    Session.firstWrite? attempt.acts = none := by
  rw [Session.firstWrite?, List.findSome?_eq_none_iff]
  intro done member
  rcases only done member with ⟨line, rfl⟩
  rfl

theorem Session.on_ofRun_of_outcome
    {α : Type} {attempt : Attempt α} {result : Except Failure α}
    (ended : attempt.outcome = result) (folder : Folder) :
    (Session.ofRun attempt.run).on folder =
      ⟨result, attempt.run.log, folder⟩ := by
  rw [Session.on_ofRun, ← ended]
  rfl

section Saving

variable {recorded : Snapshot} {settings : ExportSettings}
  {time : Timestamp} {path script : String}

/-- Saving an export succeeds if its script is built and can be written. -/
theorem saveTo_outcome
    (source : Source) (writing : Except FileFault Unit) :
    (saveTo path source settings time writing).outcome =
      (Export.text source settings time).outcome >>= fun script =>
        match writing with
        | .ok () => .ok (.saved path script.utf8ByteSize)
        | .error fault => .error (SaveTarget.writeFailure path fault) := by
  rw [saveTo, Attempt.outcome_bind, Export.save_eq_bind_deliver,
    Attempt.outcome_bind]
  cases (Export.text source settings time).outcome with
  | error failure => rfl
  | ok script =>
      cases writing with
      | ok nothing => rfl
      | error fault => rfl

/-- The first file that is written is that of the whole script, if any. -/
theorem firstWrite?_saveTo (writing : Except FileFault Unit) :
    Session.firstWrite?
        (saveTo path (.ofSnapshot recorded) settings time writing).acts =
      match (Export.text (.ofSnapshot recorded) settings time).outcome with
      | .ok script => some (path, script)
      | .error _ => none := by
  rw [saveTo, Attempt.acts_bind, Export.save_eq_bind_deliver,
    Attempt.acts_bind, Attempt.outcome_bind, Session.firstWrite?_append,
    Session.firstWrite?_append,
    Session.firstWrite?_of_onlyNotes
      (recorded.text_ofSnapshot_onlyNotes settings time)]
  -- Building writes no file, so the first one is written behind it.
  cases (Export.text (.ofSnapshot recorded) settings time).outcome with
  | ok script => rfl
  | error failure => rfl

end Saving

/-! ## What an export works on -/

/-- The settings file that is used: the named one, or else the first standard
one that is there. -/
def usedSettingsPath (folder : Folder) : Option String → Option String
  | some path => some path
  | none => standardSettingsPaths.find? folder.has

/-- The settings in a file, or the standard ones if there is no file. -/
def settingsAt (folder : Folder) : Option String → Except Failure Settings
  | some path => Settings.load folder path
  | none => .ok .standard

/--
The settings and the snapshot of an export are there and in order.  So are the
settings with the limit from the command line, if one is given there.
-/
structure ExportInputs (folder : Folder) (named : Option String)
    (snapshot : String) (limit : Option Nat) (settings : Settings)
    (recorded : Snapshot) : Prop where
  loaded : settingsAt folder (usedSettingsPath folder named) = .ok settings
  valid : settings.exporting.Valid
  limited : ∀ number, limit = some number →
    ExportSettings.Valid { settings.exporting with maxConcurrent := number }
  decoded : Snapshot.load folder snapshot = .ok recorded

/-- All that has to hold for an export to succeed. -/
def Exportable (folder : Folder) (named : Option String) (snapshot : String)
    (limit : Option Nat) : Prop :=
  ∃ settings recorded,
    ExportInputs folder named snapshot limit settings recorded ∧
      recorded.Complete

/--
The text is the script of the recorded tables.  Everything that the export
takes is there.
-/
def Exports (folder : Folder) (named : Option String) (snapshot : String)
    (limit : Option Nat) (time : Timestamp) (script : String) : Prop :=
  ∃ settings recorded,
    ExportInputs folder named snapshot limit settings recorded ∧
      recorded.Complete ∧
      Script.WholeText settings.exporting.banner time recorded.schemas script

theorem Exports.exportable
    {folder : Folder} {named : Option String} {snapshot : String}
    {limit : Option Nat} {time : Timestamp} {script : String}
    (exports : Exports folder named snapshot limit time script) :
    Exportable folder named snapshot limit := by
  rcases exports with ⟨settings, recorded, present, complete, -⟩
  exact ⟨settings, recorded, present, complete⟩

/-- Settings in order stay so if the limit that is given is in order too. -/
theorem validate_withLimit_iff
    {settings : ExportSettings} (valid : settings.Valid)
    (limit : Option Nat) :
    (withLimit settings limit).validate = .ok () ↔
      ∀ number, limit = some number →
        ExportSettings.Valid { settings with maxConcurrent := number } := by
  rw [ExportSettings.validate_eq_ok_iff]
  cases limit with
  | none => exact iff_of_true valid nofun
  | some number =>
      constructor
      · rintro limited other ⟨⟩
        exact limited
      · intro limited
        exact limited number rfl

theorem banner_withLimit (settings : ExportSettings) (limit : Option Nat) :
    (withLimit settings limit).banner = settings.banner := by
  cases limit with
  | none => rfl
  | some number => rfl

section Inputs

variable (folder : Folder) (named : Option String) (snapshot : String)
  (limit : Option Nat)

theorem firstPresent_on (paths : List String) :
    (firstPresent paths).on folder =
      ⟨paths.find? folder.has, [], folder⟩ := by
  induction paths with
  | nil => rfl
  | cons path rest induction =>
      rw [firstPresent, Session.on, List.find?_cons]
      cases folder.has path with
      | true => rfl
      | false => exact induction

theorem chooseSettings_on :
    (chooseSettings named).on folder =
      ⟨usedSettingsPath folder named, [], folder⟩ := by
  cases named with
  | some path => rfl
  | none => exact firstPresent_on folder standardSettingsPaths

theorem gives_readSettings (path : Option String) :
    (readSettings path).Gives folder
      fun settings => settingsAt folder path = .ok settings := by
  cases path with
  | none =>
      apply (Task.gives_pure Settings.standard folder).congr
      intro settings
      rw [settingsAt, Except.ok.injEq]
      exact eq_comm
  | some path =>
      exact (Task.gives_note _ _ _ folder).bind_value
        ((Task.gives_readFile path folder).bind_value
          (Task.gives_orExplain _ _ folder))

/-- The settings that are loaded are the used ones, if they are in order. -/
theorem gives_loadSettings :
    (loadSettings named).Gives folder fun settings =>
      settingsAt folder (usedSettingsPath folder named) = .ok settings ∧
        settings.exporting.Valid := by
  apply ((Task.gives_ofSession (chooseSettings_on folder named)).bind_value
    ((gives_readSettings folder _).bind fun settings _ =>
      (Task.gives_orExplain _ settings.validate folder).bind fun _ _ =>
        Task.gives_pure settings folder)).congr
  intro settings
  constructor
  · rintro ⟨_, loaded, _, valid, rfl⟩
    exact ⟨loaded, settings.validate_eq_ok_iff.1 valid⟩
  · rintro ⟨loaded, valid⟩
    exact ⟨settings, loaded, (), settings.validate_eq_ok_iff.2 valid, rfl⟩

/-- Looks at the settings and the snapshot of an export. -/
def exportInputs : Task (Settings × Snapshot) := do
  let settings ← loadSettings named
  Task.orExplain "Invalid export options: "
    (withLimit settings.exporting limit).validate
  let content ← Task.readFile snapshot
  let recorded ← Task.orFail (Snapshot.ofFile snapshot content)
  pure (settings, recorded)

theorem gives_exportInputs :
    (exportInputs named snapshot limit).Gives folder fun given =>
      ExportInputs folder named snapshot limit given.1 given.2 := by
  apply ((gives_loadSettings folder named).bind fun settings _ =>
    (Task.gives_orExplain _ _ folder).bind fun _ _ =>
      (Task.gives_readFile snapshot folder).bind_value
        ((Task.gives_orFail _ folder).bind fun recorded _ =>
          Task.gives_pure (settings, recorded) folder)).congr
  rintro ⟨settings, recorded⟩
  constructor
  · rintro ⟨_, ⟨loaded, valid⟩, _, limited, _, decoded, isGiven⟩
    cases isGiven
    exact ⟨loaded, valid, (validate_withLimit_iff valid limit).1 limited,
      decoded⟩
  · rintro ⟨loaded, valid, limited, decoded⟩
    exact ⟨settings, ⟨loaded, valid⟩, (),
      (validate_withLimit_iff valid limit).2 limited, recorded, decoded, rfl⟩

end Inputs

/-! ## What an export does with it -/

/-- Prints the script of a recorded schema, or saves it to a file. -/
def deliverExport (out : Option String) (time : Timestamp)
    (settings : ExportSettings) (recorded : Snapshot) : Task String :=
  match out with
  | some path => do
      let outcome ← Task.ofSession
        (.ofAttempt (saveTo path (.ofSnapshot recorded) settings time))
      let _ ← Task.orFail outcome
      pure ""
  | none => do
      let outcome ← Task.ofSession
        (.ofRun (Export.text (.ofSnapshot recorded) settings time).run)
      let script ← Task.orFail outcome
      pure (script ++ "\n")

/-- An export looks at what it works on before it does anything else. -/
theorem export_task_eq
    (verbose : Bool) (named : Option String) (snapshot : String)
    (out : Option String) (limit : Option Nat) (time : Timestamp) :
    (Invocation.mk verbose named (.exportSchema snapshot out limit)).task
        time =
      exportInputs named snapshot limit >>= fun given =>
        deliverExport out time (withLimit given.1.exporting limit)
          given.2 := by
  simp only [Invocation.task, Command.task, exportOutput, exportInputs,
    bind_assoc, pure_bind]
  rfl

section Delivering

variable {recorded : Snapshot} {settings : ExportSettings}
  {time : Timestamp} {folder : Folder} {path script : String}

/-- Without a script there is nothing to print and nothing to write. -/
theorem deliverExport_of_unbuilt
    {failure : Failure} (out : Option String) (folder : Folder)
    (unbuilt : (Export.text (.ofSnapshot recorded) settings time).outcome =
      .error failure) :
    (deliverExport out time settings recorded).ends folder =
      (.error (.failure failure), folder) := by
  cases out with
  | none =>
      have ended := Session.on_ofRun_of_outcome unbuilt folder
      exact Task.ends_of_session_error ended _
  | some path =>
      have saving : (saveTo path (.ofSnapshot recorded) settings time
          (.ok ())).outcome = .error failure := by
        rw [saveTo_outcome, unbuilt]
        rfl
      have ended := Session.on_ofRun_of_outcome saving folder
      rw [deliverExport, Session.ofAttempt, firstWrite?_saveTo, unbuilt]
      exact Task.ends_of_session_error ended _

theorem deliverExport_none_of_built
    (folder : Folder)
    (built : (Export.text (.ofSnapshot recorded) settings time).outcome =
      .ok script) :
    (deliverExport none time settings recorded).ends folder =
      (.ok (script ++ "\n"), folder) := by
  have ended := Session.on_ofRun_of_outcome built folder
  exact Task.ends_of_session_ok ended _

theorem deliverExport_some_of_written
    {changed : Folder}
    (built : (Export.text (.ofSnapshot recorded) settings time).outcome =
      .ok script)
    (written : folder.write path script = .ok changed) :
    (deliverExport (some path) time settings recorded).ends folder =
      (.ok "", changed) := by
  have saving : (saveTo path (.ofSnapshot recorded) settings time
      (.ok ())).outcome = .ok (.saved path script.utf8ByteSize) := by
    rw [saveTo_outcome, built]
    rfl
  have ended := Session.on_ofRun_of_outcome saving changed
  rw [deliverExport, Session.ofAttempt, firstWrite?_saveTo, built]
  apply Task.ends_of_session_ok
  rw [Session.on, written]
  exact ended

/-- A failure to write leaves the folder as it was. -/
theorem deliverExport_some_of_unwritten
    {fault : FileFault}
    (built : (Export.text (.ofSnapshot recorded) settings time).outcome =
      .ok script)
    (unwritten : folder.write path script = .error fault) :
    (deliverExport (some path) time settings recorded).ends folder =
      (.error (.failure (SaveTarget.writeFailure path fault)), folder) := by
  have saving : (saveTo path (.ofSnapshot recorded) settings time
      (.error fault)).outcome =
        .error (SaveTarget.writeFailure path fault) := by
    rw [saveTo_outcome, built]
    rfl
  have ended := Session.on_ofRun_of_outcome saving folder
  rw [deliverExport, Session.ofAttempt, firstWrite?_saveTo, built]
  apply Task.ends_of_session_error
  rw [Session.on, unwritten]
  exact ended

end Delivering

/-! ## Exports side by side -/

section Exporting

variable {folder : Folder} {named : Option String} {snapshot : String}
  {limit : Option Nat}

/-- With what it takes, an export prints its script or writes it. -/
theorem export_of_exportable
    (exportable : Exportable folder named snapshot limit)
    (time : Timestamp) :
    ∃ script, Exports folder named snapshot limit time script ∧
      (∀ verbose,
        ((Invocation.mk verbose named
          (.exportSchema snapshot none limit)).task time).ends folder =
          (.ok (script ++ "\n"), folder)) ∧
      ∀ verbose out,
        ((Invocation.mk verbose named
          (.exportSchema snapshot (some out) limit)).task time).ends folder =
          match folder.write out script with
          | .ok changed => (.ok "", changed)
          | .error fault =>
              (.error (.failure (SaveTarget.writeFailure out fault)),
                folder) := by
  rcases exportable with ⟨settings, recorded, present, complete⟩
  let script := (Script.ofTables settings.exporting.banner time
    recorded.schemas).text
  have whole : Script.WholeText settings.exporting.banner time
      recorded.schemas script :=
    Script.wholeText_iff.2 rfl
  have built : (Export.text (.ofSnapshot recorded)
      (withLimit settings.exporting limit) time).outcome = .ok script := by
    apply (Source.text_eq_ok_iff _ _ _ _).2
    refine ⟨_, complete.describes, ?_⟩
    rw [banner_withLimit]
  have inputs : (exportInputs named snapshot limit).ends folder =
      (.ok (settings, recorded), folder) :=
    (gives_exportInputs folder named snapshot limit).ends_of_expected present
  refine ⟨script, ⟨settings, recorded, present, complete, whole⟩, ?_, ?_⟩
  · intro verbose
    rw [export_task_eq, Task.ends_bind, inputs]
    exact deliverExport_none_of_built folder built
  · intro verbose out
    rw [export_task_eq, Task.ends_bind, inputs]
    cases writing : folder.write out script with
    | ok changed => exact deliverExport_some_of_written built writing
    | error fault => exact deliverExport_some_of_unwritten built writing

/-- A run of the program reports how its task ends. -/
theorem runOn_of_read
    {words : List String} {invocation : Invocation}
    (isRead : read words = .ok invocation)
    (folder : Folder) (wantedLog : Option String) (time : Timestamp) :
    (runOn folder words wantedLog time).result =
        .ofResult ((invocation.task time).ends folder).1 ∧
      (runOn folder words wantedLog time).folder =
        ((invocation.task time).ends folder).2 := by
  rw [runOn, program, isRead]
  simp only [Session.on_bind]
  exact ⟨rfl, rfl⟩

variable {words wordsOut : List String} {verbose verboseOut : Bool}
  {out : String}

end Exporting

end SchemaAtlas.CommandLine
