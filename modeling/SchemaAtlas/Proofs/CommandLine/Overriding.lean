import SchemaAtlas.Proofs.CommandLine.Exporting
import SchemaAtlas.Proofs.Settings.File

/-!
# A limit from the command line

An export takes its limit from the command line if one is given there, and
from the settings file if not.  The settings in the file are checked before
the command line is looked at.  A file that is refused for its own limit is
therefore refused whatever the command line says.

Apart from that the limit in the file does not matter.  Two exports with the
same limit on the command line, one with each of two files that differ at
most in the limit, end alike if the files are both accepted or both refused.
-/

namespace SchemaAtlas

/-! ## Settings that differ in the limit -/

namespace ExportSettings

/-- The settings are the same, except perhaps for the limit. -/
def SameButLimit (first second : ExportSettings) : Prop :=
  second = { first with maxConcurrent := second.maxConcurrent }

/-- The checks of everything but the limit. -/
def validateOthers (settings : ExportSettings) : Except Failure Unit := do
  Check.notBlank "default_file_name" settings.defaultFileName
  Check.notBlank "filter_name" settings.filterName
  Check.entries "extensions" settings.extensions

theorem validate_eq (settings : ExportSettings) :
    settings.validate =
      settings.validateOthers >>= fun _ =>
        Check.positive "max_concurrent_table_queries"
          settings.maxConcurrent := by
  simp only [validate, validateOthers, bind_assoc]

section SameButLimit

variable {first second : ExportSettings}

theorem SameButLimit.validateOthers_eq
    (same : first.SameButLimit second) :
    first.validateOthers = second.validateOthers := by
  rw [same]
  rfl

theorem SameButLimit.withLimit_eq
    (same : first.SameButLimit second) (limit : Nat) :
    CommandLine.withLimit first (some limit) =
      CommandLine.withLimit second (some limit) := by
  rw [same]
  rfl

/-- Two limits that are both zero or both not pass the same checks. -/
theorem SameButLimit.validate_eq_of_zero_iff
    (same : first.SameButLimit second)
    (zero : first.maxConcurrent = 0 ↔ second.maxConcurrent = 0) :
    first.validate = second.validate := by
  simp only [validate_eq, same.validateOthers_eq, Check.positive, zero]

/-- Checks that end in the same verdict end in the same complaint. -/
theorem SameButLimit.validate_eq_of_iff
    (same : first.SameButLimit second)
    (verdict : first.validate = .ok () ↔ second.validate = .ok ()) :
    first.validate = second.validate := by
  cases others : first.validateOthers with
  | error failure =>
      rw [validate_eq, validate_eq, ← same.validateOthers_eq, others]
      rfl
  | ok passed =>
      -- Only the check of the limit is left, so the verdicts are about zero.
      apply same.validate_eq_of_zero_iff
      rw [validate_eq, validate_eq, ← same.validateOthers_eq, others]
        at verdict
      change Check.positive _ _ = _ ↔ Check.positive _ _ = _ at verdict
      rw [Check.positive_eq_ok_iff, Check.positive_eq_ok_iff] at verdict
      omega

end SameButLimit

end ExportSettings

/-- A limit of zero fails the checks, whatever else is set. -/
theorem Settings.invalid_of_zero
    {settings : Settings} (zero : settings.exporting.maxConcurrent = 0) :
    ∃ failure, settings.validate = .error failure := by
  rw [Settings.validate, ExportSettings.validate_eq, zero]
  cases settings.exporting.validateOthers with
  | ok passed => exact ⟨_, rfl⟩
  | error failure => exact ⟨_, rfl⟩

theorem Settings.validate_congr
    {first second : Settings}
    (same : first.exporting.validate = second.exporting.validate) :
    first.validate = second.validate := by
  rw [Settings.validate, Settings.validate, same]

namespace CommandLine

/-! ## How settings are loaded -/

section Loading

variable {folder : Folder} {named : Option String} {settings : Settings}
  {snapshot : String} {out : Option String} {limit : Option Nat}

theorem loadSettings_ends_of_invalid
    {failure : Failure}
    (loaded :
      settingsAt folder (usedSettingsPath folder named) = .ok settings)
    (invalid : settings.validate = .error failure) :
    (loadSettings named).ends folder =
      (.error (.sentence
        ("Configuration validation failed: " ++ failure.message)),
        folder) := by
  have found := (Task.gives_ofSession
    (chooseSettings_on folder named)).ends_of_expected rfl
  have read := (gives_readSettings folder
    (usedSettingsPath folder named)).ends_of_expected loaded
  rw [loadSettings, Task.ends_bind, found]
  change Task.ends (_ >>= _) folder = _
  rw [Task.ends_bind, read]
  change Task.ends (_ >>= _) folder = _
  rw [Task.ends_bind, invalid]
  rfl

/-- With settings that pass their checks an export goes on to its own part. -/
theorem export_ends_of_valid
    (loaded :
      settingsAt folder (usedSettingsPath folder named) = .ok settings)
    (valid : settings.validate = .ok ())
    (verbose : Bool) (time : Timestamp) :
    ((Invocation.mk verbose named (.exportSchema snapshot out limit)).task
        time).ends folder =
      (exportOutput settings time snapshot out limit).ends folder := by
  have isLoaded := (gives_loadSettings folder named).ends_of_expected
    ⟨loaded, settings.validate_eq_ok_iff.1 valid⟩
  rw [Invocation.task, Task.ends_bind, isLoaded]
  rfl

theorem export_ends_of_invalid
    {failure : Failure}
    (loaded :
      settingsAt folder (usedSettingsPath folder named) = .ok settings)
    (invalid : settings.validate = .error failure)
    (verbose : Bool) (time : Timestamp) :
    ((Invocation.mk verbose named (.exportSchema snapshot out limit)).task
        time).ends folder =
      (.error (.sentence
        ("Configuration validation failed: " ++ failure.message)),
        folder) := by
  rw [Invocation.task, Task.ends_bind,
    loadSettings_ends_of_invalid loaded invalid]

end Loading

/-! ## Two folders for one export -/

/--
An export finds the same snapshot in both folders, and cannot tell them apart
by writing its script to the file it is to go to.
-/
structure SameFiles (first second : Folder) (snapshot : String)
    (out : Option String) : Prop where
  reads : first.read snapshot = second.read snapshot
  writes : ∀ path, out = some path → ∀ content fault,
    first.write path content = .error fault ↔
      second.write path content = .error fault

/-- Both folders are left as they are, or the same file is written to both. -/
inductive LeftAlike (first second : Folder) (out : Option String) :
    Folder → Folder → Prop where
  | kept : LeftAlike first second out first second
  | written {path script : String} {changed changedOther : Folder}
      (isOut : out = some path)
      (writes : first.write path script = .ok changed)
      (writesOther : second.write path script = .ok changedOther) :
      LeftAlike first second out changed changedOther

section TwoFolders

variable {first second : Folder} {snapshot : String} {out : Option String}

theorem deliverExport_endsAlike
    (same : SameFiles first second snapshot out) (time : Timestamp)
    (settings : ExportSettings) (recorded : Snapshot) :
    (deliverExport out time settings recorded).EndsAlike first second
      (LeftAlike first second out) := by
  rw [Task.EndsAlike]
  cases built : (Export.text (.ofSnapshot recorded) settings time).outcome with
  | error failure =>
      rw [deliverExport_of_unbuilt out first built,
        deliverExport_of_unbuilt out second built]
      exact ⟨rfl, .kept⟩
  | ok script =>
      cases out with
      | none =>
          rw [deliverExport_none_of_built first built,
            deliverExport_none_of_built second built]
          exact ⟨rfl, .kept⟩
      | some path =>
          have faults := same.writes path rfl script
          cases writes : first.write path script with
          | error fault =>
              have writesOther := (faults fault).1 writes
              rw [deliverExport_some_of_unwritten built writes,
                deliverExport_some_of_unwritten built writesOther]
              exact ⟨rfl, .kept⟩
          | ok changed =>
              cases writesOther : second.write path script with
              | error fault =>
                  rw [(faults fault).2 writesOther] at writes
                  cases writes
              | ok changedOther =>
                  rw [deliverExport_some_of_written built writes,
                    deliverExport_some_of_written built writesOther]
                  exact ⟨rfl, .written rfl writes writesOther⟩

theorem exportOutput_endsAlike
    (same : SameFiles first second snapshot out) (settings : Settings)
    (time : Timestamp) (limit : Option Nat) :
    (exportOutput settings time snapshot out limit).EndsAlike first second
      (LeftAlike first second out) := by
  apply (Task.answersAlike_orExplain _ _).bind .kept
  intro passed
  -- The snapshot is the only file that is read behind the settings.
  apply (Task.answersAlike_readFile same.reads).bind .kept
  intro content
  apply (Task.answersAlike_orFail _).bind .kept
  intro recorded
  exact deliverExport_endsAlike same time _ recorded

theorem exportOutput_eq_of_sameButLimit
    {settings other : Settings}
    (differ : settings.exporting.SameButLimit other.exporting)
    (limit : Nat) (time : Timestamp) :
    exportOutput settings time snapshot out (some limit) =
      exportOutput other time snapshot out (some limit) := by
  simp only [exportOutput, differ.withLimit_eq]

end TwoFolders

/-! ## Two files for one limit -/

/-- With one verdict on both files, the limits in them do not matter. -/
theorem exports_end_alike
    {firstFolder secondFolder : Folder} {first second : Settings}
    {firstNamed secondNamed out : Option String} {snapshot : String}
    (firstLoaded :
      settingsAt firstFolder (usedSettingsPath firstFolder firstNamed) =
        .ok first)
    (secondLoaded :
      settingsAt secondFolder (usedSettingsPath secondFolder secondNamed) =
        .ok second)
    (differ : first.exporting.SameButLimit second.exporting)
    (same : SameFiles firstFolder secondFolder snapshot out)
    (checks : first.validate = second.validate)
    (firstVerbose secondVerbose : Bool) (limit : Nat) (time : Timestamp) :
    let command := Command.exportSchema snapshot out (some limit)
    let one := ((Invocation.mk firstVerbose firstNamed command).task
      time).ends firstFolder
    let other := ((Invocation.mk secondVerbose secondNamed command).task
      time).ends secondFolder
    one.1 = other.1 ∧
      LeftAlike firstFolder secondFolder out one.2 other.2 := by
  intro command one other
  cases valid : first.validate with
  | ok passed =>
      have oneEnds : one = (exportOutput first time snapshot out
          (some limit)).ends firstFolder :=
        export_ends_of_valid firstLoaded valid firstVerbose time
      have otherEnds : other = (exportOutput second time snapshot out
          (some limit)).ends secondFolder :=
        export_ends_of_valid secondLoaded (checks ▸ valid) secondVerbose time
      rw [oneEnds, otherEnds, exportOutput_eq_of_sameButLimit differ]
      exact exportOutput_endsAlike same second time (some limit)
  | error failure =>
      have oneEnds : one = (.error _, firstFolder) :=
        export_ends_of_invalid firstLoaded valid firstVerbose time
      have otherEnds : other = (.error _, secondFolder) :=
        export_ends_of_invalid secondLoaded (checks ▸ valid)
          secondVerbose time
      rw [oneEnds, otherEnds]
      exact ⟨rfl, .kept⟩

/--
Two exports with the same limit on the command line and with settings that
differ at most in the limit report the same and write the same, provided that
the settings of both files pass their own checks or those of both fail.  The
verdicts on the two files can only differ if one of the limits is zero.  A
file whose settings fail, as they do with a limit of zero, is refused before
the limit on the command line is looked at.
-/
theorem limit_overrides_accepted_file
    {firstFolder secondFolder : Folder} {first second : Settings}
    {firstWords secondWords : List String} {firstVerbose secondVerbose : Bool}
    {firstNamed secondNamed out : Option String} {snapshot : String}
    {limit : Nat}
    (firstRead : read firstWords = .ok
      ⟨firstVerbose, firstNamed, .exportSchema snapshot out (some limit)⟩)
    (secondRead : read secondWords = .ok
      ⟨secondVerbose, secondNamed, .exportSchema snapshot out (some limit)⟩)
    (firstLoaded :
      settingsAt firstFolder (usedSettingsPath firstFolder firstNamed) =
        .ok first)
    (secondLoaded :
      settingsAt secondFolder (usedSettingsPath secondFolder secondNamed) =
        .ok second)
    (differ : first.exporting.SameButLimit second.exporting)
    (same : SameFiles firstFolder secondFolder snapshot out)
    (firstLog secondLog : Option String) (time : Timestamp) :
    let one := runOn firstFolder firstWords firstLog time
    let other := runOn secondFolder secondWords secondLog time
    ((first.validate = .ok () ↔ second.validate = .ok ()) →
      one.result = other.result ∧
        LeftAlike firstFolder secondFolder out one.folder other.folder) ∧
    ((first.exporting.maxConcurrent = 0 ↔
        second.exporting.maxConcurrent = 0) →
      (first.validate = .ok () ↔ second.validate = .ok ())) ∧
    (∀ failure, first.validate = .error failure →
      one.result =
          ⟨1, "", "Error: Configuration validation failed: " ++
            failure.message ++ "\n"⟩ ∧
        one.folder = firstFolder) ∧
    (first.exporting.maxConcurrent = 0 →
      ∃ failure, first.validate = .error failure) := by
  intro one other
  have oneEnds := runOn_of_read firstRead firstFolder firstLog time
  have otherEnds := runOn_of_read secondRead secondFolder secondLog time
  refine ⟨?_, ?_, ?_, ?_⟩
  · intro verdict
    rw [Settings.validate_eq_ok_iff, Settings.validate_eq_ok_iff,
      ← ExportSettings.validate_eq_ok_iff,
      ← ExportSettings.validate_eq_ok_iff] at verdict
    have checks : first.validate = second.validate :=
      Settings.validate_congr (differ.validate_eq_of_iff verdict)
    rcases exports_end_alike firstLoaded secondLoaded differ same checks
      firstVerbose secondVerbose limit time with ⟨alike, leaves⟩
    constructor
    · rw [oneEnds.1, otherEnds.1, alike]
    · rw [oneEnds.2, otherEnds.2]
      exact leaves
  · intro zero
    rw [Settings.validate_congr (differ.validate_eq_of_zero_iff zero)]
  · intro failure invalid
    rw [export_ends_of_invalid firstLoaded invalid] at oneEnds
    constructor
    · rw [oneEnds.1, Report.ofResult, Complaint.render,
        String.append_assoc, String.append_assoc]
      rfl
    · exact oneEnds.2
  · intro zero
    exact Settings.invalid_of_zero zero

/-- A named file and a standard one, and the same script in either folder. -/
theorem limit_overrides_accepted_file_two_folders :
    let recorded := Snapshot.empty.withTable "a" "DEFINE TABLE a" .empty
    let files (name content : String) : Folder :=
      ⟨[([name], .file (some content)),
        (["s.json"], .file (some recorded.render))]⟩
    let first := files "one.yml" "export:\n  max_concurrent_table_queries: 1\n"
    let second := files ".surql-introspect.yml" "export:\n"
    let words := ["export", "--snapshot", "s.json", "-o", "a.surql",
      "--max-concurrent", "2"]
    let one := runOn first ("--config" :: "one.yml" :: words) none default
    let other := runOn second words none default
    one.result = other.result ∧
      LeftAlike first second (some "a.surql") one.folder other.folder := by
  intro recorded files first second words one other
  have firstRead : read ("--config" :: "one.yml" :: words) = .ok
      ⟨false, some "one.yml",
        .exportSchema "s.json" (some "a.surql") (some 2)⟩ := by
    decide
  have secondRead : read words = .ok
      ⟨false, none, .exportSchema "s.json" (some "a.surql") (some 2)⟩ := by
    decide
  have firstLoaded :
      settingsAt first (usedSettingsPath first (some "one.yml")) =
        .ok ⟨{ ExportSettings.standard with maxConcurrent := 1 }⟩ := by
    apply Settings.load_of_read rfl
    decide +kernel
  have secondLoaded :
      settingsAt second (usedSettingsPath second none) =
        .ok .standard := by
    apply Settings.load_of_read rfl
    decide +kernel
  have same : SameFiles first second "s.json" (some "a.surql") := by
    constructor
    · rfl
    · rintro path ⟨⟩ content fault
      exact iff_of_false nofun nofun
  rcases limit_overrides_accepted_file firstRead secondRead firstLoaded
    secondLoaded rfl same none none default with ⟨agree, -, -, -⟩
  exact agree (iff_of_true rfl rfl)

/-- A file with a limit of zero is refused, though another limit is given. -/
theorem not_all_limits_override :
    ¬ ∀ (folder : Folder) (firstPath secondPath snapshot : String)
        (first second : Settings) (limit : Nat)
        (firstWords secondWords : List String) (time : Timestamp),
      Settings.load folder firstPath = .ok first →
      Settings.load folder secondPath = .ok second →
      first.exporting.SameButLimit second.exporting →
      read firstWords = .ok
        ⟨false, some firstPath, .exportSchema snapshot none (some limit)⟩ →
      read secondWords = .ok
        ⟨false, some secondPath, .exportSchema snapshot none (some limit)⟩ →
      (runOn folder firstWords none time).result.exitCode =
          (runOn folder secondWords none time).result.exitCode ∧
        (runOn folder firstWords none time).result.output =
          (runOn folder secondWords none time).result.output := by
  intro override
  let refusing : Settings :=
    ⟨{ ExportSettings.standard with maxConcurrent := 0 }⟩
  let folder : Folder :=
    ⟨[(["a.yml"],
        .file (some "export:\n  max_concurrent_table_queries: 0\n")),
      (["b.yml"],
        .file (some "export:\n  max_concurrent_table_queries: 4\n")),
      (["s.json"], .file (some Snapshot.empty.render))]⟩
  let words (path : String) : List String :=
    ["--config", path, "export", "--snapshot", "s.json",
      "--max-concurrent", "2"]
  have firstRead : read (words "a.yml") =
      .ok ⟨false, some "a.yml", .exportSchema "s.json" none (some 2)⟩ := by
    decide
  have secondRead : read (words "b.yml") =
      .ok ⟨false, some "b.yml", .exportSchema "s.json" none (some 2)⟩ := by
    decide
  have firstLoaded : Settings.load folder "a.yml" = .ok refusing := by
    apply Settings.load_of_read rfl
    decide +kernel
  have secondLoaded : Settings.load folder "b.yml" = .ok .standard := by
    apply Settings.load_of_read rfl
    decide +kernel
  have exportable : Exportable folder (some "b.yml") "s.json" (some 2) := by
    have valid := (Settings.validate_eq_ok_iff .standard).1 rfl
    refine ⟨.standard, .empty, ⟨secondLoaded, valid, ?_, ?_⟩, ?_⟩
    · rintro number ⟨⟩
      exact (ExportSettings.validate_eq_ok_iff _).1 rfl
    · exact Snapshot.load_of_read rfl
    · simp only [Snapshot.Complete]
      decide
  rcases export_of_exportable exportable default with ⟨script, -, prints, -⟩
  have refused := (runOn_of_read firstRead folder none default).1
  have printed := (runOn_of_read secondRead folder none default).1
  have firstUsed :
      settingsAt folder (usedSettingsPath folder (some "a.yml")) =
        .ok refusing := firstLoaded
  have zero : refusing.exporting.maxConcurrent = 0 := rfl
  rcases Settings.invalid_of_zero zero with ⟨failure, invalid⟩
  rw [export_ends_of_invalid firstUsed invalid] at refused
  rw [prints] at printed
  have sameCode := (override folder "a.yml" "b.yml" "s.json" _ _ 2 _ _ default
    firstLoaded secondLoaded rfl firstRead secondRead).1
  rw [refused, printed] at sameCode
  cases sameCode

end CommandLine

end SchemaAtlas
