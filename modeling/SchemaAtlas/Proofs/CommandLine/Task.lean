import SchemaAtlas.CommandLine.Program

/-!
# What tasks give

A task is carried out on a folder; `Task.ends` says how it ends there and
which folder it leaves.

Most tasks only look at the folder.  `Task.Gives` says of such a task exactly
which values it may give: it gives a value if the value is as expected, ends
in a complaint if there is no such value, and leaves the folder as it was in
both cases.  What a sequence of such tasks gives follows from what its parts
give, so that no intermediate complaint has to be followed by hand.

A task may also be carried out on two folders.  Where its parts cannot tell
the folders apart, neither can the whole.
-/

namespace SchemaAtlas.CommandLine

namespace Task

variable {α β : Type} {task : Task α} {next : α → Task β}
  {folder left : Folder}

/-- How a task ends on a folder, and the folder that it leaves. -/
def ends (task : Task α) (folder : Folder) : Except Complaint α × Folder :=
  ((task.run.on folder).result, (task.run.on folder).folder)

/-- A task goes on with what its first part gives, or ends with it. -/
theorem ends_bind (task : Task α) (next : α → Task β) (folder : Folder) :
    (task >>= next).ends folder =
      match task.ends folder with
      | (.ok value, left) => (next value).ends left
      | (.error complaint, left) => (.error complaint, left) := by
  simp only [ends, ExceptT.run_bind]
  change
    (((Session.bind task.run _).on folder).result,
      ((Session.bind task.run _).on folder).folder) = _
  rw [Session.on_bind]
  cases (task.run.on folder).result with
  | ok value => rfl
  | error complaint => rfl

@[simp]
theorem ends_ofSession (session : Session α) (folder : Folder) :
    (ofSession session).ends folder =
      (.ok (session.on folder).result, (session.on folder).folder) := by
  change
    (((Session.bind session _).on folder).result,
      ((Session.bind session _).on folder).folder) = _
  rw [Session.on_bind]
  rfl

theorem ends_of_session_ok
    {session : Session (Except Failure α)} {value : α} {log : List LogLine}
    (ended : session.on folder = ⟨.ok value, log, left⟩)
    (next : α → Task β) :
    (do next (← orFail (← ofSession session)) : Task β).ends folder =
      (next value).ends left := by
  rw [ends_bind, ends_ofSession, ended]
  rfl

/-- A failure in a session ends the task and leaves what the session left. -/
theorem ends_of_session_error
    {session : Session (Except Failure α)} {failure : Failure}
    {log : List LogLine}
    (ended : session.on folder = ⟨.error failure, log, left⟩)
    (next : α → Task β) :
    (do next (← orFail (← ofSession session)) : Task β).ends folder =
      (.error (.failure failure), left) := by
  rw [ends_bind, ends_ofSession, ended]
  rfl

/-! ## Tasks that leave the folder as it is -/

/--
The task leaves the folder as it is and gives exactly the expected values.
There can be only one of them, as a task ends in one way.
-/
def Gives (task : Task α) (folder : Folder) (expected : α → Prop) : Prop :=
  ∃ result, task.ends folder = (result, folder) ∧
    ∀ value, result = .ok value ↔ expected value

namespace Gives

variable {expected : α → Prop}

theorem congr
    {other : α → Prop} (gives : task.Gives folder expected)
    (same : ∀ value, expected value ↔ other value) :
    task.Gives folder other := by
  rcases gives with ⟨result, ended, exactly⟩
  exact ⟨result, ended, fun value => (exactly value).trans (same value)⟩

theorem ends_of_expected
    {value : α} (gives : task.Gives folder expected)
    (isExpected : expected value) :
    task.ends folder = (.ok value, folder) := by
  rcases gives with ⟨result, ended, exactly⟩
  rw [ended, (exactly value).2 isExpected]

/-- What both parts of a task are expected to give, one after the other. -/
theorem bind
    {behind : α → β → Prop} (first : task.Gives folder expected)
    (second : ∀ value, expected value →
      (next value).Gives folder (behind value)) :
    (task >>= next).Gives folder
      fun result => ∃ value, expected value ∧ behind value result := by
  rcases first with ⟨result, ended, exactly⟩
  cases result with
  | error complaint =>
      refine ⟨.error complaint, ?_, ?_⟩
      · rw [ends_bind, ended]
      · intro value
        constructor
        · intro impossible
          cases impossible
        · rintro ⟨value, isExpected, -⟩
          cases (exactly value).2 isExpected
  | ok value =>
      have isExpected := (exactly value).1 rfl
      rcases second value isExpected with ⟨result, endedThen, exactlyThen⟩
      refine ⟨result, ?_, ?_⟩
      · rw [ends_bind, ended]
        exact endedThen
      · intro given
        rw [exactlyThen]
        constructor
        · intro follows
          exact ⟨value, isExpected, follows⟩
        · rintro ⟨other, otherExpected, follows⟩
          cases (exactly other).2 otherExpected
          exact follows

/-- What follows a task that gives one value at all events. -/
theorem bind_value
    {value : α} {behind : β → Prop}
    (first : task.Gives folder fun given => given = value)
    (second : (next value).Gives folder behind) :
    (task >>= next).Gives folder behind := by
  have both : (task >>= next).Gives folder
      fun result => ∃ given, given = value ∧ behind result :=
    first.bind fun given same => by
      cases same
      exact second
  apply both.congr
  intro result
  simp

end Gives

theorem gives_pure (value : α) (folder : Folder) :
    (pure value : Task α).Gives folder fun given => given = value := by
  refine ⟨.ok value, rfl, ?_⟩
  intro given
  constructor
  · intro same
    cases same
    rfl
  · rintro rfl
    rfl

theorem gives_ofSession
    {session : Session α} {result : α} {log : List LogLine}
    (ends : session.on folder = ⟨result, log, folder⟩) :
    (ofSession session).Gives folder fun given => given = result := by
  refine ⟨.ok result, ?_, ?_⟩
  · rw [ends_ofSession, ends]
  · intro given
    rw [Except.ok.injEq]
    exact eq_comm

theorem gives_orFail (outcome : Except Failure α) (folder : Folder) :
    (orFail outcome).Gives folder fun given => outcome = .ok given := by
  cases outcome with
  | ok value => exact ⟨.ok value, rfl, by simp⟩
  | error failure => exact ⟨.error (.failure failure), rfl, by simp⟩

theorem gives_orExplain
    (start : String) (outcome : Except Failure α) (folder : Folder) :
    (orExplain start outcome).Gives folder
      fun given => outcome = .ok given := by
  cases outcome with
  | ok value => exact ⟨.ok value, rfl, by simp⟩
  | error failure => exact ⟨.error _, rfl, by simp⟩

theorem gives_readFile (path : String) (folder : Folder) :
    (readFile path).Gives folder fun given => given = folder.read path :=
  gives_ofSession rfl

theorem gives_note
    (level : Level) (topic : Topic) (text : String) (folder : Folder) :
    (note level topic text).Gives folder fun given => given = () :=
  gives_ofSession rfl

/-! ## One task on two folders -/

/--
The task ends alike on the two folders, and the folders that it leaves are
related.
-/
def EndsAlike (task : Task α) (first second : Folder)
    (left : Folder → Folder → Prop) : Prop :=
  (task.ends first).1 = (task.ends second).1 ∧
    left (task.ends first).2 (task.ends second).2

/-- The task ends alike on the two folders and leaves both as they are. -/
def AnswersAlike (task : Task α) (first second : Folder) : Prop :=
  ∃ result, task.ends first = (result, first) ∧
    task.ends second = (result, second)

section TwoFolders

variable {first second : Folder} {leave : Folder → Folder → Prop}

theorem AnswersAlike.bind
    (answers : task.AnswersAlike first second) (kept : leave first second)
    (behind : ∀ value, (next value).EndsAlike first second leave) :
    (task >>= next).EndsAlike first second leave := by
  rcases answers with ⟨result, ended, endedOther⟩
  rw [EndsAlike, ends_bind, ends_bind, ended, endedOther]
  cases result with
  | ok value => exact behind value
  | error complaint => exact ⟨rfl, kept⟩

theorem answersAlike_orExplain
    (start : String) (outcome : Except Failure α) :
    (orExplain start outcome).AnswersAlike first second := by
  cases outcome with
  | ok value => exact ⟨_, rfl, rfl⟩
  | error failure => exact ⟨_, rfl, rfl⟩

theorem answersAlike_orFail (outcome : Except Failure α) :
    (orFail outcome).AnswersAlike first second := by
  cases outcome with
  | ok value => exact ⟨_, rfl, rfl⟩
  | error failure => exact ⟨_, rfl, rfl⟩

theorem answersAlike_readFile
    {path : String} (same : first.read path = second.read path) :
    (readFile path).AnswersAlike first second := by
  refine ⟨.ok (first.read path), ends_ofSession _ first, ?_⟩
  rw [same]
  exact ends_ofSession _ second

end TwoFolders

end Task

end SchemaAtlas.CommandLine
