import SchemaAtlas.Proofs.Recorded
import SchemaAtlas.Proofs.Script.Contents

/-!
# Saving exports

Saving builds the whole script first and asks for a place only then.  While
the script is built there are lines for the log and what the source does to
answer, so the target hears nothing if the source has nothing to do with it.
If the script cannot be built, the target hears nothing at all.  If there is
no place, it hears nothing more, and what it is given to write is the script
of all tables.

`Export.Saves` lists what can come of it: five endings, each with everything
that is done after the script was to be built.  `Export.saves_exactly`
says that saving does just this, for every source and every target.
-/

namespace SchemaAtlas

/-! ## Calls of the target -/

/-- The target is asked for a place, or told to write to one. -/
def Act.CallsTarget (done : Act) : Prop :=
  (∃ request, done = .choosePath request) ∨
    ∃ path content, done = .write path content

/-- What the source does to answer. -/
def Source.Does (source : Source) (done : Act) : Prop :=
  done ∈ source.tables.acts ∨ ∃ name, done ∈ (source.tableInfo name).acts

/-- The source does not call the target. -/
def Source.Apart (source : Source) : Prop :=
  ∀ done, source.Does done → ¬ done.CallsTarget

theorem Act.IsNote.not_callsTarget
    {done : Act} (isNote : done.IsNote) : ¬ done.CallsTarget := by
  rcases isNote with ⟨line, rfl⟩
  rintro (⟨request, impossible⟩ | ⟨path, content, impossible⟩)
  · cases impossible
  · cases impossible

theorem Act.query_not_callsTarget (statement : String) :
    ¬ (Act.query statement).CallsTarget := by
  rintro (⟨request, impossible⟩ | ⟨path, content, impossible⟩)
  · cases impossible
  · cases impossible

/-- A database is only sent statements, so it is apart. -/
theorem Source.apart_ofDatabase (database : Database) :
    (ofDatabase database).Apart := by
  rintro done (fromTables | ⟨name, fromInfo⟩)
  · have only : (ofDatabase database).tables.OnlyDoes
        fun done => ¬ done.CallsTarget :=
      .bind (.ask (Act.query_not_callsTarget _) _) fun _ => .ofExcept _
    exact only done fromTables
  · have only : ((ofDatabase database).tableInfo name).OnlyDoes
        fun done => ¬ done.CallsTarget :=
      .bind (.ask (Act.query_not_callsTarget _) _) fun _ => .ofExcept _
    exact only done fromInfo

theorem Source.apart_ofSnapshot (snapshot : Snapshot) :
    (ofSnapshot snapshot).Apart := by
  rintro done (fromTables | ⟨name, fromInfo⟩)
  · cases fromTables
  · cases fromInfo

/-- The target with its calls on record instead of all else that it does. -/
def SaveTarget.watched (target : SaveTarget) : SaveTarget where
  choose := fun request =>
    Attempt.ask (.choosePath request) (target.choose request).outcome
  write := fun path content =>
    Attempt.ask (.write path content) (target.write path content).outcome

namespace Export

variable (source : Source) (target : SaveTarget) (settings : ExportSettings)
  (time : Timestamp)

/-- Building the script writes to the log and lets the source answer. -/
theorem text_does :
    (text source settings time).OnlyDoes
      fun done => done.IsNote ∨ source.Does done := by
  apply text_onlyDoes
  · intro line
    exact .inl ⟨line, rfl⟩
  · intro done member
    exact .inr (.inl member)
  · intro name done member
    exact .inr (.inr ⟨name, member⟩)

theorem text_not_callsTarget
    (apart : source.Apart) :
    (text source settings time).OnlyDoes fun done => ¬ done.CallsTarget := by
  intro done member
  rcases text_does source settings time done member with isNote | isSource
  · exact isNote.not_callsTarget
  · exact apart done isSource

/--
What is done once the script was to be built, and what saving gives, if the
place is asked for by this request.
-/
inductive Saves (request : SaveRequest) :
    List Act → Except Failure SaveOutcome → Prop where
  | unbuilt {failure : Failure}
      (fails : source.EndsWith (.error failure)) :
      Saves request [] (.error failure)
  | unplaced {schemas : List TableSchema} {failure : Failure}
      (described : source.Describes schemas)
      (refused : (target.choose request).outcome = .error failure) :
      Saves request [.choosePath request] (.error failure)
  | cancelled {schemas : List TableSchema}
      (described : source.Describes schemas)
      (nowhere : (target.choose request).outcome = .ok none) :
      Saves request
        [.choosePath request,
          .note ⟨.info, .exporting,
            "Schema export cancelled, nothing written"⟩]
        (.ok .cancelled)
  | unwritten {schemas : List TableSchema} {path script : String}
      {failure : Failure}
      (described : source.Describes schemas)
      (whole : Script.WholeText settings.banner time schemas script)
      (placed : (target.choose request).outcome = .ok (some path))
      (refused : (target.write path script).outcome = .error failure) :
      Saves request [.choosePath request, .write path script]
        (.error failure)
  | saved {schemas : List TableSchema} {path script : String}
      (described : source.Describes schemas)
      (whole : Script.WholeText settings.banner time schemas script)
      (placed : (target.choose request).outcome = .ok (some path))
      (written : (target.write path script).outcome = .ok ()) :
      Saves request
        [.choosePath request, .write path script,
          .note ⟨.info, .exporting,
            "Schema exported to " ++ path ++ " (" ++
              toString script.utf8ByteSize ++ " bytes)"⟩]
        (.ok (.saved path script.utf8ByteSize))

/-! ## Behind the script -/

/-- What saving does with the script once it is built. -/
def deliver (script : String) : Attempt SaveOutcome := do
  match ← target.choose (.ofSettings settings) with
  | none => do
      Attempt.note .info .exporting "Schema export cancelled, nothing written"
      pure .cancelled
  | some path => do
      target.write path script
      Attempt.note .info .exporting (savedLine path script.utf8ByteSize)
      pure (.saved path script.utf8ByteSize)

theorem save_eq_bind_deliver :
    save source target settings time =
      text source settings time >>= deliver target settings :=
  rfl

/-- Without a place, delivering stops at the request for one. -/
theorem deliver_of_unplaced
    {failure : Failure}
    (refused : (target.choose (.ofSettings settings)).outcome =
      .error failure)
    (script : String) :
    (deliver target settings script).acts =
        (target.choose (.ofSettings settings)).acts ∧
      (deliver target settings script).outcome = .error failure := by
  rw [deliver, Attempt.acts_bind, Attempt.outcome_bind, refused]
  exact ⟨List.append_nil _, rfl⟩

theorem deliver_of_nowhere
    (nowhere : (target.choose (.ofSettings settings)).outcome = .ok none)
    (script : String) :
    (deliver target settings script).acts =
        (target.choose (.ofSettings settings)).acts ++
          [.note ⟨.info, .exporting,
            "Schema export cancelled, nothing written"⟩] ∧
      (deliver target settings script).outcome = .ok .cancelled := by
  rw [deliver, Attempt.acts_bind, Attempt.outcome_bind, nowhere]
  exact ⟨rfl, rfl⟩

/-- With a place, the script is written there and nowhere else. -/
theorem deliver_of_placed
    {path : String}
    (placed : (target.choose (.ofSettings settings)).outcome =
      .ok (some path))
    (script : String) :
    (deliver target settings script).acts =
        (target.choose (.ofSettings settings)).acts ++
          ((target.write path script).acts ++
            match (target.write path script).outcome with
            | .error _ => []
            | .ok () =>
                [.note ⟨.info, .exporting,
                  savedLine path script.utf8ByteSize⟩]) ∧
      (deliver target settings script).outcome =
        (target.write path script).outcome.map
          fun () => .saved path script.utf8ByteSize := by
  rw [deliver, Attempt.acts_bind, Attempt.outcome_bind, placed]
  change _ ++ (target.write path script >>= _).acts = _ ∧
    (target.write path script >>= _).outcome = _
  rw [Attempt.acts_bind, Attempt.outcome_bind]
  cases (target.write path script).outcome with
  | error failure => exact ⟨rfl, rfl⟩
  | ok nothing => exact ⟨rfl, rfl⟩

/-! ## The endings -/

section

variable {source target settings time}

/-- Behind a script that is built, saving is delivering it. -/
theorem save_of_built
    {script : String} {doings : List Act}
    {result : Except Failure SaveOutcome}
    (built : (text source settings time).outcome = .ok script)
    (acts : (deliver target.watched settings script).acts = doings)
    (outcome : (deliver target settings script).outcome = result) :
    (save source target.watched settings time).acts =
        (text source settings time).acts ++ doings ∧
      (save source target settings time).outcome = result := by
  rw [save_eq_bind_deliver, save_eq_bind_deliver, Attempt.acts_bind,
    Attempt.outcome_bind, built]
  exact ⟨congrArg _ acts, outcome⟩

/-- Whatever is listed as an ending is what saving does. -/
theorem Saves.acts_and_outcome
    {doings : List Act} {result : Except Failure SaveOutcome}
    (saves : Saves source target settings time (.ofSettings settings)
      doings result) :
    (save source target.watched settings time).acts =
        (text source settings time).acts ++ doings ∧
      (save source target settings time).outcome = result := by
  have built : ∀ schemas script, source.Describes schemas →
      Script.WholeText settings.banner time schemas script →
      (text source settings time).outcome = .ok script := by
    intro schemas script described whole
    exact (source.text_eq_ok_iff settings time script).2
      ⟨schemas, described, Script.wholeText_iff.1 whole⟩
  cases saves with
  | unbuilt fails =>
      have unbuilt := (source.text_eq_error_iff settings time _).2 fails
      rw [save_eq_bind_deliver, save_eq_bind_deliver, Attempt.acts_bind,
        Attempt.outcome_bind, unbuilt]
      exact ⟨rfl, rfl⟩
  | unplaced described refused =>
      exact save_of_built (built _ _ described (Script.wholeText_iff.2 rfl))
        (deliver_of_unplaced target.watched settings refused _).1
        (deliver_of_unplaced target settings refused _).2
  | cancelled described nowhere =>
      exact save_of_built (built _ _ described (Script.wholeText_iff.2 rfl))
        (deliver_of_nowhere target.watched settings nowhere _).1
        (deliver_of_nowhere target settings nowhere _).2
  | @unwritten schemas path script failure described whole placed refused =>
      have watchedRefuses :
          (target.watched.write path script).outcome = .error failure :=
        refused
      apply save_of_built (built _ _ described whole)
      · rw [(deliver_of_placed target.watched settings placed _).1,
          watchedRefuses]
        rfl
      · rw [(deliver_of_placed target settings placed _).2, refused]
        rfl
  | @saved schemas path script described whole placed written =>
      have watchedWrites :
          (target.watched.write path script).outcome = .ok () :=
        written
      apply save_of_built (built _ _ described whole)
      · rw [(deliver_of_placed target.watched settings placed _).1,
          watchedWrites]
        rfl
      · rw [(deliver_of_placed target settings placed _).2, written]
        rfl

end

/-- Saving always comes to one of the endings. -/
theorem exists_saves :
    ∃ doings result,
      Saves source target settings time (.ofSettings settings)
        doings result := by
  cases built : (text source settings time).outcome with
  | error failure =>
      have fails := (source.text_eq_error_iff settings time failure).1 built
      exact ⟨_, _, .unbuilt fails⟩
  | ok script =>
      rcases (source.text_eq_ok_iff settings time script).1 built with
        ⟨schemas, described, isScript⟩
      have whole := Script.wholeText_iff.2 isScript
      cases place : (target.choose (.ofSettings settings)).outcome with
      | error failure => exact ⟨_, _, .unplaced described place⟩
      | ok placed =>
          cases placed with
          | none => exact ⟨_, _, .cancelled described place⟩
          | some path =>
              cases writing : (target.write path script).outcome with
              | error failure =>
                  exact ⟨_, _, .unwritten described whole place writing⟩
              | ok nothing => exact ⟨_, _, .saved described whole place writing⟩

/--
Saving comes to one of the endings and does exactly what is listed for it.
Behind the acts of building the script there are those of this ending and
nothing else, and the result is that of the same ending.  Building the script
writes to the log and lets the source answer, so that it calls no target
unless the source does; and the place is asked for by the title, the file name
and the only filter that are set.
-/
theorem saves_exactly :
    let request : SaveRequest :=
      { title := settings.dialogTitle
        defaultPath := settings.defaultFileName
        filters := [
          { name := settings.filterName
            extensions := settings.extensions }] }
    (∀ done ∈ (text source settings time).acts,
      (∃ line, done = .note line) ∨ source.Does done) ∧
    (source.Apart →
      ∀ done ∈ (text source settings time).acts, ¬ done.CallsTarget) ∧
    (∃ doings result,
      Saves source target settings time request doings result) ∧
    ∀ doings result,
      Saves source target settings time request doings result ↔
        (save source target.watched settings time).acts =
            (text source settings time).acts ++ doings ∧
          (save source target settings time).outcome = result := by
  refine ⟨text_does source settings time,
    text_not_callsTarget source settings time,
    exists_saves source target settings time, ?_⟩
  intro doings result
  constructor
  · intro saves
    exact saves.acts_and_outcome
  · rintro ⟨sameActs, sameOutcome⟩
    rcases exists_saves source target settings time with
      ⟨others, other, saves⟩
    rcases saves.acts_and_outcome with ⟨acts, outcome⟩
    have sameDoings : others = doings :=
      List.append_cancel_left (acts.symm.trans sameActs)
    have sameResult : other = result := outcome.symm.trans sameOutcome
    exact sameDoings ▸ sameResult ▸ saves

/-- The metadata of the last table is refused, and the target that would have
written anything hears nothing. -/
theorem saves_exactly_of_late_refusal :
    let snapshot : Snapshot :=
      ⟨.ofList [("a", "A"), ("b", "B")], .ofList [("a", .empty)]⟩
    let source : Source := .ofDatabase snapshot.answers
    let target : SaveTarget := .answering (.ok (some "out.surql")) (.ok ())
    source.Apart ∧
      (∀ done ∈ (save source target.watched .standard ⟨0, 0⟩).acts,
        ¬ done.CallsTarget) ∧
      (save source target .standard ⟨0, 0⟩).outcome =
        .error (.query "INFO FOR TABLE b" "no result set returned") := by
  intro snapshot source target
  have answered := snapshot.answeredBy_answers
  have fails : source.EndsWith
      (.error (.query "INFO FOR TABLE b" "no result set returned")) := by
    have order :
        snapshot.tables.entries = [("a", "A")] ++ ("b", "B") :: [] := rfl
    refine .refused answered.tables_outcome order ?_
      (answered.tableInfo_outcome_missing (by decide))
    rw [List.forall_mem_singleton]
    exact ⟨.empty, answered.tableInfo_outcome rfl⟩
  rcases saves_exactly source target .standard ⟨0, 0⟩ with
    ⟨-, onlySource, -, exactly⟩
  have apart := Source.apart_ofDatabase snapshot.answers
  rcases (exactly _ _).1 (.unbuilt fails) with ⟨acts, outcome⟩
  rw [List.append_nil] at acts
  refine ⟨apart, ?_, outcome⟩
  rw [acts]
  exact onlySource apart

end Export

end SchemaAtlas
