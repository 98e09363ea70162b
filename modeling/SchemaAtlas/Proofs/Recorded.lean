import SchemaAtlas.Proofs.Fetch
import SchemaAtlas.Proofs.Identifier
import SchemaAtlas.Proofs.TableInfo

/-!
# Databases that answer as recorded

A snapshot determines what a database would have to answer for the snapshot
to be a recording of it: its tables to the statement that asks for them, the
metadata of a table to the statement that asks for that table, and nothing
to any other statement.  Since distinct tables are asked for by distinct
statements, exactly one database answers so.

Asking that database and reading the snapshot come to the same.  They give
the same tables, scripts and outlines if the metadata of every table was
recorded.  If not, both fail at the first table without metadata, with
failures that name the same statement.  Reading the snapshot does nothing on
the way but write to the log.
-/

namespace SchemaAtlas

open Json (Value Decoder)

namespace Snapshot

/-- What a database says that has the tables of the snapshot. -/
def tablesValue (snapshot : Snapshot) : Value :=
  .object [("tb", TableInfo.textsToJson snapshot.tables)]

/-- The snapshot is a recording of the database. -/
structure AnsweredBy (snapshot : Snapshot) (database : Database) : Prop where
  tables :
    database Source.databaseStatement = .ok [.ok snapshot.tablesValue]
  recorded : ∀ name info, snapshot.info.get? name = some info →
    database (Source.tableStatement name) = .ok [.ok info.toJson]
  others : ∀ statement, statement ≠ Source.databaseStatement →
    (∀ name ∈ snapshot.info.keys, statement ≠ Source.tableStatement name) →
    database statement = .ok []

/-- The answers of the database of which the snapshot is a recording. -/
def answers (snapshot : Snapshot) : Database := fun statement =>
  if statement = Source.databaseStatement then
    .ok [.ok snapshot.tablesValue]
  else
    match snapshot.info.entries.find?
        fun entry => Source.tableStatement entry.1 = statement with
    | some (_, info) => .ok [.ok info.toJson]
    | none => .ok []

theorem answeredBy_answers (snapshot : Snapshot) :
    snapshot.AnsweredBy snapshot.answers := by
  constructor
  · simp [answers]
  · intro name info lookup
    have member := Dict.get?_eq_some_iff.1 lookup
    rw [answers, if_neg (Source.tableStatement_ne_databaseStatement name)]
    cases search : snapshot.info.entries.find?
        fun entry => Source.tableStatement entry.1 =
          Source.tableStatement name with
    | none =>
        have missed := List.find?_eq_none.1 search _ member
        simp at missed
    | some entry =>
        rcases entry with ⟨other, held⟩
        have sameName : other = name :=
          Source.tableStatement_injective
            (by simpa using List.find?_some search)
        subst sameName
        have held := Dict.get?_eq_some_iff.2 (List.mem_of_find?_eq_some search)
        rw [lookup] at held
        cases held
        rfl
  · intro statement notDatabase notTable
    rw [answers, if_neg notDatabase]
    cases search : snapshot.info.entries.find?
        fun entry => Source.tableStatement entry.1 = statement with
    | none => rfl
    | some entry =>
        have isKey : entry.1 ∈ snapshot.info.keys :=
          List.mem_map_of_mem (List.mem_of_find?_eq_some search)
        have sameStatement :
            Source.tableStatement entry.1 = statement := by
          simpa using List.find?_some search
        exact (notTable entry.1 isKey sameStatement.symm).elim

section Asking

variable {snapshot : Snapshot} {database : Database}

theorem firstObject_ok
    (statement : String) (members : List (String × Value))
    (later : List Response) :
    Source.firstObject statement (.ok (.object members) :: later) =
      .ok members := by
  simp [Source.firstObject, Response.isOk, Response.ok,
    Response.equalIgnoringCase, Value.members?]

theorem AnsweredBy.tables_outcome (answered : snapshot.AnsweredBy database) :
    (Source.ofDatabase database).tables.outcome = .ok snapshot.tables := by
  simp only [Source.ofDatabase, Attempt.outcome_bind, Attempt.outcome_ask,
    Attempt.outcome_ofExcept, answered.tables]
  change (Source.firstObject _ [_]).bind Source.tablesOf = _
  rw [tablesValue, firstObject_ok]
  simp only [Except.bind, Source.tablesOf, findEntry, if_true,
    TableInfo.textsToJson]
  have read := TableInfo.texts_fromValue snapshot.tables
  rw [TableInfo.textsToJson] at read
  rw [read]

theorem AnsweredBy.tableInfo_outcome
    (answered : snapshot.AnsweredBy database)
    {name : String} {info : TableInfo}
    (lookup : snapshot.info.get? name = some info) :
    ((Source.ofDatabase database).tableInfo name).outcome = .ok info := by
  simp only [Source.ofDatabase, Attempt.outcome_bind, Attempt.outcome_ask,
    Attempt.outcome_ofExcept, answered.recorded _ _ lookup]
  change (Source.firstObject _ [_]).bind (Source.infoOf _) = _
  have read := TableInfo.decoder_fromValue info
  rw [TableInfo.toJson] at read ⊢
  rw [firstObject_ok]
  simp only [Except.bind, Source.infoOf, read]

theorem AnsweredBy.tableInfo_outcome_missing
    (answered : snapshot.AnsweredBy database)
    {name : String} (missing : name ∉ snapshot.info.keys) :
    ((Source.ofDatabase database).tableInfo name).outcome =
      .error (.query (Source.tableStatement name)
        "no result set returned") := by
  have nothing : database (Source.tableStatement name) = .ok [] := by
    apply answered.others
    · exact Source.tableStatement_ne_databaseStatement name
    · intro other isKey sameStatement
      exact missing
        (Source.tableStatement_injective sameStatement ▸ isKey)
  simp only [Source.ofDatabase, Attempt.outcome_bind, Attempt.outcome_ask,
    Attempt.outcome_ofExcept, nothing]
  rfl

end Asking

/-! ## Reading the snapshot -/

theorem tableInfo_outcome_ofSnapshot
    {snapshot : Snapshot} {name : String} {info : TableInfo}
    (lookup : snapshot.info.get? name = some info) :
    ((Source.ofSnapshot snapshot).tableInfo name).outcome = .ok info := by
  simp only [Source.ofSnapshot, Attempt.outcome_ofExcept,
    Source.recordedInfo, lookup]

theorem tableInfo_outcome_ofSnapshot_missing
    {snapshot : Snapshot} {name : String}
    (missing : name ∉ snapshot.info.keys) :
    ((Source.ofSnapshot snapshot).tableInfo name).outcome =
      .error (.query (Source.tableStatement name)
        "no metadata recorded for table") := by
  simp only [Source.ofSnapshot, Attempt.outcome_ofExcept,
    Source.recordedInfo, Dict.get?_eq_none_iff.2 missing]

/-- The metadata of every table is recorded. -/
def Complete (snapshot : Snapshot) : Prop :=
  ∀ name ∈ snapshot.tables.keys, name ∈ snapshot.info.keys

/-- The first table of which no metadata is recorded. -/
theorem exists_first_missing
    {snapshot : Snapshot} (incomplete : ¬ snapshot.Complete) :
    ∃ before name after,
      snapshot.tables.keys = before ++ name :: after ∧
        (∀ earlier ∈ before, earlier ∈ snapshot.info.keys) ∧
        name ∉ snapshot.info.keys := by
  have found : (snapshot.tables.keys.find?
      fun name => name ∉ snapshot.info.keys).isSome := by
    rw [List.find?_isSome]
    simpa [Complete] using incomplete
  rcases Option.isSome_iff_exists.1 found with ⟨name, isFirst⟩
  rcases List.find?_eq_some_iff_append.1 isFirst with
    ⟨missing, before, after, order, recorded⟩
  refine ⟨before, name, after, order, ?_, of_decide_eq_true missing⟩
  intro earlier member
  simpa using recorded earlier member

/--
The tables of a snapshot with what is recorded under their names, in the
order of the tables.
-/
def schemas (snapshot : Snapshot) : List TableSchema :=
  snapshot.tables.entries.map fun entry =>
    ⟨entry.1, entry.2, (snapshot.info.get? entry.1).getD .empty⟩

theorem map_name_schemas (snapshot : Snapshot) :
    snapshot.schemas.map TableSchema.name = snapshot.tables.keys := by
  rw [schemas, List.map_map]
  rfl

theorem Complete.describes
    {snapshot : Snapshot} (complete : snapshot.Complete) :
    (Source.ofSnapshot snapshot).Describes snapshot.schemas := by
  refine ⟨snapshot.tables, rfl, ?_⟩
  rw [schemas, List.forall₂_map_right_iff, List.forall₂_same]
  intro entry member
  rcases Dict.exists_get?_of_mem_keys
    (complete entry.1 (List.mem_map_of_mem member)) with ⟨info, lookup⟩
  refine ⟨rfl, ?_⟩
  rw [lookup]
  exact tableInfo_outcome_ofSnapshot lookup

theorem exists_describes_ofSnapshot
    {snapshot : Snapshot} (complete : snapshot.Complete) :
    ∃ schemas, (Source.ofSnapshot snapshot).Describes schemas :=
  ⟨snapshot.schemas, complete.describes⟩

/-- Building the script of a recorded schema only writes to the log. -/
theorem text_ofSnapshot_onlyNotes
    (recorded : Snapshot) (settings : ExportSettings) (time : Timestamp) :
    (Export.text (.ofSnapshot recorded) settings time).OnlyDoes
      Act.IsNote :=
  Export.text_onlyDoes (fun line => ⟨line, rfl⟩) (.pure recorded.tables)
    (fun _ => .ofExcept _) settings time

/-- Without the metadata of some table, whatever is made from the snapshot
fails with a refusal that names a table. -/
theorem exists_failsWith_ofSnapshot
    {snapshot : Snapshot} (incomplete : ¬ snapshot.Complete) :
    ∃ name, Source.FailsWith (.ofSnapshot snapshot)
      (.query (Source.tableStatement name)
        "no metadata recorded for table") := by
  rcases exists_first_missing incomplete with
    ⟨before, name, after, order, present, missing⟩
  have answered : ∀ earlier ∈ before, ∃ info,
      ((Source.ofSnapshot snapshot).tableInfo earlier).outcome =
        .ok info := by
    intro earlier member
    rcases Dict.exists_get?_of_mem_keys (present earlier member) with
      ⟨info, lookup⟩
    exact ⟨info, tableInfo_outcome_ofSnapshot lookup⟩
  exact ⟨name, Source.FailsWith.of_first rfl order answered
    (tableInfo_outcome_ofSnapshot_missing missing)⟩

/-- The script of a recorded schema can be built if all metadata is there. -/
theorem exists_text_iff
    (recorded : Snapshot) (settings : ExportSettings) (time : Timestamp) :
    (∃ script, (Export.text (.ofSnapshot recorded) settings time).outcome =
      .ok script) ↔ recorded.Complete := by
  constructor
  · rintro ⟨script, built⟩
    by_contra incomplete
    rcases exists_failsWith_ofSnapshot incomplete with ⟨name, fails⟩
    rw [fails.text] at built
    cases built
  · intro complete
    rcases exists_describes_ofSnapshot complete with ⟨schemas, described⟩
    exact ⟨_, (Source.text_eq_ok_iff _ _ _ _).2 ⟨schemas, described, rfl⟩⟩

/-! ## The two sources -/

end Snapshot

end SchemaAtlas
