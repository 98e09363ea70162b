import SchemaAtlas.Export
import SchemaAtlas.Proofs.Outcome

/-!
# What is fetched from a source

The outcome of a fetch is the outcome of asking for the tables and then
looking each of them up, one after another.  The number of lookups that may
be open at once does not occur in it.  A fetch therefore succeeds with a
list of tables exactly if the source describes that list, and every other
fetch ends with the failure of the first lookup that fails.

Scripts and outlines are made from what is fetched.  Two sources whose
fetches end alike therefore give the same scripts and the same outlines.
-/

namespace SchemaAtlas

namespace Fetch

/-- How the lookup of one table ends. -/
def found (source : Source) (entry : String × String) :
    Except Failure TableSchema :=
  (source.tableInfo entry.1).outcome.map
    fun info => ⟨entry.1, entry.2, info⟩

@[simp]
theorem lookUp_outcome (source : Source) (name definition : String) :
    (lookUp source name definition).outcome =
      found source (name, definition) := by
  simp only [lookUp, found, Attempt.outcome_bind, Attempt.outcome_note,
    Attempt.outcome_pure]
  cases (source.tableInfo name).outcome with
  | ok info => rfl
  | error failure => rfl

/-- A fetch ends as its lookups do, one after another. -/
theorem schemas_outcome (source : Source) (limit : Nat) :
    (schemas source limit).outcome =
      source.tables.outcome >>= fun tables =>
        tables.entries.mapM (found source) := by
  simp only [schemas, windowed_eq_mapM, List.nil_append, List.mapM_map,
    Function.comp_apply, id_eq, Attempt.outcome_bind, Attempt.outcome_note,
    Attempt.outcome_mapM, lookUp_outcome]
  rfl

theorem outlines_outcome (source : Source) (parser : Parser) (limit : Nat) :
    (outlines source parser limit).outcome =
      (schemas source limit).outcome.map
        fun tables => (tables.mapM (outline parser)).result := by
  simp only [outlines, Attempt.outcome_bind, Attempt.outcome_lift]
  rfl

end Fetch

theorem Export.text_outcome
    (source : Source) (settings : ExportSettings) (time : Timestamp) :
    (Export.text source settings time).outcome =
      (Fetch.schemas source settings.maxConcurrent).outcome.map
        fun tables => (Script.ofTables settings.banner time tables).text := by
  simp only [Export.text, Attempt.outcome_bind, Attempt.outcome_pure]
  rfl

/-! ## What is done for a fetch -/

/-- Fetching writes to the log and leaves everything else to the source. -/
theorem Fetch.schemas_onlyDoes
    {allowed : Act → Prop} {source : Source}
    (notes : ∀ line, allowed (.note line))
    (tables : source.tables.OnlyDoes allowed)
    (infos : ∀ name, (source.tableInfo name).OnlyDoes allowed)
    (limit : Nat) :
    (schemas source limit).OnlyDoes allowed := by
  apply Attempt.OnlyDoes.bind tables
  intro listed
  apply Attempt.OnlyDoes.bind (.note (notes _))
  intro
  rw [windowed_eq_mapM]
  apply Attempt.OnlyDoes.mapM
  intro lookingUp member
  rcases List.mem_map.1 member with ⟨entry, -, rfl⟩
  apply Attempt.OnlyDoes.bind (.note (notes _))
  intro
  apply Attempt.OnlyDoes.bind (infos _)
  intro info
  exact .pure _

theorem Export.text_onlyDoes
    {allowed : Act → Prop} {source : Source}
    (notes : ∀ line, allowed (.note line))
    (tables : source.tables.OnlyDoes allowed)
    (infos : ∀ name, (source.tableInfo name).OnlyDoes allowed)
    (settings : ExportSettings) (time : Timestamp) :
    (text source settings time).OnlyDoes allowed := by
  apply Attempt.OnlyDoes.bind (Fetch.schemas_onlyDoes notes tables infos _)
  intro schemas
  exact .pure _

namespace Source

/-! ## Successful fetches -/

/--
The source lists exactly these tables, in this order and with these
definitions, and answers for each of them with its metadata.
-/
def Describes (source : Source) (schemas : List TableSchema) : Prop :=
  ∃ tables, source.tables.outcome = .ok tables ∧
    List.Forall₂
      (fun entry schema =>
        entry = (schema.name, schema.definition) ∧
          (source.tableInfo schema.name).outcome = .ok schema.info)
      tables.entries schemas

theorem Describes.answers
    {source : Source} {schemas : List TableSchema}
    (described : source.Describes schemas) :
    ∀ schema ∈ schemas,
      (source.tableInfo schema.name).outcome = .ok schema.info := by
  rcases described with ⟨tables, -, answers⟩
  generalize tables.entries = entries at answers
  induction answers with
  | nil => simp
  | cons answer rest induction =>
      exact List.forall_mem_cons.2 ⟨answer.2, induction⟩

theorem found_eq_ok_iff
    (source : Source) (entry : String × String) (schema : TableSchema) :
    Fetch.found source entry = .ok schema ↔
      entry = (schema.name, schema.definition) ∧
        (source.tableInfo schema.name).outcome = .ok schema.info := by
  rcases entry with ⟨name, definition⟩
  rcases schema with ⟨schemaName, schemaDefinition, schemaInfo⟩
  simp only [Fetch.found, Prod.mk.injEq]
  constructor
  · intro succeeds
    cases answer : (source.tableInfo name).outcome with
    | error failure =>
        rw [answer] at succeeds
        cases succeeds
    | ok info =>
        rw [answer] at succeeds
        cases succeeds
        exact ⟨⟨rfl, rfl⟩, answer⟩
  · rintro ⟨⟨rfl, rfl⟩, answer⟩
    rw [answer]
    rfl

/-- A fetch succeeds exactly with the tables that the source describes. -/
theorem schemas_eq_ok_iff
    (source : Source) (limit : Nat) (schemas : List TableSchema) :
    (Fetch.schemas source limit).outcome = .ok schemas ↔
      source.Describes schemas := by
  rw [Fetch.schemas_outcome, Except.bind_eq_ok_iff]
  simp only [Except.mapM_eq_ok_iff, found_eq_ok_iff]
  rfl

/-- An export succeeds exactly with the script of the described tables. -/
theorem text_eq_ok_iff
    (source : Source) (settings : ExportSettings) (time : Timestamp)
    (text : String) :
    (Export.text source settings time).outcome = .ok text ↔
      ∃ schemas, source.Describes schemas ∧
        (Script.ofTables settings.banner time schemas).text = text := by
  rw [Export.text_outcome]
  constructor
  · intro succeeds
    cases fetched :
        (Fetch.schemas source settings.maxConcurrent).outcome with
    | error failure =>
        rw [fetched] at succeeds
        cases succeeds
    | ok schemas =>
        rw [fetched] at succeeds
        cases succeeds
        exact ⟨schemas, (schemas_eq_ok_iff _ _ _).1 fetched, rfl⟩
  · rintro ⟨schemas, described, rfl⟩
    rw [(schemas_eq_ok_iff _ _ _).2 described]
    rfl

/-- A source describes at most one list of tables. -/
theorem Describes.unique
    {source : Source} {first second : List TableSchema}
    (describesFirst : source.Describes first)
    (describesSecond : source.Describes second) :
    first = second := by
  have fetchedFirst := (schemas_eq_ok_iff source 1 first).2 describesFirst
  have fetchedSecond := (schemas_eq_ok_iff source 1 second).2 describesSecond
  rw [fetchedFirst] at fetchedSecond
  cases fetchedSecond
  rfl

/-! ## One table after another -/

/--
What fetching the tables in their order, one after another, ends with: the
failure to list them, the failure of the first table that is refused, or all
tables as the source describes them.
-/
inductive EndsWith (source : Source) :
    Except Failure (List TableSchema) → Prop where
  | unlisted {failure : Failure}
      (refused : source.tables.outcome = .error failure) :
      EndsWith source (.error failure)
  | refused {tables : Dict String} {failure : Failure}
      {before after : List (String × String)} {entry : String × String}
      (listed : source.tables.outcome = .ok tables)
      (order : tables.entries = before ++ entry :: after)
      (answered : ∀ earlier ∈ before,
        ∃ info, (source.tableInfo earlier.1).outcome = .ok info)
      (refused : (source.tableInfo entry.1).outcome = .error failure) :
      EndsWith source (.error failure)
  | described {schemas : List TableSchema}
      (described : source.Describes schemas) :
      EndsWith source (.ok schemas)

theorem found_eq_error_iff
    (source : Source) (entry : String × String) (failure : Failure) :
    Fetch.found source entry = .error failure ↔
      (source.tableInfo entry.1).outcome = .error failure := by
  rw [Fetch.found]
  cases (source.tableInfo entry.1).outcome with
  | ok info => simp [Except.map]
  | error other => simp [Except.map]

theorem exists_found_iff (source : Source) (entry : String × String) :
    (∃ schema, Fetch.found source entry = .ok schema) ↔
      ∃ info, (source.tableInfo entry.1).outcome = .ok info := by
  rw [Fetch.found]
  cases (source.tableInfo entry.1).outcome with
  | ok info => simp [Except.map]
  | error other => simp [Except.map]

/-- A fetch ends as fetching one table after another does. -/
theorem endsWith_iff
    (source : Source) (limit : Nat)
    (result : Except Failure (List TableSchema)) :
    source.EndsWith result ↔
      (Fetch.schemas source limit).outcome = result := by
  constructor
  · intro ends
    cases ends with
    | unlisted refused =>
        rw [Fetch.schemas_outcome, refused]
        rfl
    | refused listed order answered refused =>
        rw [Fetch.schemas_outcome, listed]
        change List.mapM _ _ = _
        rw [order]
        apply Except.mapM_eq_error
        · intro earlier member
          exact (exists_found_iff source earlier).2 (answered earlier member)
        · exact (found_eq_error_iff source _ _).2 refused
    | described described =>
        exact (schemas_eq_ok_iff source limit _).2 described
  · rintro rfl
    cases ended : (Fetch.schemas source limit).outcome with
    | ok schemas =>
        exact .described ((schemas_eq_ok_iff source limit schemas).1 ended)
    | error failure =>
        rw [Fetch.schemas_outcome] at ended
        cases listing : source.tables.outcome with
        | error other =>
            rw [listing] at ended
            cases ended
            exact .unlisted listing
        | ok tables =>
            rw [listing] at ended
            change List.mapM _ _ = _ at ended
            rcases Except.mapM_eq_error_iff.1 ended with
              ⟨before, entry, after, order, answered, refused⟩
            refine .refused listing order ?_
              ((found_eq_error_iff source entry failure).1 refused)
            intro earlier member
            exact (exists_found_iff source earlier).1 (answered earlier member)

/-- An export fails as fetching one table after another does. -/
theorem text_eq_error_iff
    (source : Source) (settings : ExportSettings) (time : Timestamp)
    (failure : Failure) :
    (Export.text source settings time).outcome = .error failure ↔
      source.EndsWith (.error failure) := by
  rw [Export.text_outcome, endsWith_iff source settings.maxConcurrent]
  cases (Fetch.schemas source settings.maxConcurrent).outcome with
  | ok schemas => simp [Except.map]
  | error other => simp [Except.map]

/-! ## Comparing sources -/

/-- Whatever is made from a fetch ends with the failure. -/
structure FailsWith (source : Source) (failure : Failure) : Prop where
  schemas : ∀ limit,
    (Fetch.schemas source limit).outcome = .error failure
  text : ∀ settings time,
    (Export.text source settings time).outcome = .error failure
  outlines : ∀ parser limit,
    (Fetch.outlines source parser limit).outcome = .error failure

/-- The first table without an answer decides how a fetch fails. -/
theorem FailsWith.of_first
    {source : Source} {tables : Dict String}
    {before after : List String} {name : String} {failure : Failure}
    (listed : source.tables.outcome = .ok tables)
    (order : tables.keys = before ++ name :: after)
    (answered : ∀ earlier ∈ before,
      ∃ info, (source.tableInfo earlier).outcome = .ok info)
    (refused : (source.tableInfo name).outcome = .error failure) :
    FailsWith source failure := by
  rcases List.map_eq_append_iff.1 order with
    ⟨entriesBefore, rest, split, namesBefore, namesRest⟩
  rcases List.map_eq_cons_iff.1 namesRest with
    ⟨entry, entriesAfter, rfl, isName, -⟩
  have fails : ∀ limit,
      (Fetch.schemas source limit).outcome = .error failure := by
    intro limit
    rw [Fetch.schemas_outcome, listed]
    change tables.entries.mapM (Fetch.found source) = _
    rw [split]
    apply Except.mapM_eq_error
    · intro earlier member
      have isBefore : earlier.1 ∈ before :=
        namesBefore ▸ List.mem_map_of_mem member
      rcases answered earlier.1 isBefore with ⟨info, answer⟩
      exact ⟨⟨earlier.1, earlier.2, info⟩, by rw [Fetch.found, answer]; rfl⟩
    · rw [Fetch.found, isName, refused]
      rfl
  constructor
  · exact fails
  · intro settings time
    rw [Export.text_outcome, fails]
    rfl
  · intro parser limit
    rw [Fetch.outlines_outcome, fails]
    rfl

end Source

end SchemaAtlas
