import SchemaAtlas.Proofs.Dict
import SchemaAtlas.Proofs.Fetch
import SchemaAtlas.Proofs.Script.Terminator

/-!
# Exports of exported statements

The statements of a script can be recorded in place of the definitions that
they were made from.  A script shows nothing of a definition but its
statement, and putting a statement into a script again leaves it as it is; so
a snapshot that is restated like this exports as before.

Nothing else about an export changes either.  The restated snapshot has the
same tables, the same metadata is missing from it, and what the export does
on its way is the same.
-/

namespace SchemaAtlas

/-! ## Restated definitions -/

/-- The metadata with every definition as its statement in a script. -/
def TableInfo.restated (info : TableInfo) : TableInfo where
  fields := info.fields.map Script.terminated
  indexes := info.indexes.map Script.terminated
  events := info.events.map Script.terminated

/-- The table with every definition as its statement in a script. -/
def TableSchema.restated (table : TableSchema) : TableSchema where
  name := table.name
  definition := Script.terminated table.definition
  info := table.info.restated

/-- The snapshot with every definition as its statement in a script. -/
def Snapshot.restated (snapshot : Snapshot) : Snapshot where
  tables := snapshot.tables.map Script.terminated
  info := snapshot.info.map TableInfo.restated

/-- The statements of a restated table are those that scripts show of it. -/
theorem TableSchema.statements_restated (table : TableSchema) :
    table.restated.statements = table.statements.map Script.terminated := by
  simp [statements, groups, restated, TableInfo.restated, Dict.values_map]

namespace Script

theorem groupLines_restated (texts : Dict String) :
    groupLines (texts.map terminated).values = groupLines texts.values := by
  have again :
      (texts.values.map terminated).map terminated =
        texts.values.map terminated := by
    rw [List.map_map]
    apply List.map_congr_left
    intro statement _
    exact terminated_terminated statement
  rw [Dict.values_map, groupLines, groupLines, List.isEmpty_map, again]

theorem tableLines_restated (table : TableSchema) :
    tableLines table.restated = tableLines table := by
  simp only [tableLines, TableSchema.restated, TableInfo.restated,
    groupLines_restated, terminated_terminated]

/-- Restated tables have the script of the tables. -/
theorem ofTables_restated
    (banner : String) (time : Timestamp) (tables : List TableSchema) :
    ofTables banner time (tables.map TableSchema.restated) =
      ofTables banner time tables := by
  have lines :
      (ofTables banner time (tables.map TableSchema.restated)).lines =
        (ofTables banner time tables).lines := by
    rw [lines_ofTables, lines_ofTables, List.flatMap_map]
    simp only [tableLines_restated]
  exact congrArg Script.mk lines

end Script

/-! ## Fetching what is restated -/

theorem Source.recordedInfo_restated (snapshot : Snapshot) (table : String) :
    recordedInfo snapshot.restated table =
      (recordedInfo snapshot table).map TableInfo.restated := by
  rw [recordedInfo, recordedInfo, Snapshot.restated, Dict.get?_map]
  cases snapshot.info.get? table with
  | none => rfl
  | some info => rfl

namespace Fetch

theorem lookUp_restated (snapshot : Snapshot) (name definition : String) :
    lookUp (.ofSnapshot snapshot.restated) name
        (Script.terminated definition) =
      TableSchema.restated <$>
        lookUp (.ofSnapshot snapshot) name definition := by
  simp only [lookUp, Source.ofSnapshot, Source.recordedInfo_restated,
    map_bind, map_pure]
  cases Source.recordedInfo snapshot name with
  | ok info => rfl
  | error failure => rfl

/-- Fetching the restated snapshot gives the restated tables. -/
theorem schemas_restated (snapshot : Snapshot) (limit : Nat) :
    schemas (.ofSnapshot snapshot.restated) limit =
      List.map TableSchema.restated <$>
        schemas (.ofSnapshot snapshot) limit := by
  have lookUps :
      (snapshot.restated.tables.entries.mapM fun entry =>
          lookUp (.ofSnapshot snapshot.restated) entry.1 entry.2) =
        List.map TableSchema.restated <$>
          snapshot.tables.entries.mapM fun entry =>
            lookUp (.ofSnapshot snapshot) entry.1 entry.2 := by
    rw [← Attempt.mapM_map]
    simp only [← lookUp_restated]
    exact List.mapM_map
  have size : snapshot.restated.tables.size = snapshot.tables.size :=
    Dict.size_map Script.terminated snapshot.tables
  simp only [schemas, windowed_eq_mapM, List.nil_append, List.mapM_map,
    Function.comp_def, id_eq, map_bind]
  change (pure snapshot.restated.tables >>= _) =
    (pure snapshot.tables >>= _)
  simp only [pure_bind, size, lookUps]

end Fetch

theorem Source.Describes.restated
    {snapshot : Snapshot} {schemas : List TableSchema}
    (described : (Source.ofSnapshot snapshot).Describes schemas) :
    (Source.ofSnapshot snapshot.restated).Describes
      (schemas.map TableSchema.restated) := by
  apply (schemas_eq_ok_iff _ 1 _).1
  rw [Fetch.schemas_restated, Attempt.outcome_map,
    (schemas_eq_ok_iff _ 1 _).2 described]
  rfl

namespace Export

/-- Restating a snapshot changes neither the outcome of its export nor what is
done on the way. -/
theorem text_restated
    (snapshot : Snapshot) (settings : ExportSettings) (time : Timestamp) :
    text (.ofSnapshot snapshot.restated) settings time =
      text (.ofSnapshot snapshot) settings time := by
  rw [text, text, Fetch.schemas_restated, bind_map_left]
  simp only [Script.ofTables_restated]

/--
Let every definition of an exported snapshot be replaced by the statement that
stands for it in the script, so that the tables hold the statement lines of
that script.  The export is then the same as before, to the letter, with the
same settings and at the same time.
-/
theorem restated_exports_alike
    {snapshot : Snapshot} {settings : ExportSettings} {time : Timestamp}
    {script : String}
    (exported :
      (text (.ofSnapshot snapshot) settings time).outcome = .ok script) :
    (text (.ofSnapshot snapshot.restated) settings time).outcome =
        .ok script ∧
      ∃ tables restated : List TableSchema,
        (Source.ofSnapshot snapshot).Describes tables ∧
        (Source.ofSnapshot snapshot.restated).Describes restated ∧
        (Script.ofTables settings.banner time tables).text = script ∧
        Script.statementLines tables =
          Script.terminated Script.importDirective ::
            restated.flatMap TableSchema.statements := by
  rcases (Source.text_eq_ok_iff _ _ _ _).1 exported with
    ⟨tables, described, isScript⟩
  constructor
  · rw [text_restated]
    exact exported
  · refine ⟨tables, tables.map TableSchema.restated, described,
      described.restated, isScript, ?_⟩
    rw [Script.statementLines_eq, List.map_cons, List.flatMap_map,
      List.map_flatMap]
    simp only [TableSchema.statements_restated]

/-- Definitions with semicolons and white space of all kinds at their ends. -/
theorem restated_exports_alike_unicode :
    let info : TableInfo :=
      ⟨.ofList [("a", ";;"), ("b", "")], ∅,
        .ofList [("c", "DEFINE EVENT c;\u2003;\t")]⟩
    let snapshot : Snapshot :=
      ⟨.ofList [("t", "DEFINE TABLE t ;;\u3000\n")],
        .ofList [("u", .empty), ("t", info)]⟩
    snapshot.restated.tables.values = ["DEFINE TABLE t ;"] ∧
      ∃ script,
        (text (.ofSnapshot snapshot) .standard ⟨0, 0⟩).outcome =
            .ok script ∧
          (text (.ofSnapshot snapshot.restated) .standard ⟨0, 0⟩).outcome =
            .ok script := by
  intro info snapshot
  have described : (Source.ofSnapshot snapshot).Describes
      [⟨"t", "DEFINE TABLE t ;;\u3000\n", info⟩] :=
    ⟨_, rfl, .cons ⟨rfl, rfl⟩ .nil⟩
  have exported := (Source.text_eq_ok_iff _ .standard ⟨0, 0⟩ _).2
    ⟨_, described, rfl⟩
  exact ⟨by decide, _, exported, (restated_exports_alike exported).1⟩

end Export

end SchemaAtlas
