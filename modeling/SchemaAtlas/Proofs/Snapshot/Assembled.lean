import SchemaAtlas.Proofs.Recorded
import SchemaAtlas.Proofs.Script.Contents
import Mathlib.Data.List.Induction

/-!
# Snapshots put together table by table

A snapshot grows by one recorded table after another, and a name may be
recorded again.  Each time, the tables and the metadata are left with the same
names in the same order, which is the order in which the names first came, and
what stands under a name is what was recorded last.

The metadata of a table is therefore never missing.  Fetches and exports of
such a snapshot succeed, with one table or one section for each name.
-/

namespace SchemaAtlas

/-! ## First and last occurrences -/

/-- The last of the tables that have this name. -/
def lastNamed? (name : String) (tables : List TableSchema) :
    Option TableSchema :=
  tables.reverse.find? fun table => table.name = name

theorem lastNamed?_concat
    (name : String) (tables : List TableSchema) (table : TableSchema) :
    lastNamed? name (tables ++ [table]) =
      if table.name = name then some table else lastNamed? name tables := by
  rw [lastNamed?, List.reverse_concat, List.find?_cons]
  by_cases same : table.name = name
  · simp [same]
  · simp [same, lastNamed?]

/-- A dictionary in which every name stands where it first came keeps to that
when another name is put. -/
theorem Dict.keys_insert_of_eraseDups
    {α : Type} {dict : Dict α} {names : List String}
    (inOrder : dict.keys = names.eraseDups) (name : String) (value : α) :
    (dict.insert name value).keys = (names ++ [name]).eraseDups := by
  rw [keys_insert, eraseDups_concat, inOrder]
  simp only [List.mem_eraseDups]

namespace Snapshot

/-- The snapshot in which the tables were recorded one after another. -/
def ofTables (tables : List TableSchema) : Snapshot :=
  tables.foldl
    (fun snapshot table =>
      snapshot.withTable table.name table.definition table.info)
    .empty

/-- The snapshot holds what was recorded last under each name, and the names
in the order in which they first came. -/
structure Holds (snapshot : Snapshot) (tables : List TableSchema) : Prop where
  tableNames :
    snapshot.tables.keys = (tables.map TableSchema.name).eraseDups
  infoNames :
    snapshot.info.keys = (tables.map TableSchema.name).eraseDups
  definitions : ∀ name, snapshot.tables.get? name =
    (lastNamed? name tables).map TableSchema.definition
  infos : ∀ name, snapshot.info.get? name =
    (lastNamed? name tables).map TableSchema.info

theorem holds_empty : Snapshot.empty.Holds [] :=
  ⟨rfl, rfl, fun _ => rfl, fun _ => rfl⟩

/-- Recording one more table, under a new name or a known one. -/
theorem Holds.withTable
    {snapshot : Snapshot} {tables : List TableSchema}
    (holds : snapshot.Holds tables) (table : TableSchema) :
    (snapshot.withTable table.name table.definition table.info).Holds
      (tables ++ [table]) := by
  constructor
  · rw [List.map_append]
    exact Dict.keys_insert_of_eraseDups holds.tableNames _ _
  · rw [List.map_append]
    exact Dict.keys_insert_of_eraseDups holds.infoNames _ _
  · intro name
    change (snapshot.tables.insert _ _).get? name = _
    rw [Dict.get?_insert, holds.definitions, lastNamed?_concat]
    split
    · rfl
    · rfl
  · intro name
    change (snapshot.info.insert _ _).get? name = _
    rw [Dict.get?_insert, holds.infos, lastNamed?_concat]
    split
    · rfl
    · rfl

theorem holds_ofTables (tables : List TableSchema) :
    (ofTables tables).Holds tables := by
  induction tables using List.reverseRecOn with
  | nil => exact holds_empty
  | append_singleton tables table induction =>
      rw [ofTables, List.foldl_concat]
      exact induction.withTable table

section Held

variable {snapshot : Snapshot} {tables : List TableSchema}

theorem Holds.complete (holds : snapshot.Holds tables) :
    snapshot.Complete := by
  intro name isTable
  rw [holds.infoNames]
  rw [holds.tableNames] at isTable
  exact isTable

/-- What is fetched under a name was recorded last under it. -/
theorem Holds.lastNamed?_of_mem
    (holds : snapshot.Holds tables) {table : TableSchema}
    (fetched : table ∈ snapshot.schemas) :
    lastNamed? table.name tables = some table := by
  rcases List.mem_map.1 fetched with ⟨⟨name, definition⟩, entry, rfl⟩
  have definitionOf := Dict.get?_eq_some_iff.2 entry
  rw [holds.definitions] at definitionOf
  change lastNamed? name tables = _
  rw [holds.infos]
  rcases Option.map_eq_some_iff.1 definitionOf with ⟨last, isLast, rfl⟩
  have named : last.name = name := by
    simpa using List.find?_some isLast
  rw [isLast, ← named]
  rfl

end Held

/--
Of tables that were recorded one after another, in whatever pattern their
names come again, each name keeps the place of its first record and has the
definition and the metadata of its last one.  Nothing is missing, so whatever
is fetched has exactly one table for each name, and whatever is exported has
exactly one section under each name, with the lines of that table, both in
that order.
-/
theorem assembled_tables_complete (tables : List TableSchema) :
    let snapshot := ofTables tables
    let names := (tables.map TableSchema.name).eraseDups
    snapshot.tables.keys = names ∧ snapshot.info.keys = names ∧
    names.Nodup ∧
    (∀ name,
      snapshot.tables.get? name =
          (lastNamed? name tables).map TableSchema.definition ∧
        snapshot.info.get? name =
          (lastNamed? name tables).map TableSchema.info) ∧
    ∃ (fetched : List TableSchema) (parts : List Script.SectionLines),
      fetched.map TableSchema.name = names ∧
      (∀ table ∈ fetched, lastNamed? table.name tables = some table) ∧
      (∀ limit, (Fetch.schemas (.ofSnapshot snapshot) limit).outcome =
        .ok fetched) ∧
      parts.map Script.SectionLines.title =
        names.map (fun name => "-- TABLE: " ++ name) ∧
      List.Forall₂ Script.SectionLines.Tells parts fetched ∧
      ∀ settings time,
        (Export.text (.ofSnapshot snapshot) settings time).outcome =
          .ok (String.intercalate "\n"
            (Script.documentLines settings.banner time parts)) := by
  intro snapshot names
  have holds : snapshot.Holds tables := holds_ofTables tables
  have described := holds.complete.describes
  have tableNames : snapshot.tables.keys = names := holds.tableNames
  have fetchedNames : snapshot.schemas.map TableSchema.name = names := by
    rw [map_name_schemas, tableNames]
  have distinct : names.Nodup := by
    rw [← tableNames]
    exact snapshot.tables.distinct
  have tell := Script.SectionLines.forall₂_tells_iff.2 (Eq.refl
    (snapshot.schemas.map Script.SectionLines.ofTable))
  refine ⟨tableNames, holds.infoNames, distinct,
    fun name => ⟨holds.definitions name, holds.infos name⟩,
    snapshot.schemas, _, fetchedNames, ?_, ?_, ?_, tell, ?_⟩
  · intro table member
    exact holds.lastNamed?_of_mem member
  · intro limit
    exact (Source.schemas_eq_ok_iff _ limit _).2 described
  · rw [Script.SectionLines.map_title_of_tells tell, fetchedNames]
  · intro settings time
    apply (Source.text_eq_ok_iff _ _ _ _).2
    exact ⟨_, described, Script.wholeText_iff.1 ⟨_, tell, rfl⟩⟩

end Snapshot

end SchemaAtlas
