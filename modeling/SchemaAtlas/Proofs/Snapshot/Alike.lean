import SchemaAtlas.Proofs.Recorded
import SchemaAtlas.Proofs.Script.Contents

/-!
# Exports of equal snapshots

Snapshots are equal whatever the order of their tables, of their metadata and
of the definitions inside of it.  An export follows all of these orders, and
it finds metadata by its name.  So the exports of equal snapshots differ, but
only in order: they have the same lines, the same sections under the same
titles, and in each section the same lines in each group.  If one of them
fails then so does the other.
-/

namespace SchemaAtlas

/-- Two tables of one name, with one definition of their own and the same
definitions in each of their groups, in whatever order. -/
structure TableSchema.SameUpToOrder (table other : TableSchema) : Prop where
  name : table.name = other.name
  definition : table.definition = other.definition
  fields : table.info.fields.values.Perm other.info.fields.values
  indexes : table.info.indexes.values.Perm other.info.indexes.values
  events : table.info.events.values.Perm other.info.events.values

/-- Two sections under one title, with one line for the table itself and the
same lines in each of their groups, in whatever order. -/
structure Script.SectionLines.SameUpToOrder
    (part other : Script.SectionLines) : Prop where
  title : part.title = other.title
  definition : part.definition = other.definition
  fields : part.fields.Perm other.fields
  indexes : part.indexes.Perm other.indexes
  events : part.events.Perm other.events

/-! ## Scripts -/

namespace Script

theorem SectionLines.sameUpToOrder_ofTable
    {table other : TableSchema} (same : table.SameUpToOrder other) :
    (ofTable table).SameUpToOrder (ofTable other) where
  title := congrArg (fun name => "-- " ++ tableTitle name) same.name
  definition := congrArg terminated same.definition
  fields := same.fields.map terminated
  indexes := same.indexes.map terminated
  events := same.events.map terminated

/-- The sections of tables match as the tables do. -/
theorem SectionLines.exists_matched_of_tables
    {tables matched others : List TableSchema}
    (same : List.Forall₂ TableSchema.SameUpToOrder tables matched)
    (order : matched.Perm others) :
    ∃ parts otherParts,
      List.Forall₂ Tells parts tables ∧
      List.Forall₂ Tells otherParts others ∧
      ∃ matchedParts, List.Forall₂ SameUpToOrder parts matchedParts ∧
        matchedParts.Perm otherParts := by
  refine ⟨_, _, forall₂_tells_iff.2 rfl, forall₂_tells_iff.2 rfl,
    matched.map ofTable, ?_, order.map ofTable⟩
  rw [List.forall₂_map_left_iff, List.forall₂_map_right_iff]
  exact same.imp fun _ _ => sameUpToOrder_ofTable

theorem groupLines_perm
    {statements others : List String} (order : statements.Perm others) :
    (groupLines statements).Perm (groupLines others) := by
  cases statements with
  | nil =>
      rw [List.nil_perm.1 order]
  | cons statement rest =>
      cases others with
      | nil => exact absurd order.length_eq (by simp)
      | cons other others => exact (order.map terminated).cons ""

theorem tableLines_perm
    {table other : TableSchema} (same : table.SameUpToOrder other) :
    (tableLines table).Perm (tableLines other) := by
  rw [tableLines, tableLines, same.name, same.definition]
  exact (((List.Perm.refl _).append (groupLines_perm same.fields)).append
    (groupLines_perm same.indexes)).append (groupLines_perm same.events)

/-- Tables that are the same up to order, in any order. -/
theorem lines_ofTables_perm
    {tables matched others : List TableSchema}
    (same : List.Forall₂ TableSchema.SameUpToOrder tables matched)
    (order : matched.Perm others) (banner : String) (time : Timestamp) :
    (ofTables banner time tables).lines.Perm
      (ofTables banner time others).lines := by
  have sections :
      (tables.flatMap tableLines).Perm (matched.flatMap tableLines) := by
    induction same generalizing others with
    | nil => exact .refl _
    | cons head tail induction =>
        rw [List.flatMap_cons, List.flatMap_cons]
        exact (tableLines_perm head).append (induction (.refl _))
  rw [lines_ofTables, lines_ofTables]
  exact ((sections.trans (order.flatMap_right _)).append_left _).cons _

end Script

/-! ## Snapshots -/

theorem TableInfo.values_perm_of_alike
    {texts others : Dict String}
    (alike : texts.alike (· == ·) others = true) :
    texts.values.Perm others.values :=
  (Dict.entries_perm_of_alike alike).map Prod.snd

namespace Snapshot

variable {first second : Snapshot}

theorem tables_perm_of_alike (alike : first.alike second = true) :
    first.tables.entries.Perm second.tables.entries := by
  rw [Snapshot.alike, Bool.and_eq_true] at alike
  exact Dict.entries_perm_of_alike alike.1

theorem complete_iff_of_alike (alike : first.alike second = true) :
    first.Complete ↔ second.Complete := by
  have tables := (tables_perm_of_alike alike).map Prod.fst
  rw [Snapshot.alike, Bool.and_eq_true] at alike
  have infos := Dict.keys_perm_of_alike alike.2
  apply forall_congr'
  intro name
  rw [infos.mem_iff, Dict.keys, tables.mem_iff]
  rfl

/-- The tables of equal snapshots match by their names. -/
theorem exists_matched_of_alike (alike : first.alike second = true) :
    ∃ matched,
      List.Forall₂ TableSchema.SameUpToOrder first.schemas matched ∧
        matched.Perm second.schemas := by
  have order := tables_perm_of_alike alike
  rw [Snapshot.alike, Bool.and_eq_true] at alike
  refine ⟨first.tables.entries.map fun entry =>
    ⟨entry.1, entry.2, (second.info.get? entry.1).getD .empty⟩, ?_,
    order.map _⟩
  rw [schemas, List.forall₂_map_left_iff, List.forall₂_map_right_iff,
    List.forall₂_same]
  rintro ⟨name, definition⟩ -
  have recorded := Dict.get?_rel_of_alike alike.2 name
  generalize first.info.get? name = info at recorded ⊢
  generalize second.info.get? name = other at recorded ⊢
  cases recorded with
  | none => exact ⟨rfl, rfl, .refl _, .refl _, .refl _⟩
  | some same =>
      simp only [TableInfo.alike, Bool.and_eq_true] at same
      exact ⟨rfl, rfl, TableInfo.values_perm_of_alike same.1.1,
        TableInfo.values_perm_of_alike same.1.2,
        TableInfo.values_perm_of_alike same.2⟩

/--
Exports of equal snapshots, with the same settings and at the same time, both
fail with a refused query or both succeed.  If they succeed, the lines of one
script are those of the other in another order.  The tables of the two
snapshots match one by one: what is matched has one name and one definition,
and its fields, indexes and events have the same definitions up to their
order.  So do the sections of the two scripts: what is matched has one title
and one line for the definition, and the same lines in each group up to their
order.
-/
theorem exports_of_alike
    (alike : first.alike second = true) (settings : ExportSettings)
    (time : Timestamp) :
    (∃ statement text otherStatement otherText,
      (Export.text (.ofSnapshot first) settings time).outcome =
          .error (.query statement text) ∧
        (Export.text (.ofSnapshot second) settings time).outcome =
          .error (.query otherStatement otherText)) ∨
    ∃ tables others : List TableSchema,
      (Source.ofSnapshot first).Describes tables ∧
      (Source.ofSnapshot second).Describes others ∧
      (Export.text (.ofSnapshot first) settings time).outcome =
        .ok (Script.ofTables settings.banner time tables).text ∧
      (Export.text (.ofSnapshot second) settings time).outcome =
        .ok (Script.ofTables settings.banner time others).text ∧
      (Script.ofTables settings.banner time tables).lines.Perm
        (Script.ofTables settings.banner time others).lines ∧
      (∃ matched, List.Forall₂ TableSchema.SameUpToOrder tables matched ∧
        matched.Perm others) ∧
      ∃ parts otherParts : List Script.SectionLines,
        List.Forall₂ Script.SectionLines.Tells parts tables ∧
        List.Forall₂ Script.SectionLines.Tells otherParts others ∧
        (Script.ofTables settings.banner time tables).lines =
          Script.documentLines settings.banner time parts ∧
        (Script.ofTables settings.banner time others).lines =
          Script.documentLines settings.banner time otherParts ∧
        ∃ matchedParts,
          List.Forall₂ Script.SectionLines.SameUpToOrder
            parts matchedParts ∧
          matchedParts.Perm otherParts := by
  by_cases complete : first.Complete
  · right
    have describes := complete.describes
    have otherDescribes :=
      ((complete_iff_of_alike alike).1 complete).describes
    rcases exists_matched_of_alike alike with ⟨matched, same, order⟩
    rcases Script.SectionLines.exists_matched_of_tables same order with
      ⟨parts, otherParts, tell, otherTell, matchedParts⟩
    refine ⟨first.schemas, second.schemas, describes, otherDescribes,
      ?_, ?_, ?_, ⟨matched, same, order⟩, parts, otherParts, tell, otherTell,
      Script.lines_ofTables_of_tells tell,
      Script.lines_ofTables_of_tells otherTell, matchedParts⟩
    · exact (Source.text_eq_ok_iff _ _ _ _).2 ⟨_, describes, rfl⟩
    · exact (Source.text_eq_ok_iff _ _ _ _).2 ⟨_, otherDescribes, rfl⟩
    · exact Script.lines_ofTables_perm same order settings.banner time
  · left
    have otherIncomplete : ¬ second.Complete := by
      rw [← complete_iff_of_alike alike]
      exact complete
    rcases exists_failsWith_ofSnapshot complete with ⟨name, fails⟩
    rcases exists_failsWith_ofSnapshot otherIncomplete with
      ⟨otherName, otherFails⟩
    exact ⟨_, _, _, _, fails.text settings time,
      otherFails.text settings time⟩

/-- Other orders of tables, of metadata and of fields at once. -/
theorem exports_of_alike_reordered :
    let fields : TableInfo := ⟨.ofList [("a", "A"), ("b", "B")], ∅, ∅⟩
    let others : TableInfo := ⟨.ofList [("b", "B"), ("a", "A")], ∅, ∅⟩
    let first : Snapshot :=
      ⟨.ofList [("t", "T"), ("u", "U")],
        .ofList [("u", .empty), ("t", fields)]⟩
    let second : Snapshot :=
      ⟨.ofList [("u", "U"), ("t", "T")],
        .ofList [("t", others), ("u", .empty)]⟩
    first.alike second = true ∧
      ∃ tables others : List TableSchema,
        (Source.ofSnapshot first).Describes tables ∧
        (Source.ofSnapshot second).Describes others ∧
        (Script.ofTables "" ⟨0, 0⟩ tables).lines.Perm
          (Script.ofTables "" ⟨0, 0⟩ others).lines := by
  intro fields others first second
  have alike : first.alike second = true := by decide
  refine ⟨alike, ?_⟩
  rcases exports_of_alike alike { ExportSettings.standard with banner := "" }
    ⟨0, 0⟩ with
    ⟨statement, text, -, -, fails, -⟩ |
    ⟨tables, others, describes, otherDescribes, -, -, order, -⟩
  · have complete : first.Complete := by
      simp only [Complete]
      decide
    rcases (exists_text_iff first _ ⟨0, 0⟩).2 complete with ⟨script, built⟩
    rw [fails] at built
    cases built
  · exact ⟨tables, others, describes, otherDescribes, order⟩

end Snapshot

end SchemaAtlas
