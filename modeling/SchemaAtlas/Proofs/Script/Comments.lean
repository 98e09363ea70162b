import SchemaAtlas.Proofs.Fetch
import SchemaAtlas.Proofs.Script.Lines

/-!
# Comments of scripts

The first line of a script and the heads of its sections are meant as
comments.  A banner or the name of a table that holds a line break goes on in
a line of its own, though, and nothing puts dashes before that line.  Heads
are comments exactly if no line behind a break in the banner or in a name
needs the dashes.
-/

namespace SchemaAtlas

namespace Text

/-- The line is empty or begins with two dashes. -/
def IsComment (line : String) : Prop :=
  line = "" ∨ "--".toList <+: line.toList

instance (line : String) : Decidable (IsComment line) :=
  inferInstanceAs (Decidable (_ ∨ _))

/-- Begun inside of a comment, the text does not leave comments. -/
def StaysComment (text : String) : Prop :=
  ∀ line ∈ (lines text).tail, IsComment line

instance (text : String) : Decidable (StaysComment text) :=
  inferInstanceAs (Decidable (∀ line ∈ _, _))

theorem staysComment_of_oneLine
    {text : String} (oneLine : OneLine text) : StaysComment text := by
  intro line member
  rw [lines_of_oneLine oneLine] at member
  cases member

theorem forall_lines_isComment_iff
    {front : String} (text : String) (oneLine : OneLine front)
    (dashes : "--".toList <+: front.toList) :
    (∀ line ∈ lines (front ++ text), IsComment line) ↔
      StaysComment text := by
  rcases exists_first_line text with ⟨first, rest, split, extend⟩
  have begins : IsComment (front ++ first) := by
    right
    rw [String.toList_append]
    exact dashes.trans (List.prefix_append _ _)
  rw [extend front oneLine, List.forall_mem_cons, StaysComment, split]
  exact and_iff_right begins

/-- Behind a blank, nothing makes a line a comment that was none before. -/
theorem isComment_append_blank (line back : String) :
    IsComment (line ++ (" " ++ back)) ↔ "--".toList <+: line.toList := by
  have nonempty : line ++ (" " ++ back) ≠ "" := by
    intro isEmpty
    have blank := (String.append_eq_empty_iff.1
      (String.append_eq_empty_iff.1 isEmpty).2).1
    exact absurd blank (by decide)
  rw [IsComment, or_iff_right nonempty, String.toList_append,
    String.toList_append]
  match line.toList with
  | [] => simp
  | [letter] => simp
  | first :: second :: rest => simp

theorem staysComment_append_blank (text : String) {back : String}
    (oneLine : OneLine back) :
    StaysComment (text ++ (" " ++ back)) ↔ StaysComment (text ++ " ") := by
  rcases exists_last_line text with ⟨before, last, -, extend⟩
  have blank : OneLine " " := by decide
  have withBlank := isComment_append_blank last ""
  rw [String.append_empty] at withBlank
  rw [StaysComment, StaysComment, extend " " blank,
    extend _ (oneLine_append.2 ⟨blank, oneLine⟩)]
  cases before with
  | nil => exact Iff.rfl
  | cons first rest =>
      simp only [List.cons_append, List.tail_cons, List.forall_mem_append,
        List.forall_mem_singleton, isComment_append_blank, withBlank]

end Text

namespace Script

/-- Why a line is in a script: to head what follows, or as a statement. -/
inductive Origin where
  | head
  | body
deriving DecidableEq

/-- The lines of texts that are put into a script for one reason. -/
def originated (origin : Origin) (texts : List String) :
    List (Origin × String) :=
  (texts.flatMap Text.lines).map fun line => (origin, line)

/-- The lines of the text of a table's section. -/
def originsOfTable (table : TableSchema) : List (Origin × String) :=
  originated .head (sectionLines (tableTitle table.name)) ++
    originated .body
      ([terminated table.definition] ++
        groupLines table.info.fields.values ++
        groupLines table.info.indexes.values ++
        groupLines table.info.events.values)

/-- The lines of the text of a script, each with its origin. -/
def origins (banner : String) (time : Timestamp)
    (tables : List TableSchema) : List (Origin × String) :=
  originated .head [bannerLine banner time] ++
    originated .head (sectionLines "OPTION") ++
    originated .body [terminated importDirective] ++
    tables.flatMap originsOfTable

@[simp]
theorem map_snd_originated (origin : Origin) (texts : List String) :
    (originated origin texts).map Prod.snd = texts.flatMap Text.lines := by
  rw [originated, List.map_map]
  exact List.map_id _

theorem map_snd_originsOfTable (table : TableSchema) :
    (originsOfTable table).map Prod.snd =
      (tableLines table).flatMap Text.lines := by
  rw [originsOfTable, List.map_append, map_snd_originated,
    map_snd_originated, ← List.flatMap_append, tableLines]
  simp only [List.append_assoc]

/-- Without their origins, these are all lines of the text. -/
theorem map_snd_origins
    (banner : String) (time : Timestamp) (tables : List TableSchema) :
    (origins banner time tables).map Prod.snd =
      Text.lines (ofTables banner time tables).text := by
  rw [lines_text (by simp [lines_ofTables]), lines_ofTables, origins]
  simp only [List.map_append, map_snd_originated, List.map_flatMap,
    map_snd_originsOfTable, List.flatMap_cons, List.flatMap_append,
    List.flatMap_nil, List.append_nil, List.append_assoc,
    List.flatMap_assoc]

/-- All lines among these that head something are comments. -/
def HeadsAreComments (marked : List (Origin × String)) : Prop :=
  ∀ line, (Origin.head, line) ∈ marked → Text.IsComment line

theorem headsAreComments_append (first second : List (Origin × String)) :
    HeadsAreComments (first ++ second) ↔
      HeadsAreComments first ∧ HeadsAreComments second := by
  simp only [HeadsAreComments, List.mem_append, or_imp, forall_and]

theorem headsAreComments_flatMap
    (tables : List TableSchema)
    (marked : TableSchema → List (Origin × String)) :
    HeadsAreComments (tables.flatMap marked) ↔
      ∀ table ∈ tables, HeadsAreComments (marked table) := by
  induction tables with
  | nil => simp [HeadsAreComments]
  | cons table tables induction =>
      rw [List.flatMap_cons, headsAreComments_append, induction,
        List.forall_mem_cons]

theorem headsAreComments_body (texts : List String) :
    HeadsAreComments (originated .body texts) := by
  intro line member
  rcases List.mem_map.1 member with ⟨other, -, same⟩
  cases same

theorem headsAreComments_head (texts : List String) :
    HeadsAreComments (originated .head texts) ↔
      ∀ text ∈ texts, ∀ line ∈ Text.lines text, Text.IsComment line := by
  simp only [HeadsAreComments, originated, List.mem_map, List.mem_flatMap,
    Prod.mk.injEq, true_and, exists_eq_right]
  constructor
  · intro comments text isText line isLine
    exact comments line ⟨text, isText, isLine⟩
  · rintro comments line ⟨text, isText, isLine⟩
    exact comments text isText line isLine

/-- The head of a section leaves comments only through its title. -/
theorem headsAreComments_sectionLines
    (front title : String) (oneLine : Text.OneLine front) :
    HeadsAreComments (originated .head (sectionLines (front ++ title))) ↔
      Text.StaysComment title := by
  have titleLine := Text.forall_lines_isComment_iff title
    (Text.oneLine_append.2
      ⟨(by decide : Text.OneLine "-- "), oneLine⟩)
    (by
      rw [String.toList_append]
      exact (by decide : "--".toList <+: "-- ".toList).trans
        (List.prefix_append _ _))
  have emptyLine : ∀ line ∈ Text.lines "", Text.IsComment line := by decide
  have dividerLine : ∀ line ∈ Text.lines divider, Text.IsComment line := by
    decide
  rw [String.append_assoc] at titleLine
  rw [headsAreComments_head, sectionLines]
  simp only [List.forall_mem_cons, List.not_mem_nil, false_imp_iff,
    implies_true, and_true, titleLine]
  constructor
  · rintro ⟨-, -, stays, -⟩
    exact stays
  · intro stays
    exact ⟨emptyLine, dividerLine, stays, dividerLine, emptyLine⟩

theorem headsAreComments_bannerLine (banner : String) (time : Timestamp) :
    HeadsAreComments (originated .head [bannerLine banner time]) ↔
      Text.StaysComment (banner ++ " ") := by
  rw [headsAreComments_head, List.forall_mem_singleton, bannerLine,
    ← Text.staysComment_append_blank banner time.render_oneLine,
    String.append_assoc, String.append_assoc]
  exact Text.forall_lines_isComment_iff _ (by decide) (by decide)

theorem headsAreComments_origins
    (banner : String) (time : Timestamp) (tables : List TableSchema) :
    HeadsAreComments (origins banner time tables) ↔
      Text.StaysComment (banner ++ " ") ∧
        ∀ table ∈ tables, Text.StaysComment table.name := by
  have options :
      HeadsAreComments (originated .head (sectionLines "OPTION")) :=
    (headsAreComments_sectionLines "" "OPTION" (by decide)).2
      (Text.staysComment_of_oneLine (by decide))
  have ofTable : ∀ table,
      HeadsAreComments (originsOfTable table) ↔
        Text.StaysComment table.name := by
    intro table
    rw [originsOfTable, headsAreComments_append, tableTitle,
      headsAreComments_sectionLines _ _ (by decide)]
    exact and_iff_left (headsAreComments_body _)
  rw [origins, headsAreComments_append, headsAreComments_append,
    headsAreComments_append, headsAreComments_bannerLine,
    headsAreComments_flatMap]
  simp only [options, headsAreComments_body, and_true, ofTable]

end Script

namespace Export

/--
The first line of an exported script and the heads of its sections are
comments exactly if the banner, with the blank behind it, and the names of
all tables go on as comments after each of their line breaks.
-/
theorem heads_are_comments_iff
    {source : Source} {settings : ExportSettings} {time : Timestamp}
    {script : String}
    (exported : (text source settings time).outcome = .ok script) :
    ∃ schemas, source.Describes schemas ∧
      (Script.origins settings.banner time schemas).map Prod.snd =
        Text.lines script ∧
      (Script.HeadsAreComments
          (Script.origins settings.banner time schemas) ↔
        Text.StaysComment (settings.banner ++ " ") ∧
          ∀ table ∈ schemas, Text.StaysComment table.name) := by
  rcases (Source.text_eq_ok_iff _ _ _ _).1 exported with
    ⟨schemas, described, isScript⟩
  refine ⟨schemas, described, ?_, ?_⟩
  · rw [← isScript]
    exact Script.map_snd_origins _ _ _
  · exact Script.headsAreComments_origins _ _ _

/-- A banner of two lines, the second of which begins with dashes. -/
theorem heads_are_comments_two_lines :
    let source : Source :=
      .ofSnapshot (Snapshot.empty.withTable "t" "DEFINE TABLE t" .empty)
    let settings : ExportSettings := { ExportSettings.standard with
      banner := "Exported\n-- by hand on" }
    let schemas : List TableSchema := [⟨"t", "DEFINE TABLE t", .empty⟩]
    ∃ script,
      (text source settings ⟨0, 0⟩).outcome = .ok script ∧
        Script.HeadsAreComments
          (Script.origins settings.banner ⟨0, 0⟩ schemas) := by
  intro source settings schemas
  have described : source.Describes schemas :=
    ⟨.ofList [("t", "DEFINE TABLE t")], rfl, .cons ⟨rfl, rfl⟩ .nil⟩
  have exported := (Source.text_eq_ok_iff source settings ⟨0, 0⟩ _).2
    ⟨schemas, described, rfl⟩
  rcases heads_are_comments_iff exported with
    ⟨others, othersDescribed, -, comments⟩
  rw [othersDescribed.unique described] at comments
  exact ⟨_, exported, comments.2 (by decide)⟩

/-- Behind a break in the name of a table, a head may leave comments. -/
theorem not_all_heads_are_comments :
    ¬ ∀ (source : Source) (settings : ExportSettings) (time : Timestamp)
        (schemas : List TableSchema) (script : String),
      (text source settings time).outcome = .ok script →
      source.Describes schemas →
      Script.HeadsAreComments
        (Script.origins settings.banner time schemas) := by
  intro claimed
  let source : Source := .ofSnapshot
    (Snapshot.empty.withTable "a\nREMOVE TABLE b;" "DEFINE TABLE t" .empty)
  let schemas : List TableSchema :=
    [⟨"a\nREMOVE TABLE b;", "DEFINE TABLE t", .empty⟩]
  have described : source.Describes schemas :=
    ⟨.ofList [("a\nREMOVE TABLE b;", "DEFINE TABLE t")], rfl,
      .cons ⟨rfl, rfl⟩ .nil⟩
  have exported := (Source.text_eq_ok_iff source .standard ⟨0, 0⟩ _).2
    ⟨schemas, described, rfl⟩
  have comments := claimed source .standard ⟨0, 0⟩ schemas _ exported described
  have names := ((Script.headsAreComments_origins _ _ _).1 comments).2
  exact absurd (names _ List.mem_cons_self) (by decide)

end Export

end SchemaAtlas
