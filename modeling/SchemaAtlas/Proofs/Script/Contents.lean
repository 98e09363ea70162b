import SchemaAtlas.Proofs.Script.Lines

/-!
# What a script says

The text of a script as one who reads it from top to bottom would describe
it.  There is a first line, a section that makes the script an import, and a
section for each table: its title, the line of its own definition, and a group
of lines each for its fields, its indexes and its events.  A group is set off
by an empty line, and one without lines is not there at all.

The description spells out every line that is the same in all scripts, and
takes the line of a statement for what is left of the statement.  It fits
exactly one text, which is the text of the script.
-/

namespace SchemaAtlas.Script

/-! ## Lines of statements -/

/--
The line of a statement.  The white space at the end of the statement is gone,
so are the semicolons that stood before it, and one semicolon is behind the
letters that are kept.
-/
def StatementLine (statement line : String) : Prop :=
  ∃ kept semicolons blanks : List Char,
    statement.toList = kept ++ semicolons ++ blanks ∧
      line.toList = kept ++ [';'] ∧
      (∀ letter ∈ blanks, Text.isBlank letter = true) ∧
      (∀ letter ∈ semicolons, letter = ';') ∧
      (∀ last ∈ (kept ++ semicolons).getLast?,
        Text.isBlank last = false) ∧
      kept.getLast? ≠ some ';'

/-- What is left of a statement, and the two ends that are cut off. -/
theorem keptLetters_split (statement : String) :
    ∃ semicolons blanks : List Char,
      statement.toList = keptLetters statement ++ semicolons ++ blanks ∧
        (∀ letter ∈ blanks, Text.isBlank letter = true) ∧
        (∀ letter ∈ semicolons, letter = ';') ∧
        (∀ last ∈ (keptLetters statement ++ semicolons).getLast?,
          Text.isBlank last = false) ∧
        (keptLetters statement).getLast? ≠ some ';' := by
  have trimmed : keptLetters statement ++ _ =
      statement.toList.rdropWhile Text.isBlank :=
    List.rdropWhile_append_rtakeWhile
  refine ⟨(statement.toList.rdropWhile Text.isBlank).rtakeWhile (· == ';'),
    statement.toList.rtakeWhile Text.isBlank, ?_,
    fun _ => List.mem_rtakeWhile_imp, ?_, ?_, ?_⟩
  · rw [trimmed]
    exact List.rdropWhile_append_rtakeWhile.symm
  · intro letter member
    have isSemicolon := List.mem_rtakeWhile_imp member
    exact eq_of_beq isSemicolon
  · intro last isLast
    rw [trimmed] at isLast
    rcases List.mem_getLast?_eq_getLast isLast with ⟨nonempty, rfl⟩
    exact Bool.eq_false_iff.2 (List.rdropWhile_last_not _ _ nonempty)
  · intro isLast
    rcases List.mem_getLast?_eq_getLast isLast with ⟨nonempty, isSemicolon⟩
    apply List.rdropWhile_last_not _ _ nonempty
    exact beq_of_eq isSemicolon.symm

/-- No other split of a statement leaves other letters. -/
theorem keptLetters_eq_of_split
    {statement : String} {kept semicolons blanks : List Char}
    (split : statement.toList = kept ++ semicolons ++ blanks)
    (areBlank : ∀ letter ∈ blanks, Text.isBlank letter = true)
    (areSemicolons : ∀ letter ∈ semicolons, letter = ';')
    (noBlank : ∀ last ∈ (kept ++ semicolons).getLast?,
      Text.isBlank last = false)
    (noSemicolon : kept.getLast? ≠ some ';') :
    keptLetters statement = kept := by
  rw [keptLetters, split, rdropWhile_append_of_forall _ areBlank,
    rdropWhile_append_of_forall]
  · intro nonempty isSemicolon
    apply noSemicolon
    rw [List.getLast?_eq_some_getLast nonempty, eq_of_beq isSemicolon]
  · intro letter member
    exact beq_of_eq (areSemicolons letter member)
  · intro nonempty isBlank
    rw [noBlank _ (List.getLast_mem_getLast? nonempty)] at isBlank
    exact Bool.false_ne_true isBlank

theorem statementLine_iff {statement line : String} :
    StatementLine statement line ↔ terminated statement = line := by
  rw [← String.toList_inj, toList_terminated]
  constructor
  · rintro ⟨kept, semicolons, blanks, split, isLine, areBlank,
      areSemicolons, noBlank, noSemicolon⟩
    rw [keptLetters_eq_of_split split areBlank areSemicolons noBlank
      noSemicolon, isLine]
  · intro isLine
    rcases keptLetters_split statement with ⟨semicolons, blanks, split,
      areBlank, areSemicolons, noBlank, noSemicolon⟩
    exact ⟨_, semicolons, blanks, split, isLine.symm, areBlank,
      areSemicolons, noBlank, noSemicolon⟩

theorem forall₂_statementLine_iff {statements lines : List String} :
    List.Forall₂ StatementLine statements lines ↔
      statements.map terminated = lines := by
  rw [← List.forall₂_eq_eq_eq, List.forall₂_map_left_iff]
  constructor
  · exact .imp fun _ _ => statementLine_iff.1
  · exact .imp fun _ _ => statementLine_iff.2

/-! ## Sections of tables -/

/-- The lines of a table's section that are not the same for all tables. -/
structure SectionLines where
  title : String
  definition : String
  fields : List String
  indexes : List String
  events : List String
deriving DecidableEq

namespace SectionLines

/-- The lines of a group, with an empty line above them. -/
def setOff : List String → List String
  | [] => []
  | first :: rest => "" :: first :: rest

/-- All lines of a section from top to bottom. -/
def all (part : SectionLines) : List String :=
  ["", "-- ------------------------------", part.title,
    "-- ------------------------------", "", part.definition] ++
    setOff part.fields ++ setOff part.indexes ++ setOff part.events

/-- The section is that of the table. -/
structure Tells (part : SectionLines) (table : TableSchema) : Prop where
  title : part.title = "-- TABLE: " ++ table.name
  definition : StatementLine table.definition part.definition
  fields : List.Forall₂ StatementLine table.info.fields.values part.fields
  indexes : List.Forall₂ StatementLine table.info.indexes.values part.indexes
  events : List.Forall₂ StatementLine table.info.events.values part.events

/-- The section that a table is given. -/
def ofTable (table : TableSchema) : SectionLines where
  title := "-- " ++ tableTitle table.name
  definition := terminated table.definition
  fields := table.info.fields.values.map terminated
  indexes := table.info.indexes.values.map terminated
  events := table.info.events.values.map terminated

theorem commented_tableTitle (name : String) :
    "-- " ++ tableTitle name = "-- TABLE: " ++ name := by
  rw [tableTitle, ← String.append_assoc]
  rfl

theorem tells_iff {part : SectionLines} {table : TableSchema} :
    part.Tells table ↔ ofTable table = part := by
  constructor
  · rintro ⟨title, definition, fields, indexes, events⟩
    rw [ofTable, statementLine_iff.1 definition,
      forall₂_statementLine_iff.1 fields, forall₂_statementLine_iff.1 indexes,
      forall₂_statementLine_iff.1 events, commented_tableTitle, ← title]
  · rintro rfl
    exact ⟨commented_tableTitle table.name, statementLine_iff.2 rfl,
      forall₂_statementLine_iff.2 rfl, forall₂_statementLine_iff.2 rfl,
      forall₂_statementLine_iff.2 rfl⟩

theorem forall₂_tells_iff
    {parts : List SectionLines} {tables : List TableSchema} :
    List.Forall₂ Tells parts tables ↔ parts = tables.map ofTable := by
  rw [← List.forall₂_eq_eq_eq, List.forall₂_map_right_iff]
  constructor
  · exact .imp fun _ _ tells => (tells_iff.1 tells).symm
  · exact .imp fun _ _ equal => tells_iff.2 equal.symm

/-- The titles of sections are the names of their tables. -/
theorem map_title_of_tells
    {parts : List SectionLines} {tables : List TableSchema}
    (tell : List.Forall₂ Tells parts tables) :
    parts.map title =
      (tables.map TableSchema.name).map fun name => "-- TABLE: " ++ name := by
  rw [List.map_map]
  apply map_eq_of_forall₂ _ tell
  intro part table tells
  exact tells.title

theorem setOff_map_terminated (statements : List String) :
    setOff (statements.map terminated) = groupLines statements := by
  cases statements with
  | nil => rfl
  | cons statement rest => rfl

theorem all_ofTable (table : TableSchema) :
    (ofTable table).all = tableLines table := by
  simp only [all, ofTable, setOff_map_terminated, tableLines, sectionLines,
    divider, List.cons_append, List.nil_append, List.append_assoc]

end SectionLines

/-! ## Whole scripts -/

/-- All lines of a script with the given sections for tables. -/
def documentLines (banner : String) (time : Timestamp)
    (parts : List SectionLines) : List String :=
  ["-- " ++ banner ++ " " ++ time.render, "",
    "-- ------------------------------", "-- OPTION",
    "-- ------------------------------", "", "OPTION IMPORT;"] ++
    parts.flatMap SectionLines.all

/-- The text is that of the script with a section for each of the tables. -/
def WholeText (banner : String) (time : Timestamp)
    (tables : List TableSchema) (script : String) : Prop :=
  ∃ parts, List.Forall₂ SectionLines.Tells parts tables ∧
    script = String.intercalate "\n" (documentLines banner time parts)

variable {banner : String} {time : Timestamp} {tables : List TableSchema}
  {parts : List SectionLines}

theorem terminated_importDirective :
    terminated importDirective = "OPTION IMPORT;" := by
  decide

theorem lines_ofTables_of_tells
    (tell : List.Forall₂ SectionLines.Tells parts tables) :
    (ofTables banner time tables).lines = documentLines banner time parts := by
  rw [SectionLines.forall₂_tells_iff.1 tell, lines_ofTables, documentLines,
    List.flatMap_map, funext SectionLines.all_ofTable,
    terminated_importDirective]
  rfl

theorem wholeText_iff {script : String} :
    WholeText banner time tables script ↔
      (ofTables banner time tables).text = script := by
  rw [text]
  constructor
  · rintro ⟨parts, tell, rfl⟩
    rw [lines_ofTables_of_tells tell]
  · rintro rfl
    have tell := SectionLines.forall₂_tells_iff.2 (Eq.refl
      (tables.map SectionLines.ofTable))
    exact ⟨_, tell, by rw [lines_ofTables_of_tells tell]⟩

end SchemaAtlas.Script
