import SchemaAtlas.Proofs.Script.Contents
import SchemaAtlas.Proofs.Script.Sections

/-!
# The end of a statement

A statement is put into a script without the white space at its end, then
without the semicolons that come to its end by that, and with one semicolon
behind it.  Doing so once more changes nothing.

It does not always leave a single semicolon, though: white space between two
semicolons at the end of a statement ends the second step, and nothing takes
away that white space or the semicolon before it.  A statement line has a
single semicolon at its end exactly if no semicolons stand apart like this.
-/

namespace SchemaAtlas

namespace Text

/-! ## Semicolons at the end -/

/--
The line ends in a semicolon.  Without it, and without the white space that
then is at the end, it does not end in another one.
-/
def SinglyTerminated (line : String) : Prop :=
  line.toList.getLast? = some ';' ∧
    (dropEndWhile isBlank line.toList.dropLast).getLast? ≠ some ';'

instance (line : String) : Decidable (SinglyTerminated line) :=
  inferInstanceAs (Decidable (_ ∧ _))

/--
Semicolons at the end of the text stand apart: behind one of them there is
white space and then another one, and behind that nothing but semicolons and
white space.
-/
def SemicolonsApart (text : String) : Prop :=
  ∃ front gap back : List Char,
    text.toList = front ++ ';' :: (gap ++ ';' :: back) ∧
      gap ≠ [] ∧ (∀ letter ∈ gap, isBlank letter = true) ∧
      ∀ letter ∈ back, isBlank letter = true ∨ letter = ';'

end Text

namespace Script

open Text

theorem getLast?_terminated (statement : String) :
    (terminated statement).toList.getLast? = some ';' := by
  rw [toList_terminated, List.getLast?_concat]

/-- A statement that is put into a script again stays as it is. -/
@[simp]
theorem terminated_terminated (statement : String) :
    terminated (terminated statement) = terminated statement := by
  have keptAgain :
      keptLetters (terminated statement) = keptLetters statement := by
    rw [keptLetters, toList_terminated,
      List.rdropWhile_concat_neg _ _ _ (by decide),
      List.rdropWhile_concat_pos _ _ _ (by decide)]
    exact List.rdropWhile_idempotent _ _
  apply String.toList_inj.1
  rw [toList_terminated, toList_terminated, keptAgain]

theorem singlyTerminated_terminated (statement : String) :
    SinglyTerminated (terminated statement) ↔
      ((keptLetters statement).rdropWhile isBlank).getLast? ≠ some ';' := by
  rw [SinglyTerminated, toList_terminated, List.getLast?_concat,
    List.dropLast_concat, dropEndWhile_eq_rdropWhile]
  exact and_iff_right rfl

/-- Trimmed letters that have only semicolons and white space behind one
semicolon end in a semicolon. -/
theorem getLast?_of_semicolons
    {letters front more : List Char}
    (trimmed : letters.rdropWhile isBlank = front ++ ';' :: more)
    (tail : ∀ letter ∈ more, isBlank letter = true ∨ letter = ';') :
    (letters.rdropWhile isBlank).getLast? = some ';' := by
  rcases List.eq_nil_or_concat' more with rfl | ⟨others, last, rfl⟩
  · rw [trimmed, List.getLast?_concat]
  · have isLast : (letters.rdropWhile isBlank).getLast? = some last := by
      rw [trimmed, ← List.cons_append, ← List.append_assoc,
        List.getLast?_concat]
    rcases tail last (by simp) with blank | rfl
    · rcases List.mem_getLast?_eq_getLast isLast with ⟨nonempty, rfl⟩
      exact (List.rdropWhile_last_not _ _ nonempty blank).elim
    · exact isLast

/-- The first of semicolons that stand apart is kept. -/
theorem getLast?_kept_of_semicolonsApart
    {statement : String} (apart : SemicolonsApart statement) :
    ((keptLetters statement).rdropWhile isBlank).getLast? = some ';' := by
  rcases apart with ⟨front, gap, back, split, nonempty, blankGap, tail⟩
  rcases List.eq_nil_or_concat' gap with isEmpty | ⟨before, last, rfl⟩
  · exact (nonempty isEmpty).elim
  have blankLast : isBlank last = true := blankGap last (by simp)
  have otherLast : (last == ';') = false := by
    apply beq_false_of_ne
    rintro rfl
    exact absurd blankLast (by decide)
  -- None of the three steps gets past the letter named in its line.
  have untilSecond : front ++ ';' :: (before ++ [last]) ++ [';'] <+:
      statement.toList.rdropWhile isBlank := by
    apply prefix_rdropWhile
    · exact ⟨back, by simp [split]⟩
    · decide
  have untilGap :
      front ++ ';' :: before ++ [last] <+: keptLetters statement := by
    apply prefix_rdropWhile
    · exact .trans ⟨[';'], by simp⟩ untilSecond
    · exact otherLast
  have untilFirst :
      front ++ [';'] <+: (keptLetters statement).rdropWhile isBlank := by
    apply prefix_rdropWhile
    · exact .trans ⟨before ++ [last], by simp⟩ untilGap
    · decide
  have inside :
      (keptLetters statement).rdropWhile isBlank <+: statement.toList :=
    (List.rdropWhile_prefix _ _).trans (keptLetters_isPrefix statement)
  rcases untilFirst with ⟨more, isRest⟩
  rw [List.append_assoc, List.singleton_append] at isRest
  rw [← isRest, split, List.prefix_append_right_inj,
    List.cons_prefix_cons] at inside
  apply getLast?_of_semicolons isRest.symm
  intro letter member
  rcases List.mem_append.1 (inside.2.subset member) with inGap | behind
  · exact .inl (blankGap letter inGap)
  · rcases List.mem_cons.1 behind with same | inBack
    · exact .inr same
    · exact tail letter inBack

/-- A semicolon that is left is there because of one behind it. -/
theorem semicolonsApart_of_getLast?_kept
    {statement : String}
    (left :
      ((keptLetters statement).rdropWhile isBlank).getLast? = some ';') :
    SemicolonsApart statement := by
  rcases List.getLast?_eq_some_iff.1 left with ⟨front, isLeft⟩
  rcases keptLetters_split statement with
    ⟨semicolons, blanks, split, areBlank, areSemicolons, noBlank,
      noSemicolon⟩
  have keptSplit :
      front ++ [';'] ++ (keptLetters statement).rtakeWhile isBlank =
        keptLetters statement := by
    rw [← isLeft]
    exact List.rdropWhile_append_rtakeWhile
  have blankGap : ∀ letter ∈ (keptLetters statement).rtakeWhile isBlank,
      isBlank letter = true :=
    fun _ => List.mem_rtakeWhile_imp
  generalize (keptLetters statement).rtakeWhile isBlank = gap
    at keptSplit blankGap
  rw [← keptSplit] at split noBlank noSemicolon
  rcases List.eq_nil_or_concat' gap with rfl | ⟨before, last, rfl⟩
  · rw [List.append_nil, List.getLast?_concat] at noSemicolon
    exact (noSemicolon rfl).elim
  cases semicolons with
  | nil =>
      have ended : last ∈
          (front ++ [';'] ++ (before ++ [last]) ++ []).getLast? := by
        rw [List.append_nil, ← List.append_assoc, List.getLast?_concat]
        rfl
      have blank : isBlank last = true := blankGap last (by simp)
      rw [noBlank last ended] at blank
      cases blank
  | cons semicolon more =>
      rw [List.forall_mem_cons] at areSemicolons
      rcases areSemicolons with ⟨rfl, areSemicolons⟩
      refine ⟨front, before ++ [last], more ++ blanks, ?_, by simp, blankGap,
        ?_⟩
      · rw [split]
        simp
      · intro letter member
        rcases List.mem_append.1 member with isMore | isEnd
        · exact .inr (areSemicolons letter isMore)
        · exact .inl (areBlank letter isEnd)

theorem singlyTerminated_terminated_iff (statement : String) :
    SinglyTerminated (terminated statement) ↔
      ¬ SemicolonsApart statement := by
  rw [singlyTerminated_terminated]
  apply not_congr
  constructor
  · exact semicolonsApart_of_getLast?_kept
  · exact getLast?_kept_of_semicolonsApart

/-! ## The statement lines of a script -/

/-- The lines of a script that are statements: all below the heads of its
sections. -/
def statementLines (tables : List TableSchema) : List String :=
  (sectionsOf tables).flatMap fun part => part.groups.flatten

end Script

/-- The statements that define a table, in the order of its section. -/
def TableSchema.statements (table : TableSchema) : List String :=
  table.definition :: table.groups.flatten

namespace Script

theorem flatten_groups_toSection (table : TableSchema) :
    (TableSection.ofTable table).toSection.groups.flatten =
      table.statements.map terminated := by
  simp only [TableSection.toSection, TableSection.ofTable,
    TableSchema.statements, List.flatten_cons, List.map_cons,
    ← List.map_flatten, List.flatten_filter_not_isEmpty,
    List.singleton_append]

theorem statementLines_eq (tables : List TableSchema) :
    statementLines tables =
      (importDirective :: tables.flatMap TableSchema.statements).map
        terminated := by
  rw [statementLines, sectionsOf, List.flatMap_cons, List.flatMap_map,
    List.map_cons, List.map_flatMap]
  simp only [flatten_groups_toSection]
  rfl

theorem statementLines_singlyTerminated_iff (tables : List TableSchema) :
    (∀ line ∈ statementLines tables, Text.SinglyTerminated line) ↔
      ∀ table ∈ tables, ∀ statement ∈ table.statements,
        ¬ Text.SemicolonsApart statement := by
  have ofImport : ¬ Text.SemicolonsApart importDirective := by
    rw [← singlyTerminated_terminated_iff]
    decide
  rw [statementLines_eq, List.forall_mem_map, List.forall_mem_cons]
  simp only [singlyTerminated_terminated_iff, List.mem_flatMap]
  constructor
  · rintro ⟨-, single⟩ table isTable statement member
    exact single statement ⟨table, isTable, member⟩
  · intro single
    refine ⟨ofImport, ?_⟩
    rintro statement ⟨table, isTable, member⟩
    exact single table isTable statement member

end Script

namespace Export

/--
Every statement gets a line that ends in a semicolon.  That is the only one at
the end of the line exactly if no semicolons stand apart at the end of the
statement.  So it is with all statement lines of an export.
-/
theorem single_terminators_iff (document : Script) (statement : String) :
    (∃ line,
      (document.addStatement statement).lines = document.lines ++ [line] ∧
        line.toList.getLast? = some ';' ∧
        (Text.SinglyTerminated line ↔ ¬ Text.SemicolonsApart statement)) ∧
    ∀ (source : Source) (settings : ExportSettings) (time : Timestamp)
        (script : String),
      (text source settings time).outcome = .ok script →
      ∃ schemas, source.Describes schemas ∧
        (Script.ofTables settings.banner time schemas).text = script ∧
        (Script.ofTables settings.banner time schemas).lines =
          List.intercalate [""]
            (Script.blocksOf settings.banner time schemas) ∧
        (∀ line ∈ Script.statementLines schemas,
          line.toList.getLast? = some ';') ∧
        ((∀ line ∈ Script.statementLines schemas,
            Text.SinglyTerminated line) ↔
          ∀ table ∈ schemas, ∀ statement ∈ table.statements,
            ¬ Text.SemicolonsApart statement) := by
  constructor
  · exact ⟨Script.terminated statement, rfl,
      Script.getLast?_terminated statement,
      Script.singlyTerminated_terminated_iff statement⟩
  · intro source settings time script exported
    rcases (Source.text_eq_ok_iff _ _ _ _).1 exported with
      ⟨schemas, described, isScript⟩
    refine ⟨schemas, described, isScript,
      Script.lines_ofTables_eq_intercalate _ _ _, ?_,
      Script.statementLines_singlyTerminated_iff schemas⟩
    rw [Script.statementLines_eq, List.forall_mem_map]
    intro exportedStatement _
    exact Script.getLast?_terminated exportedStatement

/-- Semicolons and white space in other orders leave a single terminator. -/
theorem single_terminators_iff_mixed :
    let info : TableInfo :=
      ⟨.ofList [("a", " \t;;"), ("b", "DEFINE FIELD b ;; \n")], ∅,
        .ofList [("c", "")]⟩
    let source : Source :=
      .ofSnapshot (Snapshot.empty.withTable "t" "DEFINE TABLE t \n;" info)
    let schemas : List TableSchema := [⟨"t", "DEFINE TABLE t \n;", info⟩]
    ∃ script, (text source .standard ⟨0, 0⟩).outcome = .ok script ∧
      (∀ line ∈ Script.statementLines schemas, Text.SinglyTerminated line) ∧
      ∀ table ∈ schemas, ∀ statement ∈ table.statements,
        ¬ Text.SemicolonsApart statement := by
  intro info source schemas
  have described : source.Describes schemas :=
    ⟨.ofList [("t", "DEFINE TABLE t \n;")], rfl, .cons ⟨rfl, rfl⟩ .nil⟩
  have exported := (Source.text_eq_ok_iff source .standard ⟨0, 0⟩ _).2
    ⟨schemas, described, rfl⟩
  rcases (single_terminators_iff ⟨[]⟩ "DEFINE TABLE t \n;").2 _ _ _ _
      exported with
    ⟨others, othersDescribed, -, -, -, single⟩
  rw [othersDescribed.unique described] at single
  have lines : ∀ line ∈ Script.statementLines schemas,
      Text.SinglyTerminated line := by
    decide
  exact ⟨_, exported, lines, single.1 lines⟩

/-- A semicolon before the white space at the end of a statement stays if
another one stands behind it. -/
theorem not_all_singly_terminated :
    ¬ ∀ (script : Script) (statement : String), ∃ line,
        (script.addStatement statement).lines = script.lines ++ [line] ∧
          Text.SinglyTerminated line := by
  intro claimed
  rcases claimed ⟨[]⟩ "DEFINE TABLE user; ;" with ⟨line, appended, single⟩
  cases appended
  exact absurd single (by decide)

end Export

end SchemaAtlas
