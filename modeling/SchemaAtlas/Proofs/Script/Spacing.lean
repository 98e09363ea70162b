import SchemaAtlas.Proofs.Script.Sections
import Mathlib.Data.List.Chain

/-!
# Empty lines of scripts

The head of a section begins and ends with an empty line, and a group of
statements begins with one.  Whether two of them come to stand next to each
other depends on the line that a script ends in when more is added to it: a
group directly below the head of a section would leave such a pair.

A script is called spaced if it does not begin with an empty line and has no
two of them in a row, and closed if besides it does not end in one.  An empty
line fits behind closed scripts and no others, and so do sections and groups
of statements.  Any other line closes a spaced script.  Whole tables therefore
leave a closed script closed, and the scripts of schemas are closed.

The number of empty lines is followed through the same operations.
-/

namespace SchemaAtlas

namespace Script

variable {script : Script}

/-! ## One line after another -/

def addLine (script : Script) (line : String) : Script :=
  ⟨script.lines ++ [line]⟩

/-- The first line is not empty, and of two adjacent ones at most one is. -/
structure Spaced (script : Script) : Prop where
  begins : ∃ first ∈ script.lines.head?, first ≠ ""
  apart : script.lines.IsChain fun above below => above ≠ "" ∨ below ≠ ""

/-- The last line is not empty either. -/
structure Closed (script : Script) : Prop extends Spaced script where
  ends : ∀ last ∈ script.lines.getLast?, last ≠ ""

theorem Spaced.addLine_of
    {line : String} (spaced : script.Spaced)
    (fits : ∀ last ∈ script.lines.getLast?, last ≠ "" ∨ line ≠ "") :
    (script.addLine line).Spaced where
  begins := by
    rcases spaced.begins with ⟨first, isFirst, nonempty⟩
    exact ⟨first, List.mem_head?_append_of_mem_head? isFirst, nonempty⟩
  apart := by
    refine spaced.apart.append (List.isChain_singleton line) ?_
    intro last isLast below isBelow
    cases isBelow
    exact fits last isLast

/-- Any line that is not empty closes a spaced script. -/
theorem Spaced.addLine
    {line : String} (spaced : script.Spaced) (nonempty : line ≠ "") :
    (script.addLine line).Closed where
  toSpaced := spaced.addLine_of fun _ _ => .inr nonempty
  ends := by
    intro last isLast
    rw [Script.addLine, List.getLast?_concat] at isLast
    cases isLast
    exact nonempty

theorem Closed.addLine_empty (closed : script.Closed) :
    (script.addLine "").Spaced :=
  closed.toSpaced.addLine_of fun last isLast => .inl (closed.ends last isLast)

/-- Where an empty line came behind the script, the script was closed. -/
theorem Spaced.closed_of_prefix
    {longer : Script} (spaced : longer.Spaced)
    (begun : (script.addLine "").lines <+: longer.lines) :
    script.Closed := by
  have inside := spaced.apart.prefix begun
  rcases List.isChain_append.1 inside with ⟨apart, -, fits⟩
  refine ⟨⟨?_, apart⟩, ?_⟩
  · rcases spaced.begins with ⟨first, isFirst, nonempty⟩
    rcases begun with ⟨more, isLonger⟩
    rw [← isLonger, Script.addLine, List.append_assoc] at isFirst
    cases lines : script.lines with
    | nil =>
        rw [lines] at isFirst
        cases isFirst
        exact (nonempty rfl).elim
    | cons line rest =>
        rw [lines] at isFirst
        exact ⟨first, isFirst, nonempty⟩
  · intro last isLast
    exact (fits last isLast "" rfl).resolve_right fun differs => differs rfl

/-! ## Heads, statements and groups -/

theorem bannerLine_ne_empty (banner : String) (time : Timestamp) :
    bannerLine banner time ≠ "" := by
  simp [bannerLine]

theorem divider_ne_empty : divider ≠ "" := by decide

theorem titleLine_ne_empty (title : String) : "-- " ++ title ≠ "" := by
  simp

theorem terminated_ne_empty (statement : String) :
    terminated statement ≠ "" :=
  terminated_ne (by decide) statement

theorem begin_closed (banner : String) (time : Timestamp) :
    (begin banner time).Closed where
  begins := ⟨_, rfl, bannerLine_ne_empty banner time⟩
  apart := List.isChain_singleton _
  ends := by
    intro last isLast
    cases isLast
    exact bannerLine_ne_empty banner time

theorem addSection_eq (script : Script) (title : String) :
    script.addSection title =
      ((((script.addLine "").addLine divider).addLine
        ("-- " ++ title)).addLine divider).addLine "" := by
  simp only [addSection, addLine, sectionLines, List.append_assoc,
    List.cons_append, List.nil_append]

theorem spaced_addSection_iff (title : String) :
    (script.addSection title).Spaced ↔ script.Closed := by
  constructor
  · intro spaced
    apply spaced.closed_of_prefix
    rw [addSection, addLine, sectionLines, List.prefix_append_right_inj]
    exact List.prefix_append [""] _
  · intro closed
    have above := closed.addLine_empty.addLine divider_ne_empty
    have titled := above.toSpaced.addLine (titleLine_ne_empty title)
    have below := titled.toSpaced.addLine divider_ne_empty
    rw [addSection_eq]
    exact below.addLine_empty

theorem Spaced.addStatement (spaced : script.Spaced) (statement : String) :
    (script.addStatement statement).Closed :=
  spaced.addLine (terminated_ne_empty statement)

theorem Closed.foldl_addStatement
    (closed : script.Closed) (statements : List String) :
    (statements.foldl Script.addStatement script).Closed := by
  induction statements generalizing script with
  | nil => exact closed
  | cons statement rest induction =>
      exact induction (closed.toSpaced.addStatement statement)

theorem lines_foldl_addStatement
    (statements : List String) (script : Script) :
    (statements.foldl addStatement script).lines =
      script.lines ++ statements.map terminated := by
  induction statements generalizing script with
  | nil => simp
  | cons statement rest induction =>
      rw [List.foldl_cons, induction, addStatement, List.append_assoc]
      rfl

@[simp]
theorem addGroup_nil (script : Script) : script.addGroup [] = script := by
  rw [addGroup, groupLines, List.isEmpty_nil, if_pos rfl, List.append_nil]

/-- A group is set off by an empty line, and then comes each statement. -/
theorem addGroup_cons
    (script : Script) (statement : String) (rest : List String) :
    script.addGroup (statement :: rest) =
      (statement :: rest).foldl addStatement (script.addLine "") := by
  have sameLines :
      (script.addGroup (statement :: rest)).lines =
        ((statement :: rest).foldl addStatement
          (script.addLine "")).lines := by
    rw [lines_foldl_addStatement, addLine, List.append_assoc]
    rfl
  exact congrArg Script.mk sameLines

theorem Closed.addGroup
    (closed : script.Closed) (statements : List String) :
    (script.addGroup statements).Closed := by
  cases statements with
  | nil =>
      rw [addGroup_nil]
      exact closed
  | cons statement rest =>
      rw [addGroup_cons, List.foldl_cons]
      have first := closed.addLine_empty.addStatement statement
      exact first.foldl_addStatement rest

theorem spaced_addGroup_iff (statement : String) (rest : List String) :
    (script.addGroup (statement :: rest)).Spaced ↔ script.Closed := by
  constructor
  · intro spaced
    apply spaced.closed_of_prefix
    rw [addGroup_cons, lines_foldl_addStatement]
    exact List.prefix_append _ _
  · intro closed
    exact (closed.addGroup (statement :: rest)).toSpaced

theorem not_closed_addSection (title : String) :
    ¬ (script.addSection title).Closed := by
  intro closed
  apply closed.ends "" _ rfl
  rw [addSection_eq, addLine, List.getLast?_concat]
  rfl

/-- Directly below the head of a section, a group would not be spaced. -/
theorem not_spaced_addGroup_addSection
    (title statement : String) (rest : List String) :
    ¬ ((script.addSection title).addGroup (statement :: rest)).Spaced := by
  rw [spaced_addGroup_iff]
  exact not_closed_addSection title

/-! ## Tables -/

/-- A table is headed, defined, and told about group by group. -/
theorem addTable_eq (script : Script) (table : TableSchema) :
    script.addTable table =
      table.groups.foldl addGroup
        ((script.addSection (tableTitle table.name)).addStatement
          table.definition) := by
  simp only [addTable, tableLines, TableSchema.groups, List.foldl_cons,
    List.foldl_nil, addGroup, addStatement, addSection, List.append_assoc]

theorem Closed.foldl_addGroup
    (closed : script.Closed) (groups : List (List String)) :
    (groups.foldl Script.addGroup script).Closed := by
  induction groups generalizing script with
  | nil => exact closed
  | cons group rest induction => exact induction (closed.addGroup group)

/-- One table leaves a closed script closed. -/
theorem Closed.addTable (closed : script.Closed) (table : TableSchema) :
    (script.addTable table).Closed := by
  have headed := (spaced_addSection_iff (tableTitle table.name)).2 closed
  rw [addTable_eq]
  exact (headed.addStatement table.definition).foldl_addGroup table.groups

theorem Closed.foldl_addTable
    (closed : script.Closed) (tables : List TableSchema) :
    (tables.foldl Script.addTable script).Closed := by
  induction tables generalizing script with
  | nil => exact closed
  | cons table rest induction => exact induction (closed.addTable table)

theorem ofTables_closed
    (banner : String) (time : Timestamp) (tables : List TableSchema) :
    (ofTables banner time tables).Closed := by
  have headed :=
    (spaced_addSection_iff "OPTION").2 (begin_closed banner time)
  exact (headed.addStatement importDirective).foldl_addTable tables

/-! ## The number of empty lines -/

def emptyLines (script : Script) : Nat := script.lines.count ""

@[simp]
theorem emptyLines_addLine_empty (script : Script) :
    (script.addLine "").emptyLines = script.emptyLines + 1 := by
  rw [emptyLines, addLine, List.count_append, List.count_singleton_self]
  rfl

@[simp]
theorem emptyLines_addLine
    {line : String} (nonempty : line ≠ "") (script : Script) :
    (script.addLine line).emptyLines = script.emptyLines := by
  have absent : [line].count "" = 0 := by
    rw [List.count_eq_zero, List.mem_singleton]
    exact Ne.symm nonempty
  rw [emptyLines, addLine, List.count_append, absent]
  rfl

@[simp]
theorem emptyLines_addSection (script : Script) (title : String) :
    (script.addSection title).emptyLines = script.emptyLines + 2 := by
  rw [addSection_eq, emptyLines_addLine_empty,
    emptyLines_addLine divider_ne_empty,
    emptyLines_addLine (titleLine_ne_empty title),
    emptyLines_addLine divider_ne_empty, emptyLines_addLine_empty]

@[simp]
theorem emptyLines_addStatement (script : Script) (statement : String) :
    (script.addStatement statement).emptyLines = script.emptyLines :=
  emptyLines_addLine (terminated_ne_empty statement) script

@[simp]
theorem emptyLines_foldl_addStatement
    (statements : List String) (script : Script) :
    (statements.foldl addStatement script).emptyLines =
      script.emptyLines := by
  induction statements generalizing script with
  | nil => rfl
  | cons statement rest induction =>
      rw [List.foldl_cons, induction, emptyLines_addStatement]

theorem emptyLines_addGroup (script : Script) (statements : List String) :
    (script.addGroup statements).emptyLines =
      script.emptyLines + if statements ≠ [] then 1 else 0 := by
  cases statements with
  | nil =>
      rw [addGroup_nil]
      rfl
  | cons statement rest =>
      rw [addGroup_cons, emptyLines_foldl_addStatement,
        emptyLines_addLine_empty]
      rfl

theorem emptyLines_foldl_addGroup
    (groups : List (List String)) (script : Script) :
    (groups.foldl addGroup script).emptyLines =
      script.emptyLines + groups.countP (· ≠ []) := by
  induction groups generalizing script with
  | nil => rfl
  | cons group rest induction =>
      rw [List.foldl_cons, induction, emptyLines_addGroup, List.countP_cons]
      simp only [decide_eq_true_eq]
      omega

theorem emptyLines_addTable (script : Script) (table : TableSchema) :
    (script.addTable table).emptyLines =
      script.emptyLines + (table.groups.countP (· ≠ []) + 2) := by
  rw [addTable_eq, emptyLines_foldl_addGroup, emptyLines_addStatement,
    emptyLines_addSection]
  omega

theorem emptyLines_foldl_addTable
    (tables : List TableSchema) (script : Script) :
    (tables.foldl addTable script).emptyLines =
      script.emptyLines +
        ((tables.flatMap TableSchema.groups).countP (· ≠ []) +
          2 * tables.length) := by
  induction tables generalizing script with
  | nil => rfl
  | cons table rest induction =>
      rw [List.foldl_cons, induction, emptyLines_addTable, List.flatMap_cons,
        List.countP_append, List.length_cons]
      omega

theorem emptyLines_begin (banner : String) (time : Timestamp) :
    (begin banner time).emptyLines = 0 := by
  rw [emptyLines, begin, List.count_eq_zero, List.mem_singleton]
  exact Ne.symm (bannerLine_ne_empty banner time)

theorem emptyLines_ofTables
    (banner : String) (time : Timestamp) (tables : List TableSchema) :
    (ofTables banner time tables).emptyLines =
      (tables.flatMap TableSchema.groups).countP (· ≠ []) +
        2 * (tables.length + 1) := by
  rw [ofTables, emptyLines_foldl_addTable, emptyLines_addStatement,
    emptyLines_addSection, emptyLines_begin]
  omega

end Script

namespace Export

/--
The text of an export joins the lines of a script.  Whatever tables have been
fetched, no two empty lines are adjacent among them, the first and the last
one are not empty, and there is one empty line for each group that has
statements, and two for each section: one for each table, and that of the
options.
-/
theorem lines_evenly_spaced
    (source : Source) (settings : ExportSettings) (time : Timestamp) :
    let script (tables : List TableSchema) :=
      Script.ofTables settings.banner time tables
    (text source settings time).outcome =
        (Fetch.schemas source settings.maxConcurrent).outcome.map
          (fun tables => String.intercalate "\n" (script tables).lines) ∧
      ∀ tables,
        ¬ ["", ""] <:+: (script tables).lines ∧
        ¬ [""] <+: (script tables).lines ∧
        ¬ [""] <:+ (script tables).lines ∧
        (script tables).lines.count "" =
          (tables.flatMap TableSchema.groups).countP (· ≠ []) +
            2 * (tables.length + 1) := by
  intro script
  refine ⟨Export.text_outcome source settings time, ?_⟩
  intro tables
  have closed : (script tables).Closed := Script.ofTables_closed _ _ _
  refine ⟨?_, ?_, ?_, Script.emptyLines_ofTables _ _ _⟩
  · intro adjacent
    have pair := closed.apart.infix adjacent
    rcases List.isChain_pair.1 pair with differs | differs
    · exact differs rfl
    · exact differs rfl
  · rintro ⟨rest, isLines⟩
    rcases closed.begins with ⟨first, isFirst, nonempty⟩
    rw [← isLines] at isFirst
    cases isFirst
    exact nonempty rfl
  · rintro ⟨before, isLines⟩
    apply closed.ends "" _ rfl
    rw [← isLines, List.getLast?_concat]
    rfl

end Export

end SchemaAtlas
