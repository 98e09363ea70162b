import SchemaAtlas.Proofs.Fetch
import SchemaAtlas.Proofs.Script.Lines

/-!
# Reading scripts back

Empty lines cut a script into blocks.  A block is the heading of a section,
three lines with dividers around a title, or a group of statements, each of
which ends in a semicolon.  Dividers do not, so no group is taken for a
heading, whatever its statements are; and no statement is an empty line, so
no group is cut in two.  As long as the texts put into a script hold no line
breaks, its sections can therefore be read back from its text.
-/

namespace SchemaAtlas

/-- What stands behind a text at the front of another one. -/
def Text.behind? (front text : String) : Option String :=
  if front.toList <+: text.toList then
    some (String.ofList (text.toList.drop front.toList.length))
  else
    none

@[simp]
theorem Text.behind?_append (front text : String) :
    behind? front (front ++ text) = some text := by
  rw [behind?, String.toList_append, if_pos (List.prefix_append _ _),
    List.drop_left, String.ofList_toList]

namespace Script

/-- A section of a script: its title, and groups of lines below it. -/
structure Section where
  title : String
  groups : List (List String)
deriving DecidableEq

/-- The block of lines that heads a section. -/
def headingBlock (title : String) : List String :=
  [divider, "-- " ++ title, divider]

/-- The title in a block of lines, if the block heads a section. -/
def title? : List String → Option String
  | [above, line, below] =>
      if above = divider ∧ below = divider then Text.behind? "-- " line
      else none
  | _ => none

@[simp]
theorem title?_headingBlock (title : String) :
    title? (headingBlock title) = some title := by
  rw [headingBlock, title?, if_pos ⟨rfl, rfl⟩, Text.behind?_append]

/-- Statements are no heading, however they look. -/
@[simp]
theorem title?_map_terminated (statements : List String) :
    title? (statements.map terminated) = none := by
  match statements with
  | [] => rfl
  | [_] => rfl
  | [_, _] => rfl
  | [first, second, third] =>
      have noDivider : terminated first ≠ divider :=
        terminated_ne (by decide) first
      simp only [List.map_cons, List.map_nil, title?]
      rw [if_neg]
      rintro ⟨isDivider, -⟩
      exact noDivider isDivider
  | _ :: _ :: _ :: _ :: _ => rfl

namespace Section

/-- The blocks of a section. -/
def blocks (part : Section) : List (List String) :=
  headingBlock part.title :: part.groups

/-- No group of the section is the heading of another one. -/
def Plain (part : Section) : Prop :=
  ∀ group ∈ part.groups, title? group = none

end Section

/-- The sections of a list of blocks, and the blocks before the first one. -/
def readSections :
    List (List String) → List (List String) × List Section
  | [] => ([], [])
  | block :: rest =>
      let (groups, sections) := readSections rest
      match title? block with
      | none => (block :: groups, sections)
      | some title => ([], ⟨title, groups⟩ :: sections)

theorem readSections_groups
    {groups : List (List String)} (rest : List (List String))
    (plain : ∀ group ∈ groups, title? group = none) :
    readSections (groups ++ rest) =
      (groups ++ (readSections rest).1, (readSections rest).2) := by
  induction groups with
  | nil => rfl
  | cons group groups induction =>
      rw [List.forall_mem_cons] at plain
      rw [List.cons_append, readSections, induction plain.2, plain.1]
      rfl

/-- The blocks of a section are read as that section. -/
theorem readSections_blocks
    {part : Section} (plain : part.Plain) {blocks : List (List String)}
    {sections : List Section}
    (rest : readSections blocks = ([], sections)) :
    readSections (part.blocks ++ blocks) = ([], part :: sections) := by
  rw [Section.blocks, List.cons_append, readSections,
    readSections_groups blocks plain, rest, title?_headingBlock,
    List.append_nil]

theorem readSections_flatMap
    {sections : List Section} (plain : ∀ part ∈ sections, part.Plain) :
    readSections (sections.flatMap Section.blocks) = ([], sections) := by
  induction sections with
  | nil => rfl
  | cons part sections induction =>
      rw [List.forall_mem_cons] at plain
      rw [List.flatMap_cons]
      exact readSections_blocks plain.1 (induction plain.2)

/-! ## Sections of schemas -/

/-- The section below the first line of every script. -/
def optionSection : Section := ⟨"OPTION", [[terminated importDirective]]⟩

end Script

/-- Groups of statements, in the order in which a script has them. -/
def TableSchema.groups (table : TableSchema) : List (List String) :=
  [table.info.fields.values, table.info.indexes.values,
    table.info.events.values]

/-- The texts of a table that are put into a script. -/
def TableSchema.texts (table : TableSchema) : List String :=
  table.name :: table.definition :: table.groups.flatten

/-- What a script tells about a table. -/
structure TableSection where
  name : String
  definition : String
  groups : List (List String)
deriving DecidableEq

namespace TableSection

/-- What is to be told about a table: groups without statements are not. -/
def ofTable (table : TableSchema) : TableSection where
  name := table.name
  definition := Script.terminated table.definition
  groups := (table.groups.filter fun group => !group.isEmpty).map
    fun group => group.map Script.terminated

/-- The section of a script that tells so about a table. -/
def toSection (table : TableSection) : Script.Section :=
  ⟨Script.tableTitle table.name, [table.definition] :: table.groups⟩

/-- What a section tells about a table. -/
def ofSection? (part : Script.Section) : Option TableSection :=
  match part.groups with
  | [definition] :: groups =>
      (Text.behind? "TABLE: " part.title).map
        fun name => ⟨name, definition, groups⟩
  | _ => none

@[simp]
theorem ofSection?_toSection (table : TableSection) :
    ofSection? table.toSection = some table := by
  rw [ofSection?, toSection, Script.tableTitle, Text.behind?_append]
  rfl

theorem mapM_ofSection? (tables : List TableSection) :
    (tables.map toSection).mapM ofSection? = some tables := by
  induction tables with
  | nil => rfl
  | cons table tables induction =>
      rw [List.map_cons, List.mapM_cons, ofSection?_toSection, induction]
      rfl

end TableSection

namespace Script

/-- The sections of the script that defines the tables. -/
def sectionsOf (tables : List TableSchema) : List Section :=
  optionSection :: tables.map fun table =>
    (TableSection.ofTable table).toSection

/--
What the text of a script tells about tables.  The text is cut at line
breaks, its lines at empty lines, and the first block is not looked at.
-/
def readTables (text : String) : Option (List TableSection) :=
  match readSections ((Text.lines text).splitOn "").tail with
  | ([], first :: sections) =>
      if first = optionSection then sections.mapM TableSection.ofSection?
      else none
  | _ => none

/-! ## Blocks of lines -/

/-- Joined by empty lines, blocks have an empty line before each but the
first. -/
theorem intercalate_emptyLine
    (first : List String) (blocks : List (List String)) :
    List.intercalate [""] (first :: blocks) =
      first ++ blocks.flatMap fun block => "" :: block := by
  induction blocks generalizing first with
  | nil => simp
  | cons block blocks induction =>
      rw [List.intercalate_cons_cons, induction, List.flatMap_cons]
      simp

theorem flatMap_groupLines (groups : List (List String)) :
    groups.flatMap groupLines =
      ((groups.filter fun group => !group.isEmpty).map
        fun group => group.map terminated).flatMap
          fun block => "" :: block := by
  induction groups with
  | nil => rfl
  | cons group groups induction =>
      rw [List.flatMap_cons, induction, groupLines]
      cases group with
      | nil => rfl
      | cons statement statements => rfl

theorem tableLines_eq (table : TableSchema) :
    tableLines table =
      (TableSection.ofTable table).toSection.blocks.flatMap
        fun block => "" :: block := by
  have groups := flatMap_groupLines table.groups
  simp only [TableSchema.groups, List.flatMap_cons, List.flatMap_nil,
    List.append_nil] at groups
  simp only [tableLines, Section.blocks, TableSection.toSection,
    TableSection.ofTable, TableSchema.groups, List.flatMap_cons, ← groups,
    List.append_assoc]
  rfl

/-- The blocks of a script: its first line, and those of its sections. -/
def blocksOf (banner : String) (time : Timestamp)
    (tables : List TableSchema) : List (List String) :=
  [bannerLine banner time] :: (sectionsOf tables).flatMap Section.blocks

theorem lines_ofTables_eq_intercalate
    (banner : String) (time : Timestamp) (tables : List TableSchema) :
    (ofTables banner time tables).lines =
      List.intercalate [""] (blocksOf banner time tables) := by
  have tablesLines :
      tables.flatMap tableLines =
        ((tables.map fun table =>
          (TableSection.ofTable table).toSection).flatMap
            Section.blocks).flatMap fun block => "" :: block := by
    rw [List.flatMap_assoc, List.flatMap_map, funext tableLines_eq]
  rw [lines_ofTables, blocksOf, intercalate_emptyLine, tablesLines,
    sectionsOf, List.flatMap_cons, List.flatMap_append]
  rfl

/-- The text is neither cut nor taken for the end of a block. -/
def IsContent (line : String) : Prop := Text.OneLine line ∧ line ≠ ""

theorem terminated_isContent
    {statement : String} (oneLine : Text.OneLine statement) :
    IsContent (terminated statement) :=
  ⟨terminated_oneLine oneLine, terminated_ne (by decide) statement⟩

theorem append_isContent
    {front text : String} (content : IsContent front)
    (oneLine : Text.OneLine text) :
    IsContent (front ++ text) := by
  refine ⟨Text.oneLine_append.2 ⟨content.1, oneLine⟩, ?_⟩
  intro isEmpty
  exact content.2 (String.append_eq_empty_iff.1 isEmpty).1

theorem divider_isContent : IsContent divider :=
  ⟨by decide, by decide⟩

theorem headingBlock_isContent
    {title : String} (oneLine : Text.OneLine title) :
    ∀ line ∈ headingBlock title, IsContent line := by
  have titleLine : IsContent ("-- " ++ title) :=
    append_isContent ⟨by decide, by decide⟩ oneLine
  simp [headingBlock, divider_isContent, titleLine]

theorem optionSection_isContent :
    ∀ block ∈ optionSection.blocks, ∀ line ∈ block, IsContent line := by
  have importLine : IsContent (terminated importDirective) :=
    terminated_isContent (by decide)
  rw [Section.blocks, optionSection, List.forall_mem_cons,
    List.forall_mem_singleton, List.forall_mem_singleton]
  exact ⟨headingBlock_isContent (by decide), importLine⟩

theorem toSection_isContent
    {table : TableSchema}
    (oneLine : ∀ text ∈ table.texts, Text.OneLine text) :
    ∀ block ∈ (TableSection.ofTable table).toSection.blocks,
      ∀ line ∈ block, IsContent line := by
  rw [TableSchema.texts, List.forall_mem_cons, List.forall_mem_cons] at oneLine
  rcases oneLine with ⟨name, definition, statements⟩
  intro block member line isLine
  rcases List.mem_cons.1 member with rfl | isGroup
  · have title : Text.OneLine (tableTitle table.name) :=
      Text.oneLine_append.2 ⟨by decide, name⟩
    exact headingBlock_isContent title line isLine
  · rcases List.mem_cons.1 isGroup with rfl | isGroup
    · rw [List.mem_singleton] at isLine
      subst isLine
      exact terminated_isContent definition
    · rcases List.mem_map.1 isGroup with ⟨group, kept, rfl⟩
      rcases List.mem_map.1 isLine with ⟨statement, isStatement, rfl⟩
      apply terminated_isContent
      apply statements
      exact List.mem_flatten.2
        ⟨group, (List.mem_filter.1 kept).1, isStatement⟩

theorem sectionsOf_isContent
    {tables : List TableSchema}
    (oneLine : ∀ table ∈ tables, ∀ text ∈ table.texts, Text.OneLine text) :
    ∀ block ∈ (sectionsOf tables).flatMap Section.blocks,
      ∀ line ∈ block, IsContent line := by
  intro block member
  rw [sectionsOf, List.flatMap_cons, List.mem_append, List.flatMap_map,
    List.mem_flatMap] at member
  rcases member with ofOptions | ⟨table, isTable, ofTable⟩
  · exact optionSection_isContent block ofOptions
  · exact toSection_isContent (oneLine table isTable) block ofTable

theorem bannerLine_isContent
    {banner : String} (oneLine : Text.OneLine banner) (time : Timestamp) :
    IsContent (bannerLine banner time) := by
  apply append_isContent
  · apply append_isContent
    · exact append_isContent ⟨by decide, by decide⟩ oneLine
    · decide
  · exact time.render_oneLine

theorem blocksOf_isContent
    {banner : String} (time : Timestamp) {tables : List TableSchema}
    (bannerOneLine : Text.OneLine banner)
    (oneLine : ∀ table ∈ tables, ∀ text ∈ table.texts, Text.OneLine text) :
    ∀ block ∈ blocksOf banner time tables,
      ∀ line ∈ block, IsContent line := by
  rw [blocksOf, List.forall_mem_cons, List.forall_mem_singleton]
  exact ⟨bannerLine_isContent bannerOneLine time,
    sectionsOf_isContent oneLine⟩

/-- Joined by empty lines, blocks with content are found again. -/
theorem splitOn_intercalate_emptyLine
    {blocks : List (List String)} (nonempty : blocks ≠ [])
    (content : ∀ block ∈ blocks, ∀ line ∈ block, IsContent line) :
    (List.intercalate [""] blocks).splitOn "" = blocks := by
  apply List.splitOn_intercalate
  · intro block member isLine
    exact (content block member "" isLine).2 rfl
  · exact nonempty

theorem intercalate_emptyLine_oneLine
    {blocks : List (List String)}
    (content : ∀ block ∈ blocks, ∀ line ∈ block, IsContent line) :
    ∀ line ∈ List.intercalate [""] blocks, Text.OneLine line := by
  cases blocks with
  | nil => simp
  | cons first blocks =>
      intro line member
      rw [List.forall_mem_cons] at content
      rw [intercalate_emptyLine, List.mem_append, List.mem_flatMap] at member
      rcases member with inFirst | ⟨block, isBlock, member⟩
      · exact (content.1 line inFirst).1
      · rcases List.mem_cons.1 member with rfl | member
        · decide
        · exact (content.2 block isBlock line member).1

theorem sectionsOf_plain (tables : List TableSchema) :
    ∀ part ∈ sectionsOf tables, part.Plain := by
  intro part member group isGroup
  rcases List.mem_cons.1 member with rfl | member
  · rw [optionSection, List.mem_singleton] at isGroup
    subst isGroup
    exact title?_map_terminated [importDirective]
  · rcases List.mem_map.1 member with ⟨table, -, rfl⟩
    rcases List.mem_cons.1 isGroup with rfl | isGroup
    · exact title?_map_terminated [table.definition]
    · rcases List.mem_map.1 isGroup with ⟨statements, -, rfl⟩
      exact title?_map_terminated statements

/-! ## Reading back -/

/-- Without line breaks in what is put into it, a script can be read back. -/
theorem readTables_ofTables
    {banner : String} (time : Timestamp) {tables : List TableSchema}
    (bannerOneLine : Text.OneLine banner)
    (oneLine : ∀ table ∈ tables, ∀ text ∈ table.texts, Text.OneLine text) :
    readTables (ofTables banner time tables).text =
      some (tables.map TableSection.ofTable) := by
  have content := blocksOf_isContent time bannerOneLine oneLine
  have lines :
      Text.lines (ofTables banner time tables).text =
        List.intercalate [""] (blocksOf banner time tables) := by
    rw [lines_text (by simp [lines_ofTables]), lines_ofTables_eq_intercalate]
    exact Text.flatMap_lines (intercalate_emptyLine_oneLine content)
  have nonempty : blocksOf banner time tables ≠ [] := List.cons_ne_nil _ _
  have blocks := splitOn_intercalate_emptyLine nonempty content
  rw [readTables, lines, blocks, blocksOf, List.tail_cons,
    readSections_flatMap (sectionsOf_plain tables), sectionsOf]
  simp only [if_true]
  rw [← TableSection.mapM_ofSection? (tables.map TableSection.ofTable),
    List.map_map]
  rfl

end Script

namespace Export

/-! ## Exports -/

/-- No text of a table that the source describes holds a line break. -/
def OneLineTables (source : Source) : Prop :=
  ∀ schemas, source.Describes schemas →
    ∀ table ∈ schemas, ∀ text ∈ table.texts, Text.OneLine text

/--
What an export tells about the tables of its source, one after another, can
be read from its text alone.  Exports with one text tell the same, whatever
their sources, settings and times are.
-/
theorem readTables_text
    {source : Source} {settings : ExportSettings} {time : Timestamp}
    {script : String}
    (exported : (text source settings time).outcome = .ok script)
    (banner : Text.OneLine settings.banner)
    (oneLine : OneLineTables source) :
    ∃ schemas, source.Describes schemas ∧
      Script.readTables script = some (schemas.map TableSection.ofTable) ∧
      ∀ (other : Source) (otherSettings : ExportSettings)
          (otherTime : Timestamp),
        (text other otherSettings otherTime).outcome = .ok script →
        Text.OneLine otherSettings.banner →
        OneLineTables other →
        ∃ otherSchemas, other.Describes otherSchemas ∧
          otherSchemas.map TableSection.ofTable =
            schemas.map TableSection.ofTable := by
  rcases (Source.text_eq_ok_iff _ _ _ _).1 exported with
    ⟨schemas, described, isScript⟩
  have read :
      Script.readTables script = some (schemas.map TableSection.ofTable) := by
    rw [← isScript]
    exact Script.readTables_ofTables time banner (oneLine schemas described)
  refine ⟨schemas, described, read, ?_⟩
  intro other otherSettings otherTime otherExported otherBanner otherOneLine
  rcases (Source.text_eq_ok_iff _ _ _ _).1 otherExported with
    ⟨otherSchemas, otherDescribed, otherIsScript⟩
  refine ⟨otherSchemas, otherDescribed, ?_⟩
  have otherRead := Script.readTables_ofTables otherTime otherBanner
    (otherOneLine otherSchemas otherDescribed)
  rw [otherIsScript, read] at otherRead
  exact (Option.some.inj otherRead).symm

/-- Definitions that look like a divider, a title, a comment or nothing. -/
theorem readTables_text_disguised :
    let disguised : TableInfo :=
      ⟨.ofList [("a", "-- TABLE: u"), ("b", "")], ∅,
        .ofList [("c", "-- none")]⟩
    let source : Source := .ofSnapshot
      ((Snapshot.empty.withTable "t" Script.divider disguised).withTable
        "u" "" .empty)
    ∃ script,
      (text source .standard ⟨0, 0⟩).outcome = .ok script ∧
        Script.readTables script = some
          [⟨"t", "-- ------------------------------;",
              [["-- TABLE: u;", ";"], ["-- none;"]]⟩,
            ⟨"u", ";", []⟩] := by
  intro disguised source
  let schemas : List TableSchema :=
    [⟨"t", Script.divider, disguised⟩, ⟨"u", "", .empty⟩]
  have described : source.Describes schemas := by
    refine ⟨.ofList [("t", Script.divider), ("u", "")], rfl, ?_⟩
    exact .cons ⟨rfl, rfl⟩ (.cons ⟨rfl, rfl⟩ .nil)
  have exported := (Source.text_eq_ok_iff source .standard ⟨0, 0⟩ _).2
    ⟨schemas, described, rfl⟩
  have oneLine : OneLineTables source := by
    intro others othersDescribed
    rw [othersDescribed.unique described]
    decide
  rcases readTables_text exported (by decide) oneLine with
    ⟨others, othersDescribed, read, -⟩
  rw [othersDescribed.unique described] at read
  refine ⟨_, exported, read.trans ?_⟩
  decide

end Export

end SchemaAtlas
