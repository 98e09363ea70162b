import SchemaAtlas.Fetch
import SchemaAtlas.Text.Blank
import SchemaAtlas.Timestamp

/-!
# Definition scripts

A script that defines a schema anew: comment lines that head its sections, and
statements in groups.  The script of a schema has one section for each table,
with the table's own definition and then the definitions of its fields,
indexes and events, each group set off by an empty line.
-/

namespace SchemaAtlas

/-- A script, line by line.  A line may hold line breaks of its own, as
statements do. -/
structure Script where
  lines : List String
deriving DecidableEq, Inhabited

namespace Script

/-- The line above and below a section's title. -/
def divider : String := "-- ------------------------------"

/-- The statement that turns a script into an import. -/
def importDirective : String := "OPTION IMPORT"

/-- The first line of a script. -/
def bannerLine (banner : String) (time : Timestamp) : String :=
  "-- " ++ banner ++ " " ++ time.render

/-- The lines that head a section. -/
def sectionLines (title : String) : List String :=
  ["", divider, "-- " ++ title, divider, ""]

/-- A statement with one semicolon at its end: white space goes first, then
semicolons, then one is put. -/
def terminated (statement : String) : String :=
  String.ofList
    (Text.dropEndWhile (· == ';')
      (Text.dropEndWhile Text.isBlank statement.toList) ++ [';'])

/-- The lines of a group of statements; a group without statements has none. -/
def groupLines (statements : List String) : List String :=
  if statements.isEmpty then [] else "" :: statements.map terminated

def tableTitle (name : String) : String := "TABLE: " ++ name

/-- The lines of a table's section. -/
def tableLines (table : TableSchema) : List String :=
  sectionLines (tableTitle table.name) ++ [terminated table.definition] ++
    groupLines table.info.fields.values ++
      groupLines table.info.indexes.values ++
      groupLines table.info.events.values

/-- The script that has only its first line. -/
def begin (banner : String) (time : Timestamp) : Script :=
  ⟨[bannerLine banner time]⟩

def addSection (script : Script) (title : String) : Script :=
  ⟨script.lines ++ sectionLines title⟩

def addStatement (script : Script) (statement : String) : Script :=
  ⟨script.lines ++ [terminated statement]⟩

def addGroup (script : Script) (statements : List String) : Script :=
  ⟨script.lines ++ groupLines statements⟩

def addTable (script : Script) (table : TableSchema) : Script :=
  ⟨script.lines ++ tableLines table⟩

def text (script : Script) : String := String.intercalate "\n" script.lines

/-- The script that defines the given tables. -/
def ofTables (banner : String) (time : Timestamp) (tables : List TableSchema) :
    Script :=
  tables.foldl addTable
    (((begin banner time).addSection "OPTION").addStatement importDirective)

end Script

end SchemaAtlas
