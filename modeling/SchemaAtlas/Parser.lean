import SchemaAtlas.Run
import SchemaAtlas.Statement
import SchemaAtlas.Json.Printer

/-!
# Asking a query parser

A parser is given by its answers.  The functions here ask it about queries,
record identifiers, conditions and kinds, and turn its answers into what
editors and schema tools want to know.  Whatever cannot be parsed where links
are looked for counts as having none, and leaves a line in the log.
-/

namespace SchemaAtlas

/-- A query parser, by its answers. -/
structure Parser where
  /-- The statements of a text. -/
  parse : (text : String) → Except Failure (List Statement)
  /-- The text laid out anew. -/
  layOut : (text : String) → (pretty : Bool) → Except Failure String
  /-- Whether the text is well formed. -/
  check : Checked → (text : String) → Except Failure Unit

namespace Parser

/-- Has the parser read a text. -/
def read (parser : Parser) (text : String) : Attempt (List Statement) :=
  Attempt.ask (.parse text) (parser.parse text)

/-- Why the parser refuses a text; `none` if it does not. -/
def refusal (parser : Parser) (as : Checked) (text : String) :
    Run (Option String) := do
  match ← (Attempt.ask (.check as text) (parser.check as text)).run with
  | .ok _ => pure none
  | .error failure => pure (some failure.rejection)

def statementCount (parser : Parser) (text : String) : Attempt Nat := do
  let statements ← parser.read text
  pure statements.length

def liveIndices (parser : Parser) (text : String) : Attempt (List Nat) := do
  let statements ← parser.read text
  pure (Statement.liveIndices statements)

/-- The text in the layout that is easy to read. -/
def format (parser : Parser) (text : String) : Attempt String :=
  Attempt.ask (.layOut text true) (parser.layOut text true)

/-- The line that tells of a link element without a table name. -/
def skippedLine (element : Json.Value) : String :=
  "Skipping non-string record target: " ++ element.compact

/-- The kind that a parse tree stands for, with a line in the log for each
link element that names no table. -/
def kindOf (tree : Json.Value) : Run Kind := do
  Run.notes .debug .kinds ((Kind.skipped tree).map skippedLine)
  pure (.ofJson tree)

def fieldTables (statement : Statement) : Run (List String) := do
  match statement.fieldKind? with
  | none => pure []
  | some tree => do
      let kind ← kindOf tree
      pure kind.tables

/-- The tables that the first of some statements links to. -/
def firstFieldTables : List Statement → Run (List String)
  | [] => pure []
  | statement :: _ => fieldTables statement

/-- The tables that the text of a field definition links to; none if it cannot
be parsed. -/
def definitionTables (parser : Parser) (definition : String) :
    Run (List String) := do
  match ← (parser.read definition).run with
  | .ok statements => firstFieldTables statements
  | .error failure => do
      Run.note .debug .sources
        ("Ignoring unparsable field definition '" ++ definition ++
          "': " ++ failure.message)
      pure []

/-- The field definition in which a kind is tried out. -/
def probe (kind : String) : String :=
  "DEFINE FIELD dummy ON dummy TYPE " ++ kind

/-- The tables that the text of a kind links to, or why it cannot be told. -/
def probedTables (parser : Parser) (kind : String) : Attempt (List String) := do
  match ← parser.read (probe kind) with
  | [] => throw (.parse "no statement produced" (some (probe kind)))
  | statement :: _ => ExceptT.lift (fieldTables statement)

/-- The tables that the text of a kind links to; none if it cannot be parsed. -/
def kindTables (parser : Parser) (kind : String) : Run (List String) := do
  match ← (parser.probedTables kind).run with
  | .ok tables => pure tables
  | .error failure => do
      Run.note .debug .language
        ("Ignoring unparsable kind '" ++ kind ++ "': " ++ failure.message)
      pure []

end Parser

end SchemaAtlas
