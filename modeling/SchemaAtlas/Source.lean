import SchemaAtlas.Identifier
import SchemaAtlas.Response
import SchemaAtlas.Run
import SchemaAtlas.Snapshot

/-!
# Sources of schemas

A source tells which tables there are and what belongs to each.  One kind of
source asks a live database with `INFO FOR` statements, another answers from a
snapshot.  A database is given by its answers to statements.
-/

namespace SchemaAtlas

open Json (Value Decoder)

/-- A source of schemas. -/
structure Source where
  /-- The definitions of the tables, by name. -/
  tables : Attempt (Dict String)
  /-- The metadata of a table. -/
  tableInfo : (table : String) → Attempt TableInfo

/-- A database, by the responses it gives to each statement. -/
abbrev Database := (statement : String) → Except Failure (List Response)

namespace Source

def databaseStatement : String := "INFO FOR DB"

/-- The statement that asks for the metadata of a table. -/
def tableStatement (table : String) : String :=
  "INFO FOR TABLE " ++ Identifier.escape table

/-- The reason that a failed response gives. -/
def refusalText : Value → String
  | .string message => message
  | other => other.compact

/-- What the first response to a statement says, which has to be a success
with an object; later responses do not matter. -/
def firstObject (statement : String) (responses : List Response) :
    Except Failure (List (String × Value)) :=
  match responses with
  | [] => .error (.query statement "no result set returned")
  | response :: _ =>
      if !response.isOk then
        .error (.query statement (refusalText response.result))
      else
        match response.result.members? with
        | none => .error (.query statement "result is not an object")
        | some members => .ok members

/-- The tables in the answer to `databaseStatement`; no table dictionary, or
`null`, means no tables. -/
def tablesOf (members : List (String × Value)) : Except Failure (Dict String) :=
  match findEntry "tb" members with
  | none => .ok ∅
  | some .null => .ok ∅
  | some tables =>
      match (Decoder.dict .string).fromValue tables with
      | .ok tables => .ok tables
      | .error fault =>
          .error (.query databaseStatement
            ("invalid table map: " ++ fault.message))

/-- The metadata in the answer to the statement that asks for it. -/
def infoOf (statement : String) (members : List (String × Value)) :
    Except Failure TableInfo :=
  match TableInfo.decoder.fromValue (.object members) with
  | .ok info => .ok info
  | .error fault =>
      .error (.query statement ("invalid table info: " ++ fault.message))

/-- The source that asks a database. -/
def ofDatabase (database : Database) : Source where
  tables := do
    let responses ←
      Attempt.ask (.query databaseStatement) (database databaseStatement)
    Attempt.ofExcept ((firstObject databaseStatement responses).bind tablesOf)
  tableInfo := fun table => do
    let statement := tableStatement table
    let responses ← Attempt.ask (.query statement) (database statement)
    Attempt.ofExcept ((firstObject statement responses).bind (infoOf statement))

def recordedInfo (snapshot : Snapshot) (table : String) :
    Except Failure TableInfo :=
  match snapshot.info.get? table with
  | some info => .ok info
  | none =>
      .error (.query (tableStatement table) "no metadata recorded for table")

/-- The source that answers from a snapshot. -/
def ofSnapshot (snapshot : Snapshot) : Source where
  tables := pure snapshot.tables
  tableInfo := fun table => Attempt.ofExcept (recordedInfo snapshot table)

end Source

end SchemaAtlas
