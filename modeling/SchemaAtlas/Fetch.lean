import SchemaAtlas.Outline
import SchemaAtlas.Parser
import SchemaAtlas.Source

/-!
# Fetching schemas

Fetching asks a source for its tables and then for the metadata of each.  A
limited number of these lookups is open at a time; results come in the order
of the tables, and the first failure in that order ends the fetch.
`Fetch.windowed_eq_mapM` says that the limit does not change what is fetched.
-/

namespace SchemaAtlas

/-- A table with everything the source tells about it. -/
structure TableSchema where
  name : String
  definition : String
  info : TableInfo
deriving DecidableEq, Inhabited

namespace Fetch

/-- How many lookups may be open at once: a limit of zero allows one. -/
def capacity (limit : Nat) : Nat := max 1 limit

/-- Opens waiting lookups while there is room, then takes the result of the
one that was opened first. -/
def windowed {α : Type} (limit : Nat) (waiting opened : List (Attempt α)) :
    Attempt (List α) :=
  match waiting, opened with
  | [], [] => pure []
  | [], oldest :: rest => do
      let value ← oldest
      let values ← windowed limit [] rest
      pure (value :: values)
  | next :: later, [] => windowed limit later [next]
  | next :: later, oldest :: rest =>
      if rest.length + 1 < capacity limit then
        windowed limit later (oldest :: rest ++ [next])
      else do
        let value ← oldest
        let values ← windowed limit (next :: later) rest
        pure (value :: values)
termination_by 2 * waiting.length + opened.length

/-- The lookups give what they give one after another, those already opened
first. -/
theorem windowed_eq_mapM
    {α : Type} (limit : Nat) (waiting opened : List (Attempt α)) :
    windowed limit waiting opened = (opened ++ waiting).mapM id := by
  fun_induction windowed limit waiting opened with
  | case1 => simp
  | case2 oldest rest induction => simp [induction]
  | case3 next later induction => simp [induction]
  | case4 next later oldest rest room induction =>
      rw [induction, List.append_assoc, List.singleton_append]
  | case5 next later oldest rest full induction => simp [induction]

def lookUp (source : Source) (name definition : String) :
    Attempt TableSchema := do
  Attempt.note .debug .sources ("Fetching metadata for table " ++ name)
  let info ← source.tableInfo name
  pure ⟨name, definition, info⟩

/-- All tables of a source with their metadata, in the order of the source. -/
def schemas (source : Source) (limit : Nat) : Attempt (List TableSchema) := do
  let tables ← source.tables
  Attempt.note .debug .sources
    ("Fetching metadata for " ++ toString tables.size ++ " tables")
  windowed limit
    (tables.entries.map fun (name, definition) => lookUp source name definition)
    []

/-- The outline of a fetched table: its fields in order, each with the tables
its definition links to. -/
def outline (parser : Parser) (schema : TableSchema) : Run TableOutline := do
  let fields ← schema.info.fields.entries.mapM fun (name, definition) => do
    let targets ← parser.definitionTables definition
    pure (⟨name, targets⟩ : FieldOutline)
  pure ⟨schema.name, fields⟩

def outlines (source : Source) (parser : Parser) (limit : Nat) :
    Attempt (List TableOutline) := do
  let tables ← schemas source limit
  ExceptT.lift (tables.mapM (outline parser))

end Fetch

end SchemaAtlas
