import SchemaAtlas.Kind

/-!
# Parsed statements

One statement of a query, as the tree that a parser makes of it: an object
whose first key names the kind of statement, or that name alone.  The module
finds the live statements of a query and the tables that a field definition
links to.
-/

namespace SchemaAtlas

structure Statement where
  tree : Json.Value
deriving Inhabited

namespace Statement

open Json (Value)

/-- The key that marks a live query. -/
def liveTag : String := "Live"

/-- The path to the kind of a field in the tree of its definition. -/
def fieldKindPath : List String := ["Define", "Field", "kind"]

/-- The name of the kind of statement. -/
def variant? (statement : Statement) : Option String :=
  match statement.tree with
  | .object members => members.head?.map Prod.fst
  | .string name => some name
  | _ => none

/-- Whether the statement is a live query: an object with the live key.  The
bare name is none. -/
def isLive (statement : Statement) : Bool :=
  (statement.tree.get? liveTag).isSome

/-- The positions of the live queries among some statements, of which the
first has the position `start`. -/
def liveIndicesFrom (start : Nat) : List Statement → List Nat
  | [] => []
  | statement :: rest =>
      if statement.isLive then start :: liveIndicesFrom (start + 1) rest
      else liveIndicesFrom (start + 1) rest

/-- The positions of the live queries among some statements. -/
def liveIndices (statements : List Statement) : List Nat :=
  liveIndicesFrom 0 statements

/-- The tree of the kind that a field definition declares. -/
def fieldKind? (statement : Statement) : Option Value :=
  statement.tree.follow? fieldKindPath

def fieldTables (statement : Statement) : List String :=
  match statement.fieldKind? with
  | some kind => (Kind.ofJson kind).tables
  | none => []

/-- The link elements that `fieldTables` passes over because they name no
table. -/
def skippedTargets (statement : Statement) : List Value :=
  match statement.fieldKind? with
  | some kind => Kind.skipped kind
  | none => []

/-- Equality of trees up to the order of members. -/
def alike (first second : Statement) : Bool := first.tree.alike second.tree

end Statement

end SchemaAtlas
