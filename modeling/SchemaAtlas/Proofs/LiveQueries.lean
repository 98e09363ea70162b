import SchemaAtlas.Parser
import SchemaAtlas.Proofs.Dict
import SchemaAtlas.Proofs.Outcome
import Mathlib.Data.List.Basic

/-!
# Live queries of a text

The live queries of a text are told by their positions among its statements.
A statement is a live query if its tree is an object that has the live key,
be it the first key or one behind others; the name of the key alone is none.

Positions are counted on from a start, so that the live queries of statements
behind other ones are the same, shifted by the number of those before them.

To count the statements of a text and to find the live ones is to ask the
parser once and to look at its answer.  Both succeed on the same texts, fail
alike on all others, and no position is found that was not counted.
-/

namespace SchemaAtlas

open Json (Value)

namespace Statement

/-- The tree of the statement is an object that has the live key. -/
def OpensLiveQuery (statement : Statement) : Prop :=
  ∃ members, statement.tree = .object members ∧
    "Live" ∈ members.map Prod.fst

theorem opensLiveQuery_object (members : List (String × Value)) :
    OpensLiveQuery ⟨.object members⟩ ↔ "Live" ∈ members.map Prod.fst := by
  constructor
  · rintro ⟨others, same, member⟩
    cases same
    exact member
  · intro member
    exact ⟨members, rfl, member⟩

/-- The name of a kind of statement, be it the live one, opens nothing. -/
theorem not_opensLiveQuery_string (name : String) :
    ¬ OpensLiveQuery ⟨.string name⟩ := by
  rintro ⟨members, isObject, -⟩
  cases isObject

theorem isLive_iff {statement : Statement} :
    statement.isLive = true ↔ statement.OpensLiveQuery := by
  rcases statement with ⟨tree⟩
  cases tree with
  | object members =>
      rw [opensLiveQuery_object]
      change (findEntry "Live" members).isSome = true ↔ _
      rw [Option.isSome_iff_ne_none, ne_eq, findEntry_eq_none_iff, not_not]
  | _ =>
      constructor
      · intro isLive
        cases isLive
      · rintro ⟨members, isObject, -⟩
        cases isObject

/-! ## Positions -/

/-- Whatever the start, every live query is found, in its own place. -/
theorem liveIndicesFrom_eq_findIdxs
    (start : Nat) (statements : List Statement) :
    liveIndicesFrom start statements = statements.findIdxs isLive start := by
  induction statements generalizing start with
  | nil => rfl
  | cons statement rest induction =>
      rw [liveIndicesFrom, List.findIdxs_cons, induction]

theorem liveIndices_eq_findIdxs (statements : List Statement) :
    liveIndices statements = statements.findIdxs isLive :=
  liveIndicesFrom_eq_findIdxs 0 statements

/-- Another start shifts all positions. -/
theorem liveIndicesFrom_eq_map (start : Nat) (statements : List Statement) :
    liveIndicesFrom start statements =
      (liveIndices statements).map (· + start) := by
  rw [liveIndicesFrom_eq_findIdxs, liveIndices_eq_findIdxs,
    List.findIdxs_start]

theorem liveIndices_pairwise (statements : List Statement) :
    (liveIndices statements).Pairwise (· < ·) := by
  rw [liveIndices_eq_findIdxs]
  exact List.pairwise_findIdxs

theorem mem_liveIndices_iff
    {statements : List Statement} {position : Nat} :
    position ∈ liveIndices statements ↔
      ∃ statement, statements[position]? = some statement ∧
        statement.OpensLiveQuery := by
  rw [liveIndices_eq_findIdxs, List.mem_findIdxs_iff_exists_getElem_pos]
  constructor
  · rintro ⟨bound, isLive⟩
    exact ⟨statements[position], List.getElem?_eq_getElem bound,
      isLive_iff.1 isLive⟩
  · rintro ⟨statement, found, opens⟩
    rcases List.getElem?_eq_some_iff.1 found with ⟨bound, rfl⟩
    exact ⟨bound, isLive_iff.2 opens⟩

theorem not_mem_liveIndices_of_string
    {statements : List Statement} {position : Nat} {name : String}
    (isName : statements[position]? = some ⟨.string name⟩) :
    position ∉ liveIndices statements := by
  intro member
  rcases mem_liveIndices_iff.1 member with ⟨statement, found, opens⟩
  rw [isName, Option.some.injEq] at found
  subst found
  exact not_opensLiveQuery_string name opens

theorem lt_length_of_mem_liveIndices
    {statements : List Statement} {position : Nat}
    (member : position ∈ liveIndices statements) :
    position < statements.length := by
  rcases mem_liveIndices_iff.1 member with ⟨statement, found, -⟩
  exact (List.getElem?_eq_some_iff.1 found).1

/-- Statements behind others have their live queries behind them. -/
theorem liveIndices_append (first second : List Statement) :
    liveIndices (first ++ second) =
      liveIndices first ++
        (liveIndices second).map (· + first.length) := by
  rw [liveIndices_eq_findIdxs, List.findIdxs_append, Nat.zero_add,
    ← liveIndices_eq_findIdxs, ← liveIndicesFrom_eq_findIdxs,
    liveIndicesFrom_eq_map]

end Statement

namespace Parser

/-! ## Asking the parser -/

@[simp]
theorem outcome_read (parser : Parser) (text : String) :
    (parser.read text).outcome = parser.parse text :=
  rfl

theorem liveIndices_outcome (parser : Parser) (text : String) :
    (parser.liveIndices text).outcome =
      (parser.parse text).map Statement.liveIndices := by
  simp only [liveIndices, Attempt.outcome_bind, outcome_read,
    Attempt.outcome_pure]
  rfl

theorem statementCount_outcome (parser : Parser) (text : String) :
    (parser.statementCount text).outcome =
      (parser.parse text).map List.length := by
  simp only [statementCount, Attempt.outcome_bind, outcome_read,
    Attempt.outcome_pure]
  rfl

/--
The positions of live queries ascend, and they are the positions of the
objects with a live key among the statements; no bare name has one.  The
positions in one list behind another are those in the first and, shifted by
its length, those in the second.  Of a text, live queries are found exactly
if its statements can be counted, with one failure for both otherwise.  What
is found are the positions among the statements that are counted.
-/
theorem live_queries_located
    (statements more : List Statement) (parser : Parser) (text : String) :
    let positions := Statement.liveIndices statements
    let located := (parser.liveIndices text).outcome
    let counted := (parser.statementCount text).outcome
    positions.Pairwise (· < ·) ∧
    (∀ position, position ∈ positions ↔
      ∃ statement, statements[position]? = some statement ∧
        statement.OpensLiveQuery) ∧
    (∀ position name, statements[position]? = some ⟨.string name⟩ →
      position ∉ positions) ∧
    Statement.liveIndices (statements ++ more) =
      positions ++
        (Statement.liveIndices more).map (· + statements.length) ∧
    ((∃ found, located = .ok found) ↔ ∃ count, counted = .ok count) ∧
    (∀ failure, located = .error failure ↔ counted = .error failure) ∧
    ∀ found, located = .ok found →
      ∃ parsed, parser.parse text = .ok parsed ∧
        found = Statement.liveIndices parsed ∧
        counted = .ok parsed.length ∧
        ∀ position ∈ found, position < parsed.length := by
  intro positions located counted
  have isLocated : located = (parser.parse text).map Statement.liveIndices :=
    parser.liveIndices_outcome text
  have isCounted : counted = (parser.parse text).map List.length :=
    parser.statementCount_outcome text
  refine ⟨Statement.liveIndices_pairwise statements,
    fun _ => Statement.mem_liveIndices_iff,
    fun _ _ => Statement.not_mem_liveIndices_of_string,
    Statement.liveIndices_append statements more, ?_⟩
  rw [isLocated, isCounted]
  cases parser.parse text with
  | error failure => simp [Except.map]
  | ok parsed =>
      refine ⟨by simp [Except.map], by simp [Except.map], ?_⟩
      intro found isFound
      cases isFound
      exact ⟨parsed, rfl, rfl, rfl,
        fun _ => Statement.lt_length_of_mem_liveIndices⟩

/-- A live key behind another one counts, one without a value too, and the
name alone does not. -/
theorem live_queries_located_mixed :
    let named : Statement := ⟨.string "Live"⟩
    let statements : List Statement :=
      [⟨.object [("Select", .null)]⟩, ⟨.object [("Live", .null)]⟩, named,
        ⟨.object [("Select", .null), ("Live", .object [])]⟩]
    let refused (_text : String) : Failure := .parse "refused" none
    let parser : Parser :=
      { parse := fun text =>
          if text = "" then .error (refused text) else .ok statements
        layOut := fun text _ => .error (refused text)
        check := fun _ text => .error (refused text) }
    Statement.liveIndices statements = [1, 3] ∧
      statements[2]? = some named ∧ 2 ∉ Statement.liveIndices statements ∧
      Statement.liveIndices (statements ++ statements) = [1, 3, 5, 7] ∧
      (parser.liveIndices "live").outcome = .ok [1, 3] ∧
      (parser.statementCount "live").outcome = .ok 4 ∧
      (∀ position ∈ [1, 3], position < 4) ∧
      (parser.liveIndices "").outcome = .error (refused "") := by
  intro named statements refused parser
  have positions : Statement.liveIndices statements = [1, 3] := by decide
  have located : (parser.liveIndices "live").outcome = .ok [1, 3] := rfl
  rcases parser.live_queries_located statements statements "live" with
    ⟨-, -, bare, behind, -, -, within⟩
  rcases within _ located with ⟨parsed, isParsed, -, counted, below⟩
  cases isParsed
  rcases parser.live_queries_located [] [] "" with ⟨-, -, -, -, -, alike, -⟩
  exact ⟨positions, rfl, bare 2 "Live" rfl, behind, located, counted, below,
    (alike (refused "")).2 rfl⟩

end Parser

end SchemaAtlas
