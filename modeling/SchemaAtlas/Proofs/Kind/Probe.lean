import SchemaAtlas.Proofs.Fetch.Outlines

/-!
# Kinds tried out in definitions

What the text of a kind links to is found out by writing the kind into the
definition of a field.  Fetches have the definitions of fields already and ask
the parser about them directly.  The two ways treat what goes wrong
differently: a parser that gives no statement is a failure for the one and
nothing for the other.  They end alike all the same, with no tables, and
otherwise with the tables of the first statement.

A first statement without a kind is told by its tree: the path to the kind
breaks off somewhere in it.
-/

namespace SchemaAtlas

open Json (Value)

namespace Json.Value

/--
The path of keys breaks off inside of the value: at something that is no
object, or at an object that does not have the next key.
-/
inductive BreaksOff : Value → List String → Prop where
  | noObject {value : Value} {key : String} {path : List String}
      (other : ∀ members, value ≠ .object members) :
      BreaksOff value (key :: path)
  | noKey {members : List (String × Value)} {key : String}
      {path : List String} (absent : key ∉ members.map Prod.fst) :
      BreaksOff (.object members) (key :: path)
  | further {members : List (String × Value)} {key : String}
      {inner : Value} {path : List String}
      (found : findEntry key members = some inner)
      (breaksOff : BreaksOff inner path) :
      BreaksOff (.object members) (key :: path)

theorem follow?_cons_of_object
    (members : List (String × Value)) (key : String) (path : List String) :
    (Value.object members).follow? (key :: path) =
      (findEntry key members).bind (follow? · path) :=
  rfl

theorem follow?_cons_of_noObject
    {value : Value} (other : ∀ members, value ≠ .object members)
    (key : String) (path : List String) :
    value.follow? (key :: path) = none := by
  cases value with
  | object members => exact (other members rfl).elim
  | _ => rfl

/-- Nothing is found at the end of a path exactly if it breaks off. -/
theorem follow?_eq_none_iff {value : Value} {path : List String} :
    value.follow? path = none ↔ value.BreaksOff path := by
  constructor
  · intro missing
    induction path generalizing value with
    | nil => cases missing
    | cons key path induction =>
        by_cases isObject : ∃ members, value = .object members
        · rcases isObject with ⟨members, rfl⟩
          rw [follow?_cons_of_object] at missing
          cases found : findEntry key members with
          | none => exact .noKey (findEntry_eq_none_iff.1 found)
          | some inner =>
              rw [found] at missing
              exact .further found (induction missing)
        · exact .noObject (not_exists.1 isObject)
  · intro breaksOff
    induction breaksOff with
    | noObject other => exact follow?_cons_of_noObject other _ _
    | noKey absent =>
        rw [follow?_cons_of_object, findEntry_eq_none_iff.2 absent]
        rfl
    | further found breaksOff induction =>
        rw [follow?_cons_of_object, found]
        exact induction

end Json.Value

namespace Parser

/-! ## The two ways to ask -/

theorem probedTables_outcome (parser : Parser) (kind : String) :
    (parser.probedTables kind).outcome =
      match parser.parse (probe kind) with
      | .ok [] =>
          .error (.parse "no statement produced" (some (probe kind)))
      | .ok (statement :: _) => .ok statement.fieldTables
      | .error failure => .error failure := by
  rw [probedTables, Attempt.outcome_bind]
  change (parser.parse (probe kind) >>= _) = _
  cases parser.parse (probe kind) with
  | error failure => rfl
  | ok statements =>
      cases statements with
      | nil => rfl
      | cons statement rest =>
          exact congrArg Except.ok (result_fieldTables statement)

theorem result_kindTables (parser : Parser) (kind : String) :
    (parser.kindTables kind).result =
      match (parser.probedTables kind).outcome with
      | .ok tables => tables
      | .error _ => [] := by
  rw [kindTables, Run.result_bind]
  change Run.result (match (parser.probedTables kind).outcome with
    | .ok tables => pure tables
    | .error failure => _) = _
  cases (parser.probedTables kind).outcome with
  | ok tables => rfl
  | error failure => rfl

/-- The text of a kind links to what a definition with that kind links to. -/
theorem result_kindTables_eq (parser : Parser) (kind : String) :
    (parser.kindTables kind).result =
      (parser.definitionTables (probe kind)).result := by
  rw [result_kindTables, probedTables_outcome, result_definitionTables]
  cases parser.parse (probe kind) with
  | error failure => rfl
  | ok statements =>
      cases statements with
      | nil => rfl
      | cons statement rest => rfl

/-- What is found depends on the first statement alone. -/
theorem result_kindTables_of_first
    {parser : Parser} {kind : String} {statement : Statement}
    {rest : List Statement}
    (parsed : parser.parse (probe kind) = .ok (statement :: rest)) :
    (parser.kindTables kind).result = statement.fieldTables := by
  rw [result_kindTables, probedTables_outcome, parsed]

end Parser

theorem Statement.fieldTables_of_breaksOff
    {statement : Statement}
    (breaksOff : statement.tree.BreaksOff ["Define", "Field", "kind"]) :
    statement.fieldTables = [] := by
  have undeclared : statement.fieldKind? = none :=
    Value.follow?_eq_none_iff.2 breaksOff
  rw [Statement.fieldTables, undeclared]

theorem Statement.fieldTables_pairwise (statement : Statement) :
    statement.fieldTables.Pairwise (· < ·) := by
  cases declared : statement.fieldKind? with
  | none =>
      rw [Statement.fieldTables, declared]
      exact List.Pairwise.nil
  | some tree =>
      rw [Statement.fieldTables_of_fieldKind? declared]
      exact Kind.tables_pairwise (Kind.ofJson tree)

/-- The one field of a name has the targets of the definition in the
metadata. -/
theorem Fetch.mem_fields_outline_iff
    (parser : Parser) {schema : TableSchema} {name definition : String}
    (found : schema.info.fields.get? name = some definition)
    (targets : List String) :
    ⟨name, targets⟩ ∈ (outline parser schema).result.fields ↔
      targets = (parser.definitionTables definition).result := by
  rw [result_outline,
    ← lastTargets?_eq_some_iff (nodup_fieldOutlines parser schema.info),
    lastTargets?_fieldOutlines, found, Option.map_some, Option.some.injEq]
  exact eq_comm

namespace Parser

theorem kindTables_pairwise (parser : Parser) (kind : String) :
    (parser.kindTables kind).result.Pairwise (· < ·) := by
  rw [result_kindTables, probedTables_outcome]
  cases parser.parse (probe kind) with
  | error failure => exact List.Pairwise.nil
  | ok statements =>
      cases statements with
      | nil => exact List.Pairwise.nil
      | cons statement rest => exact statement.fieldTables_pairwise

/--
The text of a kind links to the same tables as the definition of a field with
that kind, and so does every such field in the outlines that are fetched from
a source.  There are none if the parser fails, gives no statement, or gives a
first statement in which the path to the kind breaks off.  Otherwise they are
the tables that the tree of the kind links to.  Further statements change
nothing, and the tables always ascend.
-/
theorem kindTables_agree_with_definitions (parser : Parser) (kind : String) :
    let definition := "DEFINE FIELD dummy ON dummy TYPE " ++ kind
    let targets := (parser.kindTables kind).result
    (parser.definitionTables definition).result = targets ∧
    (∀ (source : Source) (limit : Nat) (tables : List TableOutline),
      (Fetch.outlines source parser limit).outcome = .ok tables →
      ∀ table ∈ tables, ∃ info,
        (source.tableInfo table.name).outcome = .ok info ∧
        ∀ name, info.fields.get? name = some definition →
          ∀ others, ⟨name, others⟩ ∈ table.fields ↔ others = targets) ∧
    (∀ failure, parser.parse definition = .error failure → targets = []) ∧
    (parser.parse definition = .ok [] → targets = []) ∧
    (∀ statement rest, parser.parse definition = .ok (statement :: rest) →
      (statement.tree.BreaksOff ["Define", "Field", "kind"] →
        targets = []) ∧
      (∀ tree,
        statement.tree.follow? ["Define", "Field", "kind"] = some tree →
        ∀ name, name ∈ targets ↔ Kind.LinksTo tree name) ∧
      ∀ (other : Parser) (otherRest : List Statement),
        other.parse definition = .ok (statement :: otherRest) →
        (other.kindTables kind).result = targets) ∧
    targets.Pairwise (· < ·) ∧ targets.Nodup := by
  intro definition targets
  have agree : (parser.definitionTables definition).result = targets :=
    (parser.result_kindTables_eq kind).symm
  have ascends : targets.Pairwise (· < ·) := parser.kindTables_pairwise kind
  have fromAnswer := parser.result_definitionTables definition
  rw [agree] at fromAnswer
  refine ⟨agree, ?_, ?_, ?_, ?_, ascends, ascends.imp ne_of_lt⟩
  · intro source limit tables fetched table member
    rcases (Fetch.outlines_eq_ok_iff source parser limit tables).1 fetched with
      ⟨schemas, described, rfl⟩
    rcases List.mem_map.1 member with ⟨schema, isSchema, rfl⟩
    refine ⟨schema.info, ?_, ?_⟩
    · rw [Fetch.result_outline]
      exact described.answers schema isSchema
    · intro name found others
      rw [Fetch.mem_fields_outline_iff parser found, agree]
  · intro failure parsed
    rw [fromAnswer, parsed]
  · intro parsed
    rw [fromAnswer, parsed]
    rfl
  · intro statement rest parsed
    have ofFirst : targets = statement.fieldTables :=
      result_kindTables_of_first parsed
    refine ⟨?_, ?_, ?_⟩
    · intro breaksOff
      rw [ofFirst, Statement.fieldTables_of_breaksOff breaksOff]
    · intro tree declared name
      rw [ofFirst, Statement.fieldTables_of_fieldKind? declared,
        Kind.mem_tables_ofJson]
    · intro other otherRest otherParsed
      rw [ofFirst]
      exact result_kindTables_of_first otherParsed

/-- A kind with two links, a second statement with a third one, and a field
of that kind among the outlines. -/
theorem kindTables_agree_with_definitions_union :
    let kind := "record<user> | record<post>"
    let definition := "DEFINE FIELD dummy ON dummy TYPE " ++ kind
    let link (name : String) : Value :=
      .object [("Record", .array [.string name])]
    let defines (tree : Value) : Statement :=
      ⟨.object [("Define", .object [("Field", .object [("kind", tree)])])]⟩
    let tree : Value :=
      .object [("Either", .array [link "user", link "post"])]
    let refused (_text : String) : Failure := .parse "refused" none
    let parser : Parser :=
      { parse := fun text =>
          if text = definition then .ok [defines tree, defines (link "tag")]
          else .error (refused text)
        layOut := fun text _ => .error (refused text)
        check := fun _ text => .error (refused text) }
    let info : TableInfo := ⟨.ofList [("author", definition)], ∅, ∅⟩
    let source : Source := .ofSnapshot (Snapshot.empty.withTable "t" "" info)
    let table : TableOutline := ⟨"t", [⟨"author", ["post", "user"]⟩]⟩
    (parser.kindTables kind).result = ["post", "user"] ∧
      (parser.definitionTables definition).result = ["post", "user"] ∧
      Kind.LinksTo tree "post" ∧ ¬ Kind.LinksTo tree "tag" ∧
      (Fetch.outlines source parser 1).outcome = .ok [table] ∧
      ∀ others, ⟨"author", others⟩ ∈ table.fields ↔
        others = ["post", "user"] := by
  intro kind definition link defines tree refused parser info source table
  have parsed : parser.parse definition =
      .ok [defines tree, defines (link "tag")] :=
    rfl
  have targets : (parser.kindTables kind).result = ["post", "user"] := by
    rw [result_kindTables_of_first parsed]
    decide
  have described : source.Describes [⟨"t", "", info⟩] :=
    ⟨_, rfl, .cons ⟨rfl, rfl⟩ .nil⟩
  have fetched : (Fetch.outlines source parser 1).outcome = .ok [table] :=
    (Fetch.outlines_eq_ok_iff source parser 1 [table]).2
      ⟨_, described, by decide⟩
  rcases parser.kindTables_agree_with_definitions kind with
    ⟨agree, outlined, -, -, first, -, -⟩
  rcases first _ _ parsed with ⟨-, linked, -⟩
  have linked := linked tree rfl
  rw [targets] at agree outlined linked
  rcases outlined source 1 [table] fetched table List.mem_cons_self with
    ⟨told, answer, fields⟩
  cases answer
  exact ⟨targets, agree, (linked "post").1 (by decide),
    fun isLink => absurd ((linked "tag").2 isLink) (by decide), fetched,
    fields "author" rfl⟩

end Parser

end SchemaAtlas
