import SchemaAtlas.Proofs.Dict
import SchemaAtlas.Proofs.Fetch
import SchemaAtlas.Proofs.Kind.Links
import SchemaAtlas.Proofs.Outline

/-!
# Outlines of fetched tables

The outline of a table has its fields from the metadata and asks the parser
only what these fields link to.  Whether the table is an edge is therefore
decided by the names in the metadata alone, and an answer of the parser
reaches no other field than those whose definition it is about.

Fetches are compared in two directions: one source outlined with two parsers,
and two sources that tell the same fields in different orders.
-/

namespace SchemaAtlas

/-! ## What a parser tells of a definition -/

/--
The tables that a definition links to by the answer of the parser: those of
the declared kind, in ascending order, and none if the definition is refused
or has no declared kind in its first statement.
-/
inductive Parser.Tells (parser : Parser) (definition : String) :
    List String → Prop where
  | linked {statement : Statement} {rest : List Statement}
      {tree : Json.Value} {targets : List String}
      (parsed : parser.parse definition = .ok (statement :: rest))
      (declared :
        statement.tree.follow? ["Define", "Field", "kind"] = some tree)
      (exactly : ∀ name, name ∈ targets ↔ Kind.LinksTo tree name)
      (ascending : targets.Pairwise (· < ·)) :
      Tells parser definition targets
  | untyped {statement : Statement} {rest : List Statement}
      (parsed : parser.parse definition = .ok (statement :: rest))
      (undeclared :
        statement.tree.follow? ["Define", "Field", "kind"] = none) :
      Tells parser definition []
  | silent (parsed : parser.parse definition = .ok []) :
      Tells parser definition []
  | refused {failure : Failure}
      (parsed : parser.parse definition = .error failure) :
      Tells parser definition []

namespace Parser

/-- The log apart, the tables of a definition follow from the parser's
answer. -/
theorem result_definitionTables (parser : Parser) (definition : String) :
    (parser.definitionTables definition).result =
      match parser.parse definition with
      | .ok statements =>
          (statements.head?.map Statement.fieldTables).getD []
      | .error _ => [] := by
  rw [definitionTables, Run.result_bind]
  change Run.result (match parser.parse definition with
    | .ok statements => firstFieldTables statements
    | .error failure => _) = _
  cases parser.parse definition with
  | error failure => rfl
  | ok statements =>
      cases statements with
      | nil => rfl
      | cons statement rest => exact result_fieldTables statement

theorem tells_definitionTables (parser : Parser) (definition : String) :
    parser.Tells definition (parser.definitionTables definition).result := by
  rw [result_definitionTables]
  cases parsed : parser.parse definition with
  | error failure => exact .refused parsed
  | ok statements =>
      cases statements with
      | nil => exact .silent parsed
      | cons statement rest =>
          change parser.Tells definition statement.fieldTables
          cases declared : statement.fieldKind? with
          | none =>
              rw [Statement.fieldTables, declared]
              exact .untyped parsed declared
          | some tree =>
              rw [Statement.fieldTables_of_fieldKind? declared]
              apply Tells.linked parsed declared
              · exact fun name => Kind.mem_tables_ofJson
              · exact Kind.tables_pairwise (Kind.ofJson tree)

theorem definitionTables_congr
    {first second : Parser} {definition : String}
    (agree : first.parse definition = second.parse definition) :
    (first.definitionTables definition).result =
      (second.definitionTables definition).result := by
  rw [result_definitionTables, result_definitionTables, agree]

end Parser

/-! ## The outline of one table -/

namespace Fetch

/-- The outline of a field: its name and the tables its definition links to. -/
def fieldOutline (parser : Parser) (entry : String × String) :
    FieldOutline :=
  ⟨entry.1, (parser.definitionTables entry.2).result⟩

theorem result_outline (parser : Parser) (schema : TableSchema) :
    (outline parser schema).result =
      ⟨schema.name,
        schema.info.fields.entries.map (fieldOutline parser)⟩ := by
  simp only [outline, Run.result_bind, Run.result_pure, Run.result_mapM]
  rfl

theorem map_name_fieldOutline
    (parser : Parser) (entries : List (String × String)) :
    (entries.map (fieldOutline parser)).map FieldOutline.name =
      entries.map Prod.fst := by
  rw [List.map_map]
  rfl

end Fetch

/--
How a field name of metadata is turned into link targets: by what the parser
tells of the definition, and to none if there is no such field.
-/
inductive TableInfo.Endpoint
    (info : TableInfo) (parser : Parser) (name : String) :
    List String → Prop where
  | defined {definition : String} {targets : List String}
      (found : info.fields.get? name = some definition)
      (tells : parser.Tells definition targets) :
      Endpoint info parser name targets
  | missing (absent : name ∉ info.fields.keys) :
      Endpoint info parser name []

/-- A table's outline and edge verdict, as its metadata and the parser tell. -/
structure TableOutline.Follows
    (table : TableOutline) (parser : Parser) (info : TableInfo) : Prop where
  names : table.fields.map FieldOutline.name = info.fields.keys
  fields : ∀ field ∈ table.fields,
    info.Endpoint parser field.name field.targets
  isEdge : table.edge.isEdge = true ↔
    "in" ∈ info.fields.keys ∧ "out" ∈ info.fields.keys
  inTargets : info.Endpoint parser "in" table.edge.inTargets
  outTargets : info.Endpoint parser "out" table.edge.outTargets

namespace Fetch

section Outline

variable (parser : Parser) (info : TableInfo)

theorem nodup_fieldOutlines :
    ((info.fields.entries.map (fieldOutline parser)).map
      FieldOutline.name).Nodup := by
  rw [map_name_fieldOutline]
  exact info.fields.distinct

theorem endpoint_of_get?
    {name definition : String}
    (found : info.fields.get? name = some definition) :
    info.Endpoint parser name (parser.definitionTables definition).result :=
  .defined found (parser.tells_definitionTables definition)

theorem lastTargets?_fieldOutlines (name : String) :
    lastTargets? name (info.fields.entries.map (fieldOutline parser)) =
      (info.fields.get? name).map fun definition =>
        (parser.definitionTables definition).result := by
  cases found : info.fields.get? name with
  | none =>
      rw [Option.map_none, lastTargets?_eq_none_iff, map_name_fieldOutline]
      exact Dict.get?_eq_none_iff.1 found
  | some definition =>
      -- No name occurs twice, so the last field of the name is the only one.
      rw [Option.map_some,
        lastTargets?_eq_some_iff (nodup_fieldOutlines parser info)]
      exact List.mem_map_of_mem (f := fieldOutline parser)
        (Dict.get?_eq_some_iff.1 found)

theorem endpoint_lastTargets? (name : String) :
    info.Endpoint parser name
      ((lastTargets? name
        (info.fields.entries.map (fieldOutline parser))).getD []) := by
  rw [lastTargets?_fieldOutlines]
  cases found : info.fields.get? name with
  | none => exact .missing (Dict.get?_eq_none_iff.1 found)
  | some definition => exact endpoint_of_get? parser info found

theorem outline_follows (schema : TableSchema) :
    (outline parser schema).result.Follows parser schema.info := by
  rw [result_outline]
  constructor
  · exact map_name_fieldOutline parser schema.info.fields.entries
  · intro field member
    rcases List.mem_map.1 member with ⟨⟨name, definition⟩, isEntry, rfl⟩
    exact endpoint_of_get? parser schema.info
      (Dict.get?_eq_some_iff.2 isEntry)
  · rw [TableOutline.edge, EdgeVerdict.isEdge_ofFields_iff,
      map_name_fieldOutline]
    rfl
  · rw [TableOutline.edge, EdgeVerdict.ofFields_eq]
    exact endpoint_lastTargets? parser schema.info inField
  · rw [TableOutline.edge, EdgeVerdict.ofFields_eq]
    exact endpoint_lastTargets? parser schema.info outField

end Outline

/-! ## All outlines of a source -/

/-- Outlines are made of what the source describes, whatever the parser says. -/
theorem outlines_eq_ok_iff
    (source : Source) (parser : Parser) (limit : Nat)
    (tables : List TableOutline) :
    (outlines source parser limit).outcome = .ok tables ↔
      ∃ schemas, source.Describes schemas ∧
        tables = schemas.map fun schema => (outline parser schema).result := by
  rw [outlines_outcome]
  constructor
  · intro succeeds
    cases fetched : (schemas source limit).outcome with
    | error failure =>
        rw [fetched] at succeeds
        cases succeeds
    | ok schemas =>
        rw [fetched] at succeeds
        cases succeeds
        exact ⟨schemas, (Source.schemas_eq_ok_iff _ _ _).1 fetched,
          Run.result_mapM schemas (outline parser)⟩
  · rintro ⟨schemas, described, rfl⟩
    rw [(Source.schemas_eq_ok_iff _ _ _).2 described]
    change Except.ok (Run.result _) = _
    rw [Run.result_mapM]

end Fetch

/--
What another parser may change in an outline: the targets of those fields
about whose definition it answers differently.
-/
structure TableOutline.ChangedByParser
    (info : TableInfo) (parser other : Parser)
    (table changed : TableOutline) : Prop where
  name : changed.name = table.name
  isEdge : changed.edge.isEdge = table.edge.isEdge
  fields : List.Forall₂
    (fun field changedField =>
      changedField.name = field.name ∧
        ∀ definition, info.fields.get? field.name = some definition →
          other.parse definition = parser.parse definition →
            changedField = field)
    table.fields changed.fields

/-- What another order of fields may change in an outline: their order. -/
structure TableOutline.ChangedByOrder (table changed : TableOutline) :
    Prop where
  name : changed.name = table.name
  fields : table.fields.Perm changed.fields
  edge : changed.edge = table.edge

/--
The other source lists the same tables and tells the same fields of each,
possibly in another order.
-/
structure Source.TellsFieldsOf (other source : Source) : Prop where
  tables : other.tables.outcome = source.tables.outcome
  infos : ∀ name info, (source.tableInfo name).outcome = .ok info →
    ∃ otherInfo, (other.tableInfo name).outcome = .ok otherInfo ∧
      info.fields.entries.Perm otherInfo.fields.entries

namespace Fetch

theorem outline_changedByParser
    (parser other : Parser) (schema : TableSchema) :
    TableOutline.ChangedByParser schema.info parser other
      (outline parser schema).result (outline other schema).result := by
  rw [result_outline, result_outline]
  constructor
  · rfl
  · apply Bool.eq_iff_iff.2
    rw [TableOutline.edge, TableOutline.edge,
      EdgeVerdict.isEdge_ofFields_iff, EdgeVerdict.isEdge_ofFields_iff,
      map_name_fieldOutline, map_name_fieldOutline]
  · rw [List.forall₂_map_left_iff, List.forall₂_map_right_iff,
      List.forall₂_same]
    rintro ⟨name, definition⟩ isEntry
    refine ⟨rfl, ?_⟩
    intro told found agree
    change schema.info.fields.get? name = some told at found
    rw [Dict.get?_eq_some_iff.2 isEntry, Option.some.injEq] at found
    subst told
    rw [fieldOutline, fieldOutline, Parser.definitionTables_congr agree]

theorem outline_changedByOrder
    (parser : Parser) {schema other : TableSchema}
    (sameName : other.name = schema.name)
    (order :
      schema.info.fields.entries.Perm other.info.fields.entries) :
    (outline parser schema).result.ChangedByOrder
      (outline parser other).result := by
  rw [result_outline, result_outline]
  have fieldsOrder := order.map (fieldOutline parser)
  constructor
  · exact sameName
  · exact fieldsOrder
  · exact (EdgeVerdict.ofFields_eq_of_perm
      (nodup_fieldOutlines parser schema.info) fieldsOrder).symm

/-- What one source describes, the other does up to the order of fields. -/
theorem exists_describes_of_tellsFieldsOf
    {source other : Source} {schemas : List TableSchema}
    (tells : other.TellsFieldsOf source)
    (described : source.Describes schemas) :
    ∃ others, other.Describes others ∧
      List.Forall₂
        (fun (schema otherSchema : TableSchema) =>
          otherSchema.name = schema.name ∧
            schema.info.fields.entries.Perm otherSchema.info.fields.entries)
        schemas others := by
  rcases described with ⟨tables, listed, answers⟩
  rw [← tells.tables] at listed
  have each : ∀ (entry : String × String) (schema : TableSchema),
      (entry = (schema.name, schema.definition) ∧
        (source.tableInfo schema.name).outcome = .ok schema.info) →
      ∃ otherSchema : TableSchema,
        (entry = (otherSchema.name, otherSchema.definition) ∧
          (other.tableInfo otherSchema.name).outcome =
            .ok otherSchema.info) ∧
        otherSchema.name = schema.name ∧
          schema.info.fields.entries.Perm
            otherSchema.info.fields.entries := by
    intro entry schema answer
    rcases tells.infos _ _ answer.2 with ⟨info, told, order⟩
    exact ⟨⟨schema.name, schema.definition, info⟩, ⟨answer.1, told⟩,
      rfl, order⟩
  rcases exists_forall₂ each answers with ⟨others, otherAnswers, alike⟩
  exact ⟨others, ⟨tables, listed, otherAnswers⟩, alike⟩

/--
The outlines of a source follow the metadata.  Their names, fields and edges
do not depend on the parser, whose answers reach only the fields they are
about.  The order of fields in the metadata is the order of fields in the
outline, and decides nothing else.
-/
theorem outlines_follow_metadata
    {source : Source} {parser : Parser} {limit : Nat}
    {tables : List TableOutline}
    (fetched : (outlines source parser limit).outcome = .ok tables) :
    (∀ table ∈ tables, ∃ info,
      (source.tableInfo table.name).outcome = .ok info ∧
        table.Follows parser info) ∧
    (∀ other : Parser, ∃ changed,
      (outlines source other limit).outcome = .ok changed ∧
        List.Forall₂
          (fun table changedTable => ∃ info,
            (source.tableInfo table.name).outcome = .ok info ∧
              table.ChangedByParser info parser other changedTable)
          tables changed) ∧
    (∀ other : Source, other.TellsFieldsOf source → ∃ changed,
      (outlines other parser limit).outcome = .ok changed ∧
        List.Forall₂ TableOutline.ChangedByOrder tables changed) := by
  rcases (outlines_eq_ok_iff source parser limit tables).1 fetched with
    ⟨schemas, described, rfl⟩
  have answered : ∀ schema ∈ schemas,
      (source.tableInfo (outline parser schema).result.name).outcome =
        .ok schema.info := by
    intro schema member
    rw [result_outline]
    exact described.answers schema member
  refine ⟨?_, ?_, ?_⟩
  · intro table member
    rcases List.mem_map.1 member with ⟨schema, isSchema, rfl⟩
    exact ⟨schema.info, answered schema isSchema,
      outline_follows parser schema⟩
  · intro other
    refine ⟨_, (outlines_eq_ok_iff source other limit _).2
      ⟨schemas, described, rfl⟩, ?_⟩
    rw [List.forall₂_map_left_iff, List.forall₂_map_right_iff,
      List.forall₂_same]
    intro schema isSchema
    exact ⟨schema.info, answered schema isSchema,
      outline_changedByParser parser other schema⟩
  · intro other tells
    rcases exists_describes_of_tellsFieldsOf tells described with
      ⟨others, otherDescribed, alike⟩
    refine ⟨_, (outlines_eq_ok_iff other parser limit _).2
      ⟨others, otherDescribed, rfl⟩, ?_⟩
    rw [List.forall₂_map_left_iff, List.forall₂_map_right_iff]
    apply alike.imp
    intro schema otherSchema same
    exact outline_changedByOrder parser same.1 same.2

/-- An edge with an endpoint that the parser refuses, in either order. -/
theorem outlines_follow_metadata_refused_endpoint :
    let info : TableInfo :=
      ⟨⟨[("out", "broken"), ("in", "typed")], by decide⟩, ∅, ∅⟩
    let reversed : TableInfo :=
      ⟨⟨[("in", "typed"), ("out", "broken")], by decide⟩, ∅, ∅⟩
    let source (told : TableInfo) : Source :=
      ⟨pure ⟨[("likes", "")], by decide⟩, fun _ => pure told⟩
    let kind : Json.Value :=
      .object [("Record", .array [.string "user", .string "post"])]
    let statement : Statement :=
      ⟨.object [("Define", .object [("Field", .object [("kind", kind)])])]⟩
    let refused (_text : String) : Failure := .parse "refused" none
    let parser : Parser :=
      { parse := fun text =>
          if text = "typed" then .ok [statement] else .error (refused text)
        layOut := fun text _ => .error (refused text)
        check := fun _ text => .error (refused text) }
    let table : TableOutline :=
      ⟨"likes", [⟨"out", []⟩, ⟨"in", ["post", "user"]⟩]⟩
    (outlines (source info) parser 4).outcome = .ok [table] ∧
      table.edge = ⟨true, ["post", "user"], []⟩ ∧
      (∃ told, ((source info).tableInfo "likes").outcome = .ok told ∧
        table.Follows parser told) ∧
      (source reversed).TellsFieldsOf (source info) ∧
      ∃ changed, (outlines (source reversed) parser 4).outcome = .ok changed ∧
        List.Forall₂ TableOutline.ChangedByOrder [table] changed := by
  intro info reversed source kind statement refused parser table
  have described : (source info).Describes [⟨"likes", "", info⟩] :=
    ⟨_, rfl, .cons ⟨rfl, rfl⟩ .nil⟩
  have fetched : (outlines (source info) parser 4).outcome = .ok [table] :=
    (outlines_eq_ok_iff (source info) parser 4 [table]).2
      ⟨_, described, by decide⟩
  have tells : (source reversed).TellsFieldsOf (source info) := by
    constructor
    · rfl
    · intro name told answer
      cases answer
      exact ⟨reversed, rfl, List.Perm.swap _ _ []⟩
  rcases outlines_follow_metadata fetched with ⟨follows, -, ordered⟩
  exact ⟨fetched, by decide, follows table List.mem_cons_self, tells,
    ordered (source reversed) tells⟩

end Fetch

end SchemaAtlas
