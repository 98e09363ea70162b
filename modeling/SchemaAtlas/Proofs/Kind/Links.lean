import SchemaAtlas.Parser
import SchemaAtlas.Proofs.Ascending

/-!
# The links of a parse tree

A path leads into a parse tree by positions in arrays and keys of objects.
A link stands at the end of a path on which no object before the end has the
key of links itself; it names the strings that are directly in its array.
This says without any recursion which tables a parse tree links to.

The tables of the kind that a parse tree stands for are those that it links
to.  Whatever stands beside the key of a link or deeper inside of its value
lies on no such path, and therefore counts for nothing.
-/

namespace SchemaAtlas

open Json (Value)

namespace Json

/-- One step into a value. -/
inductive Step where
  | position (index : Nat)
  | key (name : String)
deriving DecidableEq

/--
A path leads from a value to a value inside of it.  The values that it passes
on the way are listed from the outside in, without the one at its end.
-/
inductive Value.Leads :
    Value → List Step → List Value → Value → Prop where
  | here (value : Value) : Leads value [] [] value
  | item {items : List Value} {index : Nat} {item target : Value}
      {path : List Step} {passed : List Value}
      (found : items[index]? = some item)
      (onward : Leads item path passed target) :
      Leads (.array items) (.position index :: path)
        (.array items :: passed) target
  | member {members : List (String × Value)} {key : String}
      {value target : Value} {path : List Step} {passed : List Value}
      (found : (key, value) ∈ members)
      (onward : Leads value path passed target) :
      Leads (.object members) (.key key :: path)
        (.object members :: passed) target

end Json

namespace Kind

/--
Somewhere in the tree there is an object with the key of links and no such
object around it, and the name is one of the strings in the key's array.
-/
def LinksTo (tree : Value) (name : String) : Prop :=
  ∃ path passed target elements,
    tree.Leads path passed target ∧
      (∀ value ∈ passed, value.get? recordTag = none) ∧
      target.get? recordTag = some (.array elements) ∧
      .string name ∈ elements

/-! ## Links by the form of the tree -/

section Forms

variable {name : String} {items : List Value}
  {members : List (String × Value)}

theorem linksTo_array_iff :
    LinksTo (.array items) name ↔ ∃ item ∈ items, LinksTo item name := by
  constructor
  · rintro ⟨path, passed, target, elements, leads, hidden, isLink, named⟩
    cases leads with
    | here =>
        cases isLink
    | item found onward =>
        exact ⟨_, List.mem_of_getElem? found, _, _, _, _, onward,
          fun value member => hidden value (List.mem_cons_of_mem _ member),
          isLink, named⟩
  · rintro ⟨item, isItem, path, passed, target, elements, leads, hidden,
      isLink, named⟩
    rcases List.getElem?_of_mem isItem with ⟨index, found⟩
    exact ⟨_, _, _, _, .item found leads,
      List.forall_mem_cons.2 ⟨rfl, hidden⟩, isLink, named⟩

/-- Without the key of links, the links of an object are those of its values. -/
theorem linksTo_object_iff_of_none
    (absent : findEntry recordTag members = none) :
    LinksTo (.object members) name ↔
      ∃ member ∈ members, LinksTo member.2 name := by
  constructor
  · rintro ⟨path, passed, target, elements, leads, hidden, isLink, named⟩
    cases leads with
    | here =>
        change findEntry recordTag members = _ at isLink
        rw [absent] at isLink
        cases isLink
    | member found onward =>
        exact ⟨_, found, _, _, _, _, onward,
          fun value member => hidden value (List.mem_cons_of_mem _ member),
          isLink, named⟩
  · rintro ⟨⟨key, value⟩, isMember, path, passed, target, elements, leads,
      hidden, isLink, named⟩
    exact ⟨_, _, _, _, .member isMember leads,
      List.forall_mem_cons.2 ⟨absent, hidden⟩, isLink, named⟩

/-- An object with the key of links hides all else that is in it. -/
theorem linksTo_object_iff_of_some
    {targets : Value} (present : findEntry recordTag members = some targets) :
    LinksTo (.object members) name ↔
      ∃ elements, targets = .array elements ∧ .string name ∈ elements := by
  constructor
  · rintro ⟨path, passed, target, elements, leads, hidden, isLink, named⟩
    cases leads with
    | here =>
        change findEntry recordTag members = _ at isLink
        rw [present] at isLink
        cases isLink
        exact ⟨elements, rfl, named⟩
    | member found onward =>
        have absent : findEntry recordTag members = none :=
          hidden _ List.mem_cons_self
        rw [present] at absent
        cases absent
  · rintro ⟨elements, rfl, named⟩
    exact ⟨[], [], _, elements, .here _, by simp, present, named⟩

/-- A value without parts links to nothing. -/
theorem not_linksTo_of_scalar
    {value : Value} (notArray : ∀ items, value ≠ .array items)
    (notObject : ∀ members, value ≠ .object members) :
    ¬ LinksTo value name := by
  rintro ⟨path, passed, target, elements, leads, hidden, isLink, named⟩
  cases leads with
  | here =>
      cases value with
      | object members => exact notObject members rfl
      | _ => cases isLink
  | item found onward => exact notArray _ rfl
  | member found onward => exact notObject _ rfl

end Forms

/-! ## The kind of a tree mentions its links -/

theorem mem_targetNames_iff {targets : Value} {name : String} :
    name ∈ targetNames targets ↔
      ∃ elements, targets = .array elements ∧ .string name ∈ elements := by
  rw [targetNames, List.mem_filterMap]
  constructor
  · rintro ⟨element, isElement, named⟩
    cases targets with
    | array elements =>
        cases element with
        | string text =>
            cases named
            exact ⟨elements, rfl, isElement⟩
        | _ => cases named
    | _ => cases isElement
  · rintro ⟨elements, rfl, isElement⟩
    exact ⟨.string name, isElement, rfl⟩

mutual

/-- A kind mentions exactly the tables that its parse tree links to. -/
theorem mem_names_ofJson (name : String) :
    ∀ tree : Value, name ∈ (ofJson tree).names ↔ LinksTo tree name
  | .array items => by
      rw [linksTo_array_iff, ofJson, names, mem_namesInItems_ofItems]
  | .object members => by
      cases record : findEntry recordTag members with
      | none =>
          rw [linksTo_object_iff_of_none record, ofJson, record, names,
            mem_namesInEntries_ofMembers]
      | some targets =>
          rw [linksTo_object_iff_of_some record, ofJson, record, names,
            mem_targetNames_iff]
  | .null => by
      simp [ofJson, names, not_linksTo_of_scalar]
  | .bool _ => by
      simp [ofJson, names, not_linksTo_of_scalar]
  | .number _ => by
      simp [ofJson, names, not_linksTo_of_scalar]
  | .string _ => by
      simp [ofJson, names, not_linksTo_of_scalar]

theorem mem_namesInItems_ofItems (name : String) :
    ∀ items : List Value,
      name ∈ namesInItems (ofItems items) ↔
        ∃ item ∈ items, LinksTo item name
  | [] => by
      simp [ofItems, namesInItems]
  | item :: rest => by
      rw [ofItems, namesInItems, List.mem_append, mem_names_ofJson name item,
        mem_namesInItems_ofItems name rest, List.exists_mem_cons_iff]

theorem mem_namesInEntries_ofMembers (name : String) :
    ∀ members : List (String × Value),
      name ∈ namesInEntries (ofMembers members) ↔
        ∃ member ∈ members, LinksTo member.2 name
  | [] => by
      simp [ofMembers, namesInEntries]
  | (key, value) :: rest => by
      rw [ofMembers, namesInEntries, List.mem_append,
        mem_names_ofJson name value, mem_namesInEntries_ofMembers name rest,
        List.exists_mem_cons_iff]

end

theorem mem_tables_ofJson {tree : Value} {name : String} :
    name ∈ (ofJson tree).tables ↔ LinksTo tree name := by
  rw [tables, Text.mem_ascending, mem_names_ofJson]

theorem tables_pairwise (kind : Kind) : kind.tables.Pairwise (· < ·) :=
  Text.ascending_pairwise kind.names

end Kind

/-! ## The tables of a field -/

/-- The log apart, asking for the tables of a field gives those tables. -/
@[simp]
theorem Parser.result_fieldTables (statement : Statement) :
    (Parser.fieldTables statement).result = statement.fieldTables := by
  rw [Parser.fieldTables, Statement.fieldTables]
  cases statement.fieldKind? with
  | none => rfl
  | some tree => rfl

theorem Statement.fieldTables_of_fieldKind?
    {statement : Statement} {tree : Value}
    (declared : statement.fieldKind? = some tree) :
    statement.fieldTables = (Kind.ofJson tree).tables := by
  rw [Statement.fieldTables, declared]

/--
The kind that a parse tree stands for mentions exactly the tables that the
tree links to.  If the tree is the kind of a field definition, these are the
tables of the field, listed in strictly ascending order.
-/
theorem Kind.tables_exactly_linked (tree : Value) :
    (∀ name, name ∈ (Kind.ofJson tree).tables ↔ Kind.LinksTo tree name) ∧
    ∀ statement : Statement,
      statement.tree.follow? ["Define", "Field", "kind"] = some tree →
        (Parser.fieldTables statement).result = statement.fieldTables ∧
        (∀ name, name ∈ statement.fieldTables ↔ Kind.LinksTo tree name) ∧
        statement.fieldTables.Pairwise (· < ·) := by
  refine ⟨fun name => Kind.mem_tables_ofJson, ?_⟩
  intro statement declared
  have isTables : statement.fieldTables = (Kind.ofJson tree).tables :=
    Statement.fieldTables_of_fieldKind? declared
  refine ⟨Parser.result_fieldTables statement, ?_, ?_⟩
  · intro name
    rw [isTables, Kind.mem_tables_ofJson]
  · rw [isTables]
    exact Kind.tables_pairwise (Kind.ofJson tree)

/-- Links inside of a link and beside its key count for nothing. -/
theorem Kind.tables_exactly_linked_hidden :
    let link (names : List Value) : Value := .object [("Record", .array names)]
    let tree : Value := .array
      [.object
        [("Set", link [.string "beside"]),
          ("Record", .array
            [.string "user", link [.string "inside"], .string "post"])]]
    let statement : Statement :=
      ⟨.object [("Define", .object [("Field", .object [("kind", tree)])])]⟩
    statement.fieldTables = ["post", "user"] ∧
      Kind.LinksTo tree "user" ∧ ¬ Kind.LinksTo tree "beside" ∧
      ¬ Kind.LinksTo tree "inside" := by
  intro link tree statement
  have declared :
      statement.tree.follow? ["Define", "Field", "kind"] = some tree := by
    rfl
  have isTables : statement.fieldTables = ["post", "user"] := by
    decide
  rcases (Kind.tables_exactly_linked tree).2 statement declared with
    ⟨-, linked, -⟩
  rw [← linked, ← linked, ← linked, isTables]
  decide

end SchemaAtlas
