import SchemaAtlas.Json.Value
import SchemaAtlas.Text.Ascending

/-!
# Kinds of fields

The declared type of a field, as far as links to other tables go.  In a parse
tree a link is an object with the key `Record`, whose value lists the tables
it may point to; `Kind.ofJson` keeps the links and the structure around them
and forgets all else.  `Kind.tables` is the set of tables that a kind
mentions.
-/

namespace SchemaAtlas

/-- A kind: a link to some tables, a structure of kinds, or something without
links. -/
inductive Kind where
  | leaf
  | record (tables : List String)
  | sequence (items : List Kind)
  | keyed (entries : List (String × Kind))
deriving Inhabited

namespace Kind

open Json (Value)

/-- The key that marks a link. -/
def recordTag : String := "Record"

/-- The table that an element of a link names; `none` if it is no string. -/
def targetName? : Value → Option String
  | .string name => some name
  | _ => none

/-- The elements of a link's value; nothing but an array has any. -/
def targetElements : Value → List Value
  | .array items => items
  | _ => []

/-- The tables that a link's value names, in order. -/
def targetNames (targets : Value) : List String :=
  (targetElements targets).filterMap targetName?

/-- The elements of a link's value that name no table, in order. -/
def unnamedTargets (targets : Value) : List Value :=
  (targetElements targets).filter fun element => (targetName? element).isNone

mutual

/-- The kind that a parse tree stands for.  A link hides everything beside its
key. -/
def ofJson : Value → Kind
  | .array items => .sequence (ofItems items)
  | .object members =>
      match findEntry recordTag members with
      | some targets => .record (targetNames targets)
      | none => .keyed (ofMembers members)
  | _ => .leaf

def ofItems : List Value → List Kind
  | [] => []
  | item :: rest => ofJson item :: ofItems rest

def ofMembers : List (String × Value) → List (String × Kind)
  | [] => []
  | (key, value) :: rest => (key, ofJson value) :: ofMembers rest

end

mutual

/-- The elements of links that name no table, in the order in which a parse
tree shows them. -/
def skipped : Value → List Value
  | .array items => skippedInItems items
  | .object members =>
      match findEntry recordTag members with
      | some targets => unnamedTargets targets
      | none => skippedInMembers members
  | _ => []

def skippedInItems : List Value → List Value
  | [] => []
  | item :: rest => skipped item ++ skippedInItems rest

def skippedInMembers : List (String × Value) → List Value
  | [] => []
  | (_, value) :: rest => skipped value ++ skippedInMembers rest

end

mutual

/-- All table names in a kind, in order and as often as they occur. -/
def names : Kind → List String
  | .leaf => []
  | .record tables => tables
  | .sequence items => namesInItems items
  | .keyed entries => namesInEntries entries

def namesInItems : List Kind → List String
  | [] => []
  | item :: rest => item.names ++ namesInItems rest

def namesInEntries : List (String × Kind) → List String
  | [] => []
  | (_, kind) :: rest => kind.names ++ namesInEntries rest

end

/-- The tables that a kind mentions, in ascending order and once each. -/
def tables (kind : Kind) : List String := Text.ascending kind.names

mutual

/-- Equality up to the order of keyed entries. -/
def alike : Kind → Kind → Bool
  | .leaf, .leaf => true
  | .record first, .record second => first == second
  | .sequence first, .sequence second => alikeItems first second
  | .keyed first, .keyed second =>
      first.length == second.length && alikeEntries first second
  | _, _ => false

/-- Items are alike place by place. -/
def alikeItems : List Kind → List Kind → Bool
  | [], [] => true
  | first :: rest, second :: others =>
      first.alike second && alikeItems rest others
  | _, _ => false

/-- Every entry on the left has an entry on the right with its key and a kind
alike. -/
def alikeEntries : List (String × Kind) → List (String × Kind) → Bool
  | [], _ => true
  | (key, kind) :: rest, others =>
      (match findEntry key others with
        | some other => kind.alike other
        | none => false) &&
      alikeEntries rest others

end

end Kind

end SchemaAtlas
