import SchemaAtlas.Dict
import SchemaAtlas.Binary64

/-!
# JSON values

Trees of JSON data.  The members of an object are kept in order, first
occurrence first; `Value.WellFormed` says that no object has a key twice,
which holds of every tree that is read.  `Value.alike` is equality up to the
order of members; it never equates an integer with a fractional number.
-/

namespace SchemaAtlas.Json

/-- A number: an integer in the range of 64 bits, or a double. -/
inductive Number where
  | integer (value : Int)
  | double (value : Binary64)
deriving DecidableEq, Inhabited

/-- Numerical equality within each of the two kinds. -/
def Number.alike : Number → Number → Bool
  | .integer first, .integer second => first == second
  | .double first, .double second => first.alike second
  | _, _ => false

inductive Value where
  | null
  | bool (value : Bool)
  | number (value : Number)
  | string (value : String)
  | array (items : List Value)
  | object (members : List (String × Value))
deriving Inhabited

namespace Value

/-- The members of an object; `none` for any other value. -/
def members? : Value → Option (List (String × Value))
  | .object members => some members
  | _ => none

/-- The value of a key; `none` if the value is no object or has no such key. -/
def get? (value : Value) (key : String) : Option Value :=
  value.members?.bind (findEntry key)

/-- The value at the end of a path of keys; every value before the end has to
be an object. -/
def follow? (value : Value) : List String → Option Value
  | [] => some value
  | key :: path => (value.get? key).bind (follow? · path)

mutual

/-- No object in the tree has a key twice. -/
def WellFormed : Value → Prop
  | .array items => WellFormedItems items
  | .object members => (members.map Prod.fst).Nodup ∧ WellFormedMembers members
  | _ => True

def WellFormedItems : List Value → Prop
  | [] => True
  | item :: rest => item.WellFormed ∧ WellFormedItems rest

def WellFormedMembers : List (String × Value) → Prop
  | [] => True
  | (_, value) :: rest => value.WellFormed ∧ WellFormedMembers rest

end

mutual

/-- Equality up to the order of the members of objects. -/
def alike : Value → Value → Bool
  | .null, .null => true
  | .bool first, .bool second => first == second
  | .number first, .number second => first.alike second
  | .string first, .string second => first == second
  | .array first, .array second => alikeItems first second
  | .object first, .object second =>
      first.length == second.length && alikeMembers first second
  | _, _ => false

/-- Items are alike place by place. -/
def alikeItems : List Value → List Value → Bool
  | [], [] => true
  | first :: rest, second :: others =>
      first.alike second && alikeItems rest others
  | _, _ => false

/-- Every member on the left has a member on the right with its key and a
value alike. -/
def alikeMembers : List (String × Value) → List (String × Value) → Bool
  | [], _ => true
  | (key, value) :: rest, others =>
      (match findEntry key others with
        | some other => value.alike other
        | none => false) &&
      alikeMembers rest others

end

end Value

end SchemaAtlas.Json
