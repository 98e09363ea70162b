import SchemaAtlas.Kind
import SchemaAtlas.Proofs.Ascending
import SchemaAtlas.Proofs.Dict
import Mathlib.Data.List.Forall2
import Mathlib.Data.List.Perm.Subperm

/-!
# Kinds up to the order of siblings

A tree is rearranged by putting siblings in another order at any places of
it, at as many of them as one likes and at any depth.  The relation is given
twice, for kinds and for JSON values, with one constructor for each form:
what is below is rearranged first, then the siblings themselves are permuted.

The tables of a kind do not depend on such an order.  Kinds that are equal by
their own comparison, which looks entries up by their keys, are rearrangements
of each other, and rearranged parse trees stand for rearranged kinds: the key
of links is found wherever it stands.  Both rely on keys that occur only once.
-/

namespace SchemaAtlas

open Json (Value)

/-! ## Rearranged trees -/

mutual

/-- One kind is the other with siblings in another order, at any depth. -/
inductive Kind.Rearranged : Kind → Kind → Prop where
  | leaf : Rearranged .leaf .leaf
  | record {tables others : List String} (order : tables.Perm others) :
      Rearranged (.record tables) (.record others)
  | sequence {items inside others : List Kind}
      (below : List.Forall₂ Rearranged items inside)
      (order : inside.Perm others) :
      Rearranged (.sequence items) (.sequence others)
  | keyed {entries inside others : List (String × Kind)}
      (below : List.Forall₂ Kind.EntryRearranged entries inside)
      (order : inside.Perm others) :
      Rearranged (.keyed entries) (.keyed others)

/-- An entry keeps its key. -/
inductive Kind.EntryRearranged : String × Kind → String × Kind → Prop where
  | entry {key : String} {kind other : Kind}
      (below : Kind.Rearranged kind other) :
      EntryRearranged (key, kind) (key, other)

end

mutual

/-- One value is the other with the items of arrays and the members of objects
in another order, at any depth. -/
inductive Json.Value.Rearranged : Value → Value → Prop where
  | same (value : Value) : Rearranged value value
  | array {items inside others : List Value}
      (below : List.Forall₂ Rearranged items inside)
      (order : inside.Perm others) :
      Rearranged (.array items) (.array others)
  | object {members inside others : List (String × Value)}
      (below : List.Forall₂ Json.Value.MemberRearranged members inside)
      (order : inside.Perm others) :
      Rearranged (.object members) (.object others)

/-- A member keeps its key. -/
inductive Json.Value.MemberRearranged :
    String × Value → String × Value → Prop where
  | member {key : String} {value other : Value}
      (below : Json.Value.Rearranged value other) :
      MemberRearranged (key, value) (key, other)

end

theorem Json.Value.MemberRearranged.key_eq
    {first second : String × Value}
    (rearranged : MemberRearranged first second) :
    first.1 = second.1 := by
  cases rearranged
  rfl

theorem Kind.EntryRearranged.key_eq
    {first second : String × Kind}
    (rearranged : EntryRearranged first second) :
    first.1 = second.1 := by
  cases rearranged
  rfl

namespace Kind

/-! ## Tables -/

theorem namesInItems_eq_flatMap (items : List Kind) :
    namesInItems items = items.flatMap names := by
  induction items with
  | nil => rfl
  | cons item rest induction =>
      rw [namesInItems, List.flatMap_cons, induction]

theorem namesInEntries_eq_flatMap (entries : List (String × Kind)) :
    namesInEntries entries = entries.flatMap fun entry => entry.2.names := by
  induction entries with
  | nil => rfl
  | cons entry rest induction =>
      rw [namesInEntries, List.flatMap_cons, induction]

mutual

/-- A rearranged kind mentions the same names, each as often as before. -/
theorem Rearranged.names_perm :
    ∀ {first second : Kind}, first.Rearranged second →
      first.names.Perm second.names
  | .leaf, _, rearranged => by
      cases rearranged
      exact .refl _
  | .record _, _, rearranged => by
      cases rearranged with
      | record order =>
          rw [names, names]
          exact order
  | .sequence _, _, rearranged => by
      cases rearranged with
      | sequence below order =>
          rw [names, names]
          apply (namesInItems_perm below).trans
          rw [namesInItems_eq_flatMap, namesInItems_eq_flatMap]
          exact order.flatMap_right _
  | .keyed _, _, rearranged => by
      cases rearranged with
      | keyed below order =>
          rw [names, names]
          apply (namesInEntries_perm below).trans
          rw [namesInEntries_eq_flatMap, namesInEntries_eq_flatMap]
          exact order.flatMap_right _

theorem namesInItems_perm :
    ∀ {items inside : List Kind}, List.Forall₂ Rearranged items inside →
      (namesInItems items).Perm (namesInItems inside)
  | [], _, below => by
      cases below
      exact .refl _
  | _ :: _, _, below => by
      cases below with
      | cons head tail =>
          rw [namesInItems, namesInItems]
          exact head.names_perm.append (namesInItems_perm tail)

theorem namesInEntries_perm :
    ∀ {entries inside : List (String × Kind)},
      List.Forall₂ EntryRearranged entries inside →
        (namesInEntries entries).Perm (namesInEntries inside)
  | [], _, below => by
      cases below
      exact .refl _
  | (_, _) :: _, _, below => by
      cases below with
      | cons head tail =>
          cases head with
          | entry inner =>
              rw [namesInEntries, namesInEntries]
              exact inner.names_perm.append (namesInEntries_perm tail)

end

theorem Rearranged.tables_eq
    {first second : Kind} (rearranged : first.Rearranged second) :
    first.tables = second.tables :=
  Text.ascending_congr fun _ => rearranged.names_perm.mem_iff

/-! ## Equality of kinds -/

mutual

/-- No keyed node in the tree has a key twice. -/
def WellFormed : Kind → Prop
  | .sequence items => WellFormedItems items
  | .keyed entries => (entries.map Prod.fst).Nodup ∧ WellFormedEntries entries
  | _ => True

def WellFormedItems : List Kind → Prop
  | [] => True
  | item :: rest => item.WellFormed ∧ WellFormedItems rest

def WellFormedEntries : List (String × Kind) → Prop
  | [] => True
  | (_, kind) :: rest => kind.WellFormed ∧ WellFormedEntries rest

end

mutual

/-- Kinds that are equal up to the order of entries are rearranged. -/
theorem rearranged_of_alike :
    ∀ {first second : Kind}, first.WellFormed →
      first.alike second = true → first.Rearranged second
  | .leaf, second, _, same => by
      cases second with
      | leaf => exact .leaf
      | _ => simp [alike] at same
  | .record tables, second, _, same => by
      cases second with
      | record others =>
          rw [alike, beq_iff_eq] at same
          subst same
          exact .record (.refl _)
      | _ => simp [alike] at same
  | .sequence items, second, wellFormed, same => by
      cases second with
      | sequence others =>
          rw [alike] at same
          rw [WellFormed] at wellFormed
          exact .sequence (forall₂_of_alikeItems wellFormed same) (.refl _)
      | _ => simp [alike] at same
  | .keyed entries, second, wellFormed, same => by
      cases second with
      | keyed others =>
          rw [alike, Bool.and_eq_true, beq_iff_eq] at same
          rw [WellFormed] at wellFormed
          rcases exists_inside_of_alikeEntries wellFormed.2 same.2 with
            ⟨inside, below, found⟩
          have keys : entries.map Prod.fst = inside.map Prod.fst :=
            map_eq_of_forall₂ (fun _ _ entry => entry.key_eq) below
          have distinct : inside.Nodup :=
            List.Nodup.of_map Prod.fst (keys ▸ wellFormed.1)
          have lengths : others.length ≤ inside.length := by
            rw [← same.1, ← below.length_eq]
          -- As many entries as there are, all found and all different.
          exact .keyed below
            ((List.subperm_of_subset distinct found).perm_of_length_le
              lengths)
      | _ => simp [alike] at same

theorem forall₂_of_alikeItems :
    ∀ {items others : List Kind}, WellFormedItems items →
      alikeItems items others = true →
        List.Forall₂ Rearranged items others
  | [], others, _, same => by
      cases others with
      | nil => exact .nil
      | cons other rest => simp [alikeItems] at same
  | item :: rest, others, wellFormed, same => by
      cases others with
      | nil => simp [alikeItems] at same
      | cons other others =>
          rw [alikeItems, Bool.and_eq_true] at same
          rw [WellFormedItems] at wellFormed
          exact .cons (rearranged_of_alike wellFormed.1 same.1)
            (forall₂_of_alikeItems wellFormed.2 same.2)

theorem exists_inside_of_alikeEntries :
    ∀ {entries others : List (String × Kind)}, WellFormedEntries entries →
      alikeEntries entries others = true →
        ∃ inside, List.Forall₂ EntryRearranged entries inside ∧
          inside ⊆ others
  | [], _, _, _ =>
      ⟨[], .nil, List.nil_subset _⟩
  | (key, kind) :: rest, others, wellFormed, same => by
      rw [alikeEntries, Bool.and_eq_true] at same
      rw [WellFormedEntries] at wellFormed
      rcases exists_inside_of_alikeEntries wellFormed.2 same.2 with
        ⟨inside, below, found⟩
      cases lookup : findEntry key others with
      | none =>
          rw [lookup] at same
          cases same.1
      | some other =>
          rw [lookup] at same
          refine ⟨(key, other) :: inside, ?_, ?_⟩
          · exact .cons (.entry (rearranged_of_alike wellFormed.1 same.1))
              below
          · exact List.cons_subset.2 ⟨mem_of_findEntry lookup, found⟩

end

/-! ## Kinds of rearranged parse trees -/

mutual

theorem Rearranged.refl : ∀ kind : Kind, kind.Rearranged kind
  | .leaf => .leaf
  | .record _ => .record (.refl _)
  | .sequence items => .sequence (rearranged_items_refl items) (.refl _)
  | .keyed entries => .keyed (rearranged_entries_refl entries) (.refl _)

theorem rearranged_items_refl :
    ∀ items : List Kind, List.Forall₂ Rearranged items items
  | [] => .nil
  | item :: rest => .cons (.refl item) (rearranged_items_refl rest)

theorem rearranged_entries_refl :
    ∀ entries : List (String × Kind),
      List.Forall₂ EntryRearranged entries entries
  | [] => .nil
  | (_, kind) :: rest => .cons (.entry (.refl kind))
      (rearranged_entries_refl rest)

end

section Members

variable {members inside others : List (String × Value)}

/-- A key that is there still has its value, which may be rearranged. -/
theorem findEntry_of_memberRearranged
    (below : List.Forall₂ Value.MemberRearranged members inside)
    (key : String) :
    Option.Rel Value.Rearranged (findEntry key members)
      (findEntry key inside) := by
  induction below with
  | nil => exact .none
  | @cons _ _ _ _ head tail induction =>
      cases head with
      | @member other value changed inner =>
          by_cases same : other = key
          · rw [findEntry, if_pos same, findEntry, if_pos same]
            exact .some inner
          · rw [findEntry, if_neg same, findEntry, if_neg same]
            exact induction

/-- Lookup among rearranged members, in whatever order they come. -/
theorem findEntry_rearranged
    (distinct : (members.map Prod.fst).Nodup)
    (below : List.Forall₂ Value.MemberRearranged members inside)
    (order : inside.Perm others) (key : String) :
    Option.Rel Value.Rearranged (findEntry key members)
      (findEntry key others) := by
  have keys : members.map Prod.fst = inside.map Prod.fst :=
    map_eq_of_forall₂ (fun _ _ member => member.key_eq) below
  have distinctInside : (inside.map Prod.fst).Nodup := keys ▸ distinct
  rw [← findEntry_eq_of_perm distinctInside order key]
  exact findEntry_of_memberRearranged below key

end Members

theorem targetName?_eq_of_rearranged
    {value other : Value} (rearranged : value.Rearranged other) :
    targetName? value = targetName? other := by
  cases rearranged with
  | same => rfl
  | array => rfl
  | object => rfl

theorem filterMap_targetName?_eq
    {items inside : List Value}
    (below : List.Forall₂ Value.Rearranged items inside) :
    items.filterMap targetName? = inside.filterMap targetName? := by
  induction below with
  | nil => rfl
  | cons head tail induction =>
      rw [List.filterMap_cons, List.filterMap_cons, induction,
        targetName?_eq_of_rearranged head]

theorem targetNames_perm
    {targets others : Value} (rearranged : targets.Rearranged others) :
    (targetNames targets).Perm (targetNames others) := by
  cases rearranged with
  | same => exact .refl _
  | object => exact .refl _
  | @array items inside others below order =>
      change (items.filterMap targetName?).Perm (others.filterMap targetName?)
      rw [filterMap_targetName?_eq below]
      exact order.filterMap targetName?

theorem ofItems_eq_map (items : List Value) :
    ofItems items = items.map ofJson := by
  induction items with
  | nil => rfl
  | cons item rest induction =>
      rw [ofItems, List.map_cons, induction]

theorem ofMembers_eq_map (members : List (String × Value)) :
    ofMembers members =
      members.map fun member => (member.1, ofJson member.2) := by
  induction members with
  | nil => rfl
  | cons member rest induction =>
      rw [ofMembers, List.map_cons, induction]

mutual

/-- Rearranged parse trees stand for rearranged kinds. -/
theorem ofJson_rearranged :
    ∀ {first second : Value}, first.WellFormed → first.Rearranged second →
      (ofJson first).Rearranged (ofJson second)
  | .array items, _, wellFormed, rearranged => by
      cases rearranged with
      | same => exact .refl _
      | array below order =>
          rw [Value.WellFormed] at wellFormed
          rw [ofJson, ofJson]
          refine .sequence (ofItems_rearranged wellFormed below) ?_
          rw [ofItems_eq_map, ofItems_eq_map]
          exact order.map ofJson
  | .object members, _, wellFormed, rearranged => by
      cases rearranged with
      | same => exact .refl _
      | object below order =>
          rw [Value.WellFormed] at wellFormed
          have links := findEntry_rearranged wellFormed.1 below order recordTag
          rw [ofJson, ofJson]
          generalize findEntry recordTag _ = target at links ⊢
          generalize findEntry recordTag _ = otherTarget at links ⊢
          -- Either both objects are links or neither of them is one.
          cases links with
          | some inner => exact .record (targetNames_perm inner)
          | none =>
              refine .keyed (ofMembers_rearranged wellFormed.2 below) ?_
              rw [ofMembers_eq_map, ofMembers_eq_map]
              exact order.map _
  | .null, _, _, rearranged => by
      cases rearranged
      exact .refl _
  | .bool _, _, _, rearranged => by
      cases rearranged
      exact .refl _
  | .number _, _, _, rearranged => by
      cases rearranged
      exact .refl _
  | .string _, _, _, rearranged => by
      cases rearranged
      exact .refl _

theorem ofItems_rearranged :
    ∀ {items inside : List Value}, Value.WellFormedItems items →
      List.Forall₂ Value.Rearranged items inside →
        List.Forall₂ Rearranged (ofItems items) (ofItems inside)
  | [], _, _, below => by
      cases below
      exact .nil
  | _ :: _, _, wellFormed, below => by
      cases below with
      | cons head tail =>
          rw [Value.WellFormedItems] at wellFormed
          rw [ofItems, ofItems]
          exact .cons (ofJson_rearranged wellFormed.1 head)
            (ofItems_rearranged wellFormed.2 tail)

theorem ofMembers_rearranged :
    ∀ {members inside : List (String × Value)},
      Value.WellFormedMembers members →
        List.Forall₂ Value.MemberRearranged members inside →
          List.Forall₂ EntryRearranged (ofMembers members) (ofMembers inside)
  | [], _, _, below => by
      cases below
      exact .nil
  | (_, _) :: _, _, wellFormed, below => by
      cases below with
      | cons head tail =>
          cases head with
          | member inner =>
              rw [Value.WellFormedMembers] at wellFormed
              rw [ofMembers, ofMembers]
              exact .cons (.entry (ofJson_rearranged wellFormed.1 inner))
                (ofMembers_rearranged wellFormed.2 tail)

end

theorem map_fst_ofMembers (members : List (String × Value)) :
    (ofMembers members).map Prod.fst = members.map Prod.fst := by
  rw [ofMembers_eq_map, List.map_map]
  rfl

mutual

theorem wellFormed_ofJson :
    ∀ {tree : Value}, tree.WellFormed → (ofJson tree).WellFormed
  | .array items, wellFormed => by
      rw [Value.WellFormed] at wellFormed
      rw [ofJson, WellFormed]
      exact wellFormedItems_ofItems wellFormed
  | .object members, wellFormed => by
      rw [Value.WellFormed] at wellFormed
      rw [ofJson]
      cases findEntry recordTag members with
      | some targets => exact trivial
      | none =>
          refine ⟨?_, wellFormedEntries_ofMembers wellFormed.2⟩
          rw [map_fst_ofMembers]
          exact wellFormed.1
  | .null, _ => trivial
  | .bool _, _ => trivial
  | .number _, _ => trivial
  | .string _, _ => trivial

theorem wellFormedItems_ofItems :
    ∀ {items : List Value}, Value.WellFormedItems items →
      WellFormedItems (ofItems items)
  | [], _ => trivial
  | _ :: _, wellFormed =>
      ⟨wellFormed_ofJson wellFormed.1, wellFormedItems_ofItems wellFormed.2⟩

theorem wellFormedEntries_ofMembers :
    ∀ {members : List (String × Value)}, Value.WellFormedMembers members →
      WellFormedEntries (ofMembers members)
  | [], _ => trivial
  | (_, _) :: _, wellFormed =>
      ⟨wellFormed_ofJson wellFormed.1,
        wellFormedEntries_ofMembers wellFormed.2⟩

end

/--
The order of siblings never matters, at whatever depth and at however many
places it is changed.  Rearranged kinds mention the same tables; kinds that
are equal up to the order of entries are rearranged; and rearranged parse
trees stand for rearranged kinds, so that they link to the same tables.  A
parse tree without repeated keys stands for a kind without them.
-/
theorem tables_ignore_order :
    (∀ first second : Kind, first.Rearranged second →
      first.tables = second.tables) ∧
    (∀ first second : Kind, first.WellFormed → first.alike second = true →
      first.Rearranged second) ∧
    ∀ first second : Value, first.WellFormed → first.Rearranged second →
      (ofJson first).WellFormed ∧
        (ofJson first).Rearranged (ofJson second) ∧
        (ofJson first).tables = (ofJson second).tables := by
  refine ⟨?_, ?_, ?_⟩
  · intro first second rearranged
    exact rearranged.tables_eq
  · intro first second wellFormed same
    exact rearranged_of_alike wellFormed same
  · intro first second wellFormed rearranged
    have kinds := ofJson_rearranged wellFormed rearranged
    exact ⟨wellFormed_ofJson wellFormed, kinds, kinds.tables_eq⟩

/-- A link that moves to the front of its object, its names and the object
that moves to the back of an array, all at once; and a kind with an ordinary
key of that name. -/
theorem tables_ignore_order_link :
    let tree : Value := .array
      [.object [("Set", .null), ("Record", .array [.string "b", .string "a"])],
        .bool true]
    let moved : Value := .array
      [.bool true,
        .object [("Record", .array [.string "a", .string "b"]), ("Set", .null)]]
    let kind : Kind := .keyed [("Record", .record ["a"]), ("Set", .leaf)]
    let other : Kind := .keyed [("Set", .leaf), ("Record", .record ["a"])]
    (ofJson tree).Rearranged (ofJson moved) ∧
      (ofJson tree).tables = (ofJson moved).tables ∧
      kind.Rearranged other ∧ kind.tables = other.tables := by
  intro tree moved kind other
  have wellFormed : tree.WellFormed := by
    simp [tree, Value.WellFormed, Value.WellFormedItems,
      Value.WellFormedMembers]
  have names : Value.Rearranged (.array [.string "b", .string "a"])
      (.array [.string "a", .string "b"]) :=
    .array (.cons (.same _) (.cons (.same _) .nil)) (.swap _ _ [])
  have link : Value.Rearranged
      (.object [("Set", .null), ("Record", .array [.string "b", .string "a"])])
      (.object
        [("Record", .array [.string "a", .string "b"]), ("Set", .null)]) :=
    .object
      (.cons (.member (.same _)) (.cons (.member names) .nil))
      (.swap _ _ [])
  have rearranged : tree.Rearranged moved :=
    .array (.cons link (.cons (.same _) .nil)) (.swap _ _ [])
  have wellFormedKind : kind.WellFormed := by
    simp [kind, WellFormed, WellFormedEntries]
  have same : kind.alike other = true := by
    decide
  rcases tables_ignore_order with ⟨kinds, equals, trees⟩
  rcases trees tree moved wellFormed rearranged with ⟨-, treeKinds, tables⟩
  have moves := equals kind other wellFormedKind same
  exact ⟨treeKinds, tables, moves, kinds kind other moves⟩

end Kind

end SchemaAtlas
