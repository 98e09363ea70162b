import SchemaAtlas.Dict
import SchemaAtlas.Proofs.Lists
import Mathlib.Data.List.Nodup
import Mathlib.Data.List.Perm.Subperm

/-!
# Entries of dictionaries

Looking up and inserting are related here to membership and to the order of
entries.  A dictionary is recovered by inserting its entries in their order,
since each of them brings a key that is not there yet.
-/

namespace SchemaAtlas

variable {α : Type}

/-- A key that is not there yet goes to the end. -/
theorem putEntry_of_not_mem
    {key : String} {entries : List (String × α)}
    (fresh : key ∉ entries.map Prod.fst) (value : α) :
    putEntry key value entries = entries ++ [(key, value)] := by
  induction entries with
  | nil => rfl
  | cons entry rest induction =>
      rcases entry with ⟨other, held⟩
      rw [List.map_cons, List.mem_cons, not_or] at fresh
      rw [putEntry, if_neg (Ne.symm fresh.1), induction fresh.2]
      rfl

theorem findEntry_eq_none_iff
    {key : String} {entries : List (String × α)} :
    findEntry key entries = none ↔ key ∉ entries.map Prod.fst := by
  induction entries with
  | nil => simp [findEntry]
  | cons entry rest induction =>
      rcases entry with ⟨other, held⟩
      by_cases same : other = key
      · simp [findEntry, same]
      · simp only [findEntry, if_neg same, induction, List.map_cons,
          List.mem_cons, Ne.symm same, false_or]

theorem mem_of_findEntry
    {key : String} {value : α} {entries : List (String × α)}
    (found : findEntry key entries = some value) :
    (key, value) ∈ entries := by
  induction entries with
  | nil => cases found
  | cons entry rest induction =>
      rcases entry with ⟨other, held⟩
      by_cases same : other = key
      · rw [findEntry, if_pos same, Option.some.injEq] at found
        rw [← same, ← found]
        exact List.mem_cons_self
      · rw [findEntry, if_neg same] at found
        exact List.mem_cons_of_mem _ (induction found)

/-- A key that is put is found with its value, every other as before. -/
theorem findEntry_putEntry
    (key : String) (value : α) (other : String)
    (entries : List (String × α)) :
    findEntry other (putEntry key value entries) =
      if key = other then some value else findEntry other entries := by
  induction entries with
  | nil => rfl
  | cons entry rest induction =>
      rcases entry with ⟨held, heldValue⟩
      by_cases known : held = key
      · subst held
        rw [putEntry, if_pos rfl, findEntry, findEntry]
        by_cases same : key = other
        · simp [same]
        · simp [same]
      · rw [putEntry, if_neg known, findEntry, findEntry, induction]
        by_cases same : held = other
        · have differs : key ≠ other := by
            intro equal
            exact known (same.trans equal.symm)
          simp [same, differs]
        · simp [same]

/-- Where no key occurs twice, lookup finds the entries and nothing else. -/
theorem findEntry_eq_some_iff
    {key : String} {value : α} {entries : List (String × α)}
    (distinct : (entries.map Prod.fst).Nodup) :
    findEntry key entries = some value ↔ (key, value) ∈ entries := by
  induction entries with
  | nil => simp [findEntry]
  | cons entry rest induction =>
      rcases entry with ⟨other, held⟩
      rw [List.map_cons, List.nodup_cons] at distinct
      by_cases same : other = key
      · subst other
        have notBehind : (key, value) ∉ rest := by
          intro member
          have keyBehind := List.mem_map_of_mem (f := Prod.fst) member
          exact distinct.1 keyBehind
        simp [findEntry, notBehind, eq_comm]
      · simp [findEntry, same, Ne.symm same, induction distinct.2]

/-- The order of entries does not matter for keys that occur only once. -/
theorem findEntry_eq_of_perm
    {entries others : List (String × α)}
    (distinct : (entries.map Prod.fst).Nodup) (order : entries.Perm others)
    (key : String) :
    findEntry key entries = findEntry key others := by
  have distinctOthers : (others.map Prod.fst).Nodup :=
    (order.map Prod.fst).nodup_iff.1 distinct
  apply Option.ext
  intro value
  rw [findEntry_eq_some_iff distinct, findEntry_eq_some_iff distinctOthers,
    order.mem_iff]

/-- What is found among changed values is what was found, changed. -/
theorem findEntry_map
    {β : Type} (change : α → β) (key : String)
    (entries : List (String × α)) :
    findEntry key (entries.map fun entry => (entry.1, change entry.2)) =
      (findEntry key entries).map change := by
  induction entries with
  | nil => rfl
  | cons entry rest induction =>
      rw [List.map_cons, findEntry, findEntry, induction]
      split
      · rfl
      · rfl

namespace Dict

theorem get?_eq_none_iff {dict : Dict α} {key : String} :
    dict.get? key = none ↔ key ∉ dict.keys :=
  findEntry_eq_none_iff

theorem get?_eq_some_iff {dict : Dict α} {key : String} {value : α} :
    dict.get? key = some value ↔ (key, value) ∈ dict.entries :=
  findEntry_eq_some_iff dict.distinct

theorem get?_insert
    (dict : Dict α) (key : String) (value : α) (other : String) :
    (dict.insert key value).get? other =
      if key = other then some value else dict.get? other :=
  findEntry_putEntry key value other dict.entries

theorem exists_get?_of_mem_keys
    {dict : Dict α} {key : String} (member : key ∈ dict.keys) :
    ∃ value, dict.get? key = some value := by
  cases lookup : dict.get? key with
  | none => exact (get?_eq_none_iff.1 lookup member).elim
  | some value => exact ⟨value, rfl⟩

/-- Pairs with keys of their own are appended in their order. -/
theorem entries_foldl_insert
    (pairs : List (String × α)) (dict : Dict α)
    (distinct : (dict.keys ++ pairs.map Prod.fst).Nodup) :
    (pairs.foldl (fun dict pair => dict.insert pair.1 pair.2) dict).entries =
      dict.entries ++ pairs := by
  induction pairs generalizing dict with
  | nil => simp
  | cons pair rest induction =>
      rw [List.map_cons, List.append_cons] at distinct
      have fresh : pair.1 ∉ dict.keys := by
        intro known
        have front := (List.nodup_append.1 distinct).1
        exact (List.nodup_append.1 front).2.2 _ known _
          List.mem_cons_self rfl
      have inserted : (dict.insert pair.1 pair.2).entries =
          dict.entries ++ [pair] :=
        putEntry_of_not_mem fresh pair.2
      have insertedKeys : (dict.insert pair.1 pair.2).keys =
          dict.keys ++ [pair.1] := by
        rw [keys_insert, if_neg fresh]
      rw [List.foldl_cons, induction _ (insertedKeys ▸ distinct), inserted,
        List.append_assoc]
      rfl

/-- Inserting the entries of a dictionary in their order gives it back. -/
@[simp]
theorem ofList_entries (dict : Dict α) : ofList dict.entries = dict := by
  apply ext_entries
  exact entries_foldl_insert dict.entries empty dict.distinct

/-! ## Changed values -/

section Map

variable {β : Type} (change : α → β) (dict : Dict α)

theorem size_map : (dict.map change).size = dict.size :=
  List.length_map _

theorem values_map : (dict.map change).values = dict.values.map change := by
  simp [values, map]

theorem get?_map (key : String) :
    (dict.map change).get? key = (dict.get? key).map change :=
  findEntry_map change key dict.entries

end Map

/-! ## Equality up to order -/

section Alike

variable {β : Type} {same : α → β → Bool} {first : Dict α} {second : Dict β}

/-- Every entry is found again under its key, with a value that compares. -/
theorem exists_get?_of_alike
    (alike : first.alike same second = true) {key : String} {value : α}
    (entry : (key, value) ∈ first.entries) :
    ∃ held, second.get? key = some held ∧ same value held = true := by
  rw [Dict.alike, Bool.and_eq_true, List.all_eq_true] at alike
  have compared := alike.2 (key, value) entry
  cases lookup : second.get? key with
  | none =>
      rw [lookup] at compared
      cases compared
  | some held =>
      rw [lookup] at compared
      exact ⟨held, rfl, compared⟩

/-- Alike dictionaries have the same entries, in some order, up to values that
compare. -/
theorem exists_perm_of_alike (alike : first.alike same second = true) :
    ∃ arranged, List.Forall₂
        (fun entry other =>
          entry.1 = other.1 ∧ same entry.2 other.2 = true)
        first.entries arranged ∧
      arranged.Perm second.entries := by
  have found : ∀ entries : List (String × α), entries ⊆ first.entries →
      ∃ arranged, List.Forall₂
          (fun entry other =>
            entry.1 = other.1 ∧ same entry.2 other.2 = true)
          entries arranged ∧
        arranged ⊆ second.entries := by
    intro entries inside
    induction entries with
    | nil => exact ⟨[], .nil, List.nil_subset _⟩
    | cons entry rest induction =>
        rw [List.cons_subset] at inside
        rcases induction inside.2 with ⟨arranged, compared, isFound⟩
        rcases exists_get?_of_alike alike inside.1 with
          ⟨held, lookup, isSame⟩
        refine ⟨(entry.1, held) :: arranged, .cons ⟨rfl, isSame⟩ compared, ?_⟩
        exact List.cons_subset.2 ⟨get?_eq_some_iff.1 lookup, isFound⟩
  rcases found first.entries (List.Subset.refl _) with
    ⟨arranged, compared, isFound⟩
  have keys : first.entries.map Prod.fst = arranged.map Prod.fst :=
    map_eq_of_forall₂ (fun _ _ entry => entry.1) compared
  have distinct : arranged.Nodup :=
    List.Nodup.of_map Prod.fst (keys ▸ first.distinct)
  rw [Dict.alike, Bool.and_eq_true, beq_iff_eq] at alike
  have lengths : second.entries.length ≤ arranged.length := by
    rw [← compared.length_eq]
    exact Nat.le_of_eq alike.1.symm
  -- As many entries as there are, all found and all different.
  exact ⟨arranged, compared,
    (List.subperm_of_subset distinct isFound).perm_of_length_le lengths⟩

theorem keys_perm_of_alike (alike : first.alike same second = true) :
    first.keys.Perm second.keys := by
  rcases exists_perm_of_alike alike with ⟨arranged, compared, order⟩
  have keys : first.entries.map Prod.fst = arranged.map Prod.fst :=
    map_eq_of_forall₂ (fun _ _ entry => entry.1) compared
  rw [Dict.keys, keys]
  exact order.map Prod.fst

/-- A key has values that compare in both dictionaries, or in neither. -/
theorem get?_rel_of_alike
    (alike : first.alike same second = true) (key : String) :
    Option.Rel (fun value held => same value held = true)
      (first.get? key) (second.get? key) := by
  cases lookup : first.get? key with
  | none =>
      have absent : key ∉ second.keys := by
        rw [← (keys_perm_of_alike alike).mem_iff]
        exact get?_eq_none_iff.1 lookup
      rw [get?_eq_none_iff.2 absent]
      exact .none
  | some value =>
      rcases exists_get?_of_alike alike (get?_eq_some_iff.1 lookup) with
        ⟨held, isHeld, isSame⟩
      rw [isHeld]
      exact .some isSame

end Alike

/-- Where values compare only to themselves, the entries are the same. -/
theorem entries_perm_of_alike
    {first second : Dict String}
    (alike : first.alike (· == ·) second = true) :
    first.entries.Perm second.entries := by
  rcases exists_perm_of_alike alike with ⟨arranged, compared, order⟩
  have isArranged : first.entries = arranged := by
    rw [← List.forall₂_eq_eq_eq]
    apply compared.imp
    intro entry other same
    exact Prod.ext same.1 (eq_of_beq same.2)
  rw [isArranged]
  exact order

end Dict

end SchemaAtlas
