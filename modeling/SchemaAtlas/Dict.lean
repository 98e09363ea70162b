/-!
# Dictionaries that keep the order of insertion

A `Dict` maps texts to values and remembers the order in which its keys first
arrived.  Putting a key again replaces its value and leaves its place.  No key
occurs twice; the proof is part of the type.
-/

namespace SchemaAtlas

/-- The entry list with the value of `key` set: in the key's own place if it
has one, at the end if not. -/
def putEntry {α : Type} (key : String) (value : α) :
    List (String × α) → List (String × α)
  | [] => [(key, value)]
  | (other, held) :: rest =>
      if other = key then (key, value) :: rest
      else (other, held) :: putEntry key value rest

def findEntry {α : Type} (key : String) : List (String × α) → Option α
  | [] => none
  | (other, held) :: rest =>
      if other = key then some held else findEntry key rest

/-- The keys after an entry is put: unchanged if the key was there, with the
key at the end if not. -/
theorem putEntry_keys
    {α : Type} (key : String) (value : α) (entries : List (String × α)) :
    (putEntry key value entries).map Prod.fst =
      if key ∈ entries.map Prod.fst then entries.map Prod.fst
      else entries.map Prod.fst ++ [key] := by
  induction entries with
  | nil => simp [putEntry]
  | cons entry rest induction =>
      obtain ⟨other, held⟩ := entry
      by_cases same : other = key
      · subst same
        simp [putEntry]
      · have differs : ¬ key = other := fun equality => same equality.symm
        simp only [putEntry, if_neg same, List.map_cons, induction,
          List.mem_cons, differs, false_or]
        split <;> rfl

/-- An ordered dictionary: its entries, oldest key first, and the fact that no
key occurs twice. -/
structure Dict (α : Type) where
  entries : List (String × α)
  distinct : (entries.map Prod.fst).Nodup
deriving DecidableEq

namespace Dict

variable {α β : Type}

/-- Two dictionaries with the same entries in the same order are one. -/
theorem ext_entries
    {first second : Dict α} (same : first.entries = second.entries) :
    first = second := by
  cases first
  cases second
  cases same
  rfl

def empty : Dict α := ⟨[], List.nodup_nil⟩

instance : EmptyCollection (Dict α) := ⟨empty⟩
instance : Inhabited (Dict α) := ⟨empty⟩

/-- The keys, oldest first. -/
def keys (dict : Dict α) : List String := dict.entries.map Prod.fst

/-- The values in the order of their keys. -/
def values (dict : Dict α) : List α := dict.entries.map Prod.snd

def size (dict : Dict α) : Nat := dict.entries.length

def get? (dict : Dict α) (key : String) : Option α := findEntry key dict.entries

def contains (dict : Dict α) (key : String) : Bool := (dict.get? key).isSome

/-- Sets the value of a key; a new key goes to the end. -/
def insert (dict : Dict α) (key : String) (value : α) : Dict α where
  entries := putEntry key value dict.entries
  distinct := by
    rw [putEntry_keys]
    split
    · exact dict.distinct
    · rename_i absent
      exact List.nodup_append.2 ⟨dict.distinct, by simp, by
        intro held member other isKey
        simp only [List.mem_singleton] at isKey
        subst isKey
        intro equality
        exact absent (equality ▸ member)⟩

/-- The dictionary that results from inserting the pairs one after another. -/
def ofList (pairs : List (String × α)) : Dict α :=
  pairs.foldl (fun dict pair => dict.insert pair.1 pair.2) empty

/-- Applies a function to every value. -/
def map (change : α → β) (dict : Dict α) : Dict β where
  entries := dict.entries.map fun entry => (entry.1, change entry.2)
  distinct := by
    rw [List.map_map]
    exact dict.distinct

/-- Equality up to the order of the entries, with values compared by `same`. -/
def alike (same : α → β → Bool) (first : Dict α) (second : Dict β) : Bool :=
  first.size == second.size &&
    first.entries.all fun entry =>
      match second.get? entry.1 with
      | some held => same entry.2 held
      | none => false

@[simp] theorem entries_empty : (empty : Dict α).entries = [] := rfl

@[simp] theorem entries_insert (dict : Dict α) (key : String) (value : α) :
    (dict.insert key value).entries = putEntry key value dict.entries := rfl

/-- The keys after an insertion: a known key keeps its place, a new one comes
last. -/
theorem keys_insert (dict : Dict α) (key : String) (value : α) :
    (dict.insert key value).keys =
      if key ∈ dict.keys then dict.keys else dict.keys ++ [key] :=
  putEntry_keys key value dict.entries

end Dict

end SchemaAtlas
