import SchemaAtlas.Folder
import Mathlib.Tactic.SplitIfs

/-!
# Reading what was written

A text that is written to a path is what is read at that path afterwards.
The path leads to the same place as before, since writing a file makes no
directory anything else.  The device that keeps nothing is the one place for
which this does not hold.
-/

namespace SchemaAtlas.Folder

variable {folder changed : Folder} {place other : List String}
  {entry : Entry} {path content : String}

/-! ## Putting an entry -/

theorem find?_map_self {entries : List (List String × Entry)}
    (known : entries.any fun held => held.1 == place)
    (entry : Entry) :
    (entries.map fun held =>
        if held.1 == place then (place, entry) else held).find?
      (fun held => held.1 == place) = some (place, entry) := by
  induction entries with
  | nil => simp at known
  | cons held rest induction =>
      rw [List.map_cons, List.find?_cons]
      cases same : held.1 == place with
      | true => simp
      | false =>
          rw [List.any_cons, same, Bool.false_or] at known
          simp only [Bool.false_eq_true, if_false, same, induction known]

theorem find?_map_other (differs : other ≠ place)
    (entries : List (List String × Entry)) (entry : Entry) :
    (entries.map fun held =>
        if held.1 == place then (place, entry) else held).find?
      (fun held => held.1 == other) =
    entries.find? fun held => held.1 == other := by
  induction entries with
  | nil => rfl
  | cons held rest induction =>
      rw [List.map_cons, List.find?_cons, List.find?_cons, induction]
      cases same : held.1 == place with
      | true =>
          have isPlace : held.1 = place := eq_of_beq same
          have notOther : (place == other) = false :=
            beq_eq_false_iff_ne.2 differs.symm
          simp only [if_true, isPlace, notOther]
      | false => simp only [Bool.false_eq_true, if_false]

/-- The first entry of a place that was put is the new one. -/
theorem find?_put_self (folder : Folder) (place : List String)
    (entry : Entry) :
    (folder.put place entry).entries.find? (fun held => held.1 == place) =
      some (place, entry) := by
  rw [put]
  by_cases known : folder.entries.any fun held => held.1 == place
  · rw [if_pos known]
    exact find?_map_self known entry
  · rw [if_neg known]
    have absent :
        folder.entries.find? (fun held => held.1 == place) = none := by
      rw [List.find?_eq_none]
      intro held member isPlace
      exact known (List.any_eq_true.2 ⟨held, member, isPlace⟩)
    rw [List.find?_append, absent]
    simp

/-- Entries of other places stay. -/
theorem find?_put_other (differs : other ≠ place) (folder : Folder)
    (entry : Entry) :
    (folder.put place entry).entries.find? (fun held => held.1 == other) =
      folder.entries.find? fun held => held.1 == other := by
  rw [put]
  by_cases known : folder.entries.any fun held => held.1 == place
  · rw [if_pos known]
    exact find?_map_other differs folder.entries entry
  · rw [if_neg known, List.find?_append]
    have notOther : (place == other) = false :=
      beq_eq_false_iff_ne.2 differs.symm
    simp [notOther]

/-- What leads to an entry still does. -/
theorem any_isPrefixOf_put
    (leads : folder.entries.any fun held => other.isPrefixOf held.1)
    (place : List String) (entry : Entry) :
    (folder.put place entry).entries.any
      fun held => other.isPrefixOf held.1 := by
  rw [List.any_eq_true] at leads ⊢
  rcases leads with ⟨held, member, leadsTo⟩
  rw [put]
  by_cases known : folder.entries.any fun held => held.1 == place
  · rw [if_pos known]
    by_cases same : held.1 = place
    · refine ⟨(place, entry), List.mem_map.2 ⟨held, member, ?_⟩, ?_⟩
      · simp [same]
      · exact same ▸ leadsTo
    · refine ⟨held, List.mem_map.2 ⟨held, member, ?_⟩, leadsTo⟩
      simp [same]
  · rw [if_neg known]
    exact ⟨held, List.mem_append_left _ member, leadsTo⟩

/-! ## What is at a place -/

/-- What is at a place that is not there on every system. -/
theorem at?_of_not_system
    (closed : ¬(encloses place || systemDirectories.contains place))
    (keeps : place ≠ nullDevice) :
    folder.at? place =
      match folder.entries.find? fun held => held.1 == place with
      | some held => some held.2
      | none =>
          if folder.entries.any fun held => place.isPrefixOf held.1 then
            some .directory
          else none :=
  (if_neg closed).trans (if_neg keeps)

/-- Directories elsewhere stay directories. -/
theorem at?_put_of_directory
    (isDirectory : folder.at? other = some .directory)
    (differs : other ≠ place) (entry : Entry) :
    (folder.put place entry).at? other = some .directory := by
  by_cases system : encloses other || systemDirectories.contains other
  · rw [at?, if_pos system]
  · have keeps : other ≠ nullDevice := by
      intro device
      rw [at?, if_neg system, if_pos device] at isDirectory
      cases isDirectory
    rw [at?_of_not_system system keeps] at isDirectory ⊢
    rw [find?_put_other differs]
    cases found : folder.entries.find? fun held => held.1 == other with
    | some held =>
        rw [found] at isDirectory
        exact isDirectory
    | none =>
        rw [found] at isDirectory
        have leads : folder.entries.any fun held =>
            other.isPrefixOf held.1 := by
          cases known : folder.entries.any fun held =>
              other.isPrefixOf held.1 with
          | true => rfl
          | false =>
              rw [known] at isDirectory
              cases isDirectory
        change (if _ then some Entry.directory else none) = _
        rw [if_pos (any_isPrefixOf_put leads place entry)]

theorem at?_put_self
    (notDirectory : folder.at? place ≠ some .directory)
    (keeps : place ≠ nullDevice) (entry : Entry) :
    (folder.put place entry).at? place = some entry := by
  have closed : ¬(encloses place || systemDirectories.contains place) := by
    intro system
    exact notDirectory (by rw [at?, if_pos system])
  rw [at?_of_not_system closed keeps, find?_put_self]

/-! ## Following paths -/

/-- Only directories are left behind on the way. -/
theorem walk_cons_eq_ok_iff
    {start target : List String} {part : String} {rest : List String} :
    folder.walk start (part :: rest) = .ok target ↔
      folder.at? start = some .directory ∧
        (if part = "" || part = "." then folder.walk start rest
        else if part = ".." then folder.walk (parent start) rest
        else if longestName < part.utf8ByteSize then .error .nameTooLong
        else folder.walk (start ++ [part]) rest) = .ok target := by
  rw [walk]
  cases folder.at? start with
  | none => simp
  | some held =>
      cases held with
      | file text => simp
      | directory => simp

/-- A path leads to where it led before a file was put. -/
theorem walk_put
    {start target : List String} {parts : List String}
    (notDirectory : folder.at? place ≠ some .directory)
    (leads : folder.walk start parts = .ok target) (entry : Entry) :
    (folder.put place entry).walk start parts = .ok target := by
  induction parts generalizing start with
  | nil => exact leads
  | cons part rest induction =>
      rw [walk_cons_eq_ok_iff] at leads ⊢
      rcases leads with ⟨isDirectory, leads⟩
      -- All places on the way are directories; the one that is put is none.
      have differs : start ≠ place := by
        intro same
        exact notDirectory (same ▸ isDirectory)
      refine ⟨at?_put_of_directory isDirectory differs entry, ?_⟩
      split_ifs at leads ⊢
      · exact induction leads
      · exact induction leads
      · exact induction leads

theorem resolve_put
    (notDirectory : folder.at? place ≠ some .directory)
    (leads : folder.resolve path = .ok other) (entry : Entry) :
    (folder.put place entry).resolve path = .ok other := by
  rw [resolve] at leads ⊢
  cases parsed : parts path with
  | error fault =>
      rw [parsed] at leads
      cases leads
  | ok parts =>
      rw [parsed] at leads
      exact walk_put notDirectory leads entry

/-! ## Writing -/

/-- A path that ends in a slash is never written to. -/
theorem directoryParts?_of_write
    {parts : List String} (parsed : Folder.parts path = .ok parts)
    (written : folder.write path content = .ok changed) :
    directoryParts? parts = none := by
  cases ends : directoryParts? parts with
  | none => rfl
  | some earlier =>
      simp only [write, parsed, bind, Except.bind, ends] at written
      cases leads : folder.walk (origin path) earlier with
      | error fault =>
          rw [leads] at written
          cases written
      | ok place =>
          simp only [leads] at written
          split at written
          · cases written
          · cases written
          · cases written

/-- A text is written to the place that its path leads to. -/
theorem exists_place_of_write
    (written : folder.write path content = .ok changed) :
    ∃ place, folder.resolve path = .ok place ∧
      folder.at? place ≠ some .directory ∧
      changed =
        if place = nullDevice then folder
        else folder.put place (.file (some content)) := by
  cases parsed : parts path with
  | error fault =>
      rw [write, parsed] at written
      cases written
  | ok parts =>
      have names := directoryParts?_of_write parsed written
      have resolved : folder.resolve path =
          folder.walk (origin path) parts := by
        rw [resolve, parsed]
        rfl
      simp only [write, parsed, bind, Except.bind, names] at written
      cases leads : folder.walk (origin path) parts with
      | error fault =>
          rw [leads] at written
          cases written
      | ok place =>
          simp only [leads] at written
          refine ⟨place, resolved.trans leads, ?_, ?_⟩
          · intro isDirectory
            rw [isDirectory] at written
            cases written
          · split at written
            · cases written
            · cases written
            · cases written
            -- There is a file already, or a directory to put one into.
            · split_ifs at written ⊢
              · exact (Except.ok.inj written).symm
              · exact (Except.ok.inj written).symm

/-- A text that was written to a file is read from it. -/
theorem read_of_write
    (written : folder.write path content = .ok changed)
    (keeps : folder.resolve path ≠ .ok nullDevice) :
    changed.read path = .ok content := by
  rcases exists_place_of_write written with
    ⟨place, leads, notDirectory, isChanged⟩
  have notDevice : place ≠ nullDevice := by
    rintro rfl
    exact keeps leads
  rw [if_neg notDevice] at isChanged
  have again := resolve_put notDirectory leads (.file (some content))
  have held := at?_put_self notDirectory notDevice (.file (some content))
  rw [← isChanged] at again held
  simp only [read, again, bind, Except.bind, held]

end SchemaAtlas.Folder
