/-!
# Ascending lists of names

A finite set of names as the list of its members in ascending order of code
points, each of them once.
-/

namespace SchemaAtlas.Text

/-- Puts a name in its place in an ascending list; a name that is there stays
there once. -/
def insertAscending (name : String) : List String → List String
  | [] => [name]
  | other :: rest =>
      if name = other then other :: rest
      else if name < other then name :: other :: rest
      else other :: insertAscending name rest

/-- The names of a list in ascending order, each of them once. -/
def ascending (names : List String) : List String :=
  names.foldr insertAscending []

/-- Inserting a name adds that name and no other. -/
theorem mem_insertAscending
    {name : String} {members : List String} {candidate : String} :
    candidate ∈ insertAscending name members ↔
      candidate = name ∨ candidate ∈ members := by
  induction members with
  | nil => simp [insertAscending]
  | cons other rest induction =>
      simp only [insertAscending]
      split
      · rename_i same
        subst same
        simp
      · split
        · simp
        · simp only [List.mem_cons, induction]
          constructor
          · rintro (isOther | isName | isMember)
            · exact .inr (.inl isOther)
            · exact .inl isName
            · exact .inr (.inr isMember)
          · rintro (isName | isOther | isMember)
            · exact .inr (.inl isName)
            · exact .inl isOther
            · exact .inr (.inr isMember)

/-- The ascending list of some names has these names and no others. -/
theorem mem_ascending {names : List String} {candidate : String} :
    candidate ∈ ascending names ↔ candidate ∈ names := by
  induction names with
  | nil => simp [ascending]
  | cons name rest induction =>
      have unfolded : ascending (name :: rest) =
          insertAscending name (ascending rest) := rfl
      rw [unfolded, mem_insertAscending, induction, List.mem_cons]

end SchemaAtlas.Text
