import SchemaAtlas.Text.Ascending
import Mathlib.Data.List.Sort
import Mathlib.Data.String.Basic

/-!
# The one ascending list of a set

An ascending list has its members in strictly ascending order of code points,
so that none of them occurs twice.  There is only one such list of a set:
lists with the same members, whatever their order and however often each of
them occurs, have one ascending list.
-/

namespace SchemaAtlas.Text

theorem insertAscending_pairwise
    (name : String) {members : List String}
    (ascends : members.Pairwise (· < ·)) :
    (insertAscending name members).Pairwise (· < ·) := by
  induction members with
  | nil => exact List.pairwise_singleton (· < ·) name
  | cons other rest induction =>
      rw [List.pairwise_cons] at ascends
      rw [insertAscending]
      split
      · exact List.pairwise_cons.2 ascends
      · rename_i differs
        split
        · rename_i before
          refine List.pairwise_cons.2 ⟨?_, List.pairwise_cons.2 ascends⟩
          intro later member
          rcases List.mem_cons.1 member with rfl | behind
          · exact before
          · exact before.trans (ascends.1 later behind)
        · rename_i notBefore
          have after : other < name :=
            lt_of_le_of_ne (not_lt.1 notBefore) (Ne.symm differs)
          refine List.pairwise_cons.2 ⟨?_, induction ascends.2⟩
          intro later member
          rcases mem_insertAscending.1 member with rfl | behind
          · exact after
          · exact ascends.1 later behind

theorem ascending_pairwise (names : List String) :
    (ascending names).Pairwise (· < ·) := by
  induction names with
  | nil => exact List.Pairwise.nil
  | cons name rest induction =>
      exact insertAscending_pairwise name induction

theorem ascending_congr
    {first second : List String}
    (same : ∀ name, name ∈ first ↔ name ∈ second) :
    ascending first = ascending second := by
  apply (ascending_pairwise first).eq_of_mem_iff (ascending_pairwise second)
  intro name
  rw [mem_ascending, mem_ascending, same]

end SchemaAtlas.Text
