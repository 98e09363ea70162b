import Mathlib.Data.List.DropRight
import Mathlib.Data.List.Forall2
import Mathlib.Data.List.Infix

/-!
# Lists

Laws of lists that are used in several places and speak of nothing else:
lists related item by item, items in the order in which they first come, and
the longest end of a list that lies in a class.
-/

namespace SchemaAtlas

variable {α β γ : Type}

/-! ## Related item by item -/

/-- Lists whose items have the same image one by one have the same image. -/
theorem map_eq_of_forall₂
    {related : α → β → Prop} {left : α → γ} {right : β → γ}
    (same : ∀ first second, related first second →
      left first = right second)
    {firsts : List α} {seconds : List β}
    (lists : List.Forall₂ related firsts seconds) :
    firsts.map left = seconds.map right := by
  rw [← List.forall₂_eq_eq_eq, List.forall₂_map_left_iff,
    List.forall₂_map_right_iff]
  exact lists.imp same

/-- Related items have a third one each; so have related lists. -/
theorem exists_forall₂
    {related : α → β → Prop} {left : α → γ → Prop} {right : β → γ → Prop}
    (each : ∀ first second, related first second →
      ∃ third, left first third ∧ right second third)
    {firsts : List α} {seconds : List β}
    (lists : List.Forall₂ related firsts seconds) :
    ∃ thirds, List.Forall₂ left firsts thirds ∧
      List.Forall₂ right seconds thirds := by
  induction lists with
  | nil => exact ⟨[], .nil, .nil⟩
  | cons items rest induction =>
      rcases each _ _ items with ⟨third, isLeft, isRight⟩
      rcases induction with ⟨thirds, areLeft, areRight⟩
      exact ⟨third :: thirds, .cons isLeft areLeft, .cons isRight areRight⟩

/-! ## First occurrences -/

/-- A further item is one more only if it has not come before. -/
theorem eraseDups_concat [BEq α] [LawfulBEq α]
    (items : List α) (item : α) :
    (items ++ [item]).eraseDups =
      if item ∈ items then items.eraseDups else items.eraseDups ++ [item] := by
  rw [List.eraseDups_append]
  by_cases known : item ∈ items
  · simp [List.removeAll, known]
  · simp [List.removeAll, List.eraseDups_cons, known]

/-! ## The end of a list -/

/-- What ends outside of the class is left when all behind it is inside. -/
theorem rdropWhile_append_of_forall
    {inClass : α → Bool} {front back : List α}
    (ends : ∀ nonempty : front ≠ [], ¬ inClass (front.getLast nonempty))
    (inside : ∀ item ∈ back, inClass item = true) :
    (front ++ back).rdropWhile inClass = front := by
  induction back using List.reverseRecOn with
  | nil =>
      rw [List.append_nil]
      exact List.rdropWhile_eq_self_iff.2 ends
  | append_singleton back item induction =>
      rw [List.forall_mem_append, List.forall_mem_singleton] at inside
      rw [← List.append_assoc,
        List.rdropWhile_concat_pos _ _ _ inside.2, induction inside.1]

/-- An item outside of the class keeps all that stands before it. -/
theorem prefix_rdropWhile
    {inClass : α → Bool} {front items : List α} {item : α}
    (begins : front ++ [item] <+: items) (outside : inClass item = false) :
    front ++ [item] <+: items.rdropWhile inClass := by
  rcases begins with ⟨back, rfl⟩
  induction back using List.reverseRecOn with
  | nil =>
      rw [List.append_nil,
        List.rdropWhile_concat_neg _ _ _ (by simp [outside])]
  | append_singleton back last induction =>
      rw [← List.append_assoc]
      cases isLast : inClass last with
      | true =>
          rw [List.rdropWhile_concat_pos _ _ _ isLast]
          exact induction
      | false =>
          rw [List.rdropWhile_concat_neg _ _ _ (by simp [isLast]),
            List.append_assoc]
          exact List.prefix_append _ _

end SchemaAtlas
