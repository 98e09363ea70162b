import SchemaAtlas.Run
import Mathlib.Data.List.Forall2

/-!
# Outcomes and acts of attempts

An attempt is known by two readings: `Attempt.outcome` is how it ends and
`Attempt.acts` is what it does on the way.  Both are followed here through
the operations that attempts are made of.  The outcome of a sequence depends
only on the outcomes of its parts, so outcomes can be computed among plain
`Except` values; the acts stop where the first part fails.  An attempt made
of parts that do only what is allowed does nothing else itself.

The last section says how such a computation over a list ends: with one
result for each item, or with the failure of the first item that has one.
-/

namespace SchemaAtlas

/-- All that is done is to write a line to the log. -/
def Act.IsNote (done : Act) : Prop := ∃ line, done = .note line

theorem Run.result_mapM {α β : Type} (items : List α) (each : α → Run β) :
    (items.mapM each).result = items.map fun item => (each item).result := by
  induction items with
  | nil => rfl
  | cons item rest induction =>
      rw [List.mapM_cons, List.map_cons, ← induction]
      rfl

namespace Attempt

variable {α β : Type}

@[simp]
theorem outcome_pure (value : α) :
    outcome (pure value : Attempt α) = .ok value :=
  rfl

@[simp]
theorem outcome_ask (done : Act) (answer : Except Failure α) :
    outcome (ask done answer) = answer :=
  rfl

@[simp]
theorem outcome_ofExcept (result : Except Failure α) :
    outcome (ofExcept result) = result :=
  rfl

@[simp]
theorem outcome_lift (run : Run α) :
    outcome (ExceptT.lift run : Attempt α) = .ok run.result :=
  rfl

@[simp]
theorem outcome_note (level : Level) (topic : Topic) (text : String) :
    outcome (note level topic text) = .ok () :=
  rfl

/-- A sequence ends as its parts do, the second after the first. -/
@[simp]
theorem outcome_bind (first : Attempt α) (next : α → Attempt β) :
    outcome (first >>= next) =
      outcome first >>= fun value => outcome (next value) := by
  simp only [outcome, ExceptT.run_bind, Run.result_bind]
  cases first.run.result with
  | ok value => rfl
  | error failure => rfl

/-- Changing what an attempt gives changes its outcome alike. -/
@[simp]
theorem outcome_map (attempt : Attempt α) (change : α → β) :
    outcome (change <$> attempt) = (outcome attempt).map change := by
  rw [map_eq_pure_bind, outcome_bind]
  cases outcome attempt with
  | ok value => rfl
  | error failure => rfl

/-- To change what each attempt gives is to change all that they give. -/
theorem mapM_map {γ : Type}
    (items : List α) (each : α → Attempt β) (change : β → γ) :
    (items.mapM fun item => change <$> each item) =
      List.map change <$> items.mapM each := by
  induction items with
  | nil => simp
  | cons item rest induction =>
      simp [List.mapM_cons, induction]

@[simp]
theorem outcome_mapM (items : List α) (each : α → Attempt β) :
    outcome (items.mapM each) =
      items.mapM fun item => outcome (each item) := by
  induction items with
  | nil => rfl
  | cons item rest induction =>
      simp only [List.mapM_cons, outcome_bind, induction, outcome_pure]
      rfl

@[simp]
theorem acts_pure (value : α) : acts (pure value : Attempt α) = [] :=
  rfl

@[simp]
theorem acts_ask (done : Act) (answer : Except Failure α) :
    acts (ask done answer) = [done] :=
  rfl

@[simp]
theorem acts_ofExcept (result : Except Failure α) :
    acts (ofExcept result) = [] :=
  rfl

@[simp]
theorem acts_note (level : Level) (topic : Topic) (text : String) :
    acts (note level topic text) = [.note ⟨level, topic, text⟩] :=
  rfl

/-- The second part of a sequence does something only if the first succeeds. -/
theorem acts_bind (first : Attempt α) (next : α → Attempt β) :
    acts (first >>= next) =
      acts first ++
        match outcome first with
        | .ok value => acts (next value)
        | .error _ => [] := by
  simp only [acts, outcome, ExceptT.run_bind, Run.acts_bind]
  cases first.run.result with
  | ok value => rfl
  | error failure => rfl

/-! ## What attempts may do -/

/-- Whatever the attempt does is allowed. -/
def OnlyDoes (allowed : Act → Prop) (attempt : Attempt α) : Prop :=
  ∀ done ∈ attempt.acts, allowed done

namespace OnlyDoes

variable {allowed : Act → Prop}

theorem pure (value : α) :
    OnlyDoes allowed (Pure.pure value : Attempt α) := by
  intro done member
  simp at member

theorem ofExcept (result : Except Failure α) :
    OnlyDoes allowed (Attempt.ofExcept result) := by
  intro done member
  simp at member

theorem ask {done : Act} (isAllowed : allowed done)
    (answer : Except Failure α) :
    OnlyDoes allowed (Attempt.ask done answer) := by
  intro other member
  rw [acts_ask, List.mem_singleton] at member
  rw [member]
  exact isAllowed

theorem note {level : Level} {topic : Topic} {text : String}
    (isAllowed : allowed (.note ⟨level, topic, text⟩)) :
    OnlyDoes allowed (Attempt.note level topic text) := by
  intro done member
  rw [acts_note, List.mem_singleton] at member
  rw [member]
  exact isAllowed

theorem bind
    {first : Attempt α} {next : α → Attempt β}
    (before : OnlyDoes allowed first)
    (behind : ∀ value, OnlyDoes allowed (next value)) :
    OnlyDoes allowed (first >>= next) := by
  intro done member
  rw [acts_bind, List.mem_append] at member
  rcases member with isFirst | isNext
  · exact before done isFirst
  · cases ended : first.outcome with
    | ok value =>
        rw [ended] at isNext
        exact behind value done isNext
    | error failure =>
        rw [ended] at isNext
        cases isNext

theorem mapM
    {each : α → Attempt β} (items : List α)
    (only : ∀ item ∈ items, OnlyDoes allowed (each item)) :
    OnlyDoes allowed (items.mapM each) := by
  induction items with
  | nil => exact pure []
  | cons item rest induction =>
      rw [List.mapM_cons]
      apply bind (only item List.mem_cons_self)
      intro value
      apply bind
      · exact induction fun other member =>
          only other (List.mem_cons_of_mem item member)
      · intro values
        exact pure (value :: values)

end OnlyDoes

end Attempt

/-! ## One after another -/

namespace Except

variable {ε α β : Type}

theorem bind_eq_ok_iff
    (first : Except ε α) (next : α → Except ε β) (result : β) :
    first >>= next = .ok result ↔
      ∃ value, first = .ok value ∧ next value = .ok result := by
  cases first with
  | error failure =>
      constructor
      · intro impossible
        cases impossible
      · rintro ⟨value, impossible, -⟩
        cases impossible
  | ok value =>
      constructor
      · intro succeeds
        exact ⟨value, rfl, succeeds⟩
      · rintro ⟨other, same, succeeds⟩
        cases same
        exact succeeds

/-- All items succeed, each with its own result, or the whole does not. -/
theorem mapM_eq_ok_iff
    (each : α → Except ε β) (items : List α) (results : List β) :
    items.mapM each = .ok results ↔
      List.Forall₂ (fun item result => each item = .ok result)
        items results := by
  induction items generalizing results with
  | nil =>
      rw [List.forall₂_nil_left_iff]
      constructor
      · intro equal
        cases equal
        rfl
      · intro equal
        subst equal
        rfl
  | cons item rest induction =>
      rw [List.mapM_cons, bind_eq_ok_iff, List.forall₂_cons_left_iff]
      constructor
      · rintro ⟨value, succeeds, restSucceeds⟩
        rcases (bind_eq_ok_iff _ _ _).1 restSucceeds with
          ⟨values, others, equal⟩
        cases equal
        exact ⟨value, values, succeeds, (induction values).1 others, rfl⟩
      · rintro ⟨value, values, succeeds, related, rfl⟩
        refine ⟨value, succeeds, ?_⟩
        rw [(induction values).2 related]
        rfl

/-- The failure of an item behind successful ones is the failure of all. -/
theorem mapM_eq_error
    {each : α → Except ε β} {before : List α} {item : α} {failure : ε}
    (succeeding : ∀ earlier ∈ before, ∃ value, each earlier = .ok value)
    (failing : each item = .error failure) (later : List α) :
    (before ++ item :: later).mapM each = .error failure := by
  induction before with
  | nil =>
      rw [List.nil_append, List.mapM_cons, failing]
      rfl
  | cons earlier before induction =>
      rcases succeeding earlier List.mem_cons_self with ⟨value, succeeds⟩
      have failsBehind := induction fun other member =>
        succeeding other (List.mem_cons_of_mem _ member)
      rw [List.cons_append, List.mapM_cons, succeeds, failsBehind]
      rfl

/-- A failure of all is the failure of the first item that has one. -/
theorem mapM_eq_error_iff
    {each : α → Except ε β} {items : List α} {failure : ε} :
    items.mapM each = .error failure ↔
      ∃ before item after, items = before ++ item :: after ∧
        (∀ earlier ∈ before, ∃ value, each earlier = .ok value) ∧
        each item = .error failure := by
  constructor
  · intro fails
    induction items with
    | nil => cases fails
    | cons item rest induction =>
        cases answer : each item with
        | error other =>
            rw [List.mapM_cons, answer] at fails
            cases fails
            exact ⟨[], item, rest, rfl, by simp, answer⟩
        | ok value =>
            cases behind : rest.mapM each with
            | ok values =>
                rw [List.mapM_cons, answer, behind] at fails
                cases fails
            | error other =>
                rw [List.mapM_cons, answer, behind] at fails
                cases fails
                rcases induction behind with
                  ⟨before, first, after, split, succeeding, failing⟩
                refine ⟨item :: before, first, after, ?_, ?_, failing⟩
                · rw [split, List.cons_append]
                · exact List.forall_mem_cons.2 ⟨⟨value, answer⟩, succeeding⟩
  · rintro ⟨before, item, after, rfl, succeeding, failing⟩
    exact mapM_eq_error succeeding failing after

end Except

end SchemaAtlas
