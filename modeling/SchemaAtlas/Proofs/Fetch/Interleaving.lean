import SchemaAtlas.Proofs.Fetch
import Mathlib.Algebra.GroupWithZero.Nat

/-!
# Fetches with several lookups open at a time

A fetch is followed here event by event.  It asks for the tables, opens their
lookups in the order of the source while fewer of them are open than the
limit allows, and takes results in the order in which the lookups were
opened.  Which of the open lookups is answered next is left to chance, so one
source can be fetched in many ways.  The first failure that is taken ends the
fetch, and lookups that are still open then are given up.

All these ways are finite, none gets stuck, and all end as `Fetch.schemas`
does, which is how fetching one table after another ends.  That a table was
the first to fail in time makes no difference; its place in the source does.
-/

namespace SchemaAtlas

namespace Fetch

/-! ## Events -/

/-- One thing that happens in a fetch. -/
inductive Event where
  /-- The source tells its tables or refuses to. -/
  | listed
  /-- The source is asked for the metadata of a table. -/
  | opened (table : String)
  /-- The answer for a table arrives. -/
  | answered (table : String)
  /-- The answer for the table opened first is used. -/
  | taken (table : String)
  /-- All answers have been used. -/
  | finished
deriving DecidableEq

/-- A lookup that was opened and not yet taken, with its answer if it has
one. -/
structure Lookup where
  entry : String × String
  answer : Option (Except Failure TableInfo)

/-- How far a fetch has got. -/
inductive Stage where
  | asking
  /-- Tables that wait, lookups that are open, and what was taken so far. -/
  | fetching (waiting : List (String × String)) (opened : List Lookup)
      (taken : List TableSchema)
  | ended (result : Except Failure (List TableSchema))

/-- What may happen next in the fetch of a source, and where it leads. -/
inductive Step (source : Source) (limit : Nat) :
    Stage → Event → Stage → Prop where
  | list {tables : Dict String}
      (listed : source.tables.outcome = .ok tables) :
      Step source limit .asking .listed (.fetching tables.entries [] [])
  | refuse {failure : Failure}
      (refused : source.tables.outcome = .error failure) :
      Step source limit .asking .listed (.ended (.error failure))
  | openNext {entry : String × String} {waiting : List (String × String)}
      {opened : List Lookup} {taken : List TableSchema}
      (room : opened.length < capacity limit) :
      Step source limit (.fetching (entry :: waiting) opened taken)
        (.opened entry.1)
        (.fetching waiting (opened ++ [⟨entry, none⟩]) taken)
  | answer {entry : String × String} {waiting : List (String × String)}
      (before after : List Lookup) {taken : List TableSchema} :
      Step source limit
        (.fetching waiting (before ++ ⟨entry, none⟩ :: after) taken)
        (.answered entry.1)
        (.fetching waiting
          (before ++
            ⟨entry, some (source.tableInfo entry.1).outcome⟩ :: after)
          taken)
  | take {entry : String × String} {info : TableInfo}
      {waiting : List (String × String)} {opened : List Lookup}
      {taken : List TableSchema} :
      Step source limit
        (.fetching waiting (⟨entry, some (.ok info)⟩ :: opened) taken)
        (.taken entry.1)
        (.fetching waiting opened (taken ++ [⟨entry.1, entry.2, info⟩]))
  | fail {entry : String × String} {failure : Failure}
      {waiting : List (String × String)} {opened : List Lookup}
      {taken : List TableSchema} :
      Step source limit
        (.fetching waiting (⟨entry, some (.error failure)⟩ :: opened) taken)
        (.taken entry.1) (.ended (.error failure))
  | finish {taken : List TableSchema} :
      Step source limit (.fetching [] [] taken) .finished
        (.ended (.ok taken))

/-- From its beginning, the fetch can come to the stage by these events. -/
inductive Reaches (source : Source) (limit : Nat) :
    List Event → Stage → Prop where
  | start : Reaches source limit [] .asking
  | step {events : List Event} {stage next : Stage} {event : Event}
      (reached : Reaches source limit events stage)
      (happens : Step source limit stage event next) :
      Reaches source limit (events ++ [event]) next

/-- The tables for which the source was asked, in order. -/
def asked (events : List Event) : List String :=
  events.filterMap fun
    | .opened table => some table
    | _ => none

@[simp]
theorem asked_append (first second : List Event) :
    asked (first ++ second) = asked first ++ asked second :=
  List.filterMap_append

/-! ## Every fetch comes to an end -/

section

variable {source : Source} {limit : Nat} {events : List Event}
  {stage next : Stage} {event : Event}

/-- An open lookup is still to be answered and taken, or taken only. -/
def Lookup.due (lookup : Lookup) : Nat :=
  match lookup.answer with
  | none => 2
  | some _ => 1

/-- How many events can follow at most. -/
def Stage.due (source : Source) : Stage → Nat
  | .asking =>
      match source.tables.outcome with
      | .ok tables => 3 * tables.size + 2
      | .error _ => 1
  | .fetching waiting opened _ =>
      3 * waiting.length + (opened.map Lookup.due).sum + 1
  | .ended _ => 0

/-- With every event, fewer are to come. -/
theorem Step.due_lt (happens : Step source limit stage event next) :
    next.due source < stage.due source := by
  cases happens with
  | list listed => simp [Stage.due, listed, Dict.size]
  | refuse refused => simp [Stage.due, refused]
  | openNext room =>
      simp only [Stage.due, List.map_append, List.sum_append, List.map_cons,
        List.map_nil, List.sum_cons, List.sum_nil, List.length_cons,
        Lookup.due]
      omega
  | answer before after =>
      simp only [Stage.due, List.map_append, List.sum_append, List.map_cons,
        List.sum_cons, Lookup.due]
      omega
  | take =>
      simp only [Stage.due, List.map_cons, List.sum_cons, Lookup.due]
      omega
  | fail => simp [Stage.due]
  | finish => simp [Stage.due]

theorem Reaches.length_add_due_le
    (reached : Reaches source limit events stage) :
    events.length + stage.due source ≤ Stage.asking.due source := by
  induction reached with
  | start => simp
  | step reached happens induction =>
      have fewer := happens.due_lt
      rw [List.length_append, List.length_singleton]
      omega

/-- Before its end, something can always happen in a fetch. -/
theorem Stage.ended_or_exists_step
    (source : Source) (limit : Nat) (stage : Stage) :
    (∃ result, stage = .ended result) ∨
      ∃ event next, Step source limit stage event next := by
  cases stage with
  | ended result => exact .inl ⟨result, rfl⟩
  | asking =>
      right
      cases listing : source.tables.outcome with
      | ok tables => exact ⟨_, _, .list listing⟩
      | error failure => exact ⟨_, _, .refuse listing⟩
  | fetching waiting opened taken =>
      right
      match opened with
      | ⟨entry, none⟩ :: later =>
          exact ⟨_, _, .answer [] later⟩
      | ⟨entry, some (.ok info)⟩ :: later => exact ⟨_, _, .take⟩
      | ⟨entry, some (.error failure)⟩ :: later => exact ⟨_, _, .fail⟩
      | [] =>
          match waiting with
          | [] => exact ⟨_, _, .finish⟩
          | entry :: waiting =>
              have room : 0 < capacity limit := by
                rw [capacity]
                omega
              exact ⟨_, _, .openNext room⟩

/-- Wherever a fetch has got to, it can be brought to an end. -/
theorem Reaches.exists_ended
    (reached : Reaches source limit events stage) :
    ∃ later result,
      Reaches source limit (events ++ later) (.ended result) := by
  induction due : stage.due source using Nat.strongRecOn
    generalizing events stage with
  | ind due induction =>
      rcases stage.ended_or_exists_step source limit with
        ⟨result, rfl⟩ | ⟨event, next, happens⟩
      · exact ⟨[], result, by rwa [List.append_nil]⟩
      · have fewer := happens.due_lt
        rcases induction _ (by omega) (reached.step happens) rfl with
          ⟨later, result, ends⟩
        refine ⟨event :: later, result, ?_⟩
        rwa [List.append_cons]

/-! ## Every fetch ends alike -/

/-- Which tables the source is asked for: none if it lists none, and else the
first ones of its list, in their order and each of them once. -/
structure AsksInOrder (source : Source) (events : List Event) : Prop where
  unlisted : ∀ failure, source.tables.outcome = .error failure →
    asked events = []
  listed : ∀ tables, source.tables.outcome = .ok tables →
    asked events <+: tables.keys
  once : (asked events).Nodup

theorem AsksInOrder.of_prefix
    {tables : Dict String} (listed : source.tables.outcome = .ok tables)
    (inOrder : asked events <+: tables.keys) :
    AsksInOrder source events where
  unlisted := by
    intro failure refused
    rw [listed] at refused
    cases refused
  listed := by
    intro others sameListed
    rw [listed] at sameListed
    cases sameListed
    exact inOrder
  once := inOrder.sublist.nodup tables.distinct

/--
How the stage of a fetch and the events so far belong together.  The tables
are those done, those open and those waiting, in this order.
-/
structure Underway (source : Source) (tables : Dict String)
    (done : List (String × String)) (events : List Event)
    (waiting : List (String × String)) (opened : List Lookup)
    (taken : List TableSchema) : Prop where
  order : tables.entries = done ++ (opened.map Lookup.entry ++ waiting)
  fetched : List.Forall₂
    (fun entry schema => found source entry = .ok schema) done taken
  own : ∀ lookup ∈ opened, ∀ answer, lookup.answer = some answer →
    (source.tableInfo lookup.entry.1).outcome = answer
  account : asked events =
    done.map Prod.fst ++ opened.map fun lookup => lookup.entry.1

namespace Underway

variable {tables : Dict String} {done waiting : List (String × String)}
  {opened : List Lookup} {taken : List TableSchema}
  {entry : String × String}

theorem opens
    (underway :
      Underway source tables done events (entry :: waiting) opened taken) :
    Underway source tables done (events ++ [.opened entry.1]) waiting
      (opened ++ [⟨entry, none⟩]) taken where
  order := by
    rw [underway.order, List.map_append, List.append_assoc]
    rfl
  fetched := underway.fetched
  own := by
    intro lookup member answer answered
    rcases List.mem_append.1 member with before | added
    · exact underway.own lookup before answer answered
    · rw [List.mem_singleton.1 added] at answered
      cases answered
  account := by
    rw [asked_append, underway.account, List.map_append, List.append_assoc]
    rfl

theorem answers
    {before after : List Lookup}
    (underway :
      Underway source tables done events waiting
        (before ++ ⟨entry, none⟩ :: after) taken) :
    Underway source tables done (events ++ [.answered entry.1]) waiting
      (before ++ ⟨entry, some (source.tableInfo entry.1).outcome⟩ :: after)
      taken where
  order := by
    rw [underway.order, List.map_append, List.map_append]
    rfl
  fetched := underway.fetched
  own := by
    intro lookup member answer answered
    rcases List.mem_append.1 member with early | rest
    · exact underway.own lookup (List.mem_append_left _ early) answer answered
    · rcases List.mem_cons.1 rest with rfl | late
      · exact Option.some.inj answered
      · exact underway.own lookup
          (List.mem_append_right _ (List.mem_cons_of_mem _ late))
          answer answered
  account := by
    rw [asked_append, underway.account, List.map_append, List.map_append]
    exact List.append_nil _

theorem takes
    {info : TableInfo}
    (underway :
      Underway source tables done events waiting
        (⟨entry, some (.ok info)⟩ :: opened) taken) :
    Underway source tables (done ++ [entry]) (events ++ [.taken entry.1])
      waiting opened (taken ++ [⟨entry.1, entry.2, info⟩]) where
  order := by
    rw [underway.order, List.append_assoc]
    rfl
  fetched := by
    refine List.rel_append underway.fetched (.cons ?_ .nil)
    rw [found, underway.own _ List.mem_cons_self _ rfl]
    rfl
  own := fun lookup member =>
    underway.own lookup (List.mem_cons_of_mem _ member)
  account := by
    rw [asked_append, underway.account]
    simp [asked]

/-- Tables are asked for from the front of the list. -/
theorem inOrder
    (underway : Underway source tables done events waiting opened taken)
    (listed : source.tables.outcome = .ok tables) :
    AsksInOrder source events := by
  apply AsksInOrder.of_prefix listed
  rw [underway.account, Dict.keys, underway.order, List.map_append,
    List.map_append, List.map_map, ← List.append_assoc]
  exact List.prefix_append _ _

/-- Tables that are done were found. -/
theorem answered
    (underway : Underway source tables done events waiting opened taken) :
    ∀ earlier ∈ done,
      ∃ info, (source.tableInfo earlier.1).outcome = .ok info := by
  have both := underway.fetched.imp fun earlier schema isFound =>
    And.intro ((source.exists_found_iff earlier).1 ⟨schema, isFound⟩) isFound
  exact ((List.forall₂_and_left _ _).1 both).1

/-- A failure that is taken is that of the first table to fail. -/
theorem refused
    {failure : Failure}
    (underway :
      Underway source tables done events waiting
        (⟨entry, some (.error failure)⟩ :: opened) taken)
    (listed : source.tables.outcome = .ok tables) :
    source.EndsWith (.error failure) :=
  .refused listed underway.order underway.answered
    (underway.own _ List.mem_cons_self _ rfl)

/-- Where nothing waits or is open, everything was taken. -/
theorem described
    (underway : Underway source tables done events [] [] taken)
    (listed : source.tables.outcome = .ok tables) :
    source.EndsWith (.ok taken) := by
  have allDone : tables.entries = done := by
    rw [underway.order]
    exact List.append_nil _
  refine .described ⟨tables, listed, ?_⟩
  rw [allDone]
  exact underway.fetched.imp fun entry schema =>
    (source.found_eq_ok_iff entry schema).1

end Underway

/-- What is true of a stage that is reached by the events. -/
inductive Sound (source : Source) : List Event → Stage → Prop where
  | asking : Sound source [] .asking
  | fetching {events : List Event} {tables : Dict String}
      {done waiting : List (String × String)} {opened : List Lookup}
      {taken : List TableSchema}
      (listed : source.tables.outcome = .ok tables)
      (underway : Underway source tables done events waiting opened taken) :
      Sound source events (.fetching waiting opened taken)
  | ended {events : List Event}
      {result : Except Failure (List TableSchema)}
      (ends : source.EndsWith result)
      (inOrder : AsksInOrder source events) :
      Sound source events (.ended result)

theorem Sound.inOrder (sound : Sound source events stage) :
    AsksInOrder source events := by
  cases sound with
  | asking => exact ⟨fun _ _ => rfl, fun _ _ => List.nil_prefix, .nil⟩
  | fetching listed underway => exact underway.inOrder listed
  | ended ends inOrder => exact inOrder

/-- An event that opens no lookup asks the source for no table. -/
theorem AsksInOrder.append
    (inOrder : AsksInOrder source events) (other : asked [event] = []) :
    AsksInOrder source (events ++ [event]) := by
  have same : asked (events ++ [event]) = asked events := by
    rw [asked_append, other, List.append_nil]
  constructor
  · rw [same]
    exact inOrder.unlisted
  · rw [same]
    exact inOrder.listed
  · rw [same]
    exact inOrder.once

/-- Whatever happens next, what was true of the stage stays true. -/
theorem Sound.step
    (sound : Sound source events stage)
    (happens : Step source limit stage event next) :
    Sound source (events ++ [event]) next := by
  cases happens with
  | @list tables listed =>
      cases sound
      have underway :
          Underway source tables [] [.listed] tables.entries [] [] :=
        ⟨rfl, .nil, by simp, rfl⟩
      exact .fetching listed underway
  | refuse refused =>
      exact .ended (.unlisted refused) (sound.inOrder.append rfl)
  | openNext room =>
      cases sound with
      | fetching listed underway => exact .fetching listed underway.opens
  | answer before after =>
      cases sound with
      | fetching listed underway => exact .fetching listed underway.answers
  | take =>
      cases sound with
      | fetching listed underway => exact .fetching listed underway.takes
  | fail =>
      cases sound with
      | fetching listed underway =>
          exact .ended (underway.refused listed)
            ((underway.inOrder listed).append rfl)
  | finish =>
      cases sound with
      | fetching listed underway =>
          exact .ended (underway.described listed)
            ((underway.inOrder listed).append rfl)

theorem Reaches.sound (reached : Reaches source limit events stage) :
    Sound source events stage := by
  induction reached with
  | start => exact .asking
  | step reached happens induction => exact induction.step happens

theorem Reaches.endsWith
    {result : Except Failure (List TableSchema)}
    (reached : Reaches source limit events (.ended result)) :
    source.EndsWith result := by
  cases reached.sound with
  | ended ends inOrder => exact ends

end

/--
However lookups are opened and answered, a fetch does not go on for longer
than three events for each table and two more.  It never gets stuck before
its end, and can be brought to it from wherever it has got to.  It ends as
fetching one table after another does.  On the way, the source is asked for
tables in its own order and for none of them twice, and for none at all if it
does not tell which there are.
-/
theorem interleavings_agree (source : Source) (limit : Nat) :
    (∀ events stage, Reaches source limit events stage →
      events.length ≤ Stage.asking.due source ∧
      ((∃ result, stage = .ended result) ∨
        ∃ event next, Step source limit stage event next) ∧
      (∃ later, Reaches source limit (events ++ later)
        (.ended (schemas source limit).outcome)) ∧
      AsksInOrder source events) ∧
    ∀ events result, Reaches source limit events (.ended result) →
      source.EndsWith result ∧ result = (schemas source limit).outcome := by
  have endsAlike : ∀ events result,
      Reaches source limit events (.ended result) →
        result = (schemas source limit).outcome := by
    intro events result reached
    exact ((source.endsWith_iff limit result).1 reached.endsWith).symm
  constructor
  · intro events stage reached
    refine ⟨?_, stage.ended_or_exists_step source limit, ?_,
      reached.sound.inOrder⟩
    · have bound := reached.length_add_due_le
      omega
    · rcases reached.exists_ended with ⟨later, result, ends⟩
      exact ⟨later, endsAlike _ _ ends ▸ ends⟩
  · intro events result reached
    exact ⟨reached.endsWith, endsAlike events result reached⟩

/-- Of two tables without metadata the second one fails first in time, and
the fetch still ends with the failure of the first. -/
theorem interleavings_agree_late_failure :
    let source : Source := .ofSnapshot
      ⟨.ofList [("a", "DEFINE TABLE a"), ("b", "DEFINE TABLE b")], ∅⟩
    let failure : Failure :=
      .query "INFO FOR TABLE a" "no metadata recorded for table"
    Reaches source 2
        [.listed, .opened "a", .opened "b", .answered "b", .answered "a",
          .taken "a"]
        (.ended (.error failure)) ∧
      (schemas source 2).outcome = .error failure := by
  intro source failure
  have reached : Reaches source 2
      [.listed, .opened "a", .opened "b", .answered "b", .answered "a",
        .taken "a"]
      (.ended (.error failure)) := by
    have begun : Reaches source 2 [] .asking := .start
    have bothOpened :=
      ((begun.step (.list rfl)).step
        (.openNext (Nat.zero_lt_two : 0 < capacity 2))).step
        (.openNext (Nat.one_lt_two : 1 < capacity 2))
    have bothAnswered :=
      (bothOpened.step (.answer [⟨("a", "DEFINE TABLE a"), none⟩] [])).step
        (.answer [] _)
    exact bothAnswered.step .fail
  exact ⟨reached, ((interleavings_agree source 2).2 _ _ reached).2.symm⟩

end Fetch

end SchemaAtlas
