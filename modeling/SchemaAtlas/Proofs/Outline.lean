import SchemaAtlas.Outline
import Mathlib.Data.List.Nodup

/-!
# Endpoints of an outline

The scan for the endpoints of a table keeps what it saw of either name.  What
it ends with is told without a scan: the targets of the last field with that
name.  Fields of other names are passed over, and of two lists of fields the
second one decides about each endpoint that it declares.

Where no name occurs twice the last field is the only one, so neither its
place nor any other field matters.
-/

namespace SchemaAtlas

/-- The targets of the last of the fields that have this name. -/
def lastTargets? (name : String) (fields : List FieldOutline) :
    Option (List String) :=
  (fields.reverse.find? fun field => field.name = name).map
    FieldOutline.targets

section LastTargets

variable {name : String} {fields others : List FieldOutline}

@[simp]
theorem lastTargets?_nil (name : String) : lastTargets? name [] = none :=
  rfl

/-- The first field counts only if no field behind it has the name. -/
theorem lastTargets?_cons
    (name : String) (field : FieldOutline) (rest : List FieldOutline) :
    lastTargets? name (field :: rest) =
      (lastTargets? name rest).or
        (if field.name = name then some field.targets else none) := by
  rw [lastTargets?, List.reverse_cons, List.find?_append, Option.map_or]
  by_cases same : field.name = name
  · simp [lastTargets?, same]
  · simp [lastTargets?, same]

theorem lastTargets?_eq_none_iff :
    lastTargets? name fields = none ↔
      name ∉ fields.map FieldOutline.name := by
  simp [lastTargets?]

theorem lastTargets?_append
    (name : String) (fields others : List FieldOutline) :
    lastTargets? name (fields ++ others) =
      (lastTargets? name others).or (lastTargets? name fields) := by
  rw [lastTargets?, List.reverse_append, List.find?_append, Option.map_or]
  rfl

/-- The fields further behind decide about the names that they declare. -/
theorem getD_lastTargets?_append
    (name : String) (fields others : List FieldOutline) :
    (lastTargets? name (fields ++ others)).getD [] =
      if name ∈ others.map FieldOutline.name then
        (lastTargets? name others).getD []
      else (lastTargets? name fields).getD [] := by
  rw [lastTargets?_append]
  cases found : lastTargets? name others with
  | none =>
      rw [if_neg (lastTargets?_eq_none_iff.1 found)]
      rfl
  | some targets =>
      have declared : name ∈ others.map FieldOutline.name := by
        by_contra absent
        rw [lastTargets?_eq_none_iff.2 absent] at found
        cases found
      rw [if_pos declared]
      rfl

theorem lastTargets?_eq_some_iff_split {targets : List String} :
    lastTargets? name fields = some targets ↔
      ∃ before after, fields = before ++ ⟨name, targets⟩ :: after ∧
        ∀ later ∈ after, later.name ≠ name := by
  constructor
  · intro found
    rcases Option.map_eq_some_iff.1 found with ⟨field, isLast, rfl⟩
    rcases List.find?_eq_some_iff_append.1 isLast with
      ⟨named, after, before, split, others⟩
    refine ⟨before.reverse, after.reverse, ?_, ?_⟩
    · rw [← of_decide_eq_true named, ← List.reverse_inj, split]
      simp
    · intro later member
      simpa using others later (List.mem_reverse.1 member)
  · rintro ⟨before, after, rfl, isLast⟩
    have passed : lastTargets? name after = none := by
      rw [lastTargets?_eq_none_iff, List.mem_map]
      rintro ⟨later, member, named⟩
      exact isLast later member named
    rw [lastTargets?_append, lastTargets?_cons, passed]
    simp

/-- Only the fields that have the name are looked at. -/
theorem lastTargets?_filter
    {inClass : FieldOutline → Bool}
    (covers : ∀ field, field.name = name → inClass field = true)
    (fields : List FieldOutline) :
    lastTargets? name (fields.filter inClass) = lastTargets? name fields := by
  induction fields with
  | nil => rfl
  | cons field rest induction =>
      rw [lastTargets?_cons, ← induction]
      by_cases kept : inClass field = true
      · rw [List.filter_cons_of_pos kept, lastTargets?_cons]
      · have other : field.name ≠ name := by
          intro named
          exact kept (covers field named)
        rw [List.filter_cons_of_neg kept, if_neg other, Option.or_none]

/-- Where no name occurs twice, the targets are those of the only field. -/
theorem lastTargets?_eq_some_iff
    (distinct : (fields.map FieldOutline.name).Nodup)
    {targets : List String} :
    lastTargets? name fields = some targets ↔ ⟨name, targets⟩ ∈ fields := by
  induction fields with
  | nil => simp
  | cons field rest induction =>
      rcases field with ⟨other, held⟩
      rw [List.map_cons, List.nodup_cons] at distinct
      rw [lastTargets?_cons, List.mem_cons, ← induction distinct.2]
      by_cases same : other = name
      · subst other
        rw [lastTargets?_eq_none_iff.2 distinct.1]
        simp [eq_comm]
      · simp [same, Ne.symm same]

theorem lastTargets?_eq_of_perm
    (distinct : (fields.map FieldOutline.name).Nodup)
    (order : fields.Perm others) :
    lastTargets? name fields = lastTargets? name others := by
  have distinctOthers : (others.map FieldOutline.name).Nodup :=
    (order.map FieldOutline.name).nodup_iff.1 distinct
  apply Option.ext
  intro targets
  rw [lastTargets?_eq_some_iff distinct,
    lastTargets?_eq_some_iff distinctOthers, order.mem_iff]

end LastTargets

namespace EdgeVerdict

theorem Seen.add_eq (seen : Seen) (field : FieldOutline) :
    seen.add field =
      ⟨(if field.name = inField then some field.targets else none).or
          seen.inTargets,
        (if field.name = outField then some field.targets else none).or
          seen.outTargets⟩ := by
  have differ : inField ≠ outField := by decide
  rw [Seen.add]
  by_cases isIn : field.name = inField
  · simp [isIn, differ]
  · by_cases isOut : field.name = outField
    · simp [isOut, differ.symm]
    · simp [isIn, isOut]

/-- The scan ends with the last targets of either name. -/
theorem foldl_add (fields : List FieldOutline) (seen : Seen) :
    fields.foldl Seen.add seen =
      ⟨(lastTargets? inField fields).or seen.inTargets,
        (lastTargets? outField fields).or seen.outTargets⟩ := by
  induction fields generalizing seen with
  | nil => rfl
  | cons field rest induction =>
      -- What the rest declares hides this field, which hides what was seen.
      rw [List.foldl_cons, induction, Seen.add_eq, lastTargets?_cons,
        lastTargets?_cons, Option.or_assoc, Option.or_assoc]

theorem ofFields_eq (fields : List FieldOutline) :
    ofFields fields =
      { isEdge := (lastTargets? inField fields).isSome &&
          (lastTargets? outField fields).isSome
        inTargets := (lastTargets? inField fields).getD []
        outTargets := (lastTargets? outField fields).getD [] } := by
  rw [ofFields, foldl_add, Option.or_none, Option.or_none]

theorem isEdge_ofFields_iff (fields : List FieldOutline) :
    (ofFields fields).isEdge = true ↔
      inField ∈ fields.map FieldOutline.name ∧
        outField ∈ fields.map FieldOutline.name := by
  rw [ofFields_eq, Bool.and_eq_true, Option.isSome_iff_ne_none,
    Option.isSome_iff_ne_none, Ne, Ne, lastTargets?_eq_none_iff,
    lastTargets?_eq_none_iff, not_not, not_not]

/-- Fields with names of their own may come in any order. -/
theorem ofFields_eq_of_perm
    {fields others : List FieldOutline}
    (distinct : (fields.map FieldOutline.name).Nodup)
    (order : fields.Perm others) :
    ofFields fields = ofFields others := by
  simp only [ofFields_eq, lastTargets?_eq_of_perm distinct order]

/-! ## Verdicts without a scan -/

/-- The field is of a kind that verdicts are about. -/
def isEndpoint (field : FieldOutline) : Bool :=
  field.name = inField || field.name = outField

/-- Fields that are no endpoints can be left out. -/
theorem ofFields_filter (fields : List FieldOutline) :
    ofFields (fields.filter isEndpoint) = ofFields fields := by
  have coversIn : ∀ field : FieldOutline,
      field.name = inField → isEndpoint field = true := by
    intro field named
    simp [isEndpoint, named]
  have coversOut : ∀ field : FieldOutline,
      field.name = outField → isEndpoint field = true := by
    intro field named
    simp [isEndpoint, named]
  rw [ofFields_eq, ofFields_eq, lastTargets?_filter coversIn,
    lastTargets?_filter coversOut]

end EdgeVerdict

/--
The targets that a list of fields declares under a name: those of the last
field that has it, and none without such a field.
-/
inductive Declares (fields : List FieldOutline) (name : String) :
    List String → Prop where
  | last {before after : List FieldOutline} {field : FieldOutline}
      (order : fields = before ++ field :: after)
      (named : field.name = name)
      (isLast : ∀ later ∈ after, later.name ≠ name) :
      Declares fields name field.targets
  | nowhere (absent : ∀ field ∈ fields, field.name ≠ name) :
      Declares fields name []

theorem declares_iff
    {fields : List FieldOutline} {name : String} {targets : List String} :
    Declares fields name targets ↔
      targets = (lastTargets? name fields).getD [] := by
  constructor
  · intro declared
    cases declared with
    | @last before after field order named isLast =>
        have found : lastTargets? name fields = some field.targets := by
          rw [lastTargets?_eq_some_iff_split]
          subst named
          exact ⟨before, after, order, isLast⟩
        rw [found]
        rfl
    | nowhere absent =>
        have missing : lastTargets? name fields = none := by
          rw [lastTargets?_eq_none_iff, List.mem_map]
          rintro ⟨field, member, named⟩
          exact absent field member named
        rw [missing]
        rfl
  · rintro rfl
    cases found : lastTargets? name fields with
    | none =>
        apply Declares.nowhere
        intro field member named
        rw [lastTargets?_eq_none_iff] at found
        exact found (List.mem_map.2 ⟨field, member, named⟩)
    | some targets =>
        rcases lastTargets?_eq_some_iff_split.1 found with
          ⟨before, after, order, isLast⟩
        exact .last order rfl isLast

namespace TableOutline

/--
A table is an edge exactly if some field is named `in` and some field is named
`out`.  Its endpoints are what the last field of either name declares.  If more
fields follow, they decide about each endpoint that is among them; and fields
of other names, wherever they are and however many, change nothing.
-/
theorem edge_from_last_endpoints (table : TableOutline) :
    (table.edge.isEdge = true ↔
      (∃ field ∈ table.fields, field.name = "in") ∧
        ∃ field ∈ table.fields, field.name = "out") ∧
    (∀ targets, Declares table.fields "in" targets ↔
      targets = table.edge.inTargets) ∧
    (∀ targets, Declares table.fields "out" targets ↔
      targets = table.edge.outTargets) ∧
    (∀ later both : TableOutline,
      both.fields = table.fields ++ later.fields →
      both.edge.inTargets =
          (if "in" ∈ later.fields.map FieldOutline.name then
            later.edge.inTargets
          else table.edge.inTargets) ∧
        both.edge.outTargets =
          (if "out" ∈ later.fields.map FieldOutline.name then
            later.edge.outTargets
          else table.edge.outTargets)) ∧
    ∀ other : TableOutline,
      other.fields.filter EdgeVerdict.isEndpoint =
        table.fields.filter EdgeVerdict.isEndpoint →
      other.edge = table.edge := by
  have inTargets : ∀ other : TableOutline, other.edge.inTargets =
      (lastTargets? "in" other.fields).getD [] := by
    intro other
    rw [edge, EdgeVerdict.ofFields_eq]
    rfl
  have outTargets : ∀ other : TableOutline, other.edge.outTargets =
      (lastTargets? "out" other.fields).getD [] := by
    intro other
    rw [edge, EdgeVerdict.ofFields_eq]
    rfl
  refine ⟨?_, ?_, ?_, ?_, ?_⟩
  · rw [edge, EdgeVerdict.isEdge_ofFields_iff, List.mem_map, List.mem_map]
    rfl
  · intro targets
    rw [declares_iff, inTargets]
  · intro targets
    rw [declares_iff, outTargets]
  · intro later both order
    rw [inTargets, outTargets, inTargets, outTargets, inTargets, outTargets,
      order]
    exact ⟨getD_lastTargets?_append _ _ _, getD_lastTargets?_append _ _ _⟩
  · intro other same
    rw [edge, edge, ← EdgeVerdict.ofFields_filter, same,
      EdgeVerdict.ofFields_filter]

/-- A half edge whose last `in` has no targets, other fields around it, and an
`out` that follows. -/
theorem edge_from_last_endpoints_half :
    let half : TableOutline :=
      ⟨"wrote", [⟨"in", ["user"]⟩, ⟨"note", ["tag"]⟩, ⟨"in", []⟩]⟩
    let later : TableOutline := ⟨"wrote", [⟨"out", ["post"]⟩]⟩
    let both : TableOutline := ⟨"wrote", half.fields ++ later.fields⟩
    let other : TableOutline :=
      ⟨"wrote", [⟨"id", []⟩, ⟨"in", ["user"]⟩, ⟨"in", []⟩, ⟨"note", []⟩]⟩
    half.edge.isEdge = false ∧ Declares half.fields "in" [] ∧
      both.edge = ⟨true, [], ["post"]⟩ ∧
      other.fields.filter EdgeVerdict.isEndpoint =
        half.fields.filter EdgeVerdict.isEndpoint ∧
      other.edge = half.edge := by
  intro half later both other
  have sameEndpoints :
      other.fields.filter EdgeVerdict.isEndpoint =
        half.fields.filter EdgeVerdict.isEndpoint := by
    decide
  rcases edge_from_last_endpoints half with
    ⟨-, declared, -, appended, passedOver⟩
  rcases appended later both rfl with ⟨inTargets, outTargets⟩
  have isEdge : both.edge.isEdge = true :=
    (edge_from_last_endpoints both).1.2 (by decide)
  refine ⟨by decide, (declared []).2 (by decide), ?_, sameEndpoints,
    passedOver other sameEndpoints⟩
  show (⟨both.edge.isEdge, both.edge.inTargets, both.edge.outTargets⟩ :
    EdgeVerdict) = _
  rw [isEdge, inTargets, outTargets]
  decide

end TableOutline

end SchemaAtlas
