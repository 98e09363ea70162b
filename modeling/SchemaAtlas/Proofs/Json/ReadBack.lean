import SchemaAtlas.Json.Printer
import SchemaAtlas.Proofs.Dict
import SchemaAtlas.Proofs.Json.Quoted

/-!
# JSON text read back

A reader takes a value if it reads the value's text, all of it and nothing
behind it.  What is shown here for single decoders is put together by the
decoders that contain others: a dictionary takes an object if its items take
the values, and a record takes an object if each of its members is taken by
the field of that name.

Objects are read by a state that each member changes.  `ReadsMembers` follows
these changes along the members, so that one induction serves dictionaries
and records alike.
-/

namespace SchemaAtlas.Json

variable {α β σ : Type}

/-- In front of anything, the text of the value is read as the result. -/
def Takes (reader : Reader α) (value : Value) (result : α) : Prop :=
  ∀ rest, reader (value.compactLetters ++ rest) = .ok (result, rest)

/-! ## Members of objects -/

/-- The readers of the members change the state, one after another, to the
final one. -/
inductive ReadsMembers (enter : σ → String → Except Fault (Reader (σ → σ))) :
    σ → List (String × Value) → σ → Prop where
  | done (state : σ) : ReadsMembers enter state [] state
  | member {state final : σ} {key : String} {value : Value}
      {members : List (String × Value)} {reader : Reader (σ → σ)}
      {change : σ → σ}
      (entered : enter state key = .ok reader)
      (takes : Takes reader value change)
      (later : ReadsMembers enter (change state) members final) :
      ReadsMembers enter state ((key, value) :: members) final

section

variable {enter : σ → String → Except Fault (Reader (σ → σ))}
  {state final : σ} {members : List (String × Value)}

/-- Reading one member leaves the others to be read from the new state. -/
theorem readMembers_member
    {key : String} {value : Value} {reader : Reader (σ → σ)}
    {change : σ → σ} {first : Bool} {text tail rest : List Char}
    (found : nextMember first text = .ok (.next tail))
    (read : readString tail =
      .ok (key, ':' :: (value.compactLetters ++ rest)))
    (entered : enter state key = .ok reader)
    (takes : Takes reader value change)
    (rounds : Nat) :
    readMembers enter (rounds + 1) first state text =
      readMembers enter rounds false (change state) rest := by
  have colon : readColon (':' :: (value.compactLetters ++ rest)) =
      .ok (value.compactLetters ++ rest) := rfl
  simp only [readMembers, found, read, entered, colon, takes rest, bind,
    Except.bind]

/-- Every further member has a text of its own. -/
theorem length_lt_compactMembers (members : List (String × Value)) :
    members.length < (Value.compactMembers members).length := by
  induction members with
  | nil => simp [Value.compactMembers]
  | cons member later induction =>
      simp only [Value.compactMembers, List.length_cons, List.length_append]
      omega

theorem readMembers_compactMembers
    (reads : ReadsMembers enter state members final)
    {rounds : Nat} (enough : members.length < rounds) (rest : List Char) :
    readMembers enter rounds false state
        (Value.compactMembers members ++ rest) =
      .ok (final, rest) := by
  induction reads generalizing rounds with
  | done state =>
      cases rounds with
      | zero => exact (Nat.not_lt_zero _ enough).elim
      | succ rounds => rfl
  | @member state final key value later reader change entered takes _
      induction =>
      cases rounds with
      | zero => exact (Nat.not_lt_zero _ enough).elim
      | succ rounds =>
          rcases readString_tail_quoteLetters key
            (':' :: (value.compactLetters ++
              (Value.compactMembers later ++ rest))) with
            ⟨tail, isTail, read⟩
          have text : Value.compactMembers ((key, value) :: later) ++ rest =
              ',' :: '"' :: tail := by
            rw [← isTail]
            simp [Value.compactMembers]
          rw [text, readMembers_member rfl read entered takes]
          exact induction (Nat.lt_of_succ_lt_succ enough)

/-- The members of an object are read from behind its brace. -/
theorem readMembers_object
    (reads : ReadsMembers enter state members final) (rest : List Char) :
    ∃ tail, (Value.object members).compactLetters ++ rest = '{' :: tail ∧
      readMembers enter (tail.length + 1) true state tail =
        .ok (final, rest) := by
  cases reads with
  | done => exact ⟨'}' :: rest, rfl, rfl⟩
  | @member _ _ key value later reader change entered takes laterReads =>
      rcases readString_tail_quoteLetters key
        (':' :: (value.compactLetters ++
          (Value.compactMembers later ++ rest))) with
        ⟨tail, isTail, read⟩
      refine ⟨'"' :: tail, ?_, ?_⟩
      · rw [← isTail]
        simp [Value.compactLetters]
      · rw [readMembers_member rfl read entered takes]
        apply readMembers_compactMembers laterReads
        have whole := congrArg List.length isTail
        have members := length_lt_compactMembers later
        simp only [List.length_cons, List.length_append] at whole ⊢
        omega

end

theorem object_opens (members : List (String × Value)) :
    ∃ tail, (Value.object members).compactLetters = '{' :: tail := by
  cases members with
  | nil => exact ⟨['}'], rfl⟩
  | cons member later => exact ⟨_, rfl⟩

/-! ## Decoders -/

namespace Decoder

variable {depth : Nat} {value : Value}

theorem string_takes (text : String) :
    Takes (Decoder.string.fromText depth) (.string text) text := by
  intro rest
  rcases readString_tail_quoteLetters text rest with ⟨tail, isTail, read⟩
  rw [Value.compactLetters, isTail]
  exact read

theorem map_takes
    {decoder : Decoder α} {result : α}
    (takes : Takes (decoder.fromText depth) value result)
    (change : α → β) :
    Takes ((decoder.map change).fromText depth) value (change result) := by
  intro rest
  change Except.map _ (decoder.fromText depth _) = _
  rw [takes rest]
  rfl

/-- What begins with a brace is not taken for `null`. -/
theorem orNull_takes
    {decoder : Decoder α} {members : List (String × Value)} {result : α}
    (takes : Takes (decoder.fromText depth) (.object members) result)
    (default : α) :
    Takes ((decoder.orNull default).fromText depth) (.object members)
      result := by
  intro rest
  rcases object_opens members with ⟨tail, opens⟩
  have read := takes rest
  rw [opens] at read ⊢
  exact read

/-- How the member of a key changes a dictionary. -/
def enterItem (item : Decoder α) (depth : Nat) (_ : Dict α) (key : String) :
    Except Fault (Reader (Dict α → Dict α)) :=
  .ok fun text => do
    let (held, rest) ← item.fromText depth text
    pure (fun dict => dict.insert key held, rest)

theorem enterItem_takes
    {item : Decoder α} {held : α}
    (takes : Takes (item.fromText depth) value held) (key : String) :
    Takes
      (fun text => do
        let (held, rest) ← item.fromText depth text
        pure (fun (dict : Dict α) => dict.insert key held, rest))
      value fun dict => dict.insert key held := by
  intro rest
  simp only [takes rest]
  rfl

/--
A dictionary is read back from its object, one level deeper than its items
are read back from what stands for them.
-/
theorem dict_takes
    {item : Decoder α} {write : α → Value}
    (itemTakes : ∀ held, Takes (item.fromText depth) (write held) held)
    (dict : Dict α) :
    Takes ((Decoder.dict item).fromText (depth + 1))
      (.object (dict.entries.map fun entry => (entry.1, write entry.2)))
      dict := by
  have reads : ∀ (entries : List (String × α)) (start : Dict α),
      ReadsMembers (enterItem item depth) start
        (entries.map fun entry => (entry.1, write entry.2))
        (entries.foldl (fun dict entry => dict.insert entry.1 entry.2)
          start) := by
    intro entries
    induction entries with
    | nil => exact .done
    | cons entry later induction =>
        intro start
        exact .member rfl (enterItem_takes (itemTakes entry.2) entry.1)
          (induction (start.insert entry.1 entry.2))
  have whole := Dict.ofList_entries dict
  rw [Dict.ofList] at whole
  intro rest
  rcases readMembers_object (reads dict.entries .empty) rest with
    ⟨tail, opens, read⟩
  rw [whole] at read
  rw [opens]
  exact read

/-- How the member of a key changes the state of a record. -/
def enterField (fields : List (Field σ)) (depth : Nat) (state : σ)
    (key : String) : Except Fault (Reader (σ → σ)) :=
  match fields.find? (fun field => field.name == key) with
  | none => .ok fun text => skipValue text |>.map fun (_, rest) => (id, rest)
  | some field =>
      if field.seen state then .error (.duplicateField key)
      else .ok (field.value.fromText depth)

theorem enterField_eq_ok
    {fields : List (Field σ)} {field : Field σ} {state : σ} {key : String}
    (known : fields.find? (fun field => field.name == key) = some field)
    (unseen : field.seen state = false) :
    enterField fields depth state key = .ok (field.value.fromText depth) := by
  rw [enterField, known]
  simp [unseen]

/-- A record is read from an object if its fields read the members. -/
theorem record_takes
    {name : String} {fields : List (Field σ)} {start final : σ}
    {finish : σ → Except Fault α} {members : List (String × Value)} {made : α}
    (reads : ReadsMembers (enterField fields depth) start members final)
    (finished : finish final = .ok made) :
    Takes ((record name fields start finish).fromText (depth + 1))
      (.object members) made := by
  intro rest
  rcases readMembers_object reads rest with ⟨tail, opens, read⟩
  rw [opens]
  change (readMembers (enterField fields depth) _ true start tail >>=
    fun (state, rest) => do pure (← finish state, rest)) = _
  rw [read]
  change (finish final >>= fun made => pure (made, rest)) = _
  rw [finished]
  rfl

/-- A text that is taken is decoded whole. -/
theorem ofText_compact
    {decoder : Decoder α} {result : α}
    (takes : Takes (decoder.fromText deepestNesting) value result) :
    decoder.ofText value.compact = .ok result := by
  have read := takes []
  rw [List.append_nil] at read
  rw [Decoder.ofText, Value.compact, String.toList_ofList, read]
  rfl

end Decoder

end SchemaAtlas.Json
