import SchemaAtlas.Source
import SchemaAtlas.Proofs.Identifier
import SchemaAtlas.Proofs.TableInfo

/-!
# Answers of a database

What a database has to answer for its tables, or the metadata of one of them,
to be read, and what is read then.  The first response has to report success
and hold an object, and each part of that object that counts is left out, null
or an object of texts.  Nothing else matters: neither further responses nor
other parts of the object.

Every other answer is refused as a whole.  The refusal names the statement
that was sent, unless the database failed by itself.
-/

namespace SchemaAtlas

open Json (Value Decoder)

/-! ## Records of independent parts -/

namespace Json.Decoder

variable {σ β : Type}

/-- A part of the state of a record, which is set by the field of its name. -/
structure Part (σ β : Type) where
  name : String
  get : σ → Option β
  set : β → σ → σ

/-- The field that reads a part, which may be left out. -/
def Part.field (decoder : Decoder β) (part : Part σ β) : Field σ where
  name := part.name
  optional := true
  seen := fun state => (part.get state).isSome
  value := decoder.map part.set

/-- Every part has a name of its own, setting a part changes no other, and the
parts make up the state. -/
structure Independent (parts : List (Part σ β)) : Prop where
  distinct : (parts.map Part.name).Nodup
  get_set : ∀ part ∈ parts, ∀ value state,
    part.get (part.set value state) = some value
  get_set_other : ∀ part ∈ parts, ∀ other ∈ parts, other.name ≠ part.name →
    ∀ value state, other.get (part.set value state) = other.get state
  state_eq : ∀ first second,
    (∀ part ∈ parts, part.get first = part.get second) → first = second

/-- What a member, if it is there, makes of a part. -/
inductive Fills (decoder : Decoder β) :
    Option Value → Option β → Option β → Prop where
  | absent (held : Option β) : Fills decoder none held held
  | present {value : Value} {result : β}
      (read : decoder.fromValue value = .ok result) :
      Fills decoder (some value) none (some result)

section Members

variable {decoder : Decoder β} {parts : List (Part σ β)}
  {members : List (String × Value)} {state final : σ}

@[simp]
theorem fills_none_iff {before after : Option β} :
    Fills decoder none before after ↔ before = after := by
  constructor
  · intro fills
    cases fills
    rfl
  · rintro rfl
    exact .absent before

theorem fills_some_iff {value : Value} {before after : Option β} :
    Fills decoder (some value) before after ↔
      before = none ∧
        ∃ result, decoder.fromValue value = .ok result ∧
          some result = after := by
  constructor
  · intro fills
    cases fills with
    | present read => exact ⟨rfl, _, read, rfl⟩
  · rintro ⟨rfl, result, read, rfl⟩
    exact .present read

theorem Independent.eq_of_name_eq
    (independent : Independent parts) {part other : Part σ β}
    (isPart : part ∈ parts) (isOther : other ∈ parts)
    (same : part.name = other.name) :
    part = other :=
  List.inj_on_of_nodup_map independent.distinct isPart isOther same

/-- A member that names no part is passed over. -/
theorem forall_fills_cons_of_unknown
    {key : String} {value : Value}
    (unknown : ∀ part ∈ parts, part.name ≠ key) :
    (∀ part ∈ parts, Fills decoder (findEntry part.name
        ((key, value) :: members)) (part.get state) (part.get final)) ↔
      ∀ part ∈ parts, Fills decoder (findEntry part.name members)
        (part.get state) (part.get final) := by
  apply forall₂_congr
  intro part isPart
  rw [findEntry, if_neg (Ne.symm (unknown part isPart))]

/-- A member that names a part fills this part and no other. -/
theorem forall_fills_cons_of_known
    (independent : Independent parts) {part : Part σ β}
    (isPart : part ∈ parts) {value : Value}
    (fresh : part.name ∉ members.map Prod.fst) :
    (∀ other ∈ parts, Fills decoder (findEntry other.name
        ((part.name, value) :: members)) (other.get state)
        (other.get final)) ↔
      part.get state = none ∧
        ∃ result, decoder.fromValue value = .ok result ∧
          ∀ other ∈ parts, Fills decoder (findEntry other.name members)
            (other.get (part.set result state)) (other.get final) := by
  have behind : findEntry part.name members = none :=
    findEntry_eq_none_iff.2 fresh
  constructor
  · intro fills
    have own := fills part isPart
    rw [findEntry, if_pos rfl, fills_some_iff] at own
    rcases own with ⟨empty, result, read, isFinal⟩
    refine ⟨empty, result, read, ?_⟩
    intro other isOther
    by_cases same : other.name = part.name
    · have isSame := independent.eq_of_name_eq isOther isPart same
      rw [isSame, behind, independent.get_set part isPart, fills_none_iff]
      exact isFinal
    · have others := fills other isOther
      rw [findEntry, if_neg (Ne.symm same)] at others
      rw [independent.get_set_other part isPart other isOther same]
      exact others
  · rintro ⟨empty, result, read, fills⟩ other isOther
    have rest := fills other isOther
    by_cases same : other.name = part.name
    · have isSame := independent.eq_of_name_eq isOther isPart same
      rw [isSame, behind, independent.get_set part isPart,
        fills_none_iff] at rest
      rw [isSame, findEntry, if_pos rfl, fills_some_iff]
      exact ⟨empty, result, read, rest⟩
    · rw [independent.get_set_other part isPart other isOther same] at rest
      rw [findEntry, if_neg (Ne.symm same)]
      exact rest

/-- The members of an object fill the parts that they name, each on its own. -/
theorem fieldsOfMembers_eq_ok_iff
    (independent : Independent parts)
    (distinct : (members.map Prod.fst).Nodup) :
    fieldsOfMembers (parts.map (Part.field decoder)) members state =
        .ok final ↔
      ∀ part ∈ parts, Fills decoder (findEntry part.name members)
        (part.get state) (part.get final) := by
  induction members generalizing state with
  | nil =>
      simp only [fieldsOfMembers, findEntry, fills_none_iff,
        Except.ok.injEq]
      constructor
      · rintro rfl part -
        rfl
      · exact independent.state_eq state final
  | cons member rest induction =>
      rcases member with ⟨key, value⟩
      rw [List.map_cons, List.nodup_cons] at distinct
      rw [fieldsOfMembers, List.find?_map]
      cases search : parts.find?
          ((fun field : Field σ => field.name == key) ∘
            Part.field decoder) with
      | none =>
          have unknown : ∀ part ∈ parts, part.name ≠ key := by
            intro part isPart
            simpa [Part.field] using List.find?_eq_none.1 search part isPart
          rw [forall_fills_cons_of_unknown unknown]
          exact induction distinct.2
      | some part =>
          have isPart := List.mem_of_find?_eq_some search
          have named : part.name = key := by
            simpa [Part.field] using List.find?_some search
          subst named
          rw [forall_fills_cons_of_known independent isPart distinct.1]
          simp only [Option.map_some, Part.field, Decoder.map]
          cases held : part.get state with
          | some earlier => simp
          | none =>
              cases read : decoder.fromValue value with
              | error fault => simp [Except.map, bind, Except.bind]
              | ok result =>
                  simp only [Option.isSome_none, Bool.false_eq_true,
                    if_false, true_and, Except.ok.injEq, exists_eq_left']
                  exact induction distinct.2

end Members

end Json.Decoder

theorem wellFormed_of_findEntry
    {members : List (String × Value)} {key : String} {value : Value}
    (wellFormed : (Value.object members).WellFormed)
    (found : findEntry key members = some value) :
    value.WellFormed := by
  rw [Value.WellFormed] at wellFormed
  have behind := wellFormed.2
  have member := mem_of_findEntry found
  clear wellFormed found
  induction members with
  | nil => cases member
  | cons head rest induction =>
      rcases head with ⟨other, held⟩
      rw [Value.WellFormedMembers] at behind
      rcases List.mem_cons.1 member with isHead | isBehind
      · cases isHead
        exact behind.1
      · exact induction behind.2 isBehind

/-! ## Dictionaries of texts -/

/-- What a member, if it is there, says as a dictionary of texts: nothing where
it is left out or null, and otherwise its own members in their order. -/
inductive HoldsTexts : Option Value → Dict String → Prop where
  | absent : HoldsTexts none ∅
  | null : HoldsTexts (some .null) ∅
  | texts (texts : Dict String) :
      HoldsTexts (some (TableInfo.textsToJson texts)) texts

@[simp]
theorem holdsTexts_none_iff {texts : Dict String} :
    HoldsTexts none texts ↔ texts = ∅ := by
  constructor
  · intro holds
    cases holds
    rfl
  · rintro rfl
    exact .absent

theorem holdsTexts_some_iff {value : Value} {texts : Dict String} :
    HoldsTexts (some value) texts ↔
      value = .null ∧ texts = ∅ ∨ value = TableInfo.textsToJson texts := by
  constructor
  · intro holds
    cases holds with
    | null => exact .inl ⟨rfl, rfl⟩
    | texts => exact .inr rfl
  · rintro (⟨rfl, rfl⟩ | rfl)
    · exact .null
    · exact .texts texts

namespace TableInfo

open Json.Decoder

/-- An object is read as a dictionary of texts exactly if it stands for it. -/
theorem dict_string_eq_ok_iff
    {value : Value} (wellFormed : value.WellFormed) (texts : Dict String) :
    (Decoder.dict .string).fromValue value = .ok texts ↔
      value = textsToJson texts := by
  constructor
  · intro read
    cases value with
    | object members =>
        rw [Value.WellFormed] at wellFormed
        rcases (Except.bind_eq_ok_iff _ _ _).1 read with
          ⟨pairs, readPairs, isTexts⟩
        rw [Except.mapM_eq_ok_iff] at readPairs
        have isMembers : members =
            pairs.map fun pair => (pair.1, .string pair.2) := by
          clear isTexts wellFormed read
          induction readPairs with
          | nil => rfl
          | @cons member pair rest pairs head _ induction =>
              rcases member with ⟨key, held⟩
              rw [List.map_cons, induction]
              cases held with
              | string text =>
                  cases head
                  rfl
              | _ => cases head
        have distinct : (pairs.map Prod.fst).Nodup := by
          have keys := wellFormed.1
          rw [isMembers, List.map_map] at keys
          exact keys
        have entries : (Dict.ofList pairs).entries = pairs := by
          exact Dict.entries_foldl_insert pairs .empty distinct
        rw [← Except.ok.inj isTexts, textsToJson, entries, isMembers]
    | _ => cases read
  · rintro rfl
    exact texts_fromValue texts

/-- The part of metadata that a member fills is what the member holds. -/
theorem exists_fills_iff
    {member : Option Value} {texts : Dict String}
    (wellFormed : ∀ value ∈ member, value.WellFormed) :
    (∃ part, Fills textsOrNull member none part ∧ part.getD ∅ = texts) ↔
      HoldsTexts member texts := by
  cases member with
  | none => simp [eq_comm]
  | some value =>
      have dict := dict_string_eq_ok_iff (wellFormed value rfl) texts
      have read : textsOrNull.fromValue value = .ok texts ↔
          value = .null ∧ texts = ∅ ∨
            (Decoder.dict .string).fromValue value = .ok texts := by
        cases value with
        | null =>
            simp [textsOrNull, Decoder.orNull, Decoder.dict,
              Decoder.refuseValue, eq_comm]
        | _ => simp [textsOrNull, Decoder.orNull]
      rw [holdsTexts_some_iff, ← dict, ← read]
      simp [fills_some_iff]

/-- The three parts of metadata while it is read. -/
def parts : List (Part
    (Option (Dict String) × Option (Dict String) × Option (Dict String))
    (Dict String)) :=
  [ ⟨"fd", (·.1), fun value state => (some value, state.2)⟩,
    ⟨"ix", (·.2.1), fun value state => (state.1, some value, state.2.2)⟩,
    ⟨"ev", (·.2.2), fun value state => (state.1, state.2.1, some value)⟩ ]

theorem parts_independent : Independent parts := by
  constructor
  · decide
  · simp [parts]
  · simp [parts]
  · rintro ⟨fields, indexes, events⟩ ⟨others, otherIndexes, otherEvents⟩
    simp [parts]

/-- Metadata is read from an object exactly if its three parts hold it. -/
theorem decoder_eq_ok_iff
    {members : List (String × Value)} {info : TableInfo}
    (wellFormed : (Value.object members).WellFormed) :
    decoder.fromValue (.object members) = .ok info ↔
      HoldsTexts (findEntry "fd" members) info.fields ∧
        HoldsTexts (findEntry "ix" members) info.indexes ∧
        HoldsTexts (findEntry "ev" members) info.events := by
  have held : ∀ key, ∀ value ∈ findEntry key members, value.WellFormed :=
    fun _ _ found => wellFormed_of_findEntry wellFormed found
  rw [Value.WellFormed] at wellFormed
  rw [← exists_fills_iff (held "fd"), ← exists_fills_iff (held "ix"),
    ← exists_fills_iff (held "ev")]
  change (fieldsOfMembers (parts.map (Part.field textsOrNull)) members
    (none, none, none) >>= fun state => _) = _ ↔ _
  rw [Except.bind_eq_ok_iff]
  simp only [fieldsOfMembers_eq_ok_iff parts_independent wellFormed.1]
  constructor
  · rintro ⟨⟨fields, indexes, events⟩, fills, isInfo⟩
    cases isInfo
    simp only [parts, List.forall_mem_cons] at fills
    exact ⟨⟨fields, fills.1, rfl⟩, ⟨indexes, fills.2.1, rfl⟩,
      ⟨events, fills.2.2.1, rfl⟩⟩
  · rintro ⟨⟨fields, fillsFields, isFields⟩,
      ⟨indexes, fillsIndexes, isIndexes⟩, ⟨events, fillsEvents, isEvents⟩⟩
    refine ⟨(fields, indexes, events), ?_, ?_⟩
    · simp only [parts, List.forall_mem_cons]
      exact ⟨fillsFields, fillsIndexes, fillsEvents, by simp⟩
    · simp only [isFields, isIndexes, isEvents]
      rfl

end TableInfo

/-! ## The first response -/

namespace Response

/-- Capitals are 32 places in front of their small letters. -/
theorem toNat_toLower (letter : Char) :
    letter.toLower.toNat =
      if 65 ≤ letter.toNat ∧ letter.toNat ≤ 90 then letter.toNat + 32
      else letter.toNat := by
  unfold Char.toLower
  split
  · rename_i isCapital
    have first : 65 ≤ letter.toNat := isCapital.1
    have last : letter.toNat ≤ 90 := isCapital.2
    rw [if_pos ⟨first, last⟩]
    change (letter.val + 32).toNat = _
    rw [UInt32.toNat_add]
    change (letter.toNat + 32) % 2 ^ 32 = _
    omega
  · rename_i other
    rw [if_neg]
    exact other

theorem toLower_eq_iff
    (capital small : Char)
    (isCapital : 65 ≤ capital.toNat ∧ capital.toNat ≤ 90)
    (pair : small.toNat = capital.toNat + 32) (letter : Char) :
    letter.toLower = small ↔ letter = capital ∨ letter = small := by
  simp only [← Char.toNat_inj, toNat_toLower]
  split
  · omega
  · omega

/-- The texts that report success. -/
def successes : List String := ["OK", "Ok", "oK", "ok"]

theorem isOk_iff (response : Response) :
    response.isOk = true ↔ response.status ∈ successes := by
  have status : response.isOk = true ↔
      response.status.toList.map Char.toLower = ['o', 'k'] := by
    rw [isOk, equalIgnoringCase, beq_iff_eq]
    rfl
  have first := toLower_eq_iff 'O' 'o' (by decide) (by decide)
  have second := toLower_eq_iff 'K' 'k' (by decide) (by decide)
  rw [status]
  simp only [successes, List.map_eq_cons_iff, List.map_eq_nil_iff, first,
    second, List.mem_cons, List.not_mem_nil, or_false, ← String.toList_inj]
  constructor
  · rintro ⟨letter, rest, isStatus, isFirst, other, later, rfl, isSecond, rfl⟩
    rcases isFirst with rfl | rfl
    · rcases isSecond with rfl | rfl
      · exact .inl isStatus
      · exact .inr (.inl isStatus)
    · rcases isSecond with rfl | rfl
      · exact .inr (.inr (.inl isStatus))
      · exact .inr (.inr (.inr isStatus))
  · rintro (isStatus | isStatus | isStatus | isStatus)
    · exact ⟨'O', ['K'], isStatus, by simp, 'K', [], rfl, by simp, rfl⟩
    · exact ⟨'O', ['k'], isStatus, by simp, 'k', [], rfl, by simp, rfl⟩
    · exact ⟨'o', ['K'], isStatus, by simp, 'K', [], rfl, by simp, rfl⟩
    · exact ⟨'o', ['k'], isStatus, by simp, 'k', [], rfl, by simp, rfl⟩

end Response

namespace Source

/-- The database reports success in its first response to a statement, with an
object that has these members. -/
def Reports (database : Database) (statement : String)
    (members : List (String × Value)) : Prop :=
  ∃ response later, database statement = .ok (response :: later) ∧
    response.status ∈ Response.successes ∧ response.result = .object members

/-- In no object of an answer there is a key twice. -/
def WellFormedAnswers (database : Database) : Prop :=
  ∀ statement responses, database statement = .ok responses →
    ∀ response ∈ responses, response.result.WellFormed

theorem firstObject_eq_ok_iff
    (statement : String) (responses : List Response)
    (members : List (String × Value)) :
    firstObject statement responses = .ok members ↔
      ∃ response later, responses = response :: later ∧
        response.status ∈ Response.successes ∧
        response.result = .object members := by
  cases responses with
  | nil => simp [firstObject]
  | cons response later =>
      simp only [firstObject, List.cons.injEq, ← Response.isOk_iff]
      cases success : response.isOk with
      | false =>
          simp only [Bool.not_false, if_true]
          constructor
          · intro impossible
            cases impossible
          · rintro ⟨other, rest, ⟨rfl, rfl⟩, isSuccess, -⟩
            rw [success] at isSuccess
            cases isSuccess
      | true =>
          simp only [Bool.not_true, Bool.false_eq_true, if_false]
          constructor
          · intro isMembers
            refine ⟨response, later, ⟨rfl, rfl⟩, success, ?_⟩
            cases result : response.result with
            | object others =>
                rw [result] at isMembers
                cases isMembers
                rfl
            | _ =>
                rw [result] at isMembers
                cases isMembers
          · rintro ⟨other, rest, ⟨rfl, rfl⟩, -, isObject⟩
            rw [isObject]
            rfl

/-- Every failure of the outcome is a refusal that names the statement. -/
def NamesStatement {α : Type} (statement : String)
    (outcome : Except Failure α) : Prop :=
  ∀ failure, outcome = .error failure →
    ∃ text, failure = .query statement text

theorem firstObject_namesStatement
    (statement : String) (responses : List Response) :
    NamesStatement statement (firstObject statement responses) := by
  intro failure refused
  unfold firstObject at refused
  split at refused
  · cases refused
    exact ⟨_, rfl⟩
  · split at refused
    · cases refused
      exact ⟨_, rfl⟩
    · split at refused
      · cases refused
        exact ⟨_, rfl⟩
      · cases refused

theorem tablesOf_namesStatement (members : List (String × Value)) :
    NamesStatement databaseStatement (tablesOf members) := by
  intro failure refused
  unfold tablesOf at refused
  split at refused
  · cases refused
  · cases refused
  · split at refused
    · cases refused
    · cases refused
      exact ⟨_, rfl⟩

theorem infoOf_namesStatement
    (statement : String) (members : List (String × Value)) :
    NamesStatement statement (infoOf statement members) := by
  intro failure refused
  unfold infoOf at refused
  split at refused
  · cases refused
  · cases refused
    exact ⟨_, rfl⟩

/-! ## Asking for an object -/

/-- Sends a statement and reads the object in the first response to it. -/
def request {α : Type} (database : Database) (statement : String)
    (read : List (String × Value) → Except Failure α) : Attempt α := do
  let responses ← Attempt.ask (.query statement) (database statement)
  Attempt.ofExcept ((firstObject statement responses).bind read)

theorem tables_eq_request (database : Database) :
    (ofDatabase database).tables =
      request database databaseStatement tablesOf :=
  rfl

theorem tableInfo_eq_request (database : Database) (table : String) :
    (ofDatabase database).tableInfo table =
      request database (tableStatement table)
        (infoOf (tableStatement table)) :=
  rfl

section Request

variable {α : Type} {database : Database} {statement : String}
  {read : List (String × Value) → Except Failure α}

theorem request_outcome :
    (request database statement read).outcome =
      (database statement).bind fun responses =>
        (firstObject statement responses).bind read := by
  simp only [request, Attempt.outcome_bind, Attempt.outcome_ask,
    Attempt.outcome_ofExcept]
  rfl

theorem request_eq_ok_iff {result : α} :
    (request database statement read).outcome = .ok result ↔
      ∃ members, Reports database statement members ∧
        read members = .ok result := by
  rw [request_outcome]
  constructor
  · intro succeeds
    rcases (Except.bind_eq_ok_iff _ _ _).1 succeeds with
      ⟨responses, answered, succeeds⟩
    rcases (Except.bind_eq_ok_iff _ _ _).1 succeeds with
      ⟨members, isFirst, isRead⟩
    rcases (firstObject_eq_ok_iff _ _ _).1 isFirst with
      ⟨response, later, rfl, success, isObject⟩
    exact ⟨members, ⟨response, later, answered, success, isObject⟩, isRead⟩
  · rintro ⟨members, ⟨response, later, answered, success, isObject⟩, isRead⟩
    have isFirst := (firstObject_eq_ok_iff statement _ _).2
      ⟨response, later, rfl, success, isObject⟩
    rw [answered]
    simp only [Except.bind, isFirst, isRead]

/-- What an attempt does and how it fails that sends one statement: a failure
of the database stays as it is, and any other names the statement. -/
structure Refuses (database : Database) (statement : String)
    (attempt : Attempt α) : Prop where
  asked : attempt.acts = [.query statement]
  unchanged : ∀ failure, database statement = .error failure →
    attempt.outcome = .error failure
  named : ∀ responses, database statement = .ok responses →
    NamesStatement statement attempt.outcome

theorem request_refuses
    (named : ∀ members, NamesStatement statement (read members)) :
    Refuses database statement (request database statement read) := by
  constructor
  · simp only [request, Attempt.acts_bind, Attempt.acts_ask,
      Attempt.outcome_ask]
    cases database statement with
    | ok responses => simp
    | error failure => simp
  · intro failure failed
    rw [request_outcome, failed]
    rfl
  · intro responses answered failure refused
    rw [request_outcome, answered] at refused
    change (firstObject statement responses).bind read = _ at refused
    cases isFirst : firstObject statement responses with
    | error other =>
        rw [isFirst] at refused
        cases refused
        exact firstObject_namesStatement statement responses _ isFirst
    | ok members =>
        rw [isFirst] at refused
        exact named members failure refused

end Request

theorem tablesOf_eq_ok_iff
    {members : List (String × Value)} {tables : Dict String}
    (wellFormed : (Value.object members).WellFormed) :
    tablesOf members = .ok tables ↔
      HoldsTexts (findEntry "tb" members) tables := by
  cases found : findEntry "tb" members with
  | none =>
      rw [tablesOf, found, holdsTexts_none_iff, Except.ok.injEq, eq_comm]
  | some value =>
      have dict := TableInfo.dict_string_eq_ok_iff
        (wellFormed_of_findEntry wellFormed found) tables
      rw [holdsTexts_some_iff, ← dict, tablesOf, found]
      by_cases isNull : value = .null
      · simp [isNull, Decoder.dict, Decoder.refuseValue, eq_comm]
      · cases read : (Decoder.dict .string).fromValue value with
        | ok others => simp [isNull, read]
        | error fault => simp [isNull, read]

theorem infoOf_eq_ok_iff
    {statement : String} {members : List (String × Value)} {info : TableInfo}
    (wellFormed : (Value.object members).WellFormed) :
    infoOf statement members = .ok info ↔
      HoldsTexts (findEntry "fd" members) info.fields ∧
        HoldsTexts (findEntry "ix" members) info.indexes ∧
        HoldsTexts (findEntry "ev" members) info.events := by
  rw [← TableInfo.decoder_eq_ok_iff wellFormed, infoOf]
  cases TableInfo.decoder.fromValue (.object members) with
  | ok other => simp
  | error fault => simp

theorem Reports.wellFormed
    {database : Database} {statement : String}
    {members : List (String × Value)}
    (wellFormed : WellFormedAnswers database)
    (reports : Reports database statement members) :
    (Value.object members).WellFormed := by
  rcases reports with ⟨response, later, answered, -, isObject⟩
  rw [← isObject]
  exact wellFormed _ _ answered response List.mem_cons_self

/--
The metadata of a table is read exactly if the database reports success to the
statement that asks for it, with an object of which each of three parts is
left out, null or an object of texts; the metadata is what these parts hold.
The tables are read likewise from one part.  Every other answer is refused: a
failure of the database is passed on, and any other failure is one of the
query and names the one statement that was sent.
-/
theorem answers_decoded_exactly
    (database : Database) (wellFormed : WellFormedAnswers database)
    (table : String) :
    (∀ info, ((ofDatabase database).tableInfo table).outcome = .ok info ↔
      ∃ members, Reports database (tableStatement table) members ∧
        HoldsTexts (findEntry "fd" members) info.fields ∧
        HoldsTexts (findEntry "ix" members) info.indexes ∧
        HoldsTexts (findEntry "ev" members) info.events) ∧
    Refuses database (tableStatement table)
      ((ofDatabase database).tableInfo table) ∧
    (∀ tables, (ofDatabase database).tables.outcome = .ok tables ↔
      ∃ members, Reports database databaseStatement members ∧
        HoldsTexts (findEntry "tb" members) tables) ∧
    Refuses database databaseStatement (ofDatabase database).tables := by
  rw [tableInfo_eq_request, tables_eq_request]
  refine ⟨?_, request_refuses (infoOf_namesStatement _), ?_,
    request_refuses tablesOf_namesStatement⟩
  · intro info
    rw [request_eq_ok_iff]
    refine exists_congr fun members => and_congr_right fun reports => ?_
    exact infoOf_eq_ok_iff (reports.wellFormed wellFormed)
  · intro tables
    rw [request_eq_ok_iff]
    refine exists_congr fun members => and_congr_right fun reports => ?_
    exact tablesOf_eq_ok_iff (reports.wellFormed wellFormed)

/-- A success spelled in small letters, with a part that is null, a part that
is left out, a part that counts for nothing and a failure behind it. -/
theorem answers_decoded_exactly_mixed :
    let database : Database := fun _ =>
      .ok [⟨"oK", .object [("other", .array []), ("ix", .null),
          ("fd", .object [("b", .string "B"), ("a", .string "A")])], none⟩,
        .failed "later"]
    WellFormedAnswers database ∧
      ((ofDatabase database).tableInfo "t").outcome =
        .ok ⟨.ofList [("b", "B"), ("a", "A")], ∅, ∅⟩ := by
  intro database
  have wellFormed : WellFormedAnswers database := by
    intro statement responses answered response member
    cases answered
    rcases List.mem_cons.1 member with rfl | isLater
    · simp [Value.WellFormed, Value.WellFormedMembers, Value.WellFormedItems]
    · rw [List.mem_singleton.1 isLater]
      simp [Response.failed, Value.WellFormed]
  refine ⟨wellFormed,
    ((answers_decoded_exactly database wellFormed "t").1 _).2 ?_⟩
  refine ⟨_, ⟨_, _, rfl, by decide, rfl⟩, ?_, ?_, ?_⟩
  · exact .texts (.ofList [("b", "B"), ("a", "A")])
  · exact .null
  · exact .absent

end Source

end SchemaAtlas
