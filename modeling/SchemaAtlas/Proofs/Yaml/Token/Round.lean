import SchemaAtlas.Yaml.Token
import SchemaAtlas.Proofs.Yaml.Letters
import Mathlib.Algebra.GroupWithZero.Nat
import Mathlib.Logic.Relation

/-!
# The rounds of the lexer

A round passes over a gap, gives up the keys that have become impossible, ends
the collections that lie right of the place and reads one token.  Every round
takes a letter off the text, so the tokens of a text are those that the rounds
collect, one after the other.
-/

namespace SchemaAtlas.Yaml.Token

open Scalar (blanks)

/-! ## Places -/

namespace Position

variable
    {letter : Char}
    {letters rest : List Char}

/-- The place behind one more letter. -/
def beyond (position : Position) (letter : Char) : Position :=
  if isBreak letter then
    ⟨position.line + 1, 0, position.offset + letter.utf8Size⟩
  else ⟨position.line, position.column + 1, position.offset + letter.utf8Size⟩

theorem after_cons (position : Position) (notReturn : letter ≠ '\r') :
    position.after (letter :: rest) = (position.beyond letter).after rest := by
  rw [after, beyond]
  · split <;> rfl
  · rintro other rfl
    exact absurd rfl notReturn

theorem after_append
    (position : Position) (noReturn : ∀ letter ∈ letters, letter ≠ '\r') :
    position.after (letters ++ rest) = (position.after letters).after rest := by
  induction letters generalizing position with
  | nil => rw [List.nil_append, after]
  | cons letter later induction =>
      simp only [List.mem_cons, forall_eq_or_imp] at noReturn
      rw [List.cons_append, after_cons _ noReturn.1, after_cons _ noReturn.1,
        induction _ noReturn.2]

theorem column_after_break
    (position : Position)
    (notReturn : letter ≠ '\r') (ends : isBreak letter = true) :
    (position.after [letter]).column = 0 := by
  rw [after_cons _ notReturn, beyond, if_pos ends, after]

/-- How many bytes letters take. -/
def bytes (letters : List Char) : Nat := (letters.map Char.utf8Size).sum

/-- Within a line only the column and the number of bytes grow. -/
theorem after_line
    (position : Position)
    (inLine : ∀ letter ∈ letters, isBreak letter = false) :
    position.after letters =
      ⟨position.line, position.column + letters.length,
        position.offset + bytes letters⟩ := by
  induction letters generalizing position with
  | nil => rfl
  | cons letter later induction =>
      simp only [List.mem_cons, forall_eq_or_imp] at inLine
      have notReturn : letter ≠ '\r' := by
        rintro rfl
        cases inLine.1
      rw [after_cons _ notReturn, beyond, if_neg (by simp [inLine.1]),
        induction _ inLine.2]
      simp only [bytes, List.length_cons, List.map_cons, List.sum_cons,
        mk.injEq, true_and]
      omega

theorem column_after_blanks (position : Position) (count : Nat) :
    (position.after (blanks count)).column = position.column + count := by
  rw [after_line]
  · simp [blanks]
  · intro letter mem
    rw [List.eq_of_mem_replicate mem]
    rfl

end Position

namespace Lexer

variable
    {lexer later : Lexer}
    {letter : Char}
    {front rest text : List Char}

/-! ## Moving on -/

/-- The state behind some letters and before the rest. -/
def past (lexer : Lexer) (front rest : List Char) : Lexer :=
  { lexer with rest := rest, position := lexer.position.after front }

section Past

variable (lexer : Lexer) (front rest : List Char)

@[simp]
theorem rest_past : (lexer.past front rest).rest = rest := rfl

@[simp]
theorem position_past :
    (lexer.past front rest).position = lexer.position.after front :=
  rfl

@[simp]
theorem tokens_past : (lexer.past front rest).tokens = lexer.tokens := rfl

@[simp]
theorem indents_past : (lexer.past front rest).indents = lexer.indents := rfl

@[simp]
theorem keyAllowed_past :
    (lexer.past front rest).keyAllowed = lexer.keyAllowed := rfl

@[simp]
theorem inFlow_past : (lexer.past front rest).inFlow = lexer.inFlow := rfl

theorem past_past
    {front : List Char} (noReturn : ∀ letter ∈ front, letter ≠ '\r')
    (middle further : List Char) :
    (lexer.past front middle).past further rest =
      lexer.past (front ++ further) rest := by
  rw [past, past, past, Position.after_append _ noReturn]

end Past

theorem moveTo_of_rest (isRest : lexer.rest = front ++ rest) :
    lexer.moveTo rest = lexer.past front rest := by
  have taken :
      (front ++ rest).take ((front ++ rest).length - rest.length) = front := by
    rw [List.length_append, Nat.add_sub_cancel, List.take_left]
  rw [moveTo, isRest, taken, past]

theorem moveTo_of_cons (isRest : lexer.rest = letter :: rest) :
    lexer.moveTo rest = lexer.past [letter] rest :=
  moveTo_of_rest isRest

theorem skip_one (isRest : lexer.rest = letter :: rest) :
    lexer.skip 1 = lexer.past [letter] rest := by
  rw [skip, isRest, List.drop_one, List.tail_cons]
  exact moveTo_of_cons isRest

/-! ## Gaps -/

/-- Whether a text begins with something that is no gap. -/
def Begins (text : List Char) : Prop :=
  ∀ letter ∈ text.head?,
    isBlank letter = false ∧ isBreak letter = false ∧
      letter ≠ '#' ∧ letter ≠ '\ufeff'

theorem Begins.inText (begins : Begins text) :
    ∀ letter ∈ text.head?, isBlank letter = false ∧ isBreak letter = false := by
  intro letter first
  obtain ⟨notBlank, notBreak, -, -⟩ := begins letter first
  exact ⟨notBlank, notBreak⟩

theorem skipGap_of_begins (begins : Begins lexer.rest) (rounds : Nat) :
    lexer.skipGap rounds = lexer := by
  cases rounds with
  | zero => rfl
  | succ rounds =>
      cases isRest : lexer.rest with
      | nil => simp [skipGap, isRest]
      | cons letter rest =>
          obtain ⟨notBlank, notBreak, noComment, noMark⟩ :=
            begins letter (by simp [isRest])
          have kept : lexer.isPassedOver letter = false := by
            simp only [isBlank, Bool.or_eq_false_iff,
              decide_eq_false_iff_not] at notBlank
            simp [isPassedOver, notBlank, noMark]
          simp [skipGap, isRest, kept, noComment,
            takeBreak_of_not_isBreak notBreak]

theorem skipGap_blanks
    {count rounds : Nat}
    (isRest : lexer.rest = blanks count ++ rest)
    (begins : Begins rest)
    (enough : count ≤ rounds) :
    lexer.skipGap rounds = lexer.past (blanks count) rest := by
  induction count generalizing lexer rounds with
  | zero =>
      rw [skipGap_of_begins (by rw [isRest]; exact begins)]
      obtain ⟨⟩ := lexer
      cases isRest
      rfl
  | succ count induction =>
      obtain ⟨rounds, rfl⟩ : ∃ fewer, rounds = fewer + 1 :=
        ⟨rounds - 1, by omega⟩
      have isSplit : lexer.rest = ' ' :: (blanks count ++ rest) := isRest
      have passed : lexer.isPassedOver ' ' = true := rfl
      have moved := moveTo_of_cons isSplit
      rw [skipGap, isSplit]
      simp only [passed, if_true]
      rw [moved, induction (rest_past _ _ _) (by omega),
        past_past _ _ (by simp)]
      rfl

/-- The state before the next token. -/
def settled (lexer : Lexer) : Lexer := lexer.skipGap (lexer.rest.length + 1)

theorem settled_of_begins (begins : Begins lexer.rest) :
    lexer.settled = lexer :=
  skipGap_of_begins begins _

theorem settled_blanks
    {count : Nat}
    (isRest : lexer.rest = blanks count ++ rest) (begins : Begins rest) :
    lexer.settled = lexer.past (blanks count) rest := by
  apply skipGap_blanks isRest begins
  rw [isRest, List.length_append, blanks, List.length_replicate]
  omega

/-- Behind the end of a line a key may begin. -/
theorem settled_line
    {count : Nat}
    (isRest : lexer.rest = '\n' :: (blanks count ++ rest))
    (begins : Begins rest)
    (outside : lexer.inFlow = false) :
    lexer.settled =
      { lexer with keyAllowed := true }.past ('\n' :: blanks count) rest := by
  have kept : lexer.isPassedOver '\n' = false := by
    simp [isPassedOver]
  have taken : takeBreak ('\n' :: (blanks count ++ rest)) =
      some ('\n', blanks count ++ rest) := rfl
  have enough : count ≤ ('\n' :: (blanks count ++ rest)).length := by
    simp only [List.length_cons, List.length_append, blanks,
      List.length_replicate]
    omega
  have noComment : ('\n' = '#') = False := by simp
  have moved := moveTo_of_cons isRest
  rw [settled, skipGap, isRest]
  simp only [kept, Bool.false_eq_true, if_false, noComment, taken, moved]
  have allowed : ((lexer.past ['\n'] (blanks count ++ rest)).keyAllowed ||
      !(lexer.past ['\n'] (blanks count ++ rest)).inFlow) = true := by
    simp [outside]
  rw [allowed, skipGap_blanks rfl begins enough]
  exact past_past { lexer with keyAllowed := true } rest (by simp) _ _

/-! ## Possible keys -/

/-- Whether the place is outside of flow collections and no key is required
there. -/
def Optional (lexer : Lexer) : Prop :=
  ∃ possible, lexer.keys = [possible] ∧
    ∀ key ∈ possible, key.required = false

theorem inFlow_of_keys
    {possible : Option PossibleKey} (isKeys : lexer.keys = [possible]) :
    lexer.inFlow = false := by
  simp [inFlow, flowLevel, isKeys]

theorem Optional.inFlow (optional : lexer.Optional) : lexer.inFlow = false := by
  obtain ⟨possible, isKeys, -⟩ := optional
  exact inFlow_of_keys isKeys

/-- Whether a possible key lies on this line and not too far back. -/
def isFresh (lexer : Lexer) (key : PossibleKey) : Bool :=
  !(decide (key.position.line < lexer.position.line) ||
    decide (key.position.offset + longestKey < lexer.position.offset))

/-- Where no key is required, the stale ones are given up. -/
theorem dropStaleKeys_of_free
    (free : ∀ possible ∈ lexer.keys, ∀ key ∈ possible, key.required = false) :
    lexer.dropStaleKeys =
      .ok { lexer with keys := lexer.keys.map (·.filter lexer.isFresh) } := by
  have noneRequired : (lexer.keys.any fun possible => possible.any fun key =>
      (decide (key.position.line < lexer.position.line) ||
        decide (key.position.offset + longestKey < lexer.position.offset)) &&
          key.required) = false := by
    rw [List.any_eq_false]
    intro possible mem
    cases possible with
    | none => simp
    | some key => simp [free _ mem key rfl]
  rw [Lexer.dropStaleKeys]
  simp only [noneRequired, Bool.false_eq_true, if_false]
  rfl

theorem Optional.dropStaleKeys (optional : lexer.Optional) :
    ∃ possible : Option PossibleKey,
      (∀ key ∈ possible, key.required = false) ∧
        lexer.dropStaleKeys = .ok { lexer with keys := [possible] } := by
  obtain ⟨possible, isKeys, optional⟩ := optional
  refine ⟨possible.filter lexer.isFresh, ?_, ?_⟩
  · intro key kept
    exact optional key (Option.mem_filter_iff.1 kept).1
  · rw [dropStaleKeys_of_free (by simpa [isKeys] using optional), isKeys]
    rfl

/-- A key on the same line that is not too long is kept. -/
theorem dropStaleKeys_of_fresh
    {key : PossibleKey}
    (isKeys : lexer.keys = [some key])
    (sameLine : key.position.line = lexer.position.line)
    (short : lexer.position.offset ≤ key.position.offset + longestKey) :
    lexer.dropStaleKeys = .ok lexer := by
  have fresh : (decide (key.position.line < lexer.position.line) ||
      decide (key.position.offset + longestKey < lexer.position.offset)) =
        false := by
    simp only [sameLine, Bool.or_eq_false_iff, decide_eq_false_iff_not]
    omega
  rw [Lexer.dropStaleKeys]
  simp only [isKeys, List.any_cons, List.any_nil, Option.any_some, fresh,
    List.map_cons, List.map_nil, Bool.false_and, Bool.or_false,
    Bool.false_eq_true, if_false, Option.filter_some, Bool.not_false, if_true]
  rw [← isKeys]
  rfl

theorem Optional.dropKey (optional : lexer.Optional) :
    lexer.dropKey = .ok { lexer with keys := [none] } := by
  obtain ⟨possible, isKeys, optional⟩ := optional
  cases possible with
  | none =>
      obtain ⟨⟩ := lexer
      cases isKeys
      rfl
  | some key =>
      have free := optional key rfl
      simp [Lexer.dropKey, isKeys, free]

/-- Where a key may begin, the place is remembered. -/
theorem Optional.saveKey_of_keyAllowed
    (optional : lexer.Optional) (allowed : lexer.keyAllowed = true) :
    lexer.saveKey =
      .ok { lexer with
        keys := [some ⟨lexer.indent == (lexer.position.column : Int),
          lexer.tokens.length, lexer.position⟩] } := by
  rw [Lexer.saveKey, if_pos allowed, optional.dropKey, optional.inFlow]
  rfl

theorem saveKey_of_not_keyAllowed (not_allowed : lexer.keyAllowed = false) :
    lexer.saveKey = .ok lexer := by
  rw [Lexer.saveKey, if_neg (by simp [not_allowed])]

/-! ## Open collections -/

theorem unroll_eq
    {level : Int} {inner outer : List Int}
    (outside : lexer.inFlow = false)
    (isIndents : lexer.indents = inner ++ outer)
    (deeper : ∀ indent ∈ inner, level < indent)
    (shallow : ∀ indent ∈ outer.head?, indent ≤ level) :
    lexer.unroll level =
      { lexer with
        indents := outer
        tokens := List.replicate inner.length .blockEnd ++ lexer.tokens } := by
  have ended :
      (inner ++ outer).takeWhile (fun indent => decide (level < indent)) =
        inner := by
    rw [List.takeWhile_append_of_pos (by simpa using deeper)]
    cases outer with
    | nil => simp
    | cons indent outer =>
        have kept := shallow indent rfl
        rw [List.takeWhile_cons_of_neg (by simpa using kept), List.append_nil]
  rw [unroll, outside, isIndents]
  simp only [Bool.false_eq_true, if_false, ended, List.drop_left]

/-! ## Rounds -/

/-- One round: the state before the next token is brought in order, and the
token is read. -/
def Round (lexer later : Lexer) : Prop :=
  later.rest.length < lexer.rest.length ∧
    ∃ letter rest kept,
      lexer.settled.dropStaleKeys = .ok kept ∧
        kept.rest = letter :: rest ∧
          (kept.unroll kept.position.column).readToken letter = .ok later

/-- Some rounds, one after the other. -/
abbrev Reaches : Lexer → Lexer → Prop := Relation.ReflTransGen Round

theorem readAll_of_round
    {rounds : Nat}
    (round : Round lexer later) :
    lexer.readAll (rounds + 1) = later.readAll rounds := by
  obtain ⟨-, letter, rest, kept, inOrder, isRest, read⟩ := round
  rw [readAll, ← settled, inOrder]
  simp only [bind, Except.bind, isRest, read]

/-- The rounds collect the tokens, however many more there might have been. -/
theorem readAll_of_reaches
    {tokens : List Token} {rounds : Nat}
    (reaches : Reaches lexer later)
    (ends : ∀ rounds, later.rest.length < rounds →
      later.readAll rounds = .ok tokens)
    (enough : lexer.rest.length < rounds) :
    lexer.readAll rounds = .ok tokens := by
  induction reaches using Relation.ReflTransGen.head_induction_on
    generalizing rounds with
  | refl => exact ends rounds enough
  | head round _ induction =>
      obtain ⟨rounds, rfl⟩ : ∃ fewer, rounds = fewer + 1 :=
        ⟨rounds - 1, by omega⟩
      rw [readAll_of_round round]
      have shorter := round.1
      exact induction (by omega)

end Lexer

end SchemaAtlas.Yaml.Token
