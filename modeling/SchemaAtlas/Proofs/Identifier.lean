import SchemaAtlas.Source
import SchemaAtlas.Proofs.Outcome
import Mathlib.Data.List.TakeWhile

/-!
# Reading identifiers back

An identifier is written bare or between backticks, and between backticks a
backslash directly before a backtick takes away its meaning as the end.
`Identifier.read` reads one identifier by that rule and nothing else, so it
can say what the written form of a name means to whoever receives it.

Every name is read back from its written form, with one exception: behind a
name that ends in a backslash, that backslash and the closing backtick are
read together, and the quote stays open.  No name closes its quote early.
Two names never have the same written form, so the statements that ask for
tables differ wherever the tables do.
-/

namespace SchemaAtlas

namespace Identifier

/-- What reading an identifier at the front of a text comes to. -/
inductive Reading where
  /-- An identifier for the name, and what follows it. -/
  | found (name rest : List Char)
  /-- A backtick opens an identifier that no backtick closes. -/
  | unclosed
  /-- No identifier begins here. -/
  | absent
deriving DecidableEq

/-- The reading with one more letter in front of the name. -/
def Reading.behind (letter : Char) : Reading → Reading
  | .found name rest => .found (letter :: name) rest
  | other => other

/-- Reads a quoted identifier from behind its opening backtick. -/
def readQuoted : List Char → Reading
  | [] => .unclosed
  | '`' :: rest => .found [] rest
  | '\\' :: '`' :: rest => (readQuoted rest).behind '`'
  | letter :: rest => (readQuoted rest).behind letter

/-- Reads the identifier at the front of a text. -/
def read : List Char → Reading
  | [] => .absent
  | '`' :: rest => readQuoted rest
  | first :: rest =>
      if isWordLetter first && !first.isDigit then
        .found (first :: rest.takeWhile isWordLetter)
          (rest.dropWhile isWordLetter)
      else .absent

/-! ## Behind the opening backtick -/

@[simp]
theorem escapeLetters_backtick (rest : List Char) :
    escapeLetters ('`' :: rest) = '\\' :: '`' :: escapeLetters rest := by
  simp [escapeLetters]

theorem escapeLetters_cons
    {letter : Char} (ordinary : letter ≠ '`') (rest : List Char) :
    escapeLetters (letter :: rest) = letter :: escapeLetters rest := by
  simp [escapeLetters]

theorem escapeLetters_append (first second : List Char) :
    escapeLetters (first ++ second) =
      escapeLetters first ++ escapeLetters second := by
  induction first with
  | nil => rfl
  | cons letter rest induction =>
      by_cases isBacktick : letter = '`'
      · subst letter
        simp [induction]
      · simp [escapeLetters_cons isBacktick, induction]

/-- No backtick stands at the front of escaped letters. -/
theorem head?_escapeLetters_append
    {letters : List Char} (nonempty : letters ≠ []) (rest : List Char) :
    (escapeLetters letters ++ rest).head? ≠ some '`' := by
  cases letters with
  | nil => exact (nonempty rfl).elim
  | cons letter later =>
      by_cases isBacktick : letter = '`'
      · subst letter
        simp
      · simpa [escapeLetters_cons isBacktick] using isBacktick

/-- A letter stands for itself unless a backtick makes it an escape. -/
theorem readQuoted_cons
    {letter : Char} {rest : List Char}
    (ordinary : letter ≠ '`')
    (noEscape : letter = '\\' → rest.head? ≠ some '`') :
    readQuoted (letter :: rest) = (readQuoted rest).behind letter := by
  rw [readQuoted.eq_def]
  split
  · rename_i impossible
    cases impossible
  · rename_i equal
    cases equal
    exact (ordinary rfl).elim
  · rename_i equal
    cases equal
    exact (noEscape rfl rfl).elim
  · rename_i equal
    cases equal
    rfl

/--
Letters that do not end in a backslash are read back up to the closing
backtick, whatever follows it.
-/
theorem readQuoted_escapeLetters
    {letters : List Char} (closes : letters.getLast? ≠ some '\\')
    (rest : List Char) :
    readQuoted (escapeLetters letters ++ '`' :: rest) =
      .found letters rest := by
  induction letters with
  | nil => rfl
  | cons letter later induction =>
      have closesLater : later.getLast? ≠ some '\\' := by
        intro endsLater
        cases later with
        | nil => cases endsLater
        | cons next others =>
            exact closes ((List.getLast?_cons_cons).trans endsLater)
      by_cases isBacktick : letter = '`'
      · subst letter
        rw [escapeLetters_backtick]
        change (readQuoted (escapeLetters later ++ '`' :: rest)).behind '`' = _
        rw [induction closesLater]
        rfl
      · rw [escapeLetters_cons isBacktick, List.cons_append,
          readQuoted_cons isBacktick, induction closesLater]
        · rfl
        · -- The closing backtick directly follows only the last letter.
          intro isBackslash
          have notLast : later ≠ [] := by
            rintro rfl
            exact closes (by simp [isBackslash])
          exact head?_escapeLetters_append notLast _

/-- A backslash at the end takes the closing backtick for itself. -/
theorem readQuoted_escapeLetters_backslash (letters : List Char) :
    readQuoted (escapeLetters (letters ++ ['\\']) ++ ['`']) = .unclosed := by
  induction letters with
  | nil => rfl
  | cons letter later induction =>
      by_cases isBacktick : letter = '`'
      · subst letter
        rw [List.cons_append, escapeLetters_backtick]
        change (readQuoted
          (escapeLetters (later ++ ['\\']) ++ ['`'])).behind '`' = _
        rw [induction]
        rfl
      · rw [List.cons_append, escapeLetters_cons isBacktick,
          List.cons_append, readQuoted_cons isBacktick, induction]
        · rfl
        · intro _
          exact head?_escapeLetters_append (by simp) _

/-! ## Whole names -/

theorem isPlain_iff (name : String) :
    isPlain name = true ↔
      ∃ first rest, name.toList = first :: rest ∧ first.isDigit = false ∧
        ∀ letter ∈ first :: rest, isWordLetter letter = true := by
  unfold isPlain
  cases name.toList with
  | nil => simp
  | cons first rest => simp

theorem escape_of_isPlain {name : String} (plain : isPlain name = true) :
    escape name = name := by
  simp [escape, plain]

theorem toList_escape_of_not_isPlain
    {name : String} (special : isPlain name = false) :
    (escape name).toList = '`' :: (escapeLetters name.toList ++ ['`']) := by
  simp [escape, special]

/-- A bare name is read as itself. -/
theorem read_of_isPlain {name : String} (plain : isPlain name = true) :
    read name.toList = .found name.toList [] := by
  rcases (isPlain_iff name).1 plain with
    ⟨first, rest, letters, notDigit, wordLetters⟩
  have firstWord := wordLetters first List.mem_cons_self
  have restWord : ∀ letter ∈ rest, isWordLetter letter = true :=
    fun letter member => wordLetters letter (List.mem_cons_of_mem _ member)
  have notBacktick : first ≠ '`' := by
    rintro rfl
    exact absurd firstWord (by decide)
  rw [letters, read.eq_def]
  split
  · rename_i impossible
    cases impossible
  · rename_i equal
    cases equal
    exact (notBacktick rfl).elim
  · rename_i equal
    cases equal
    rw [List.takeWhile_eq_self_iff.2 restWord,
      List.dropWhile_eq_nil_iff.2 restWord, firstWord, notDigit]
    rfl

theorem getLast?_of_isPlain {name : String} (plain : isPlain name = true) :
    name.toList.getLast? ≠ some '\\' := by
  rcases (isPlain_iff name).1 plain with ⟨first, rest, letters, -, wordLetters⟩
  intro endsInBackslash
  rw [letters] at endsInBackslash
  have isWord := wordLetters '\\' (List.mem_of_getLast? endsInBackslash)
  exact absurd isWord (by decide)

/--
A written name is read as that name, all of it, unless the name ends in a
backslash; then the quote stays open.
-/
theorem read_escape (name : String) :
    read (escape name).toList =
      if name.toList.getLast? = some '\\' then .unclosed
      else .found name.toList [] := by
  cases plain : isPlain name with
  | true =>
      rw [escape_of_isPlain plain, if_neg (getLast?_of_isPlain plain),
        read_of_isPlain plain]
  | false =>
      rw [toList_escape_of_not_isPlain plain]
      change readQuoted (escapeLetters name.toList ++ ['`']) = _
      split
      · rename_i endsInBackslash
        rcases List.getLast?_eq_some_iff.1 endsInBackslash with
          ⟨letters, isLast⟩
        rw [isLast]
        exact readQuoted_escapeLetters_backslash letters
      · rename_i closes
        exact readQuoted_escapeLetters closes []

/-- Escaped letters determine the letters. -/
theorem escapeLetters_injective : Function.Injective escapeLetters := by
  intro first second equal
  -- A letter put behind both keeps a backslash away from the end.
  have marked : ∀ letters : List Char,
      readQuoted (escapeLetters letters ++ ['x'] ++ ['`']) =
        .found (letters ++ ['x']) [] := by
    intro letters
    have written : escapeLetters letters ++ ['x'] =
        escapeLetters (letters ++ ['x']) :=
      (escapeLetters_append letters ['x']).symm
    rw [written]
    exact readQuoted_escapeLetters (by simp) []
  have sameReading := (marked first).symm.trans (equal ▸ marked second)
  have sameMarked : first ++ ['x'] = second ++ ['x'] := by
    injection sameReading
  exact List.append_cancel_right sameMarked

/-- A quoted name has another first letter than a bare one. -/
theorem escape_ne_of_isPlain
    {plainName other : String}
    (plain : isPlain plainName = true) (special : isPlain other = false) :
    escape plainName ≠ escape other := by
  intro equal
  rcases (isPlain_iff plainName).1 plain with
    ⟨first, rest, letters, -, wordLetters⟩
  have sameLetters := congrArg String.toList equal
  rw [escape_of_isPlain plain, letters,
    toList_escape_of_not_isPlain special] at sameLetters
  have isBacktick : first = '`' := by
    injection sameLetters
  have isWord := wordLetters first List.mem_cons_self
  rw [isBacktick] at isWord
  exact absurd isWord (by decide)

/-- Distinct names have distinct written forms. -/
theorem escape_injective : Function.Injective escape := by
  intro first second equal
  cases plainFirst : isPlain first with
  | true =>
      cases plainSecond : isPlain second with
      | true =>
          rwa [escape_of_isPlain plainFirst,
            escape_of_isPlain plainSecond] at equal
      | false =>
          exact (escape_ne_of_isPlain plainFirst plainSecond equal).elim
  | false =>
      cases plainSecond : isPlain second with
      | true =>
          exact (escape_ne_of_isPlain plainSecond plainFirst equal.symm).elim
      | false =>
          have sameLetters := congrArg String.toList equal
          rw [toList_escape_of_not_isPlain plainFirst,
            toList_escape_of_not_isPlain plainSecond,
            List.cons_inj_right] at sameLetters
          exact String.toList_inj.1
            (escapeLetters_injective (List.append_cancel_right sameLetters))

end Identifier

/-! ## Statements that ask for tables -/

namespace Source

/-- Reads the table that a statement asks for. -/
def requested (statement : String) : Identifier.Reading :=
  match statement.toList.dropPrefix? "INFO FOR TABLE ".toList with
  | some identifier => Identifier.read identifier
  | none => .absent

theorem toList_tableStatement (table : String) :
    (tableStatement table).toList =
      "INFO FOR TABLE ".toList ++ (Identifier.escape table).toList :=
  String.toList_append

theorem requested_tableStatement (table : String) :
    requested (tableStatement table) =
      Identifier.read (Identifier.escape table).toList := by
  have behind := List.dropPrefix?_append_of_beq
    (Identifier.escape table).toList
    (beq_self_eq_true "INFO FOR TABLE ".toList)
  rw [requested, toList_tableStatement, behind]

/-- Distinct tables are asked for by distinct statements. -/
theorem tableStatement_injective : Function.Injective tableStatement := by
  intro first second equal
  have sameLetters := congrArg String.toList equal
  rw [toList_tableStatement, toList_tableStatement] at sameLetters
  exact Identifier.escape_injective
    (String.toList_inj.1 (List.append_cancel_left sameLetters))

theorem tableStatement_ne_databaseStatement (table : String) :
    tableStatement table ≠ databaseStatement := by
  intro equal
  have sameLetters := congrArg String.toList equal
  rw [toList_tableStatement] at sameLetters
  have sameLetter := congrArg (fun letters => letters[9]?) sameLetters
  simp [databaseStatement] at sameLetter

theorem acts_tableInfo (database : Database) (table : String) :
    ((ofDatabase database).tableInfo table).acts =
      [.query (tableStatement table)] := by
  simp only [ofDatabase, Attempt.acts_bind, Attempt.acts_ask,
    Attempt.outcome_ask]
  cases database (tableStatement table) with
  | ok responses => rfl
  | error failure => rfl

/--
Asking a database for a table sends one statement.  It names that table and
nothing more, unless the name ends in a backslash; then its quote is open.
-/
theorem tableInfo_requests
    (database : Database) (table : String) :
    ∃ statement,
      ((ofDatabase database).tableInfo table).acts = [.query statement] ∧
      requested statement =
        Identifier.read (Identifier.escape table).toList ∧
      Identifier.read (Identifier.escape table).toList =
        if table.toList.getLast? = some '\\' then .unclosed
        else .found table.toList [] :=
  ⟨tableStatement table, acts_tableInfo database table,
    requested_tableStatement table, Identifier.read_escape table⟩

/-- Not every name is read back. -/
theorem not_all_names_read_back :
    ¬ ∀ name : String,
        Identifier.read (Identifier.escape name).toList =
          .found name.toList [] := by
  intro readBack
  exact absurd (readBack "\\") (by decide)

end Source

end SchemaAtlas
