import SchemaAtlas.Yaml.Scalar.Reader
import SchemaAtlas.Proofs.Yaml.Letters

/-!
# Literal blocks are read back

A literal block is a text with its last line ended, each line that is not
empty behind blanks.  Its reader keeps the line break behind the last line and
the empty lines after it apart, and the mark behind the bar says how much of
them belongs to the text.
-/

namespace SchemaAtlas.Yaml.Scalar

variable
    {letter : Char}
    {letters body rest next : List Char}
    {breaks : List Char}
    {column widest width margin : Nat}

/-! ## Texts of ended lines -/

/-- The text with its last line ended. -/
def ended (letters : List Char) : List Char :=
  if letters.getLast?.any isBreak then letters else letters ++ ['\n']

/-- A text of lines each of which has its end. -/
inductive Lined : List Char → Prop
  | done : Lined []
  | empty {ending : Char} {rest : List Char} :
      isBreak ending = true → Lined rest → Lined (ending :: rest)
  | line {first ending : Char} (line : List Char) {rest : List Char} :
      (∀ letter ∈ first :: line, isBreak letter = false) →
      isBreak ending = true → Lined rest →
      Lined (first :: (line ++ ending :: rest))

theorem lined_of_getLast?
    (closed : ∀ last ∈ letters.getLast?, isBreak last = true) :
    Lined letters := by
  induction letters with
  | nil => exact .done
  | cons letter rest induction =>
      cases ends : isBreak letter with
      | true =>
          refine .empty ends (induction fun last isLast => ?_)
          cases rest with
          | nil => cases isLast
          | cons next rest => exact closed last (by simpa using isLast)
      | false =>
          cases rest with
          | nil =>
              have open' := closed letter rfl
              rw [ends] at open'
              cases open'
          | cons next rest =>
              have linedRest := induction fun last isLast =>
                closed last (by simpa using isLast)
              cases linedRest with
              | empty endsNext linedLater =>
                  exact .line [] (by simpa using ends) endsNext linedLater
              | line line inLine endsNext linedLater =>
                  exact .line (_ :: line) (by simpa [ends] using inLine)
                    endsNext linedLater

theorem lined_ended (letters : List Char) : Lined (ended letters) := by
  apply lined_of_getLast?
  rw [ended]
  split
  next closed =>
    intro last isLast
    rwa [isLast] at closed
  next => simp [isBreak]

/-! ## The written lines -/

theorem indentedLines_line
    (inLine : ∀ letter ∈ letters, isBreak letter = false)
    (ends : isBreak letter = true) :
    indentedLines width false (letters ++ letter :: rest) =
      letters ++ letter :: indentedLines width true rest := by
  induction letters with
  | nil => simp [indentedLines, ends]
  | cons first later induction =>
      simp only [List.mem_cons, forall_eq_or_imp] at inLine
      simp [indentedLines, inLine.1, induction inLine.2]

theorem length_le_indentedLines
    (width : Nat) (letters : List Char) (lineStart : Bool) :
    letters.length ≤ (indentedLines width lineStart letters).length := by
  induction letters generalizing lineStart with
  | nil => exact Nat.zero_le _
  | cons first later induction =>
      have longerTrue := induction true
      have longerFalse := induction false
      rw [indentedLines]
      split
      · simpa using longerTrue
      · simp only [List.length_append, List.length_cons]
        omega

theorem indentedLines_append_break (lineStart : Bool) :
    indentedLines width lineStart (letters ++ ['\n']) =
      indentedLines width lineStart letters ++ ['\n'] := by
  induction letters generalizing lineStart with
  | nil => rfl
  | cons first later induction =>
      rw [List.cons_append, indentedLines, indentedLines, induction, induction]
      split <;> simp

theorem getLast?_indentedLines (lineStart : Bool) :
    (indentedLines width lineStart letters).getLast? = letters.getLast? := by
  induction letters generalizing lineStart with
  | nil => rfl
  | cons first later induction =>
      rw [indentedLines]
      split <;> simp [List.getLast?_cons, induction]

theorem writeLine_literal (present : letters ≠ []) :
    writeLine width .literal letters =
      '|' :: (literalHints letters ++
        '\n' :: indentedLines width true (ended letters)) := by
  have last : (write width .literal letters).getLast? = letters.getLast? := by
    obtain ⟨last, isLast⟩ : ∃ last, letters.getLast? = some last :=
      ⟨_, List.getLast?_eq_some_getLast present⟩
    rw [write, List.getLast?_cons, List.getLast?_append, List.getLast?_cons,
      getLast?_indentedLines, isLast]
    rfl
  rw [writeLine, last, ended]
  split
  · rfl
  · rw [indentedLines_append_break]
    simp [write]

/-! ## The margin -/

/-- Blanks up to the width of the margin belong to it. -/
theorem readMargin_blanks
    {indent : Option Nat} {count : Nat}
    (inside : ∀ width ∈ indent, column + count ≤ width) :
    readMargin indent breaks column widest (blanks count ++ rest) =
      readMargin indent breaks (column + count) widest rest := by
  induction count generalizing column with
  | zero => rfl
  | succ count induction =>
      have insideHere : (indent.all fun width => column < width) = true := by
        cases indent with
        | none => rfl
        | some width =>
            have fits := inside width rfl
            simp only [Option.all_some, decide_eq_true_eq]
            omega
      have insideLater : ∀ width ∈ indent, column + 1 + count ≤ width := by
        intro width given
        have fits := inside width given
        omega
      have placed : column + (count + 1) = column + 1 + count := by omega
      rw [blanks, List.replicate_succ, List.cons_append, readMargin, placed]
      · simpa [insideHere, blanks] using induction insideLater
      · simp

/-- The margin ends where a line begins. -/
theorem readMargin_line
    {indent : Option Nat}
    (inLine : isBreak letter = false)
    (outside : isBlank letter = true → indent = some column) :
    readMargin indent breaks column widest (letter :: rest) =
      .ok ⟨breaks, column, max widest column, letter :: rest⟩ := by
  rw [readMargin]
  · cases blank : isBlank letter with
    | true => simp [outside blank, inLine]
    | false =>
        simp only [isBlank, Bool.or_eq_false_iff,
          decide_eq_false_iff_not] at blank
        simp [blank, inLine]
  · rintro other rfl
    cases inLine

/-- An empty line is kept. -/
theorem readMargin_empty
    {indent : Option Nat}
    (printable : isPrintable letter = true) (ends : isBreak letter = true) :
    readMargin indent breaks column widest (letter :: rest) =
      readMargin indent (breaks ++ [letter]) 0 (max widest column) rest := by
  have notBlank : isBlank letter = false :=
    Bool.eq_false_iff.2 fun blank => by
      rw [isBreak_of_isBlank blank] at ends
      cases ends
  simp only [isBlank, Bool.or_eq_false_iff, decide_eq_false_iff_not] at notBlank
  rw [readMargin]
  · simp only [notBlank, ends, decide_false, Bool.false_and, Bool.false_eq_true,
      if_false, if_true]
    rw [read_break_of_isPrintable printable ends]
  · rintro other rfl
    exact absurd rfl (isPrintable_ne printable rfl)

/-! ## The lines -/

/-- How much of a block has been read: the lines, the break behind the last of
them, and the empty lines after it. -/
structure ReadsUpTo (soFar : BlockSoFar) (breaks : List Char) : Prop where
  empty : ∀ letter ∈ breaks, isBreak letter = true
  ends :
    soFar.letters = [] ∧ soFar.leadingBreak = [] ∨
      ∃ front last ending, soFar.letters = front ++ [last] ∧
        isBreak last = false ∧
        soFar.leadingBreak = [ending] ∧ isBreak ending = true

theorem readsUpTo_start : ReadsUpTo ⟨[], [], false⟩ [] :=
  ⟨by simp, .inl ⟨rfl, rfl⟩⟩

theorem readsUpTo_line
    (earlier : List Char)
    (inLine : ∀ letter ∈ letters, isBreak letter = false)
    (present : letters ≠ [])
    (ends : isBreak letter = true)
    (leadingBlank : Bool) :
    ReadsUpTo ⟨earlier ++ letters, [letter], leadingBlank⟩ [] := by
  refine ⟨by simp,
    .inr ⟨earlier ++ letters.dropLast, letters.getLast present, letter,
      ?_, inLine _ (List.getLast_mem present), rfl, ends⟩⟩
  rw [List.append_assoc, List.dropLast_concat_getLast present]

theorem takeWhile_line
    (inLine : ∀ letter ∈ letters, isBreak letter = false)
    (ends : isBreak letter = true) :
    (letters ++ letter :: rest).takeWhile (fun letter => !isBreak letter) =
      letters := by
  rw [List.takeWhile_append_of_pos (by simpa using inLine)]
  simp [ends]

theorem dropWhile_line
    (inLine : ∀ letter ∈ letters, isBreak letter = false)
    (ends : isBreak letter = true) :
    (letters ++ letter :: rest).dropWhile (fun letter => !isBreak letter) =
      letter :: rest := by
  rw [List.dropWhile_append_of_pos (by simpa using inLine)]
  simp [ends]

/-- One line of a block is read up to the end of it. -/
theorem readLines_line
    {soFar : BlockSoFar} {rounds : Nat} {ending : Char}
    (inLine : ∀ letter ∈ letters, isBreak letter = false)
    (present : letters ≠ [])
    (printable : isPrintable ending = true) (ends : isBreak ending = true) :
    readLines true width (rounds + 1) soFar
        ⟨breaks, width, widest, letters ++ ending :: rest⟩ =
      readMargin (some width) [] 0 0 rest >>=
        readLines true width rounds
          ⟨soFar.letters ++ soFar.leadingBreak ++ breaks ++ letters, [ending],
            letters.head?.any isBlank⟩ := by
  have isText : (letters ++ ending :: rest).isEmpty = false := by
    cases letters <;> rfl
  have head : (letters ++ ending :: rest).head? = letters.head? := by
    cases letters with
    | nil => exact absurd rfl present
    | cons first later => rfl
  rw [readLines, if_pos (by simp [isText])]
  simp only [takeWhile_line inLine ends, dropWhile_line inLine ends,
    takeBreak_of_isBreak printable ends, head]
  rfl

/-- The lines of a block are read up to the first line left of it. -/
theorem readLines_of_lined
    {soFar : BlockSoFar} {rounds : Nat}
    (widest : Nat)
    (lined : Lined body)
    (printable : ∀ letter ∈ body, isPrintable letter = true)
    (readsUpTo : ReadsUpTo soFar breaks)
    (shallow : column < width)
    (begins : ∀ letter ∈ next.head?,
      isBlank letter = false ∧ isBreak letter = false)
    (enough : body.length ≤ rounds) :
    ∃ final last,
      (readMargin (some width) breaks 0 widest
          (indentedLines width true body ++ (blanks column ++ next)) >>=
        readLines true width rounds soFar) = .ok (final, last) ∧
      ReadsUpTo final last.breaks ∧
      final.letters ++ (final.leadingBreak ++ last.breaks) =
        soFar.letters ++ (soFar.leadingBreak ++ (breaks ++ body)) ∧
      last.column = column ∧ last.rest = next := by
  induction lined generalizing soFar breaks rounds widest with
  | done =>
      have atMargin : readMargin (some width) breaks 0 widest
          (indentedLines width true [] ++ (blanks column ++ next)) =
            .ok ⟨breaks, column, max widest column, next⟩ := by
        rw [indentedLines, List.nil_append,
          readMargin_blanks (by simpa using Nat.le_of_lt shallow), Nat.zero_add]
        cases next with
        | nil => rw [readMargin]
        | cons letter rest =>
            obtain ⟨notBlank, notBreak⟩ := begins letter rfl
            exact readMargin_line notBreak (by simp [notBlank])
      have stops : readLines true width rounds soFar
          ⟨breaks, column, max widest column, next⟩ =
            .ok (soFar, ⟨breaks, column, max widest column, next⟩) := by
        cases rounds with
        | zero => rfl
        | succ rounds =>
            rw [readLines, if_neg (by simp [Nat.ne_of_lt shallow])]
            rfl
      rw [atMargin]
      exact ⟨soFar, _, stops, readsUpTo, by simp, rfl, rfl⟩
  | @empty ending rest ends lined induction =>
      simp only [List.mem_cons, forall_eq_or_imp] at printable
      have readsUpToLater : ReadsUpTo soFar (breaks ++ [ending]) :=
        ⟨by simpa [or_imp, forall_and, ends] using readsUpTo.empty,
          readsUpTo.ends⟩
      have read := @induction (breaks ++ [ending]) soFar rounds (max widest 0)
        printable.2 readsUpToLater (by simp at enough; omega)
      rw [indentedLines, if_pos ends, List.cons_append,
        readMargin_empty printable.1 ends]
      simpa only [List.append_assoc, List.singleton_append] using read
  | @line first ending line rest inLine ends lined induction =>
      obtain ⟨rounds, rfl⟩ : ∃ fewer, rounds = fewer + 1 :=
        ⟨rounds - 1, by simp at enough; omega⟩
      have firstInLine : isBreak first = false :=
        inLine first List.mem_cons_self
      have lineInLine : ∀ letter ∈ line, isBreak letter = false :=
        fun letter mem => inLine letter (List.mem_cons_of_mem _ mem)
      have endingPrintable : isPrintable ending = true :=
        printable ending (by simp)
      have atMargin : readMargin (some width) breaks 0 widest
          (indentedLines width true (first :: (line ++ ending :: rest)) ++
            (blanks column ++ next)) =
              .ok ⟨breaks, width, max widest width,
                (first :: line) ++ ending ::
                  (indentedLines width true rest ++
                    (blanks column ++ next))⟩ := by
        rw [indentedLines, if_neg (by simp [firstInLine]), if_pos rfl,
          indentedLines_line lineInLine ends, List.append_assoc,
          readMargin_blanks (by simp), Nat.zero_add, List.cons_append,
          readMargin_line firstInLine (fun _ => rfl)]
        simp
      have readsUpToLater : ReadsUpTo
          ⟨soFar.letters ++ soFar.leadingBreak ++ breaks ++ (first :: line),
            [ending], (first :: line).head?.any isBlank⟩ [] :=
        readsUpTo_line _ inLine (by simp) ends _
      obtain ⟨final, last, run, upTo, total, place⟩ := @induction [] _ rounds 0
        (fun letter mem => printable letter (by simp [mem])) readsUpToLater
        (by simp at enough; omega)
      refine ⟨final, last, ?_, upTo, by simpa using total, place⟩
      rw [atMargin]
      exact (readLines_line inLine (by simp) endingPrintable ends).trans run

/-! ## The end of a text -/

/-- What the end of a text asks of its block. -/
inductive Chomps : List Char → Chomping → Prop
  | strip {front : List Char} {last : Char} :
      isBreak last = false → Chomps (front ++ [last]) .strip
  | clip {front : List Char} {last ending : Char} :
      isBreak last = false → isBreak ending = true →
      Chomps (front ++ [last] ++ [ending]) .clip
  | keep {front : List Char} {ending : Char} :
      isBreak ending = true → Chomps (front ++ [ending]) .keep

/-- The text that is made of what has been read of a block. -/
def chomped (chomping : Chomping) (soFar : BlockSoFar) (breaks : List Char) :
    List Char :=
  match chomping with
  | .strip => soFar.letters
  | .clip => soFar.letters ++ soFar.leadingBreak
  | .keep => soFar.letters ++ soFar.leadingBreak ++ breaks

/-- Where only the last letter is a line break, it is the one behind the last
line. -/
theorem ReadsUpTo.eq_of_one
    {soFar : BlockSoFar} {front : List Char} {last : Char}
    (readsUpTo : ReadsUpTo soFar breaks)
    (total : soFar.letters ++ (soFar.leadingBreak ++ breaks) =
      front ++ [last] ++ [letter])
    (inLine : isBreak last = false) :
    soFar.letters = front ++ [last] ∧ soFar.leadingBreak = [letter] := by
  obtain ⟨empty,
    ⟨noLetters, noBreak⟩ | ⟨stem, final, ending, isStem, -, isEnding, ends⟩⟩ :=
    readsUpTo
  · rw [noLetters, noBreak, List.nil_append, List.nil_append] at total
    have broken := empty last (by simp [total])
    rw [inLine] at broken
    cases broken
  rw [isEnding] at total ⊢
  rcases List.eq_nil_or_concat breaks with rfl | ⟨earlier, further, rfl⟩
  · rw [List.append_nil] at total
    obtain ⟨sameStem, sameEnding⟩ := List.append_inj' total rfl
    exact ⟨sameStem, sameEnding⟩
  · -- With a further line break the last letter before it would be one too.
    rw [List.singleton_append, List.concat_eq_append, ← List.cons_append,
      ← List.append_assoc] at total
    have sameStem := (List.append_inj' total rfl).1
    have isLast : (ending :: earlier).getLast? = some last := by
      have sameLast := congrArg List.getLast? sameStem
      simpa [List.getLast?_cons] using sameLast
    have broken : isBreak last = true := by
      rcases List.mem_cons.1 (List.mem_of_getLast? isLast) with rfl | mem
      · exact ends
      · exact empty last (by simp [mem])
    rw [inLine] at broken
    cases broken

theorem ReadsUpTo.chomped_eq
    {soFar : BlockSoFar} {chomping : Chomping}
    (readsUpTo : ReadsUpTo soFar breaks)
    (chomps : Chomps letters chomping)
    (total : soFar.letters ++ (soFar.leadingBreak ++ breaks) = ended letters) :
    chomped chomping soFar breaks = letters := by
  cases chomps with
  | strip inLine =>
      rw [ended, if_neg (by simp [inLine])] at total
      exact (readsUpTo.eq_of_one total inLine).1
  | clip inLine ends =>
      rw [ended, if_pos (by simp [ends])] at total
      obtain ⟨sameStem, sameEnding⟩ := readsUpTo.eq_of_one total inLine
      rw [chomped, sameStem, sameEnding]
  | keep ends =>
      rw [ended, if_pos (by simp [ends])] at total
      rw [chomped, List.append_assoc, total]

/-! ## The header -/

/-- Whether the first line of a text does not show its indentation. -/
def hidesIndentation (letters : List Char) : Bool :=
  letters.head?.any fun letter => isSpace letter || isBreak letter

/-- What stands for the end of a text behind the bar. -/
def Chomping.mark : Chomping → List Char
  | .strip => ['-']
  | .clip => []
  | .keep => ['+']

theorem exists_chomps (present : letters ≠ []) :
    ∃ chomping, Chomps letters chomping ∧
      literalHints letters =
        (if hidesIndentation letters then ['2'] else []) ++ chomping.mark := by
  have digit : Nat.toDigits 10 indentStep = ['2'] := by decide
  rw [literalHints, digit, ← hidesIndentation]
  obtain ⟨front, last, rfl⟩ : ∃ front last, letters = front ++ [last] :=
    ⟨_, _, (List.dropLast_concat_getLast present).symm⟩
  cases ends : isBreak last with
  | false =>
      refine ⟨.strip, .strip ends, ?_⟩
      rcases List.eq_nil_or_concat front with rfl | ⟨front, previous, rfl⟩
      · simp [Chomping.mark, ends]
      · simp [Chomping.mark, ends]
  | true =>
      rcases List.eq_nil_or_concat front with rfl | ⟨front, previous, rfl⟩
      · exact ⟨.keep, @Chomps.keep [] last ends, by simp [Chomping.mark, ends]⟩
      cases endsBefore : isBreak previous with
      | true =>
          exact ⟨.keep, .keep ends, by simp [Chomping.mark, ends, endsBefore]⟩
      | false =>
          rw [List.concat_eq_append]
          exact ⟨.clip, .clip endsBefore ends,
            by simp [Chomping.mark, ends, endsBefore]⟩

theorem readHeader_hints
    (hides : Bool) (chomping : Chomping) (rest : List Char) :
    readHeader
      ((if hides then ['2'] else []) ++ chomping.mark ++ '\n' :: rest) =
      (⟨chomping, if hides then some indentStep else none⟩, '\n' :: rest) := by
  cases hides with
  | true => cases chomping <;> rfl
  | false => cases chomping <;> rfl

/-! ## A whole block -/

/-- What has to hold of a text so that it may stand as a literal block. -/
structure IsLiteral (letters : List Char) : Prop where
  present : letters ≠ []
  printable : ∀ letter ∈ letters, isPrintable letter = true

theorem isLiteral_of_allowsLiteral (allowed : allowsLiteral letters = true) :
    IsLiteral letters := by
  simp only [allowsLiteral, needsEscapes, Bool.and_eq_true, Bool.not_eq_true',
    List.any_eq_false, Bool.not_eq_false, List.isEmpty_eq_false_iff] at allowed
  exact ⟨allowed.1.1.1, allowed.2⟩

theorem printable_ended (literal : IsLiteral letters) :
    ∀ letter ∈ ended letters, isPrintable letter = true := by
  rw [ended]
  split
  · exact literal.printable
  · intro letter mem
    rcases List.mem_append.1 mem with mem | mem
    · exact literal.printable letter mem
    · rw [List.mem_singleton.1 mem]
      rfl

/-- A text that shows its indentation by itself begins with a line that has as
many blanks in front of it. -/
theorem readMargin_of_shown
    {indent : Option Nat}
    (literal : IsLiteral letters)
    (shown : hidesIndentation letters = false)
    (inside : ∀ given ∈ indent, width ≤ given) :
    readMargin indent [] 0 0
      (indentedLines width true (ended letters) ++ rest) =
      .ok ⟨[], width, width,
        (indentedLines width true (ended letters) ++ rest).drop width⟩ := by
  obtain ⟨first, later, rfl⟩ := List.exists_cons_of_ne_nil literal.present
  simp only [hidesIndentation, List.head?_cons, Option.any_some,
    Bool.or_eq_false_iff, isSpace, decide_eq_false_iff_not] at shown
  have printable := literal.printable first List.mem_cons_self
  have notBlank : isBlank first = false := isBlank_eq_false printable shown.1
  obtain ⟨further, isEnded⟩ :
      ∃ further, ended (first :: later) = first :: further := by
    rw [ended]
    split
    · exact ⟨_, rfl⟩
    · exact ⟨_, rfl⟩
  rw [isEnded, indentedLines, if_neg (by simp [shown.2]), if_pos rfl,
    List.append_assoc, readMargin_blanks (by simpa using inside), Nat.zero_add,
    List.cons_append, readMargin_line shown.2 (by simp [notBlank]),
    Nat.zero_max, List.drop_left' (by simp [blanks])]

/-- A literal block is read up to the first line left of it. -/
theorem readBlock_of_isLiteral
    {parent : Nat}
    (literal : IsLiteral letters)
    (shallow : column < parent + indentStep)
    (begins : ∀ letter ∈ next.head?,
      isBlank letter = false ∧ isBreak letter = false) :
    readBlock true parent
        (literalHints letters ++ '\n' ::
          (indentedLines (parent + indentStep) true (ended letters) ++
            (blanks column ++ next))) =
      .ok (letters, blanks column ++ next) := by
  generalize isWidth : parent + indentStep = width at *
  obtain ⟨chomping, chomps, hints⟩ := exists_chomps literal.present
  generalize isText :
    indentedLines width true (ended letters) ++ (blanks column ++ next) = text
  have enough : (ended letters).length ≤ text.length + 1 := by
    have longer := length_le_indentedLines width (ended letters) true
    rw [← isText, List.length_append]
    omega
  obtain ⟨final, last, run, upTo, total, isColumn, isNext⟩ :=
    readLines_of_lined 0 (lined_ended letters)
      (printable_ended literal) readsUpTo_start shallow begins enough
  rw [isText] at run
  have parts : ∃ margin,
      readMargin (if hidesIndentation letters then some width else none)
          [] 0 0 text =
        .ok margin ∧
      (if hidesIndentation letters then some width else none).getD
        (max margin.widest (max ((parent : Int) + 1) 1).toNat) = width ∧
      readLines true width (text.length + 1) ⟨[], [], false⟩ margin =
        .ok (final, last) := by
    cases hides : hidesIndentation letters with
    | true =>
        cases atMargin : readMargin (some width) [] 0 0 text with
        | error fault =>
            rw [atMargin] at run
            cases run
        | ok margin =>
            rw [atMargin] at run
            exact ⟨margin, by simpa using atMargin, rfl, run⟩
    | false =>
        have shown (indent : Option Nat)
            (inside : ∀ given ∈ indent, width ≤ given) :
            readMargin indent [] 0 0 text =
              .ok ⟨[], width, width, text.drop width⟩ := by
          rw [← isText]
          exact readMargin_of_shown literal hides inside
        rw [shown (some width) (by simp)] at run
        refine ⟨_, shown none (by simp), ?_, run⟩
        show max width (max ((parent : Int) + 1) 1).toNat = width
        rw [indentStep] at isWidth
        omega
  obtain ⟨margin, atMargin, isIndent, lines⟩ := parts
  have read : chomped chomping final last.breaks = letters :=
    upTo.chomped_eq chomps total
  have gaps : ('\n' :: text).dropWhile isBlank = '\n' :: text := rfl
  have taken : takeBreak ('\n' :: text) = some ('\n', text) := rfl
  have noComment : ¬ some '\n' = some '#' := by decide
  have given :
      ((if hidesIndentation letters = true then some indentStep else none).map
        fun increment => (max (parent : Int) 0).toNat + increment) =
          if hidesIndentation letters then some width else none := by
    split <;> simp [← isWidth]
  rw [readBlock, hints, readHeader_hints]
  simp only [gaps, List.head?_cons, if_neg noComment, taken, given, bind,
    Except.bind, pure, Except.pure, atMargin, isIndent, lines]
  rw [isColumn, isNext]
  exact
    congrArg (fun letters => Except.ok (letters, blanks column ++ next)) read

end SchemaAtlas.Yaml.Scalar
