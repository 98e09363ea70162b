import SchemaAtlas.Proofs.Yaml.Scalar.Plain
import SchemaAtlas.Proofs.Yaml.Scalar.Quoted
import SchemaAtlas.Proofs.Yaml.Scalar.Block

/-!
# The form of a text suits it

Each form of a scalar asks something of the text that is written in it.  The
form that a text gets is one that suits it, so nothing of the text is lost.
-/

namespace SchemaAtlas.Yaml.Scalar

variable
    {style : Style}
    {letter : Char}
    {letters : List Char}
    {width : Nat}

/-- The texts that may be written in a form. -/
inductive Suits : Style → List Char → Prop
  | plain {letters : List Char} :
      letters ≠ [] → IsBare letters → Suits .plain letters
  | singleQuoted {letters : List Char} :
      IsSingle letters → Suits .singleQuoted letters
  | doubleQuoted {letters : List Char} : Suits .doubleQuoted letters
  | literal {letters : List Char} : IsLiteral letters → Suits .literal letters

theorem suits_styleOf (text : String) : Suits (styleOf text) text.toList := by
  have quoted (oneLine : '\n' ∉ text.toList) :
      Suits (if allowsSingle text.toList then .singleQuoted else .doubleQuoted)
        text.toList := by
    split
    next allowed =>
      exact .singleQuoted (isSingle_of_allowsSingle allowed oneLine)
    next => exact .doubleQuoted
  rw [styleOf]
  by_cases broken : text.toList.contains '\n' = true
  · rw [if_pos broken]
    split
    next allowed => exact .literal (isLiteral_of_allowsLiteral allowed)
    next => exact .doubleQuoted
  have oneLine : '\n' ∉ text.toList := by simpa using broken
  rw [if_neg broken]
  by_cases other : looksOther text = true
  · rw [if_pos other]
    exact quoted oneLine
  rw [if_neg other]
  split
  next allowed =>
    have present : text.toList ≠ [] := by
      intro empty
      simp [looksOther, String.toList_eq_nil_iff.1 empty] at other
    exact .plain present (isBare_of_allowsPlain allowed)
  next => exact quoted oneLine

/-! ## Words -/

/-- Whether the letter may stand anywhere in a bare text. -/
def isWordLetter (letter : Char) : Bool :=
  isPrintable letter && !isBreak letter && !isSpace letter &&
    !openingIndicators.contains letter &&
      !(['?', ':', '-', '.'].contains letter)

theorem isWordLetter_iff :
    isWordLetter letter = true ↔
      isPrintable letter = true ∧ isBreak letter = false ∧ letter ≠ ' ' ∧
        letter ∉ openingIndicators ∧
          letter ≠ '?' ∧ letter ≠ ':' ∧ letter ≠ '-' ∧ letter ≠ '.' := by
  simp [isWordLetter, isSpace, and_assoc]

theorem holdsIndicator_of_isWordLetter
    (words : ∀ letter ∈ letters, isWordLetter letter = true)
    (behindGap : Bool) :
    holdsIndicator behindGap letters = false := by
  induction letters generalizing behindGap with
  | nil => rfl
  | cons letter later induction =>
      simp only [List.mem_cons, forall_eq_or_imp] at words
      obtain ⟨-, -, -, noOpening, -, noColon, -, -⟩ :=
        isWordLetter_iff.1 words.1
      have noComment : letter ≠ '#' := by
        rintro rfl
        exact noOpening (by decide)
      simp [holdsIndicator, noColon, noComment, induction words.2]

/-- A text of nothing but letters of words may stand bare. -/
theorem isBare_of_isWordLetter
    (words : ∀ letter ∈ letters, isWordLetter letter = true) :
    IsBare letters where
  printable letter mem := (isWordLetter_iff.1 (words letter mem)).1
  unbroken letter mem := (isWordLetter_iff.1 (words letter mem)).2.1
  opensInText letter first :=
    (isWordLetter_iff.1 (words letter (List.mem_of_head? first))).2.2.1
  closesInText letter last :=
    (isWordLetter_iff.1 (words letter (List.mem_of_getLast? last))).2.2.1
  opensNothing := by
    cases letters with
    | nil => rfl
    | cons letter later =>
        obtain ⟨-, -, -, noOpening, noQuestion, noColon, noDash, noPoint⟩ :=
          isWordLetter_iff.1 (words letter List.mem_cons_self)
        simp [opensAsIndicator, List.isPrefixOf, noOpening, noQuestion, noColon,
          noDash, noDash.symm, noPoint.symm]
  holdsNothing := holdsIndicator_of_isWordLetter words true

/-- The digits of a number may stand bare. -/
theorem suits_toDigits (value : Nat) :
    Suits .plain (Nat.toDigits 10 value) := by
  have digits : ∀ digit < 10, isWordLetter (Nat.digitChar digit) = true := by
    decide
  refine .plain Nat.toDigits_ne_nil
    (isBare_of_isWordLetter fun letter mem => ?_)
  obtain ⟨digit, isDigit, rfl⟩ := Text.exists_digitChar_of_mem (by decide) mem
  exact digits digit isDigit

/-- The digits of a number are read as that number. -/
theorem unsigned?_toDigits (value : Nat) :
    unsigned? (Nat.toDigits 10 value) = some value := by
  rcases Nat.eq_zero_or_pos value with rfl | positive
  · decide
  have number := Text.natural?_toDigits_ten value
  have noZero := Text.head?_toDigits_ten_ne_zero positive
  have digits :
      ∀ letter ∈ Nat.toDigits 10 value, letter ≠ '+' ∧ letter ≠ '-' := by
    have each : ∀ digit < 10,
        Nat.digitChar digit ≠ '+' ∧ Nat.digitChar digit ≠ '-' := by
      decide
    intro letter mem
    obtain ⟨digit, small, rfl⟩ := Text.exists_digitChar_of_mem (by decide) mem
    exact each digit small
  cases isDigits : Nat.toDigits 10 value with
  | nil => exact absurd isDigits Nat.toDigits_ne_nil
  | cons first later =>
      rw [isDigits] at number noZero digits
      obtain ⟨noPlus, noMinus⟩ := digits first List.mem_cons_self
      have notZero : first ≠ '0' := by simpa using noZero
      have noBase : based? (first :: later) = none := by
        simp [based?, notZero]
      have noLeading : hasLeadingZero (first :: later) = false := by
        simp [hasLeadingZero, notZero, noPlus, noMinus]
      simp [unsigned?, noPlus, noBase, noLeading, number]

/-! ## The written letters -/

/-- Whether a text is one that can be written as it is. -/
def AllPrintable (letters : List Char) : Prop :=
  ∀ letter ∈ letters, isPrintable letter = true

theorem allPrintable_append {letters later : List Char} :
    AllPrintable (letters ++ later) ↔
      AllPrintable letters ∧ AllPrintable later := by
  simp [AllPrintable, or_imp, forall_and]

theorem allPrintable_cons :
    AllPrintable (letter :: letters) ↔
      isPrintable letter = true ∧ AllPrintable letters := by
  simp [AllPrintable]

theorem allPrintable_blanks (count : Nat) : AllPrintable (blanks count) := by
  intro letter mem
  rw [List.eq_of_mem_replicate mem]
  rfl

/-- What is put in front of a line, where it is one. -/
theorem allPrintable_margin (lineStart : Prop) [Decidable lineStart] :
    AllPrintable (if lineStart then blanks width else []) := by
  split
  · exact allPrintable_blanks width
  · simp [AllPrintable]

theorem allPrintable_hexDigits (width value : Nat) :
    AllPrintable (hexDigits width value) := by
  have digits :
      ∀ digit < 16, isPrintable (Nat.digitChar digit).toUpper = true := by
    decide
  intro letter mem
  rcases List.mem_append.1 mem with zero | mapped
  · rw [List.eq_of_mem_replicate zero]
    rfl
  · obtain ⟨_, digitMem, rfl⟩ := List.mem_map.1 mapped
    obtain ⟨digit, small, rfl⟩ :=
      Text.exists_digitChar_of_mem (by decide) digitMem
    exact digits digit small

theorem allPrintable_doubleQuotedLetter (letter : Char) :
    AllPrintable (doubleQuotedLetter letter) := by
  have escape {kind : Char} (printable : isPrintable kind = true) :
      AllPrintable ['\\', kind] := by
    simpa [allPrintable_cons, AllPrintable] using ⟨rfl, printable⟩
  rw [doubleQuotedLetter]
  refine iteInduction (motive := AllPrintable) (fun plain => ?_) fun _ => ?_
  · simp only [Bool.and_eq_true] at plain
    simpa [AllPrintable] using plain.1.1.1
  iterate 15
    refine iteInduction (motive := AllPrintable) (fun _ => escape rfl)
      fun _ => ?_
  have numbered {kind : Char} (printable : isPrintable kind = true)
      (width : Nat) :
      AllPrintable ('\\' :: kind :: hexDigits width letter.toNat) :=
    allPrintable_cons.2
      ⟨rfl, allPrintable_cons.2 ⟨printable, allPrintable_hexDigits _ _⟩⟩
  refine iteInduction (motive := AllPrintable) (fun _ => numbered rfl 2)
    fun _ => ?_
  exact iteInduction (motive := AllPrintable) (fun _ => numbered rfl 4)
    fun _ => numbered rfl 8

theorem allPrintable_singleQuotedLetters
    (printable : AllPrintable letters) (behindBreak : Bool) :
    AllPrintable (singleQuotedLetters width behindBreak letters) := by
  induction letters generalizing behindBreak with
  | nil =>
      rw [singleQuotedLetters]
      exact allPrintable_margin _
  | cons letter later induction =>
      rw [allPrintable_cons] at printable
      rw [singleQuotedLetters]
      split
      · exact allPrintable_cons.2 ⟨printable.1, induction printable.2 true⟩
      · rw [allPrintable_append, allPrintable_append]
        refine ⟨⟨allPrintable_margin _, ?_⟩, induction printable.2 false⟩
        split
        · simp [AllPrintable, isPrintable]
        · simpa [AllPrintable] using printable.1

theorem allPrintable_indentedLines
    (printable : AllPrintable letters) (lineStart : Bool) :
    AllPrintable (indentedLines width lineStart letters) := by
  induction letters generalizing lineStart with
  | nil => simp [indentedLines, AllPrintable]
  | cons letter later induction =>
      rw [allPrintable_cons] at printable
      rw [indentedLines]
      split
      · exact allPrintable_cons.2 ⟨printable.1, induction printable.2 true⟩
      · rw [allPrintable_append, allPrintable_cons]
        exact ⟨allPrintable_margin _, printable.1, induction printable.2 false⟩

theorem allPrintable_write (width : Nat) (suits : Suits style letters) :
    AllPrintable (write width style letters) := by
  cases suits with
  | plain present bare => exact bare.printable
  | singleQuoted single =>
      rw [write, allPrintable_cons, allPrintable_append]
      exact ⟨rfl, allPrintable_singleQuotedLetters single.printable false,
        by simp [AllPrintable, isPrintable]⟩
  | doubleQuoted =>
      rw [write, allPrintable_cons, allPrintable_append]
      refine ⟨rfl, fun letter mem => ?_, by simp [AllPrintable, isPrintable]⟩
      obtain ⟨origin, -, mem⟩ := List.mem_flatMap.1 mem
      exact allPrintable_doubleQuotedLetter origin letter mem
  | literal literal =>
      obtain ⟨chomping, -, hints⟩ := exists_chomps literal.present
      rw [write, hints, allPrintable_cons, allPrintable_append,
        allPrintable_append, allPrintable_cons]
      refine ⟨rfl, ⟨?_, ?_⟩, rfl,
        allPrintable_indentedLines literal.printable true⟩
      · split <;> simp [AllPrintable, isPrintable]
      · cases chomping <;> simp [Chomping.mark, AllPrintable, isPrintable]

/-- A scalar is written with letters that may stand as they are. -/
theorem allPrintable_writeLine (width : Nat) (suits : Suits style letters) :
    AllPrintable (writeLine width style letters) := by
  have written := allPrintable_write width suits
  rw [writeLine]
  split
  · exact written
  · exact allPrintable_append.2 ⟨written, by simp [AllPrintable, isPrintable]⟩

/-- The last letter of a written line ends it. -/
theorem exists_writeLine (width : Nat) (style : Style) (letters : List Char) :
    ∃ front last, writeLine width style letters = front ++ [last] ∧
      isBreak last = true := by
  rw [writeLine]
  split
  next closed =>
    obtain ⟨last, isLast, ends⟩ := (Option.any_eq_true _ _).1 closed
    obtain ⟨front, isFront⟩ := List.getLast?_eq_some_iff.1 isLast
    exact ⟨front, last, isFront, ends⟩
  next => exact ⟨_, '\n', rfl, rfl⟩

theorem writeLine_plain (bare : IsBare letters) :
    writeLine width .plain letters = letters ++ ['\n'] := by
  have unended : letters.getLast?.any isBreak = false := by
    rw [Option.any_eq_false]
    intro last isLast
    simp [bare.unbroken last (List.mem_of_getLast? isLast)]
  rw [writeLine, write, unended, if_neg Bool.false_ne_true]

theorem writeLine_singleQuoted :
    writeLine width .singleQuoted letters =
      '\'' :: (singleQuotedLetters width false letters ++ ['\'', '\n']) := by
  have unended :
      (write width .singleQuoted letters).getLast?.any isBreak = false := by
    rw [write, ← List.cons_append, List.getLast?_concat]
    rfl
  rw [writeLine, unended, if_neg Bool.false_ne_true, write]
  simp

theorem writeLine_doubleQuoted :
    writeLine width .doubleQuoted letters =
      '"' :: (letters.flatMap doubleQuotedLetter ++ ['"', '\n']) := by
  have unended :
      (write width .doubleQuoted letters).getLast?.any isBreak = false := by
    rw [write, ← List.cons_append, List.getLast?_concat]
    rfl
  rw [writeLine, unended, if_neg Bool.false_ne_true, write]
  simp

end SchemaAtlas.Yaml.Scalar
