import SchemaAtlas.Proofs.Yaml.Scalar.Gap

/-!
# Bare texts are read back

A text that may stand bare is read letter by letter up to the colon behind a
key, or up to the end of its line.  A blank within it is kept until the next
letter shows that the text goes on.
-/

namespace SchemaAtlas.Yaml.Scalar

variable
    {letter : Char}
    {letters rest stop text : List Char}
    {behindGap : Bool}
    {gap : Gap}
    {column : Nat}
    {indent : Int}

/-! ## Texts that may stand bare -/

/-- What has to hold of a text so that it may stand bare. -/
structure IsBare (letters : List Char) : Prop where
  printable : ∀ letter ∈ letters, isPrintable letter = true
  unbroken : ∀ letter ∈ letters, isBreak letter = false
  opensInText : ∀ letter ∈ letters.head?, letter ≠ ' '
  closesInText : ∀ letter ∈ letters.getLast?, letter ≠ ' '
  opensNothing : opensAsIndicator letters = false
  holdsNothing : holdsIndicator true letters = false

theorem isBare_of_allowsPlain (allowed : allowsPlain letters = true) :
    IsBare letters := by
  simp only [allowsPlain, needsEscapes, isSpace, Bool.and_eq_true,
    Bool.not_eq_true', Option.any_eq_false, List.any_eq_false,
    Bool.not_eq_false, Bool.not_eq_true, Bool.or_eq_false_iff,
    decide_eq_false_iff_not] at allowed
  obtain ⟨⟨⟨⟨⟨opens, closes⟩, unbroken⟩, printable⟩, opensNothing⟩,
    holdsNothing⟩ := allowed
  exact
    { printable := printable
      unbroken := unbroken
      opensInText := fun letter first => (opens letter first).1
      closesInText := fun letter last => (closes letter last).1
      opensNothing := opensNothing
      holdsNothing := holdsNothing }

/-! ## One letter -/

theorem readPlain_space :
    readPlain false indent gap column (' ' :: rest) =
      readPlain false indent (gap.addBlank ' ') (column + 1) rest := by
  rw [readPlain]
  · simp [isBlank]
  · simp

/-- A letter of the text, which is kept together with the gap before it. -/
theorem readPlain_letter
    (printable : isPrintable letter = true)
    (inLine : isBreak letter = false)
    (inText : letter ≠ ' ')
    (unbroken : gap.isBroken = false)
    (noComment : gap.isOpen = true → letter ≠ '#')
    (noColon : letter = ':' → atGap rest = false)
    (unmarked : column = 0 → atDocumentMark (letter :: rest) = false) :
    readPlain false indent gap column (letter :: rest) =
      (readPlain false indent .none (column + 1) rest).map
        (withFront (gap.letters ++ [letter])) := by
  have notBlank : isBlank letter = false := isBlank_eq_false printable inText
  rw [readPlain]
  · have commentFree : (gap.isOpen && decide (letter = '#')) = false := by
      simpa using noComment
    have markFree :
        (decide (column = 0) && atDocumentMark (letter :: rest)) = false := by
      simpa using unmarked
    have colonFree : (decide (letter = ':') && atGap rest) = false := by
      simpa using noColon
    simp [notBlank, inLine, unbroken, commentFree, markFree, colonFree]
  · rintro other rfl
    cases inLine

/-! ## A whole text -/

/-- The letters of a text are read one by one. -/
theorem readPlain_append
    (printable : ∀ letter ∈ letters, isPrintable letter = true)
    (unbroken : ∀ letter ∈ letters, isBreak letter = false)
    (closesInText : ∀ letter ∈ letters.getLast?, letter ≠ ' ')
    (holdsNothing : holdsIndicator behindGap letters = false)
    (gapSeen : gap.isOpen = true → behindGap = true)
    (gapUnbroken : gap.isBroken = false)
    (gapClosed : letters = [] → gap = .none)
    (unmarked : column = 0 → atDocumentMark (letters ++ stop) = false) :
    readPlain false indent gap column (letters ++ stop) =
      (readPlain false indent .none (column + letters.length) stop).map
        (withFront (gap.letters ++ letters)) := by
  induction letters generalizing gap behindGap column with
  | nil => simp [gapClosed rfl, Gap.letters, map_withFront_nil]
  | cons letter rest induction =>
      have closesLater : ∀ last ∈ rest.getLast?, last ≠ ' ' := by
        intro last isLast
        cases rest with
        | nil => cases isLast
        | cons next rest => exact closesInText last (by simpa using isLast)
      have printableLater : ∀ letter ∈ rest, isPrintable letter = true :=
        fun letter mem => printable letter (List.mem_cons_of_mem _ mem)
      have unbrokenLater : ∀ letter ∈ rest, isBreak letter = false :=
        fun letter mem => unbroken letter (List.mem_cons_of_mem _ mem)
      have placed : column + (letter :: rest).length =
          column + 1 + rest.length := by
        rw [List.length_cons]
        omega
      simp only [holdsIndicator, Bool.or_eq_false_iff] at holdsNothing
      obtain ⟨⟨noColon, noComment⟩, holdsLater⟩ := holdsNothing
      by_cases isSpace : letter = ' '
      · subst isSpace
        have goesOn : rest = [] → gap.addBlank ' ' = .none := by
          rintro rfl
          exact absurd rfl (closesInText ' ' rfl)
        rw [List.cons_append, readPlain_space,
          induction printableLater unbrokenLater closesLater holdsLater
            (fun _ => rfl) (by rw [Gap.isBroken_addBlank, gapUnbroken])
            goesOn (by simp),
          Gap.letters_addBlank gapUnbroken, placed, List.append_assoc]
        rfl
      · have colonInText : letter = ':' → atGap (rest ++ stop) = false := by
          rintro rfl
          cases rest with
          | nil => cases noColon
          | cons next rest => simpa [atGap] using noColon
        have noCommentHere : gap.isOpen = true → letter ≠ '#' := by
          intro isOpen
          simpa [gapSeen isOpen] using noComment
        rw [List.cons_append,
          readPlain_letter (printable letter List.mem_cons_self)
            (unbroken letter List.mem_cons_self) isSpace gapUnbroken
            noCommentHere colonInText unmarked,
          induction printableLater unbrokenLater closesLater holdsLater
            (by simp [Gap.isOpen]) rfl (fun _ => rfl) (by simp),
          map_withFront_map, placed]
        simp [Gap.letters]

/-! ## What ends a text -/

/-- The colon behind a key ends it. -/
theorem readPlain_colon (behind : 0 < column) (atEnd : atGap rest = true) :
    readPlain false indent .none column (':' :: rest) =
      .ok ([], false, ':' :: rest) := by
  have notFirst : column ≠ 0 := by omega
  rw [readPlain]
  · simp [isBlank, isBreak, Gap.isBroken, Gap.isOpen, atEnd, notFirst]
  · simp

/-- Blanks at the start of a line do not count. -/
theorem readPlain_blanks
    (first further : List Char) (count : Nat) :
    readPlain false indent (.breaks first further) column
        (blanks count ++ rest) =
      readPlain false indent (.breaks first further) (column + count) rest := by
  induction count generalizing column with
  | zero => rfl
  | succ count induction =>
      rw [blanks, List.replicate_succ, List.cons_append, readPlain_space,
        Nat.add_comm count, ← Nat.add_assoc]
      exact induction

/-- A line that begins left of the text ends it, and so does the end of all. -/
theorem readPlain_line
    {width : Nat}
    (shallow : (width : Int) < indent)
    (begins : ∀ letter ∈ text.head?,
      isBlank letter = false ∧ isBreak letter = false) :
    readPlain false indent .none column ('\n' :: (blanks width ++ text)) =
      .ok ([], true, text) := by
  have broken : readPlain false indent .none column
      ('\n' :: (blanks width ++ text)) =
        readPlain false indent (.breaks ['\n'] []) 0
          (blanks width ++ text) := by
    rw [readPlain]
    · simp [isBlank, isBreak, Gap.addBreak]
    · simp
  rw [broken, readPlain_blanks, Nat.zero_add]
  cases text with
  | nil => rw [readPlain, Gap.isBroken]
  | cons letter rest =>
      obtain ⟨notBlank, notBreak⟩ := begins letter rfl
      rw [readPlain]
      · simp [notBlank, notBreak, Gap.isBroken, shallow]
      · rintro other rfl
        cases notBreak

/-- A bare text is read up to what ends it. -/
theorem readPlain_of_isBare
    {broken : Bool}
    (bare : IsBare letters)
    (unmarked : column = 0 → atDocumentMark (letters ++ stop) = false)
    (ended : readPlain false indent .none (column + letters.length) stop =
      .ok ([], broken, rest)) :
    readPlain false indent .none column (letters ++ stop) =
      .ok (letters, broken, rest) := by
  rw [readPlain_append bare.printable bare.unbroken bare.closesInText
    bare.holdsNothing (by simp [Gap.isOpen]) rfl (fun _ => rfl) unmarked, ended]
  simp [Except.map, withFront, Gap.letters]

end SchemaAtlas.Yaml.Scalar
