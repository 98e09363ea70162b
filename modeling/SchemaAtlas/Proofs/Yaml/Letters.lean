import SchemaAtlas.Yaml.Letters

/-!
# Letters of written texts

Every text is written with letters that may stand in a document as they are.
Of these only three end a line, and each of them is read as itself; of the
blanks only the space is among them.
-/

namespace SchemaAtlas.Yaml

variable {letter : Char}

theorem isAllowed_of_isPrintable (printable : isPrintable letter = true) :
    isAllowed letter = true := by
  simp only [isPrintable, isAllowed, Bool.or_eq_true, Bool.and_eq_true,
    beq_iff_eq, decide_eq_true_eq, bne_iff_ne] at *
  omega

theorem isPrintable_ne
    (printable : isPrintable letter = true) {other : Char}
    (unprintable : isPrintable other = false) :
    letter ≠ other := by
  rintro rfl
  rw [printable] at unprintable
  cases unprintable

theorem isBlank_iff_of_isPrintable (printable : isPrintable letter = true) :
    isBlank letter = true ↔ letter = ' ' := by
  have notTab : letter ≠ '\t' := isPrintable_ne printable rfl
  simp [isBlank, notTab]

theorem isBlank_eq_false
    (printable : isPrintable letter = true) (inText : letter ≠ ' ') :
    isBlank letter = false :=
  Bool.eq_false_iff.2 fun blank =>
    inText ((isBlank_iff_of_isPrintable printable).1 blank)

/-- The breaks that are written as they are. -/
theorem isBreak_iff_of_isPrintable (printable : isPrintable letter = true) :
    isBreak letter = true ↔
      letter = '\n' ∨ letter = '\u2028' ∨ letter = '\u2029' := by
  have notReturn : letter ≠ '\r' := isPrintable_ne printable rfl
  have notNext : letter ≠ '\u0085' := isPrintable_ne printable rfl
  simp [isBreak, notReturn, notNext, or_assoc]

/-- What a break is read as. -/
theorem read_break_of_isPrintable
    (printable : isPrintable letter = true) (ends : isBreak letter = true) :
    (if (letter = '\u2028' || letter = '\u2029') = true then letter
      else '\n') = letter := by
  rcases (isBreak_iff_of_isPrintable printable).1 ends with rfl | rfl | rfl
  · rfl
  · rfl
  · rfl

theorem takeBreak_of_isBreak
    (printable : isPrintable letter = true) (ends : isBreak letter = true)
    (rest : List Char) :
    takeBreak (letter :: rest) = some (letter, rest) := by
  rcases (isBreak_iff_of_isPrintable printable).1 ends with rfl | rfl | rfl
  · rfl
  · rfl
  · rfl

theorem takeBreak_of_not_isBreak
    (inLine : isBreak letter = false) (rest : List Char) :
    takeBreak (letter :: rest) = none := by
  simp only [isBreak, Bool.or_eq_false_iff, decide_eq_false_iff_not] at inLine
  rw [takeBreak]
  · simp [inLine]
  · intro other isReturn
    exact absurd isReturn inLine.1.1.1.2

theorem isBreak_of_isBlank (blank : isBlank letter = true) :
    isBreak letter = false := by
  simp only [isBlank, Bool.or_eq_true, decide_eq_true_eq] at blank
  rcases blank with rfl | rfl
  · rfl
  · rfl

end SchemaAtlas.Yaml
