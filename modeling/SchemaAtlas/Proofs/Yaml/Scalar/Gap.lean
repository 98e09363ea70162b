import SchemaAtlas.Yaml.Scalar.Reader
import SchemaAtlas.Proofs.Yaml.Letters

/-!
# Gaps within scalars

A reader keeps blanks and line breaks back until it knows whether the text
goes on behind them.  Blanks within a line are kept as they are, and so are
the separators of lines and paragraphs; only a line feed would be folded.
-/

namespace SchemaAtlas.Yaml.Scalar

/-! ## What is put in front -/

section Front

variable {α ε : Type}

theorem map_withFront_nil (read : Except ε (List Char × α)) :
    read.map (withFront []) = read := by
  cases read <;> rfl

theorem map_withFront_map
    (outer inner : List Char) (read : Except ε (List Char × α)) :
    (read.map (withFront inner)).map (withFront outer) =
      read.map (withFront (outer ++ inner)) := by
  cases read with
  | error fault => rfl
  | ok found => simp [Except.map, withFront]

end Front

/-! ## Gaps that grow -/

namespace Gap

variable
    {letter : Char}
    {gap : Gap}

/-- No line break of the gap is folded. -/
def Keeps (gap : Gap) : Prop :=
  ∀ first further, gap = .breaks first further → first ≠ ['\n']

@[simp]
theorem isBroken_addBlank : (gap.addBlank letter).isBroken = gap.isBroken := by
  cases gap <;> rfl

theorem letters_addBlank (unbroken : gap.isBroken = false) :
    (gap.addBlank letter).letters = gap.letters ++ [letter] := by
  cases gap with
  | none => rfl
  | blanks letters => rfl
  | breaks first further => cases unbroken

@[simp]
theorem isBroken_addBreak : (gap.addBreak letter).isBroken = true := by
  cases gap <;> rfl

theorem keeps_addBreak (keeps : gap.Keeps) (separator : letter ≠ '\n') :
    (gap.addBreak letter).Keeps := by
  intro first further isBreaks
  cases gap with
  | none =>
      cases isBreaks
      simpa using separator
  | blanks letters =>
      cases isBreaks
      simpa using separator
  | breaks first further =>
      cases isBreaks
      exact keeps _ _ rfl

theorem letters_addBreak
    (keeps : gap.Keeps) (separator : letter ≠ '\n')
    (noBlanks : gap.isOpen = true → gap.isBroken = true) :
    (gap.addBreak letter).letters = gap.letters ++ [letter] := by
  cases gap with
  | none => simp [addBreak, letters, separator]
  | blanks letters => cases noBlanks rfl
  | breaks first further =>
      have unfolded := keeps first further rfl
      simp [addBreak, letters, unfolded]

theorem keeps_of_unbroken (unbroken : gap.isBroken = false) : gap.Keeps := by
  rintro first further rfl
  cases unbroken

end Gap

end SchemaAtlas.Yaml.Scalar
