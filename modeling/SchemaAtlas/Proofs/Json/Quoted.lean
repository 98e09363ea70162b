import SchemaAtlas.Json.Decoder
import Mathlib.Tactic.SplitIfs

/-!
# JSON strings read back

Every text is read back from its written form, with whatever stands behind
the closing quote left over.  Letters are written one at a time, so it is
enough that the reader takes the written form of one letter for that letter
in front of anything.
-/

namespace SchemaAtlas.Json

/-- The written digits of a control character stand for its number. -/
theorem hexUnit?_twoHexDigits {value : Nat} (control : value < 0x20) :
    hexUnit? '0' '0' (Nat.digitChar (value / 16))
        (Nat.digitChar (value % 16)) = some value := by
  revert value
  decide

/-- A letter that needs no escape stands for itself. -/
theorem unquoteLetters_cons
    {letter : Char} (noQuote : letter ≠ '"') (noBackslash : letter ≠ '\\')
    (printable : ¬ letter.toNat < 0x20) (rest : List Char) :
    unquoteLetters (letter :: rest) =
      (unquoteLetters rest).map (prepend letter) := by
  rw [unquoteLetters.eq_def]
  split
  case h_7 equal =>
      cases equal
      rw [if_neg printable]
  -- All other patterns begin with a quote or a backslash.
  all_goals simp_all

/-- The written form of a letter is read as that letter. -/
theorem unquoteLetters_escapeCharacter (letter : Char) (rest : List Char) :
    unquoteLetters (escapeCharacter letter ++ rest) =
      (unquoteLetters rest).map (prepend letter) := by
  rw [escapeCharacter]
  split_ifs with quote backslash backspace tab line form carriage control
  · subst quote
    rfl
  · subst backslash
    rfl
  · subst backspace
    rfl
  · subst tab
    rfl
  · subst line
    rfl
  · subst form
    rfl
  · subst carriage
    rfl
  · have isLetter := hexUnit?_twoHexDigits control
    have notTrailing : isTrailing letter.toNat = false := by
      simp [isTrailing]
      omega
    have notLeading : isLeading letter.toNat = false := by
      simp [isLeading]
      omega
    change unquoteLetters ('\\' :: 'u' :: '0' :: '0' ::
      Nat.digitChar (letter.toNat / 16) ::
        Nat.digitChar (letter.toNat % 16) :: rest) = _
    rw [unquoteLetters, isLetter]
    simp only [notTrailing, notLeading, Bool.false_eq_true, if_false,
      Char.ofNat_toNat]
  · exact unquoteLetters_cons quote backslash control rest

/-- Written letters are read back up to the closing quote. -/
theorem unquoteLetters_flatMap (letters rest : List Char) :
    unquoteLetters (letters.flatMap escapeCharacter ++ '"' :: rest) =
      .ok (letters, rest) := by
  induction letters with
  | nil => rfl
  | cons letter later induction =>
      rw [List.flatMap_cons, List.append_assoc,
        unquoteLetters_escapeCharacter, induction]
      rfl

/-- Behind its opening quote, a written text is read back. -/
theorem readString_tail_quoteLetters (text : String) (rest : List Char) :
    ∃ tail, quoteLetters text.toList ++ rest = '"' :: tail ∧
      readString tail = .ok (text, rest) := by
  refine ⟨text.toList.flatMap escapeCharacter ++ '"' :: rest, ?_, ?_⟩
  · rw [quoteLetters, List.cons_append, List.append_assoc]
    rfl
  · rw [readString, unquoteLetters_flatMap]
    exact congrArg (fun text => Except.ok (text, rest)) String.ofList_toList

end SchemaAtlas.Json
