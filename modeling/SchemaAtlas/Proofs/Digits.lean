import SchemaAtlas.Text.Digits
import Mathlib.Data.Nat.Init

/-!
# Numbers read back from their digits

The digits of a number to some base stand for that number, whatever case they
are written in and however many zeros are put in front of them.
-/

namespace SchemaAtlas.Text

/-- One more digit behind those that have been read. -/
def addDigit (base value : Nat) (letter : Char) : Option Nat :=
  (digitValue? base letter).map (value * base + ·)

theorem natural?_of_ne_nil
    {letters : List Char} (present : letters ≠ []) (base : Nat) :
    natural? base letters = letters.foldlM (addDigit base) 0 := by
  rw [natural?, if_neg (by simpa using present)]
  rfl

/-- Zeros in front of a number do not change it. -/
theorem foldlM_addDigit_zeros {base : Nat} (positive : 0 < base) (count : Nat) :
    (List.replicate count '0').foldlM (addDigit base) 0 = some 0 := by
  induction count with
  | zero => rfl
  | succ count induction =>
      have zero : addDigit base 0 '0' = some 0 := by
        simp [addDigit, digitValue?, positive]
      rw [List.replicate_succ, List.foldlM_cons, zero]
      exact induction

section Digits

variable {base : Nat} {written : Char → Char}

/-- Digits are read back one by one if each of them is, as it is written. -/
theorem foldlM_addDigit_toDigits
    (base_gt : 1 < base)
    (readsBack : ∀ digit < base,
      digitValue? base (written digit.digitChar) = some digit)
    (value : Nat) :
    ((Nat.toDigits base value).map written).foldlM (addDigit base) 0 =
      some value := by
  induction value using Nat.strong_induction_on with
  | h value induction =>
      by_cases small : value < base
      · rw [Nat.toDigits_of_lt_base small]
        simp [addDigit, readsBack value small]
      · have large : base ≤ value := Nat.le_of_not_lt small
        have shorter : value / base < value :=
          Nat.div_lt_self (by omega) base_gt
        have lastDigit : value % base < base := Nat.mod_lt _ (by omega)
        rw [Nat.toDigits_of_base_le base_gt large, List.map_append,
          List.foldlM_append, induction _ shorter]
        simp [addDigit, readsBack _ lastDigit, Nat.div_add_mod']

end Digits

/-- The digits of a number are digits to its base. -/
theorem exists_digitChar_of_mem
    {base value : Nat} {letter : Char}
    (base_gt : 1 < base) (mem : letter ∈ Nat.toDigits base value) :
    ∃ digit < base, Nat.digitChar digit = letter := by
  induction value using Nat.strong_induction_on with
  | h value induction =>
      by_cases small : value < base
      · rw [Nat.toDigits_of_lt_base small, List.mem_singleton] at mem
        exact ⟨value, small, mem.symm⟩
      · have large : base ≤ value := Nat.le_of_not_lt small
        have shorter : value / base < value :=
          Nat.div_lt_self (by omega) base_gt
        rw [Nat.toDigits_of_base_le base_gt large, List.mem_append,
          List.mem_singleton] at mem
        rcases mem with earlier | last
        · exact induction _ shorter earlier
        · exact ⟨value % base, Nat.mod_lt _ (by omega), last.symm⟩

/-- No zero stands in front of the digits of a number that is not zero. -/
theorem head?_toDigits_ten_ne_zero {value : Nat} (positive : 0 < value) :
    (Nat.toDigits 10 value).head? ≠ some '0' := by
  induction value using Nat.strong_induction_on with
  | h value induction =>
      by_cases small : value < 10
      · have digits : ∀ digit < 10, 0 < digit → Nat.digitChar digit ≠ '0' := by
          decide
        rw [Nat.toDigits_of_lt_base small]
        simpa using digits value small positive
      · have large : 10 ≤ value := Nat.le_of_not_lt small
        have earlier := induction (value / 10) (by omega) (by omega)
        obtain ⟨first, later, isFirst⟩ :=
          List.exists_cons_of_ne_nil (@Nat.toDigits_ne_nil (value / 10) 10)
        rw [isFirst] at earlier
        rw [Nat.toDigits_of_base_le (by decide) large, isFirst]
        exact earlier

theorem natural?_toDigits_ten (value : Nat) :
    natural? 10 (Nat.toDigits 10 value) = some value := by
  have readsBack : ∀ digit < 10,
      digitValue? 10 (id (Nat.digitChar digit)) = some digit := by
    decide
  have read := foldlM_addDigit_toDigits (by decide) readsBack value
  rw [List.map_id] at read
  rw [natural?_of_ne_nil Nat.toDigits_ne_nil, read]

/-- Hexadecimal digits are read in upper case, behind zeros. -/
theorem natural?_hexadecimal (zeros value : Nat) :
    natural? 16 (List.replicate zeros '0' ++
      (Nat.toDigits 16 value).map Char.toUpper) = some value := by
  have readsBack : ∀ digit < 16,
      digitValue? 16 (Nat.digitChar digit).toUpper = some digit := by
    decide
  have present : List.replicate zeros '0' ++
      (Nat.toDigits 16 value).map Char.toUpper ≠ [] := by
    simp [Nat.toDigits_ne_nil]
  rw [natural?_of_ne_nil present, List.foldlM_append,
    foldlM_addDigit_zeros (by decide)]
  exact foldlM_addDigit_toDigits (by decide) readsBack value

/-- Every character is the one with its number. -/
theorem numbered?_toNat (letter : Char) :
    numbered? letter.toNat = some letter := by
  have valid : letter.toNat < 0xD800 ∨
      0xDFFF < letter.toNat ∧ letter.toNat < 0x110000 := letter.valid
  have isValid : (letter.toNat < 0xD800 ||
      (0xDFFF < letter.toNat && letter.toNat ≤ 0x10FFFF)) = true := by
    simp only [Bool.or_eq_true, Bool.and_eq_true, decide_eq_true_eq]
    omega
  rw [numbered?, if_pos isValid, Char.ofNat_toNat]

end SchemaAtlas.Text
