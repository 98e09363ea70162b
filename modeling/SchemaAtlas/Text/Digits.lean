/-!
# Digits

Numbers written with the digits of a base, and characters given by such
numbers.  Counts that are given by hand are decimal, with a plus sign before
them if one likes, and have 64 bits.
-/

namespace SchemaAtlas.Text

/-- The value of a digit of either case, if it is below the base. -/
def digitValue? (base : Nat) (letter : Char) : Option Nat :=
  let code := letter.toNat
  let value :=
    if 48 ≤ code ∧ code ≤ 57 then some (code - 48)
    else if 97 ≤ code ∧ code ≤ 122 then some (code - 87)
    else if 65 ≤ code ∧ code ≤ 90 then some (code - 55)
    else none
  value.filter (· < base)

/-- The number that digits to a base stand for; `none` if there is no digit or
something else. -/
def natural? (base : Nat) (letters : List Char) : Option Nat :=
  if letters.isEmpty then none
  else
    letters.foldlM
      (fun value letter => (digitValue? base letter).map (value * base + ·)) 0

/-- The character with a number; surrogates are no characters. -/
def numbered? (value : Nat) : Option Char :=
  if value < 0xD800 || (0xDFFF < value && value ≤ 0x10FFFF) then
    some (Char.ofNat value)
  else none

/-- The digits of a count behind a plus sign, if there is one. -/
def unsignedDigits : List Char → List Char
  | '+' :: digits => digits
  | digits => digits

/-- The count that a text stands for; `none` if it stands for none or for one
of more than 64 bits. -/
def count? (text : String) : Option Nat :=
  (natural? 10 (unsignedDigits text.toList)).filter (· < Nat.pow 2 64)

end SchemaAtlas.Text
