import SchemaAtlas.Binary64

/-!
# Written decimals

Decimal numbers as they are written by hand: an optional sign, digits with an
optional point among them, and an optional exponent.
-/

namespace SchemaAtlas.Decimal

/-- A written decimal without its sign: `digits · 10 ^ exponent`. -/
structure Written where
  digits : List Char
  exponent : Int
deriving DecidableEq, Inhabited

namespace Written

/-- The text behind a sign, if there is one. -/
def unsigned : List Char → List Char
  | '+' :: rest => rest
  | '-' :: rest => rest
  | letters => letters

def splitDigits (letters : List Char) : List Char × List Char :=
  (letters.takeWhile Char.isDigit, letters.dropWhile Char.isDigit)

/-- The value of decimal digits. -/
def valueOf (digits : List Char) : Nat :=
  digits.foldl (fun value digit => value * 10 + (digit.toNat - 48)) 0

/-- The exponent behind its letter: an optional sign and digits to the end. -/
def exponent? (letters : List Char) : Option Int :=
  let digits := unsigned letters
  if digits.isEmpty || !digits.all Char.isDigit then none
  else
    let size : Int := valueOf digits
    some (if letters.head? = some '-' then -size else size)

/-- The decimal that a text is, whatever its sign. -/
def ofLetters? (letters : List Char) : Option Written :=
  let (whole, rest) := splitDigits (unsigned letters)
  let (fraction, rest) :=
    match rest with
    | '.' :: rest => splitDigits rest
    | _ => ([], rest)
  let digits := whole ++ fraction
  let shift : Int := -(fraction.length : Int)
  if digits.isEmpty then none
  else
    match rest with
    | [] => some ⟨digits, shift⟩
    | letter :: rest =>
        if letter = 'e' || letter = 'E' then
          (exponent? rest).map fun exponent => ⟨digits, shift + exponent⟩
        else none

/-- Whether a decimal rounds to a finite double.  Far outside of the range of
the doubles nothing has to be worked out. -/
def isFinite (decimal : Written) : Bool :=
  let significant := decimal.digits.dropWhile (· == '0')
  let leading : Int := decimal.exponent + significant.length
  if significant.isEmpty then true
  else if leading < -400 then true
  else if 400 < leading then false
  else if 0 ≤ decimal.exponent then
    (Binary64.round false
      (valueOf significant * Nat.pow 10 decimal.exponent.toNat) 1).isSome
  else
    (Binary64.round false (valueOf significant)
      (Nat.pow 10 (-decimal.exponent).toNat)).isSome

end Written

end SchemaAtlas.Decimal
