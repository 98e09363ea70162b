/-!
# Double-precision numbers

A finite double as its sign, an integer mantissa and a power of two, with the
arithmetic that reading a number needs: rounding a quotient of naturals to the
nearest double (a tie goes to the even mantissa), products and quotients.  All
of it is exact arithmetic on naturals; a result that is too large is `none`.
-/

namespace SchemaAtlas

/--
The number `± mantissa · 2 ^ exponent`.  Values made by `Binary64.round` are
in their one normal form: the exponent is at least `-1074`, the mantissa below
`2 ^ 53`, and below `2 ^ 52` only at exponent `-1074`.
-/
structure Binary64 where
  negative : Bool
  mantissa : Nat
  exponent : Int
deriving DecidableEq, Inhabited

namespace Binary64

/-- The least power of two of a double. -/
def minExponent : Int := -1074

/-- The greatest power of two of a finite double in normal form. -/
def maxExponent : Int := 971

def zero (negative : Bool) : Binary64 := ⟨negative, 0, minExponent⟩

def isZero (number : Binary64) : Bool := number.mantissa == 0

def negate (number : Binary64) : Binary64 :=
  { number with negative := !number.negative }

/-- The quotient rounded to the nearest natural, a tie going to the even
neighbour. -/
def roundedQuotient (numerator denominator : Nat) : Nat :=
  let floor := numerator / denominator
  let twice := 2 * (numerator % denominator)
  if twice < denominator then floor
  else if denominator < twice then floor + 1
  else if floor % 2 = 0 then floor
  else floor + 1

/-- `numerator / denominator / 2 ^ power` as a quotient of naturals. -/
def scaledDown (numerator denominator : Nat) (power : Int) : Nat × Nat :=
  if 0 ≤ power then (numerator, denominator * Nat.pow 2 power.toNat)
  else (numerator * Nat.pow 2 (-power).toNat, denominator)

/-- The power of two at which the quotient has a mantissa of 53 bits, or the
least power of a double. -/
def fittingExponent (numerator denominator : Nat) : Int :=
  let guess : Int := (numerator.log2 : Int) - (denominator.log2 : Int) - 53
  let (top, bottom) := scaledDown numerator denominator guess
  let fitting := if top / bottom < Nat.pow 2 53 then guess else guess + 1
  max minExponent fitting

/-- The double nearest to `± numerator / denominator`; `none` if that is
beyond the largest double. -/
def round (negative : Bool) (numerator denominator : Nat) : Option Binary64 :=
  if numerator = 0 then some (zero negative)
  else
    let exponent := fittingExponent numerator denominator
    let (top, bottom) := scaledDown numerator denominator exponent
    let mantissa := roundedQuotient top bottom
    let (mantissa, exponent) :=
      if mantissa = Nat.pow 2 53 then (Nat.pow 2 52, exponent + 1)
      else (mantissa, exponent)
    if mantissa = 0 then some (zero negative)
    else if maxExponent < exponent then none
    else some ⟨negative, mantissa, exponent⟩

def ofNat (value : Nat) : Option Binary64 := round false value 1

/-- The size of the number, without its sign, as a quotient of naturals. -/
def magnitude (number : Binary64) : Nat × Nat :=
  scaledDown number.mantissa 1 (-number.exponent)

def mul (first second : Binary64) : Option Binary64 :=
  let (top₁, bottom₁) := first.magnitude
  let (top₂, bottom₂) := second.magnitude
  round (first.negative != second.negative) (top₁ * top₂) (bottom₁ * bottom₂)

/-- The rounded quotient; the divisor is taken to be different from zero. -/
def div (first second : Binary64) : Option Binary64 :=
  let (top₁, bottom₁) := first.magnitude
  let (top₂, bottom₂) := second.magnitude
  round (first.negative != second.negative) (top₁ * bottom₂) (bottom₁ * top₂)

/-- Numerical equality: the two zeros are equal. -/
def alike (first second : Binary64) : Bool :=
  first == second || (first.isZero && second.isZero)

end Binary64

end SchemaAtlas
