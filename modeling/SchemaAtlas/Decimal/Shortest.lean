import SchemaAtlas.Binary64

/-!
# The shortest decimal that reads back

For a double, the decimal with the fewest digits among those that round to it,
and of these the one nearest to it.  `Shortest.digits` tries one digit, two
digits, and so on: on each decimal grid only the two neighbours of the number
can be the answer.
-/

namespace SchemaAtlas.Decimal

/-- A positive decimal `d₀.d₁d₂… · 10 ^ exponent`, as its digits and the
exponent of the first one. -/
structure Digits where
  digits : List Char
  exponent : Int
deriving DecidableEq

def naturalDigits (value : Nat) : List Char := Nat.toDigits 10 value

/-- `top / bottom` compared with `count · 10 ^ power`, as two naturals on one
scale. -/
def onOneScale (top bottom count : Nat) (power : Int) : Nat × Nat :=
  if 0 ≤ power then (top, count * Nat.pow 10 power.toNat * bottom)
  else (top * Nat.pow 10 (-power).toNat, count * bottom)

/-- The exponent of the first decimal digit of a positive quotient, searched
upwards from `guess`. -/
def leadingExponent (top bottom : Nat) : (steps : Nat) → (guess : Int) → Int
  | 0, guess => guess
  | steps + 1, guess =>
      let (value, next) := onOneScale top bottom 1 (guess + 1)
      if next ≤ value then leadingExponent top bottom steps (guess + 1)
      else guess

/-- The reals that round to a double, times four: lower end, number and upper
end over one denominator. -/
structure Basin where
  lower : Nat
  centre : Nat
  upper : Nat
  denominator : Nat
  closed : Bool

/--
The basin of a double that is not zero.  Below a power of two the neighbour is
half as far away; the ends belong to the basin when the mantissa is even.
-/
def Basin.of (number : Binary64) : Basin :=
  let below :=
    if number.mantissa = Nat.pow 2 52 ∧
        Binary64.minExponent < number.exponent then 1
    else 2
  let scale (count : Nat) : Nat × Nat :=
    Binary64.scaledDown count 1 (2 - number.exponent)
  let centre := scale (4 * number.mantissa)
  { lower := (scale (4 * number.mantissa - below)).1
    centre := centre.1
    upper := (scale (4 * number.mantissa + 2)).1
    denominator := centre.2
    closed := number.mantissa % 2 = 0 }

/-- Whether `count · 10 ^ power` rounds to the double. -/
def Basin.holds (basin : Basin) (count : Nat) (power : Int) : Bool :=
  let (low, lowPoint) := onOneScale basin.lower basin.denominator count power
  let (high, highPoint) := onOneScale basin.upper basin.denominator count power
  if basin.closed then low ≤ lowPoint && highPoint ≤ high
  else low < lowPoint && highPoint < high

/--
The better of the two neighbours of the number on the grid of multiples of
`10 ^ power`, if one of them rounds to the number; a tie goes to the even
count.
-/
def Basin.onGrid (basin : Basin) (power : Int) : Option Nat :=
  let (value, unit) := onOneScale basin.centre basin.denominator 1 power
  let floor := value / unit
  let twice := 2 * (value % unit)
  let upFirst := unit < twice || (twice == unit && floor % 2 == 1)
  let (nearer, farther) :=
    if upFirst then (floor + 1, floor) else (floor, floor + 1)
  if nearer ≠ 0 && basin.holds nearer power then some nearer
  else if farther ≠ 0 && basin.holds farther power then some farther
  else none

/-- Tries the grids with `first`, `first + 1`, … digits. -/
def Basin.search (basin : Basin) (leading : Int) :
    (steps first : Nat) → Nat × Int
  | 0, _ => (0, 0)
  | steps + 1, first =>
      let power := leading - (first : Int) + 1
      match basin.onGrid power with
      | some count => (count, power)
      | none => basin.search leading steps (first + 1)

/-- The shortest decimal that reads back as the double, which is taken to be
different from zero. -/
def shortest (number : Binary64) : Digits :=
  let basin := Basin.of number
  let bits : Int := (number.mantissa.log2 : Int) + number.exponent
  let guess := (bits * 30103).fdiv 100000 - 2
  let leading := leadingExponent basin.centre basin.denominator 5 guess
  let (count, power) := basin.search leading 18 1
  let all := naturalDigits count
  let kept := (all.reverse.dropWhile (· == '0')).reverse
  { digits := kept
    exponent := power + (all.length : Int) - 1 }

end SchemaAtlas.Decimal
