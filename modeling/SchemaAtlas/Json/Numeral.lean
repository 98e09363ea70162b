import SchemaAtlas.Json.Fault

/-!
# JSON numbers

Reading a number.  Digits are gathered into an integer of at most 64 bits;
further digits only count towards the power of ten.  A number with a fraction
or an exponent, or too large for the integers, is the double that results from
rounding the gathered digits and multiplying or dividing by rounded powers of
ten.
-/

namespace SchemaAtlas.Json

def isDigit (letter : Char) : Bool := '0' ≤ letter && letter ≤ '9'

def digitValue (letter : Char) : Nat := letter.toNat - 48

/-- The largest integer of 64 bits without a sign. -/
def largestUnsigned : Nat := Nat.pow 2 64 - 1

/-- The largest power of ten that is taken as one factor. -/
def largestTenPower : Nat := 308

/-- Appends digits to a number for as long as it stays within `limit`; also
gives the digits left over. -/
def gather (limit : Nat) : Nat → List Char → Nat × List Char
  | value, [] => (value, [])
  | value, digit :: rest =>
      let next := value * 10 + digitValue digit
      if next ≤ limit then gather limit next rest else (value, digit :: rest)

def tenPower (power : Nat) : Option Binary64 :=
  Binary64.ofNat (Nat.pow 10 power)

/-- Divides by powers of ten, the largest one as often as needed; stops at
zero. -/
def divideByTens : (steps : Nat) → Binary64 → (power : Nat) → Option Binary64
  | 0, value, _ => some value
  | steps + 1, value, power =>
      if power ≤ largestTenPower then (tenPower power).bind value.div
      else if value.isZero then some value
      else do
        let divisor ← tenPower largestTenPower
        divideByTens steps (← value.div divisor) (power - largestTenPower)

/--
The double of gathered digits times a power of ten, rounding after each
operation; `none` if it is too large.  Three divisions by the largest power
take every 64-bit number to zero.
-/
def scale (significand : Nat) (exponent : Int) : Option Binary64 := do
  let value ← Binary64.ofNat significand
  if 0 ≤ exponent then
    if exponent.toNat ≤ largestTenPower then
      (tenPower exponent.toNat).bind value.mul
    else if value.isZero then some value
    else none
  else divideByTens 4 value (-exponent).toNat

/-- The number with the given sign, digits and power of ten. -/
def scaled (negative : Bool) (significand : Nat) (exponent : Int) :
    Except Fault Number :=
  match scale significand exponent with
  | some value => .ok (.double (if negative then value.negate else value))
  | none => .error .numberTooLarge

def afterDigits (text : List Char) : List Char := text.dropWhile isDigit

def leadingDigits (text : List Char) : List Char := text.takeWhile isDigit

/-- The largest exponent that is read as a number; a larger one makes the
number zero or too large. -/
def largestExponent : Nat := Nat.pow 2 31 - 1

/-- Reads the digits of an exponent, behind its sign. -/
def readExponentDigits (negative : Bool) (significand : Nat) (exponent : Int)
    (upwards : Bool) (text : List Char) : Except Fault (Number × List Char) :=
  match text with
  | [] => .error .endInValue
  | letter :: _ =>
      if isDigit letter then
        let (value, left) := gather largestExponent 0 (leadingDigits text)
        if left.isEmpty then
          let total := if upwards then exponent + value else exponent - value
          (scaled negative significand total).map (·, afterDigits text)
        else if significand ≠ 0 && upwards then .error .numberTooLarge
        else .ok (.double (Binary64.zero negative), afterDigits text)
      else .error .badNumber

def readExponent (negative : Bool) (significand : Nat) (exponent : Int) :
    List Char → Except Fault (Number × List Char)
  | '+' :: rest => readExponentDigits negative significand exponent true rest
  | '-' :: rest => readExponentDigits negative significand exponent false rest
  | text => readExponentDigits negative significand exponent true text

def readFraction (negative : Bool) (significand : Nat) (exponent : Int)
    (text : List Char) : Except Fault (Number × List Char) :=
  let digits := leadingDigits text
  let rest := afterDigits text
  if digits.isEmpty then
    if rest.isEmpty then .error .endInValue else .error .badNumber
  else
    let (significand, left) := gather largestUnsigned significand digits
    let exponent := exponent - ((digits.length - left.length : Nat) : Int)
    match rest with
    | 'e' :: rest => readExponent negative significand exponent rest
    | 'E' :: rest => readExponent negative significand exponent rest
    | _ => (scaled negative significand exponent).map (·, rest)

/-- An integer without fraction and exponent: a double if its sign takes it
out of the 64-bit range, and for minus zero. -/
def wholeNumber (negative : Bool) (significand : Nat) : Except Fault Number :=
  if !negative then .ok (.integer significand)
  else if 0 < significand ∧ significand ≤ Nat.pow 2 63 then
    .ok (.integer (-(significand : Int)))
  else scaled true significand 0

/-- Reads what follows the integer digits of a number. -/
def readAfterDigits (negative : Bool) (significand dropped : Nat)
    (rest : List Char) : Except Fault (Number × List Char) :=
  match rest with
  | '.' :: rest => readFraction negative significand dropped rest
  | 'e' :: rest => readExponent negative significand dropped rest
  | 'E' :: rest => readExponent negative significand dropped rest
  | _ =>
      if dropped = 0 then (wholeNumber negative significand).map (·, rest)
      else (scaled negative significand dropped).map (·, rest)

/-- Reads a number from behind its sign.  A leading zero stands alone. -/
def readNumber (negative : Bool) (text : List Char) :
    Except Fault (Number × List Char) :=
  match text with
  | [] => .error .endInValue
  | '0' :: rest =>
      if (leadingDigits rest).isEmpty then readAfterDigits negative 0 0 rest
      else .error .badNumber
  | letter :: _ =>
      if isDigit letter then
        let (significand, left) := gather largestUnsigned 0 (leadingDigits text)
        readAfterDigits negative significand left.length (afterDigits text)
      else .error .badNumber

def skipExponent (text : List Char) : Except Fault (List Char) :=
  let digits :=
    match text with
    | '+' :: rest => rest
    | '-' :: rest => rest
    | _ => text
  if (leadingDigits digits).isEmpty then .error .badNumber
  else .ok (afterDigits digits)

/-- Passes over what follows the integer digits of a number. -/
def skipAfterDigits : List Char → Except Fault (List Char)
  | '.' :: rest =>
      if (leadingDigits rest).isEmpty then .error .badNumber
      else
        match afterDigits rest with
        | 'e' :: rest => skipExponent rest
        | 'E' :: rest => skipExponent rest
        | rest => .ok rest
  | 'e' :: rest => skipExponent rest
  | 'E' :: rest => skipExponent rest
  | rest => .ok rest

/-- Passes over a number from behind its sign, checking its form and not its
size. -/
def skipNumber (text : List Char) : Except Fault (List Char) :=
  match text with
  | '0' :: rest =>
      if (leadingDigits rest).isEmpty then skipAfterDigits rest
      else .error .badNumber
  | letter :: _ =>
      if isDigit letter then skipAfterDigits (afterDigits text)
      else .error .badNumber
  | [] => .error .badNumber

end SchemaAtlas.Json
