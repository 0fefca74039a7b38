/-!
Binary floating point numbers of double precision. A finite number is kept as its exact value, so
that two numbers are the same exactly when their values are; minus zero is the one value with two
forms. What is not a number equals nothing, not even itself. Rounding (`ofRatio`) goes to the
nearest number, a tie to the even one.
-/

namespace ServiceClient

inductive Binary64
  /-- Not a number. -/
  | nan
  | infinite (negative : Bool)
  | negativeZero
  | finite (value : Dyadic)
deriving DecidableEq

/-- The exact value of a finite number. -/
def Binary64.dyadic? : Binary64 → Option Dyadic
  | .nan | .infinite _ => none
  | .negativeZero => some 0
  | .finite value => some value

/-- The quotient of two natural numbers, rounded to the nearest, a tie to the even one. -/
def divNearest (a b : Nat) : Nat :=
  let q := a / b
  let r := a % b
  if 2 * r < b then q else if b < 2 * r then q + 1 else q + q % 2

namespace Binary64

/-- The least exponent of a finite number's last binary place. -/
def minExponent : Int := -1074

/-- The number `base ^ exponent`, as a ratio. -/
def powerRatio (base : Nat) (exponent : Int) : Nat × Nat :=
  if 0 ≤ exponent then (base.pow exponent.toNat, 1) else (1, base.pow (-exponent).toNat)

/-- The exponent of the greatest power of two that is not above `num / den`. -/
def binade (num den : Nat) : Int :=
  let guess : Int := (num.log2 : Int) - (den.log2 : Int)
  let (p, q) := powerRatio 2 guess
  if p * den ≤ num * q then guess else guess - 1

/-- The exponent of the last binary place of the numbers around `num / den`. -/
def placeExponent (num den : Nat) : Int := max (binade num den - 52) minExponent

/-- The number nearest to `num / den`, with a sign. -/
def ofRatio (negative : Bool) (num den : Nat) : Binary64 :=
  let zero := if negative then .negativeZero else .finite 0
  if num = 0 then zero
  else
    let place := placeExponent num den
    let (p, q) := powerRatio 2 place
    let mantissa := divNearest (num * q) (den * p)
    if mantissa = 0 then zero
    else if Nat.pow 2 1024 ≤ mantissa * p / q then .infinite negative
    else
      let signed : Int := if negative then -(mantissa : Int) else mantissa
      .finite (Dyadic.ofIntWithPrec signed (-place))

/-- The number nearest to `digits * 10 ^ exponent`, with a sign. Beyond the range of the format the
power of ten is not computed. -/
def ofDecimal (negative : Bool) (digits : Nat) (exponent : Int) : Binary64 :=
  let size : Int := (Nat.toDigits 10 digits).length + exponent
  if digits = 0 || size ≤ -330 then if negative then .negativeZero else .finite 0
  else if 310 < size then .infinite negative
  else
    let (p, q) := powerRatio 10 exponent
    ofRatio negative (digits * p) q

end Binary64

end ServiceClient
