import ServiceClient.Number.Binary64

/-!
Decimal text of floating point numbers: the fewest digits that read back as the number, and of those
the nearest. `shortestDigits` finds them on the decimal grids of one, two, up to seventeen digits;
`Binary64.text` lays them out, positionally from 0.0001 up to below 10 ^ 16 and with an exponent
elsewhere.
-/

namespace ServiceClient

namespace Binary64

/-- A positive finite number as `mantissa * 2 ^ place`, on the binary grid of its size. -/
structure Scaled where
  mantissa : Nat
  place : Int

/-- A positive dyadic `n / 2 ^ k` on its grid. -/
def Scaled.ofDyadic (n : Nat) (k : Int) : Scaled :=
  let place := max ((n.log2 : Int) - k - 52) minExponent
  ⟨n * Nat.pow 2 (-k - place).toNat, place⟩

/-- Whether `num / den` rounds to the number: it lies within half a place, the ends included for an
even mantissa. Below a power of two the places are half as wide. -/
def Scaled.reads (s : Scaled) (num den : Nat) : Bool :=
  let (p, q) := powerRatio 2 (s.place - 2)
  let low := if s.mantissa = Nat.pow 2 52 && s.place ≠ minExponent then 4 * s.mantissa - 1
    else 4 * s.mantissa - 2
  let high := 4 * s.mantissa + 2
  let x := num * q
  let unit := den * p
  if s.mantissa % 2 = 0 then low * unit ≤ x && x ≤ high * unit
  else low * unit < x && x < high * unit

/-- The number `point` with `10 ^ (point - 1) ≤ num / den < 10 ^ point`. -/
def decimalPoint (num den : Nat) : Int :=
  if den ≤ num then (Nat.toDigits 10 (num / den)).length
  else
    let size := (Nat.toDigits 10 (den / num)).length
    if den = num * Nat.pow 10 (size - 1) then 2 - (size : Int) else 1 - (size : Int)

/-- Digits and the place of the decimal point among them: `0.digits * 10 ^ point`. -/
structure Digits where
  digits : Nat
  point : Int

/-- The multiple of `10 ^ (point - count)` next to the number that reads back as it, if one of the
two neighbours does, and the nearer if both do. -/
def Scaled.onGrid? (s : Scaled) (point : Int) (count : Nat) : Option Nat :=
  let (p, q) := powerRatio 2 s.place
  let (gridNum, gridDen) := powerRatio 10 (point - count)
  let num := s.mantissa * p * gridDen
  let den := q * gridNum
  let below := num / den
  let rest := num % den
  let reads (k : Nat) := s.reads (k * gridNum) gridDen
  match reads below, reads (below + 1) with
  | true, true =>
    if 2 * rest < den || (2 * rest = den && below % 2 = 0) then some below else some (below + 1)
  | true, false => some below
  | false, true => some (below + 1)
  | false, false => none

/-- Tries the grids of `count`, `count + 1`, … digits. -/
def Scaled.search (s : Scaled) (point : Int) : (tries count : Nat) → Nat × Nat
  | 0, count => (s.mantissa, count)
  | tries + 1, count =>
    match s.onGrid? point count with
    | some digits => (digits, count)
    | none => s.search point tries (count + 1)

/-- Drops the zeros at the end of a list of digits. -/
def dropZeros (digits : List Char) : List Char :=
  (digits.reverse.dropWhile (· == '0')).reverse

/-- The shortest digits of a positive number, without zeros at either end, and the place of the
decimal point before, among or after them. -/
def shortestDigits (s : Scaled) : List Char × Int :=
  let (p, q) := powerRatio 2 s.place
  let point := decimalPoint (s.mantissa * p) q
  let (digits, count) := s.search point 17 1
  let text := Nat.toDigits 10 digits
  (dropZeros text, point + text.length - count)

/-- Lays out digits whose decimal point stands at `point`. -/
def layOut (digits : List Char) (point : Int) : List Char :=
  if -4 < point && point ≤ 16 then
    if point ≤ 0 then '0' :: '.' :: List.replicate (-point).toNat '0' ++ digits
    else if digits.length ≤ point.toNat then
      digits ++ List.replicate (point.toNat - digits.length) '0' ++ ['.', '0']
    else digits.take point.toNat ++ '.' :: digits.drop point.toNat
  else
    let exponent := point - 1
    let size := Nat.toDigits 10 exponent.natAbs
    let padded := if size.length < 2 then '0' :: size else size
    let fraction := digits.drop 1
    digits.take 1 ++ (if fraction.isEmpty then [] else '.' :: fraction) ++
      'e' :: (if exponent < 0 then '-' else '+') :: padded

/-- The text of a number. -/
def text : Binary64 → String
  | .nan => "nan"
  | .infinite negative => if negative then "-inf" else "inf"
  | .negativeZero => "-0.0"
  | .finite .zero => "0.0"
  | .finite (.ofOdd n k _) =>
    let (digits, point) := shortestDigits (Scaled.ofDyadic n.natAbs k)
    let sign := if n < 0 then ['-'] else []
    String.ofList (sign ++ layOut digits point)

end Binary64

end ServiceClient
