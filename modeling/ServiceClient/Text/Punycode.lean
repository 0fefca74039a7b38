/-!
Punycode: names of any characters in ASCII. The ASCII characters of a name come first; then, in the
order of their code points, follow the others, each as the distance from the one before it, counted
over all places where a character can be put. Distances are written with digits of base 36, the last
of which is below a threshold that moves with the distances met so far (`bias`).
-/

namespace ServiceClient

namespace Punycode

def digit (n : Nat) : Char :=
  if n < 26 then Char.ofNat ('a'.toNat + n) else Char.ofNat ('0'.toNat + n - 26)

/-- The threshold for a place; places count in steps of 36. -/
def threshold (bias place : Nat) : Nat := min 26 (max 1 (place - bias))

/-- The digits of a number from a place on. -/
def number (bias : Nat) : (fuel : Nat) → (place n : Nat) → List Char
  | 0, _, _ => []
  | fuel + 1, place, n =>
    let t := threshold bias place
    if n < t then [digit n]
    else digit (t + (n - t) % (36 - t)) :: number bias fuel (place + 36) ((n - t) / (36 - t))

/-- The bias of a distance in steps of 35. -/
def biasOf : (fuel : Nat) → (steps distance : Nat) → Nat
  | 0, steps, _ => steps
  | fuel + 1, steps, distance =>
    if 455 < distance then biasOf fuel (steps + 36) (distance / 35)
    else steps + 36 * distance / (distance + 38)

/-- The bias after a distance, when so many characters are written. -/
def adapt (distance count : Nat) (isFirst : Bool) : Nat :=
  let distance := if isFirst then distance / 700 else distance / 2
  biasOf distance 0 (distance + distance / count)

/-- What is written so far: the digits, how many characters of the name they are for, the distance
since the last of these, and the bias. -/
structure State where
  digits : List Char
  count : Nat
  distance : Nat
  bias : Nat

/-- Writes the characters of a code point in a name. -/
def writePoint (ascii point : Nat) (s : State) (c : Char) : State :=
  if c.toNat < point then { s with distance := s.distance + 1 }
  else if c.toNat = point then {
    digits := s.digits ++ number s.bias (s.distance + 1) 36 s.distance
    count := s.count + 1
    distance := 0
    bias := adapt s.distance (s.count + 1) (s.count == ascii) }
  else s

/-- Writes the characters of some code points, in ascending order, those below `next` being
written. -/
def writePoints (name : List Char) (ascii : Nat) : (next : Nat) → State → List Nat → State
  | _, s, [] => s
  | next, s, point :: points =>
    let s := { s with distance := s.distance + (point - next) * (s.count + 1) }
    let s := name.foldl (writePoint ascii point) s
    writePoints name ascii (point + 1) { s with distance := s.distance + 1 } points

/-- A name in ASCII. -/
def encode (name : List Char) : List Char :=
  let (ascii, others) := name.partition (·.toNat < 0x80)
  let points := (others.map Char.toNat).mergeSort.eraseDups
  let s := writePoints name ascii.length 0x80 ⟨[], ascii.length, 0, 72⟩ points
  ascii ++ (if ascii.isEmpty then [] else ['-']) ++ s.digits

end Punycode

end ServiceClient
