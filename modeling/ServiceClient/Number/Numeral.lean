import ServiceClient.Number.Binary64
import ServiceClient.Text.Blank
import ServiceClient.Text.Digit

/-!
Numbers as people write them: blanks around them, digits of any script, an underscore between two
digits, and for floating point numbers also `inf`, `infinity` and `nan` in any case. `integer?`
reads whole numbers of at most 4300 digits; `floating?` reads everything else that is a number.
-/

namespace ServiceClient

/-- The value of a list of ASCII digits. -/
def digitsValue (digits : List Char) : Nat :=
  digits.foldl (fun value c => 10 * value + (c.toNat - '0'.toNat)) 0

/-- An integer with more digits than this is not read. -/
def maxDigits : Nat := 4300

/-- An integer with this sign and magnitude. -/
def signedInt (negative : Bool) (magnitude : Nat) : Int :=
  if negative then -(magnitude : Int) else magnitude

/-- A decimal numeral: digits before and after the point, and a power of ten. -/
structure Numeral where
  negative : Bool
  whole : List Char
  fraction : List Char
  exponent : Int

/-- The nearest floating point number. -/
def Numeral.toBinary64 (n : Numeral) : Binary64 :=
  .ofDecimal n.negative (digitsValue (n.whole ++ n.fraction)) (n.exponent - n.fraction.length)

namespace Numeral

/-- Takes a sign off the front; no sign is a plus. -/
def takeSign : List Char → Bool × List Char
  | '-' :: rest => (true, rest)
  | '+' :: rest => (false, rest)
  | cs => (false, cs)

/-- One character of a number in its ASCII spelling: a digit of any script is its ASCII digit, a
blank is a space, and any other character beyond ASCII belongs to no number. -/
def plain? (c : Char) : Option Char :=
  if c.toNat < 0x7f then some c
  else if isBlank c then some ' '
  else (decimalDigit? c).map Nat.digitChar

/-- Drops the underscores, each of which has to stand between two digits; the flag tells whether a
digit came before. -/
def dropUnderscores? : Bool → List Char → Option (List Char)
  | _, [] => some []
  | true, '_' :: c :: rest =>
    if c.isDigit then (dropUnderscores? true rest).map (c :: ·) else none
  | _, c :: rest =>
    if c == '_' then none else (dropUnderscores? c.isDigit rest).map (c :: ·)

/-- The characters of a number in plain ASCII, without blanks around them and underscores. -/
def plainText? (text : String) : Option (List Char) := do
  let cs ← text.toList.mapM plain?
  dropUnderscores? false (trimEnds isNumberBlank cs)

/-- Reads an exponent, the text after its mark. -/
def exponent? (cs : List Char) : Option Int :=
  let (negative, digits) := takeSign cs
  if digits.isEmpty || !digits.all Char.isDigit then none
  else some (signedInt negative (digitsValue digits))

/-- Reads digits with a point among them and an exponent behind, all of it but a digit optional. -/
def unsigned? (negative : Bool) (cs : List Char) : Option Numeral :=
  let (whole, rest) := cs.span Char.isDigit
  let (fraction, rest) := match rest with
    | '.' :: rest => rest.span Char.isDigit
    | rest => ([], rest)
  if whole.isEmpty && fraction.isEmpty then none
  else
    match rest with
    | [] => some ⟨negative, whole, fraction, 0⟩
    | c :: rest =>
      if c == 'e' || c == 'E' then (exponent? rest).map (⟨negative, whole, fraction, ·⟩) else none

end Numeral

/-- Reads a whole number. -/
def integer? (text : String) : Option Int := do
  let (negative, digits) := Numeral.takeSign (← Numeral.plainText? text)
  if digits.isEmpty || !digits.all Char.isDigit || maxDigits < digits.length then none
  else some (signedInt negative (digitsValue digits))

/-- Reads a floating point number. -/
def floating? (text : String) : Option Binary64 := do
  let (negative, cs) := Numeral.takeSign (← Numeral.plainText? text)
  match String.ofList (cs.map Char.toLower) with
  | "inf" | "infinity" => some (.infinite negative)
  | "nan" => some .nan
  | _ => (Numeral.unsigned? negative cs).map Numeral.toBinary64

end ServiceClient
