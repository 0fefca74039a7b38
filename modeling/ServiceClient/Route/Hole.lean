import ServiceClient.Arguments
import ServiceClient.Number.Numeral
import ServiceClient.Value.Equality

/-!
Holes: the places of a pattern that stand for any of several texts. What a hole takes depends on its
kind (`HoleKind.ofName`), which may have arguments. `HoleKind.takes` lists what a hole can take from
the front of a text, what it prefers first.
-/

namespace ServiceClient

/-- What a number is held against. -/
inductive Bound
  | nothing
  | amount (a : Value.Amount)
  /-- What no number can be held against. -/
  | incomparable
deriving DecidableEq

inductive HoleKind
  /-- Some characters between two slashes. -/
  | text (least : Nat) (most : Option Nat)
  /-- One character between two slashes, with a mark behind it. -/
  | marked (mark : List Char)
  /-- Anything that starts with no slash, on one line. -/
  | path
  /-- A whole number, of so many characters if that is said, and within bounds. -/
  | whole (signed : Bool) (size : Option Nat) (low high : Bound)
  /-- A number with a point, within bounds. -/
  | fraction (signed : Bool) (low high : Bound)
  | oneOf (choices : List String)
  /-- Hexadecimal digits in groups of eight, four, four, four and twelve. -/
  | identifier
deriving DecidableEq

namespace HoleKind

/-- Holes that take less come first. -/
def weight : HoleKind → Int
  | path => 200
  | whole .. | fraction .. => 50
  | text .. | marked _ | oneOf _ | identifier => 100

/-- Whether a hole may take slashes. -/
def spansSlashes : HoleKind → Bool
  | path => true
  | _ => false

/-- The ways to cut a text after one of several counts of characters. -/
def cutsAt (cs : List Char) (counts : List Nat) : List (List Char × List Char) :=
  counts.map fun n => (cs.take n, cs.drop n)

/-- The counts from one number down to another. -/
def countsDown (most least : Nat) : List Nat :=
  ((List.range (most + 1)).drop least).reverse

/-- The ways to take digits of any script, all of them first. -/
def takeDigits (cs : List Char) : List (List Char × List Char) :=
  cutsAt cs (countsDown (cs.takeWhile fun c => (decimalDigit? c).isSome).length 1)

/-- The ways to take a number that has a minus, or else one that has none. -/
def takeSigned (signed : Bool) (take : List Char → List (List Char × List Char))
    (cs : List Char) : List (List Char × List Char) :=
  match signed, cs with
  | true, '-' :: rest => ((take rest).map fun (taken, rest) => ('-' :: taken, rest)) ++ take cs
  | _, cs => take cs

/-- The ways to take digits on both sides of a point. -/
def takeFraction (cs : List Char) : List (List Char × List Char) :=
  (takeDigits cs).flatMap fun (before, rest) =>
    match rest with
    | '.' :: rest =>
      (takeDigits rest).map fun (after, rest) => (before ++ '.' :: after, rest)
    | _ => []

/-- The way to take groups of hexadecimal digits with dashes between them. -/
def takeGroups (cs : List Char) : List Nat → Option (List Char × List Char)
  | [] => some ([], cs)
  | size :: sizes =>
    let group := cs.take size
    if group.length == size && group.all (fun c => (hexDigit? c).isSome) then
      match sizes, cs.drop size with
      | [], rest => some (group, rest)
      | _, '-' :: rest =>
        (takeGroups rest sizes).map fun (taken, rest) => (group ++ '-' :: taken, rest)
      | _, _ => none
    else none

/-- What a hole can take from the front of a text, and what is left of the text. -/
def takes : HoleKind → List Char → List (List Char × List Char)
  | text least most, cs =>
    let there := (cs.takeWhile (· ≠ '/')).length
    cutsAt cs (countsDown (min there (most.getD there)) least)
  | marked mark, c :: cs =>
    if c = '/' then []
    else ((mark.isPrefixOf? cs).map fun rest => (c :: mark, rest)).toList
  | marked _, [] => []
  | path, c :: cs =>
    if c = '/' then []
    else cutsAt (c :: cs) ((List.range ((cs.takeWhile (· ≠ '\n')).length + 1)).map (· + 1))
  | path, [] => []
  | whole signed .., cs => takeSigned signed takeDigits cs
  | fraction signed .., cs => takeSigned signed takeFraction cs
  | oneOf choices, cs =>
    choices.filterMap fun choice => (choice.toList.isPrefixOf? cs).map (choice.toList, ·)
  | identifier, cs => (takeGroups cs [8, 4, 4, 4, 12]).toList

/-- The most that a count of characters can be. -/
def maxCount : Nat := 4294967294

/-- Whether there can be texts that a hole takes: its counts of characters are in order. -/
def isSound : HoleKind → Bool
  | text least most => least ≤ maxCount && most.all fun most => least ≤ most && most ≤ maxCount
  | _ => true

/-- Whether one amount is below another. -/
def isBelow : Value.Amount → Value.Amount → Bool
  | .finite a, .finite b => Dyadic.blt a b
  | .infinite negative, .infinite negative' => negative && !negative'
  | .infinite negative, .finite _ => negative
  | .finite _, .infinite negative => !negative

/-- Whether an amount is within two bounds, of which the lower is looked at first. -/
def isWithin (a : Value.Amount) : (low high : Bound) → Except Misuse Bool
  | .incomparable, _ => .error .wrongKind
  | .amount low, high => if isBelow a low then .ok false else isUpTo a high
  | .nothing, high => isUpTo a high
where
  isUpTo (a : Value.Amount) : Bound → Except Misuse Bool
    | .incomparable => .error .wrongKind
    | .amount high => .ok (!isBelow high a)
    | .nothing => .ok true

/-- Whether what a hole took is of its size and within its bounds. -/
def accepts (taken : String) : HoleKind → Except Misuse Bool
  | whole _ size low high =>
    if size.any (· ≠ taken.length) then .ok false
    else
      match integer? taken with
      | some n => isWithin (.finite (Dyadic.ofInt n)) low high
      | none => .error .badText
  | fraction _ low high =>
    match (floating? taken).bind fun x => (Value.float x).amount? with
    | some a => isWithin a low high
    | none => .error .badText
  | _ => .ok true

/-- The number in an argument. -/
def count : Value → Except Misuse Int
  | .int n => .ok n
  | .bool b => .ok (if b then 1 else 0)
  | .float (.infinite _) => .error .endless
  | .float x => (x.dyadic?.map (·.toRat.floor)).elim (.error .badText) .ok
  | .string s => (integer? s).elim (.error .badText) .ok
  | _ => .error .wrongKind

/-- The bound in an argument. Whatever is held against what is not a number, it is not beyond it. -/
def boundOf : Option Value → Bound
  | none | some .null | some (.float .nan) => .nothing
  | some v => v.amount?.elim .incomparable .amount

/-- The size in an argument, unless that counts as false. No number has the size that is none. -/
def sizeOf? : Option Value → Option Nat
  | none => none
  | some v =>
    if !v.countsAsTrue then none
    else match v with
      | .int n => some n.toNat
      | .bool _ => some 1
      | .float x => some ((x.dyadic?.map fun d => d.toRat).elim 0 fun q =>
          if q.den = 1 then q.num.toNat else 0)
      | _ => some 0

/-- The arguments for some names. -/
def assign (names : List String) (args : List Value) (named : List (String × Value)) :
    Except Misuse (List (Option Value)) :=
  match bindArguments names args named with
  | .ok given => .ok given
  | .error _ => .error .wrongKind

/-- A hole for as many characters as counts say. Counts below zero count nothing, and are taken for
a mark. -/
def ofCounts (least : Int) : Option Int → HoleKind
  | none =>
    if least < 0 then marked ("\x7b" ++ toString least ++ ",\x7d").toList else text least.toNat none
  | some most =>
    if least < 0 || most < 0 then
      marked ("\x7b" ++ toString least ++ "," ++ toString most ++ "\x7d").toList
    else text least.toNat (some most.toNat)

/-- A hole for so many characters. -/
def ofCount (length : Int) : HoleKind :=
  if length < 0 then marked ("\x7b" ++ toString length ++ "\x7d").toList
  else text length.toNat (some length.toNat)

/-- A hole that takes characters between two slashes. -/
def ofLengths : List (Option Value) → Except Misuse HoleKind
  | [least, most, length] => do
    match length.getD .null with
    | .null =>
      let most ← match most.getD .null with
        | .null => .ok none
        | most => some <$> count most
      return ofCounts (← count (least.getD (.int 1))) most
    | length => return ofCount (← count length)
  | _ => .error .wrongKind

/-- The texts in arguments all of which are texts. -/
def choicesIn (args : List Value) : Except Misuse (List String) :=
  args.mapM fun
    | .string s => .ok s
    | _ => .error .wrongKind

/-- The kind of a name with its arguments. -/
def ofName (name : String) (args : List Value) (named : List (String × Value)) :
    Except Misuse HoleKind :=
  match name with
  | "default" | "string" => do
    ofLengths (← assign ["minlength", "maxlength", "length"] args named)
  | "any" => do
    unless named.isEmpty do throw .wrongKind
    return oneOf (← choicesIn args)
  | "path" => .ok path
  | "int" => do
    match ← assign ["fixed_digits", "min", "max", "signed"] args named with
    | [size, low, high, signed] =>
      return whole ((signed.map Value.countsAsTrue).getD false) (sizeOf? size) (boundOf low)
        (boundOf high)
    | _ => throw .wrongKind
  | "float" => do
    match ← assign ["min", "max", "signed"] args named with
    | [low, high, signed] =>
      return fraction ((signed.map Value.countsAsTrue).getD false) (boundOf low) (boundOf high)
    | _ => throw .wrongKind
  | "uuid" => .ok identifier
  | _ => .error .noKind

end HoleKind

end ServiceClient
