import ServiceClient.Value.Basic

/-!
Equality of values. Numbers and booleans are equal when their exact values are; what is not a number
differs from itself. A list never equals a tuple; mappings are compared without regard to order;
records are equal when their types have one name and all their fields are equal.
-/

namespace ServiceClient

namespace Value

/-- What a number amounts to: its exact value, or an infinity. -/
inductive Amount
  | finite (value : Dyadic)
  | infinite (negative : Bool)
deriving DecidableEq

/-- What a value amounts to as a number; that of a boolean is one or zero. -/
def amount? : Value → Option Amount
  | bool b => some (.finite (if b then 1 else 0))
  | int n => some (.finite (Dyadic.ofInt n))
  | float (.infinite negative) => some (.infinite negative)
  | float x => x.dyadic?.map .finite
  | _ => none

/-- Whether two numbers are equal. -/
def sameAmount (v w : Value) : Bool :=
  match v.amount?, w.amount? with
  | some a, some b => a == b
  | _, _ => false

mutual

/-- Whether two values are equal. -/
def equal : Value → Value → Bool
  | null, null => true
  | absent, absent => true
  | string s, string t => s == t
  | typeObject s, typeObject t => s.name == t.name
  | list xs, list ys => equalItems xs ys
  | tuple xs, tuple ys => equalItems xs ys
  | object xs, object ys => xs.length == ys.length && equalEntries xs ys
  | record s xs, record t ys => s.name == t.name && equalItems xs ys
  | v, w => sameAmount v w
termination_by structural v => v

/-- Whether items are equal one by one. -/
def equalItems : List Value → List Value → Bool
  | [], [] => true
  | x :: xs, y :: ys => equal x y && equalItems xs ys
  | _, _ => false
termination_by structural xs => xs

/-- Whether every entry of the first mapping has its equal in the second. -/
def equalEntries : List (String × Value) → List (String × Value) → Bool
  | [], _ => true
  | (key, x) :: xs, ys =>
    match ys.lookup key with
    | none => false
    | some y => equal x y && equalEntries xs ys
termination_by structural xs => xs

end

end Value

end ServiceClient
