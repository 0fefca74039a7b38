import ServiceClient.Number.Binary64
import ServiceClient.TypeRef

/-!
The values a client works with. Beside the values of JSON there are tuples, which count as arrays
and stay what they are, records of declared types, the declared types themselves, and the mark of
an argument that was not given. A record has a value for each field of its type.
-/

namespace ServiceClient

inductive Value
  | null
  | bool (b : Bool)
  | int (n : Int)
  | float (x : Binary64)
  | string (s : String)
  | list (items : List Value)
  | tuple (items : List Value)
  | object (entries : List (String × Value))
  | absent
  | typeObject (type : RecordType)
  | record (type : RecordType) (values : List Value)

instance : Inhabited Value := ⟨.null⟩

namespace Value

/-- Whether a value counts as given and filled. -/
def countsAsTrue : Value → Bool
  | null | absent => false
  | bool b => b
  | int n => n != 0
  | float x => x.dyadic? != some 0
  | string s => !s.isEmpty
  | list items | tuple items => !items.isEmpty
  | object entries => !entries.isEmpty
  | typeObject _ | record .. => true

/-- Whether a value is neither given nor null, which for an optional argument is the same. -/
def isOmitted : Value → Bool
  | null | absent => true
  | _ => false

end Value

/-- The entries of a mapping after a key is set: a key that is there keeps its place. -/
def putEntry {α : Type} (key : String) (value : α) : List (String × α) → List (String × α)
  | [] => [(key, value)]
  | (k, v) :: rest => if k = key then (key, value) :: rest else (k, v) :: putEntry key value rest

/-- The mapping of a list of pairs: of several values for a key the last one counts, at the place of
the first. -/
def entriesOfPairs {α : Type} (pairs : List (String × α)) : List (String × α) :=
  pairs.foldl (fun entries (key, value) => putEntry key value entries) []

/-- The value of a record field before it is assigned. -/
def TypeRef.default : TypeRef → Value
  | .primitive .number => .int 0
  | .primitive .string => .string ""
  | .primitive .boolean => .bool false
  | .array _ => .list []
  | .named _ => .null

end ServiceClient
