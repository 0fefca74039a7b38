import ServiceClient.Session.Collection
import ServiceClient.Value.Equality

/-!
Equality of things. What a record equals can be set on its type. If nothing is, records are equal
that are called the same and whose fields, those that the first of them names, are equal. What
neither of two things has an answer to is equal only if it is one thing; and inside a list, a tuple
or a mapping one thing stands for itself, whatever is set.
-/

namespace ServiceClient

/-- Whether two items are one thing. Those of which it cannot be told are not. -/
def Item.isOne : Item → Item → Bool
  | null, null => true
  | absent, absent => true
  | notNumber m, notNumber n => m == n
  | type s, type t => s == t
  | object i, object j => i == j
  | declared s, declared t => s == t
  | check s t, check s' t' => s == s' && t == t'
  | common s, common t => s == t
  | bound s v, bound t w => s == t && isOne v w
  | _, _ => false

section Compare

variable (call : Call)

/-- What two things are compared for. -/
inductive Relation
  | equal
  | unequal

/-- Where a type sets how its records are compared. -/
def Relation.member : Relation → String
  | equal => "__eq__"
  | unequal => "__ne__"

/-- The answer to a comparison that comes down to equality. -/
def Relation.answer (relation : Relation) (equal : Bool) : Item :=
  match relation with
  | .equal => .bool equal
  | .unequal => .bool (!equal)

variable (compare : Relation → Item → Item → Run Item)

/-- Whether two things inside others are equal. -/
def holdsInside (v w : Item) : Run Bool := do
  if v.isOne w then return true
  truth call (← compare .equal v w)

/-- Whether things are equal one by one. -/
def equalInside : List Item → List Item → Run Bool
  | [], [] => return true
  | v :: vs, w :: ws => do
    if ← holdsInside call compare v w then equalInside vs ws else return false
  | _, _ => return false

/-- Whether every entry of the first mapping has its equal in the second. -/
def entriesInside : List (String × Item) → List (String × Item) → Run Bool
  | [], _ => return true
  | (key, v) :: vs, ws => do
    match ws.lookup key with
    | none => return false
    | some w => if ← holdsInside call compare v w then entriesInside vs ws else return false

/-- Whether two things that are no records are equal. -/
def equalPlain (v w : Item) : Run Bool := do
  match v, w with
  | .tuple vs, .tuple ws => equalInside call compare vs ws
  | v, w =>
    match v.simple?, w.simple? with
    | some v, some w => return v.equal w
    | none, none =>
      match ← objectOf? v, ← objectOf? w with
      | some (.list vs), some (.list ws) =>
        if vs.length == ws.length then equalInside call compare vs ws else return false
      | some (.mapping vs), some (.mapping ws) =>
        if vs.length == ws.length then entriesInside call compare vs ws else return false
      | _, _ => return v.isOne w
    | _, _ => return false

/-- Whether two things have equal members under some names. -/
def equalMembers (v w : Item) : List Item → Run Bool
  | [] => return true
  | name :: names => do
    let x ← getMemberBy call v name
    let y ← getMemberBy call w name
    if ← truth call (← compare .equal x y) then equalMembers v w names else return false

/-- Whether a record equals another by their names and fields. Nothing is said about what is called
otherwise or is no record. -/
def equalFields? (v w : Item) : Run (Option Bool) := do
  if (← typeOf? w).isNone then return none
  let name ← getMember call w Member.typeName
  if ← truth call (← compare .unequal name (← getMember call v Member.typeName)) then
    return none
  return some (← equalMembers call compare v w (← itemsOf call (← getMember call v Member.fields)))

/-- Whether two things are equal as the type of the first sees it. -/
def equalAsked? (v w : Item) : Run (Option Item) := do
  match ← special? call v Relation.equal.member with
  | some asked => return some (← call asked [w] [])
  | none => return (← equalFields? call compare v w).map .bool

/-- What the type of a record says to a comparison. What differs is what is not equal. -/
def ask? (relation : Relation) (v w : Item) : Run (Option Item) := do
  match relation with
  | .equal => equalAsked? call compare v w
  | .unequal =>
    match ← special? call v relation.member with
    | some asked => return some (← call asked [w] [])
    | none =>
      match ← equalAsked? call compare v w with
      | some answer => return some (.bool (!(← truth call answer)))
      | none => return none

/-- The first answer of some that are asked for one after the other. -/
def firstAnswer : List (Run (Option Item)) → Run (Option Item)
  | [] => return none
  | asked :: rest => do
    match ← asked with
    | some answer => return some answer
    | none => firstAnswer rest

/-- Whether a type is another one or is built on it, but is not the same. -/
def isBelow (type other : String) : Run Bool :=
  return type != other && (← lineage type).contains other

/-- Compares two things. The first is asked before the second, unless the type of the second is
built on that of the first. -/
def compareOnce (relation : Relation) (v w : Item) : Run Item := do
  let first := ask? call compare relation v w
  let second := ask? call compare relation w v
  let asked : List (Run (Option Item)) ← match ← typeOf? v, ← typeOf? w with
    | some s, some t => if ← isBelow t s then pure [second, first] else pure [first, second]
    | some _, none => pure [first]
    | none, some _ => pure [second]
    | none, none => pure []
  if asked.isEmpty then return relation.answer (← equalPlain call compare v w)
  match ← firstAnswer asked with
  | some answer => return answer
  | none => return relation.answer (v.isOne w)

end Compare

/-- Compares two things that are not inside one another deeper than `fuel`. -/
def compareWithin (call : Call) : (fuel : Nat) → Relation → Item → Item → Run Item
  | 0, _, _, _ => refuse .tooDeep
  | fuel + 1, relation, v, w => compareOnce call (compareWithin call fuel) relation v w

section Contents

variable (call : Call)

def compareItems : Relation → Item → Item → Run Item := compareWithin call greatestDepth

/-- Whether two things compare as said. -/
def holds (relation : Relation) (v w : Item) : Run Bool := do
  truth call (← compareItems call relation v w)

/-- Whether a name is among items. -/
def isAmong (name : String) : List Item → Run Bool
  | [] => return false
  | item :: items => do
    if ← holdsInside call (compareItems call) item (.string name) then return true
    isAmong name items

/-- Whether a text occurs in another. -/
def occursIn (part : List Char) : List Char → Bool
  | [] => part.isEmpty
  | c :: cs => part.isPrefixOf (c :: cs) || occursIn part cs

/-- Whether a name is in a thing. One without an end is not gone through any further if its first
item is not the name. -/
def contains (item : Item) (name : String) : Run Bool := do
  match item, ← objectOf? item with
  | _, some (.list items) => isAmong call name items
  | _, some (.mapping entries) => return (entries.lookup name).isSome
  | .tuple items, _ => isAmong call name items
  | .string s, _ => return occursIn name.toList s.toList
  | _, _ =>
    match ← special? call item "__contains__" with
    | some .null => refuse .wrongKind
    | some asked => truth call (← call asked [.string name] [])
    | none =>
      if ← holdsInside call (compareItems call) (← firstItem call item) (.string name) then
        return true
      refuse .tooDeep

end Contents

end ServiceClient
