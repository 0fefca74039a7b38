import ServiceClient.Session.World

/-!
The lineage of a type: the types among which a member is looked for, in their order. A type comes
before the types it is built on, these come in the order in which they are listed, and both hold all
the way up; where that is impossible there is no lineage.
-/

namespace ServiceClient

namespace Lineage

/-- Whether a type is behind the front of none of these lines. -/
def isFree (lines : List (List String)) (type : String) : Bool :=
  lines.all fun line => !(line.drop 1).contains type

/-- One line of all the types in some lines, in an order that agrees with each of them. -/
def merge : (fuel : Nat) → List (List String) → Option (List String)
  | 0, lines => if lines.all List.isEmpty then some [] else none
  | fuel + 1, lines =>
    match lines.filterMap List.head? with
    | [] => some []
    | heads => do
      let next ← heads.find? (isFree lines)
      let rest := lines.map fun line => if line.head? = some next then line.drop 1 else line
      return next :: (← merge fuel rest)

/-- The lineage of a type, `bases` giving the types that each is built on. A type built on itself
has none. -/
def of? (bases : String → List String) : (fuel : Nat) → (type : String) → Option (List String)
  | 0, _ => none
  | fuel + 1, type => do
    let lines ← (bases type).mapM (of? bases fuel)
    let all := lines ++ [bases type]
    return type :: (← merge (all.flatten.length + 1) all)

end Lineage

/-- The types that a type is built on. -/
def World.bases (world : World) (type : String) : List String :=
  ((world.types.lookup type).map (·.bases)).getD []

def World.lineage? (world : World) (type : String) : Option (List String) :=
  Lineage.of? world.bases (world.types.length + 1) type

/-- The lineage of a type. -/
def lineage (type : String) : Run (List String) := return ((← get).lineage? type).getD [type]

/-- What is set under a name on the types of a lineage, the first of them that has it. -/
def setOnTypes? (type member : String) : Run (Option Item) := do
  let world ← get
  return (← lineage type).findSome? fun name =>
    (world.types.lookup name).bind (·.members.lookup member)

/-- What is set under a name on the type of a record. -/
def setOnTypeOf? (item : Item) (member : String) : Run (Option Item) := do
  match ← typeOf? item with
  | some type => setOnTypes? type member
  | none => return none

end ServiceClient
