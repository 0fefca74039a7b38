import ServiceClient.Check

/-!
The things of a session. Texts, numbers and tuples are what they are; lists, mappings and records
are objects that several variables and other objects may share, so an `Item` only says which object
it is, and the `World` has what is in it. Every type has members of its own, and so has every
record: its own members are a mapping, which may be shared too.

Everything about a record is found under the name of a member, what it is called and which fields it
has not excepted, so that whatever is set under such a name counts from then on.
-/

namespace ServiceClient

inductive Item
  | null
  | bool (b : Bool)
  | int (n : Int)
  | float (x : Binary64)
  /-- What is not a number; the mark tells which one it is. -/
  | notNumber (mark : Nat)
  | string (s : String)
  | tuple (items : List Item)
  | absent
  | type (name : String)
  | object (id : Nat)
  /-- The type of a field, as it was declared. -/
  | declared (t : TypeRef)
  /-- The check of a field, as it was declared. -/
  | check (subject : String) (t : TypeRef)
  /-- What all records share under a name, by itself or as one for a receiver. -/
  | common (name : String)
  | bound (name : String) (receiver : Item)

instance : Inhabited Item := ⟨.null⟩

inductive Object
  | list (items : List Item)
  | mapping (entries : List (String × Item))
  /-- A record of a type, with the number of the mapping of its own members. -/
  | record (type : String) (own : Nat)

structure TypeState where
  title : String
  fullTitle : String
  /-- The types it is built on, unless it is built on nothing but what all records share. -/
  bases : List String
  /-- Whether something is left to be done before records can be made. -/
  isUnfinished : Bool
  members : List (String × Item)

structure World where
  objects : Array Object
  types : List (String × TypeState)
  /-- The type of the absent mark, once it has one, and the mapping of its own members. -/
  absentType : Option String
  absentOwn : Nat
  /-- The next mark for what is not a number. -/
  nextMark : Nat

/-- What is done in a world. What was done before a failure stays. -/
abbrev Run := ExceptT Failure (StateM World)

/-- Calls an item with values by position and by name. -/
abbrev Call := Item → List Item → List (String × Item) → Run Item

namespace Member

def typeName : String := "_type_name"

def fields : String := "_fields"

def checks : String := "_checks"

def types : String := "_types"

end Member

namespace World

/-- The number of the mapping from names to the declared types. -/
def typeTable : Nat := 0

/-- The mark of what JSON text calls `NaN`, which is the same wherever it is read. -/
def jsonMark : Nat := 0

/-- The state of a declared type whose fields and checks are the mappings of these numbers. -/
def declare (type : RecordType) (fields checks : Nat) : TypeState where
  title := type.name
  fullTitle := type.name
  bases := []
  isUnfinished := false
  members := [
    (Member.typeName, .string type.name), (Member.fields, .object fields),
    (Member.types, .object typeTable), (Member.checks, .object checks),
    ("__doc__", .string type.summary), ("__module__", .string Value.typeHome)]

/-- The mappings of the fields and of the checks of a type. -/
def fieldMappings (type : RecordType) : List Object := [
    .mapping (type.fields.map fun (field, t) => (field, .declared t)),
    .mapping (type.fields.map fun (field, t) => (field, .check (type.name ++ "." ++ field) t))]

/-- The world of some declared types, before anything is done. -/
def start (types : List RecordType) : World where
  objects :=
    (.mapping (types.map fun type => (type.name, .type type.name)) :: .mapping [] ::
      types.flatMap fieldMappings).toArray
  types := types.zipIdx.map fun (type, i) => (type.name, declare type (2 * i + 2) (2 * i + 3))
  absentType := none
  absentOwn := 1
  nextMark := jsonMark + 1

end World

def refuse {α : Type} (cause : Misuse) : Run α := throw (.misuse cause)

def liftExcept {α : Type} : Except Failure α → Run α
  | .ok a => pure a
  | .error failure => throw failure

/-- A new object. -/
def allocate (object : Object) : Run Item := do
  let world ← get
  set { world with objects := world.objects.push object }
  return .object world.objects.size

/-- Puts another object in the place of one. -/
def store (id : Nat) (object : Object) : Run Unit :=
  modify fun world => { world with objects := world.objects.setIfInBounds id object }

/-- The object that an item is. The absent mark is none unless it was given a type. -/
def objectOf? (item : Item) : Run (Option Object) := do
  let world ← get
  match item with
  | .object id => return world.objects[id]?
  | .absent => return world.absentType.map (.record · world.absentOwn)
  | _ => return none

/-- The type of a record. -/
def typeOf? (item : Item) : Run (Option String) := do
  match ← objectOf? item with
  | some (.record type _) => return some type
  | _ => return none

/-- The entries of the mapping of a number. -/
def entriesAt (id : Nat) : Run (List (String × Item)) := do
  match (← get).objects[id]? with
  | some (.mapping entries) => return entries
  | _ => return []

def setEntry (id : Nat) (key : String) (item : Item) : Run Unit := do
  store id (.mapping (putEntry key item (← entriesAt id)))

/-- The state of a declared type. -/
def typeState? (name : String) : Run (Option TypeState) := return (← get).types.lookup name

def setTypeState (name : String) (state : TypeState) : Run Unit :=
  modify fun world => { world with types := putEntry name state world.types }

/-- What is not a number, unlike any before. -/
def newNotNumber : Run Item := do
  let world ← get
  set { world with nextMark := world.nextMark + 1 }
  return .notNumber world.nextMark

/-- The name under which a member was asked for; only a text is one. -/
def nameOf : Item → Run String
  | .string name => return name
  | _ => refuse .wrongKind

mutual

/-- The item of a plain value, with new objects for what is in it. What was read as `NaN` is one
thing. -/
def Item.ofValue : Value → Run Item
  | .null => return .null
  | .bool b => return .bool b
  | .int n => return .int n
  | .float .nan => return .notNumber World.jsonMark
  | .float x => return .float x
  | .string s => return .string s
  | .list items => do allocate (.list (← itemsOfValues items))
  | .tuple items => return .tuple (← itemsOfValues items)
  | .object entries => do allocate (.mapping (← entriesOfValues entries))
  | .absent => return .absent
  | .typeObject type => return .type type.name
  | .record type values => do
    let items ← itemsOfValues values
    match ← allocate (.mapping ((type.fields.map (·.1)).zip items)) with
    | .object own => allocate (.record type.name own)
    | _ => refuse .wrongKind

def itemsOfValues : List Value → Run (List Item)
  | [] => return []
  | v :: vs => return (← Item.ofValue v) :: (← itemsOfValues vs)

def entriesOfValues : List (String × Value) → Run (List (String × Item))
  | [] => return []
  | (key, v) :: rest => return (key, ← Item.ofValue v) :: (← entriesOfValues rest)

end

/-- The plain value of an item that has no parts. -/
def Item.simple? : Item → Option Value
  | null => some .null
  | bool b => some (.bool b)
  | int n => some (.int n)
  | float x => some (.float x)
  | notNumber _ => some (.float .nan)
  | string s => some (.string s)
  | _ => none

/-- The greatest depth of things inside one another that is gone into. -/
def greatestDepth : Nat := 1000

end ServiceClient
