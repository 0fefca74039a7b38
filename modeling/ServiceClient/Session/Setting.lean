import ServiceClient.Session.Collection

/-!
Setting members. A record takes anything under any name, with a few exceptions: its type can be
replaced by another one, and its own members by a mapping, which it shares from then on. A type
takes anything too, but for what follows from its making. Nothing can be set on other things.
-/

namespace ServiceClient

section Setting

variable (call : Call)

/-- What sets the members of a record, in place of setting them. -/
def generalSetter : String := "__setattr__"

/-- Sets a member among those of a mapping. -/
def setOwn (own : Nat) (name : String) (v : Item) : Run Unit := do
  if name == Member.weakReference then refuse .noMember else setEntry own name v

/-- Sets the type of a record. -/
def setType (record v : Item) (own : Nat) : Run Unit := do
  match record, v with
  | .object id, .type type => store id (.record type own)
  | .absent, .type type => modify fun world => { world with absentType := some type }
  | _, _ => refuse .wrongKind

/-- Replaces the own members of a record by those of a mapping. -/
def setOwnMembers (record v : Item) (type? : Option String) : Run Unit := do
  match v, ← objectOf? v with
  | .object own, some (.mapping _) =>
    match record, type? with
    | .object id, some type => store id (.record type own)
    | .absent, _ => modify fun world => { world with absentOwn := own }
    | _, _ => refuse .noMember
  | _, _ => refuse .wrongKind

/-- Sets a member of a record in the way it is set if nothing else was set for that. -/
def setFound (record : Item) (type : String) (own : Nat) (name : String) (v : Item) : Run Unit := do
  match ← setOnTypes? type name with
  | some item =>
    if ← setsItself item then
      match ← special? call item Member.setter with
      | some setter => discard (call setter [record, v] [])
      | none => refuse .noMember
    else setEntry own name v
  | none =>
    if name == Member.type then setType record v own
    else if name == Member.own then setOwnMembers record v (some type)
    else setOwn own name v

/-- Whether types can be built on others: none is built on itself, and all have lineages. -/
def World.isSound (world : World) : Bool :=
  world.types.all fun (name, _) => (world.lineage? name).isSome

/-- The names of items all of which are types. -/
def typeNames : List Item → Run (List String)
  | [] => return []
  | .type name :: items => return name :: (← typeNames items)
  | _ :: _ => refuse .wrongKind

/-- Builds a type on others. -/
def setBases (type : String) (state : TypeState) (v : Item) : Run Unit := do
  match v with
  | .tuple items =>
    let bases ← typeNames items
    let world ← get
    setTypeState type { state with bases }
    unless !bases.isEmpty && (← get).isSound do
      set world
      refuse .wrongKind
  | _ => refuse .wrongKind

/-- Sets a member of a type. -/
def setOnType (type : String) (state : TypeState) (name : String) (v : Item) : Run Unit := do
  if name == Member.type then refuse .wrongKind
  if name == Member.bases then return ← setBases type state v
  if name == Member.base || Member.fixedOnTypes.contains name then refuse .noMember
  if name == Member.title then
    let title ← nameOf v
    if title.toList.contains '\x00' then refuse .badText
    setTypeState type { state with title }
  else if name == Member.fullTitle then
    setTypeState type { state with fullTitle := ← nameOf v }
  else
    let isUnfinished ← if name == Member.lacking then truth call v else pure state.isUnfinished
    setTypeState type { state with isUnfinished, members := putEntry name v state.members }

/-- Sets a member of a thing. -/
def setMember (item : Item) (name : String) (v : Item) : Run Unit := do
  match ← objectOf? item with
  | some (.record type own) =>
    match ← special? call item generalSetter with
    | some setter => discard (call setter [.string name, v] [])
    | none => setFound call item type own name v
  | _ =>
    match item with
    | .type type =>
      match ← typeState? type with
      | some state => setOnType call type state name v
      | none => refuse .noMember
    | .absent =>
      let own := (← get).absentOwn
      if name == Member.type then setType item v own
      else if name == Member.own then setOwnMembers item v none
      else setOwn own name v
    | _ => refuse (if name == Member.type then .wrongKind else .noMember)

end Setting

end ServiceClient
