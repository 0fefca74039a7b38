import ServiceClient.Json.Writer
import ServiceClient.Session.Compare
import ServiceClient.Session.View

/-!
Things on the wire: checking them against types, turning them into plain ones, and back. As for
plain values, the check of a field comes before the conversion of what is inside it; but which
checks a record has, how it is sent and what its type reads are found by name.
-/

namespace ServiceClient

namespace Member

/-- What sends a record, and what reads one. -/
def wireForm : String := "to_wire_form"

def wireReader : String := "from_wire_form"

end Member

section Wire

variable (call : Call)

/-- Whether a thing is of a primitive type. -/
def isPrimitive (kind : Primitive) (item : Item) : Run Bool := do
  askType call item
  return (item.simple?.map kind.admits).getD false

/-- The elements of a thing that counts as an array. -/
def elementsOf? (item : Item) : Run (Option (List Item)) := do
  match item, ← objectOf? item with
  | _, some (.list items) => return some items
  | .tuple items, _ => return some items
  | _, _ =>
    askType call item
    return none

/-- Whether a thing is of the named type. -/
def isNamed (name : String) (item : Item) : Run Bool := do
  match ← objectOf? item with
  | some (.record ..) =>
    if ← holds call .equal (← getMember call item Member.typeName) (.string name) then
      return true
    if name == untypedObject then askType call item
    return false
  | some (.mapping _) => return name == untypedObject
  | _ => return false

/-- Does something with each item of a list, and with its index. -/
def forEachIndexed (act : Nat → Item → Run Unit) : Nat → List Item → Run Unit
  | _, [] => pure ()
  | i, item :: items => do
    act i item
    forEachIndexed act (i + 1) items

/-- Checks a thing that stands at a place inside the value of `subject`. -/
def checkAt (subject : String) (path : List Nat) : TypeRef → Item → Run Unit
  | .primitive kind, item => do
    unless ← isPrimitive call kind item do
      throw (.mismatch subject ⟨path, .primitive kind⟩)
  | .named name, item => do
    unless ← isNamed call name item do throw (.mismatch subject ⟨path, .named name⟩)
  | .array element, item => do
    match ← elementsOf? call item with
    | none => throw (.mismatch subject ⟨path, .array element⟩)
    | some items =>
      forEachIndexed (fun i item => checkAt subject (path ++ [i]) element item) 0 items

def checkItem (subject : String) (t : TypeRef) (item : Item) : Run Unit :=
  checkAt call subject [] t item

/-- The plain form of a thing that has nothing deeper inside than `fuel`. -/
def toWireWithin : (fuel : Nat) → Item → Run Item
  | 0, _ => refuse .tooDeep
  | fuel + 1, item => do
    match item, ← objectOf? item with
    | _, some (.list items) => allocate (.list (← items.mapM (toWireWithin fuel)))
    | .tuple items, _ => allocate (.list (← items.mapM (toWireWithin fuel)))
    | _, some (.mapping entries) => sendEntries fuel entries
    | _, some (.record ..) =>
      let sent ← call (← getMember call item Member.wireForm) [] []
      sendEntries fuel (← entriesOf call sent)
    | _, none => return item
where
  sendEntries (fuel : Nat) (entries : List (String × Item)) : Run Item := do
    allocate (.mapping (← entries.mapM fun (key, item) => return (key, ← toWireWithin fuel item)))

def itemToWire : Item → Run Item := toWireWithin call greatestDepth

/-- The entries that a record is sent as, each checked and then converted. -/
def wireEntries (record : Item) :
    List (String × Item) → Run (List (String × Item))
  | [] => return []
  | (name, check) :: rest => do
    let item ← getMember call record name
    discard (call check [item] [])
    return (name, ← itemToWire call item) :: (← wireEntries record rest)

/-- The form of a record on the wire. -/
def wireFormOf (record : Item) : Run Item := do
  let checks ← entriesOf call (← getMember call record Member.checks)
  allocate (.mapping (← wireEntries call record checks))

/-- Makes records of the mappings in a thing, where the type declares them. `types` has the types by
their names. -/
def itemOfWire (types : Item) : TypeRef → Item → Run Item
  | .primitive _, item => return item
  | .array element, item => do
    match ← objectOf? item with
    | some (.list items) => allocate (.list (← items.mapM (itemOfWire types element)))
    | _ =>
      askType call item
      return item
  | .named name, item => do
    unless ← contains call types name do return item
    match ← objectOf? item with
    | some (.mapping _) =>
      let reader ← getMember call (← itemAt call types name) Member.wireReader
      call reader [item] []
    | _ =>
      askType call item
      return item

/-- Makes records of the mappings in a thing as the type of a field says. -/
def itemOfWireBy (types t item : Item) : Run Item := do
  match t with
  | .declared t => itemOfWire call types t item
  | t =>
    askType call t
    return item

/-- The values for the fields of a type, each read as the field's type says, if it has one. -/
def readEntries (type : Item) : List (String × Item) → Run (List (String × Item))
  | [] => return []
  | (name, item) :: rest => do
    let t ← entryOrNull call (← getMember call type Member.fields) name
    let item ← if ← truth call t then
        itemOfWireBy call (← getMember call type Member.types) t item
      else pure item
    return (name, item) :: (← readEntries type rest)

/-- A record of a type from its form on the wire. -/
def recordOfWire (type data : Item) : Run Item := do
  let named ← readEntries call type (← entriesOf call data)
  call type [] named

end Wire

/-- The JSON text of a thing. -/
def itemJson (call : Call) (item : Item) : Run String := do
  liftExcept (Json.write (← (← itemToWire call item).plain))

end ServiceClient
