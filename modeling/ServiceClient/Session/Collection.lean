import ServiceClient.Session.Member

/-!
Things taken as collections: whether they count as true, how long they are, what is found when they
are run through, and what is found in them under a name. A record is none of itself, but its type
may have set something in the place of each of these.

Whatever is set is called, and a call gives a new record or fails. So no length can ever be set, and
what can be run through has no end, with records as its items.
-/

namespace ServiceClient

section Collection

variable (call : Call)

/-- The first of some members that is set on the type of a record, for the record itself. -/
def firstSpecial? (record : Item) : List String → Run (Option Item)
  | [] => return none
  | name :: names => do
    match ← special? call record name with
    | some item => return some item
    | none => firstSpecial? record names

/-- Whether a thing counts as true. A record does, unless its type has set something about it. -/
def truth (item : Item) : Run Bool := do
  match ← objectOf? item with
  | some (.list items) => return !items.isEmpty
  | some (.mapping entries) => return !entries.isEmpty
  | some (.record ..) =>
    match ← firstSpecial? call item ["__bool__", "__len__"] with
    | none => return true
    | some asked =>
      discard (call asked [] [])
      refuse .wrongKind
  | none =>
    match item with
    | .absent => return false
    | .tuple items => return !items.isEmpty
    | _ => return (item.simple?.map Value.countsAsTrue).getD true

/-- The number of items in a thing. -/
def length (item : Item) : Run Nat := do
  match item, ← objectOf? item with
  | _, some (.list items) => return items.length
  | _, some (.mapping entries) => return entries.length
  | .tuple items, _ => return items.length
  | .string s, _ => return s.length
  | _, _ =>
    match ← special? call item "__len__" with
    | some asked => discard (call asked [] [])
    | none => pure ()
    refuse .wrongKind

/-- What sets how a record is run through, and what gives the next item then. -/
def runner : String := "__iter__"

def stepper : String := "__next__"

/-- What gives the item under a key. -/
def indexer : String := "__getitem__"

/-- The first item found when a record is run through. -/
def firstItem (item : Item) : Run Item := do
  match ← special? call item runner with
  | some asked =>
    let running ← call asked [] []
    match ← special? call running stepper with
    | some step => call step [] []
    | none => refuse .wrongKind
  | none =>
    match ← special? call item indexer with
    | some asked => call asked [.int 0] []
    | none => refuse .wrongKind

/-- What is found when a thing is run through: its items, the names in a mapping, or the characters
of a text. Of a record only the first item is given; it is no name, and where names are wanted
nothing goes on after it. -/
def itemsOf (item : Item) : Run (List Item) := do
  match item, ← objectOf? item with
  | _, some (.list items) => return items
  | _, some (.mapping entries) => return entries.map (.string ·.1)
  | .tuple items, _ => return items
  | .string s, _ => return s.toList.map (.string ·.toString)
  | _, _ => return [← firstItem call item]

/-- Runs through a record for pairs. Its first item is a record too, in which there are no items at
all or more than two. -/
def refusePairs {α : Type} (item : Item) : Run α := do
  let first ← firstItem call item
  discard (firstItem call first)
  refuse .badText

/-- What has the entries of a mapping. -/
def entryLister : String := "items"

/-- The entries of a mapping. Anything else is asked for them, and never has any. -/
def entriesOf (item : Item) : Run (List (String × Item)) := do
  match ← objectOf? item with
  | some (.mapping entries) => return entries
  | _ => refusePairs call (← call (← getMember call item entryLister) [] [])

/-- What has an entry of a mapping, or else null. -/
def entryFinder : String := "get"

/-- The entry of a mapping under a name; null if there is none. -/
def entryOrNull (item : Item) (name : String) : Run Item := do
  match ← objectOf? item with
  | some (.mapping entries) => return (entries.lookup name).getD .null
  | _ => call (← getMember call item entryFinder) [.string name] []

/-- What a thing has in it under a name. -/
def itemAt (item : Item) (name : String) : Run Item := do
  match item, ← objectOf? item with
  | _, some (.mapping entries) =>
    match entries.lookup name with
    | some item => return item
    | none => refuse .noKey
  | .type type, _ =>
    match ← setOnTypes? type "__class_getitem__" with
    | some asked => call (← attach call asked .null type) [.string name] []
    | none => refuse .wrongKind
  | _, _ =>
    match ← special? call item indexer with
    | some asked => call asked [.string name] []
    | none => refuse .wrongKind

/-- Refuses a thing that cannot be a member of a set: lists, mappings and records cannot, nor what
has any of them inside. -/
def checkHashable : Item → Run Unit
  | .tuple items => checkAll items
  | item => do
    match ← objectOf? item with
    | none => pure ()
    | some (.record ..) =>
      match ← special? call item "__hash__" with
      | some .null | none => refuse .wrongKind
      | some asked =>
        discard (call asked [] [])
        refuse .wrongKind
    | some _ => refuse .wrongKind
where
  checkAll : List Item → Run Unit
    | [] => pure ()
    | item :: items => do
      checkHashable item
      checkAll items

end Collection

end ServiceClient
