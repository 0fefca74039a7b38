import ServiceClient.Arguments
import ServiceClient.Session.Setting
import ServiceClient.Session.Text
import ServiceClient.Session.Wire

/-!
Making records, and calling things in general. A type makes a record and fills its fields, unless
something is set on it that does either; a record is called if its type has set what to call in its
place. Every call makes a record or fails (`invoke`).
-/

namespace ServiceClient

section Making

variable (call : Call)

/-- What makes a record of a type, what fills its fields, and what is called in its place. -/
def maker : String := "__new__"

def filler : String := "__init__"

def caller : String := "__call__"

/-- The value of a field before it is assigned. -/
def defaultItem (t : Item) : Run Item := do
  match t with
  | .declared t => Item.ofValue t.default
  | t =>
    askType call t
    return .null

/-- The text of what a record is called. -/
def calledText (record : Item) : Run String := do
  plainItemText call (← getMember call record Member.typeName)

/-- The names in items that are names. What is none has to be one that a mapping can have as a
key. -/
def keysIn : List Item → Run (List (Option String))
  | [] => return []
  | .string name :: items => return some name :: (← keysIn items)
  | item :: items => do
    checkHashable call item
    return none :: (← keysIn items)

/-- Puts the named values behind those given by position. -/
def joinNamed (record : Item) (given : List (String × Item)) :
    List (String × Item) → Run (List (String × Item))
  | [] => return given
  | (name, v) :: named => do
    unless ← contains call (← getMember call record Member.fields) name do
      throw (.binding (.type (← calledText call record)) (.unknown name))
    if (given.lookup name).isSome then
      throw (.binding (.type (← calledText call record)) (.twice name))
    joinNamed record (given ++ [(name, v)]) named

/-- Sets the fields of a record, to a given value or to the one they have before. -/
def setFields (record : Item) (given : List (String × Item)) : List (String × Item) → Run Unit
  | [] => pure ()
  | (name, t) :: fields => do
    let v ← match given.lookup name with
      | some v => pure v
      | none => defaultItem call t
    setMember call record name v
    setFields record given fields

/-- Fills a new record with values by position and by name. -/
def fillRecord (record : Item) (args : List Item) (named : List (String × Item)) : Run Unit := do
  liftExcept (refuseReceiver named)
  let limit ← length call (← getMember call record Member.fields)
  if limit < args.length then
    let name ← calledText call record
    let limit ← length call (← getMember call record Member.fields)
    throw (.binding (.type name) (.tooMany limit args.length))
  let names ← itemsOf call (← getMember call record Member.fields)
  let keys ← keysIn call (names.take args.length)
  let given := (keys.zip args).filterMap fun (key, v) => key.map (·, v)
  let given ← joinNamed call record given named
  setFields call record given (← entriesOf call (← getMember call record Member.fields))

/-- Fills a new record in the way its type says. What is set in its place gives something, which is
refused. -/
def initialise (record : Item) (args : List Item) (named : List (String × Item)) : Run Unit := do
  match ← special? call record filler with
  | some asked =>
    discard (call asked args named)
    refuse .wrongKind
  | none => fillRecord call record args named

/-- A record without members of its own. -/
def emptyRecord (type : String) : Run Item := do
  match ← allocate (.mapping []) with
  | .object own => allocate (.record type own)
  | _ => refuse .wrongKind

/-- Makes a record of a type. What something else makes in its place is filled too if it is of the
type. -/
def makeRecord (type : String) (args : List Item) (named : List (String × Item)) : Run Item := do
  match ← setOnTypes? type maker with
  | some asked =>
    let made ← call (← attach call asked .null type) (.type type :: args) named
    match ← typeOf? made with
    | some other => if (← lineage other).contains type then initialise call made args named
    | none => pure ()
    return made
  | none =>
    if ((← typeState? type).map (·.isUnfinished)).getD false then refuse .wrongKind
    let record ← emptyRecord type
    initialise call record args named
    return record

/-- Calls a thing. -/
def invokeOnce (item : Item) (args : List Item) (named : List (String × Item)) : Run Item := do
  match item, args, named with
  | .type type, _, _ => makeRecord call type args named
  | .check subject t, [v], [] =>
    checkItem call subject t v
    return .null
  | .bound name receiver, _, _ =>
    if name == Member.wireForm && args.isEmpty then wireFormOf call receiver
    else if name == Member.wireReader then
      match args with
      | [data] => recordOfWire call receiver data
      | _ => refuse .wrongKind
    else if name == adder then
      match args, receiver, ← objectOf? receiver with
      | [v], .object id, some (.list items) =>
        store id (.list (items ++ [v]))
        return .null
      | _, _, _ => refuse .wrongKind
    else refuse .wrongKind
  | _, _, _ =>
    match ← special? call item caller with
    | some asked => call asked args named
    | none => refuse .wrongKind

end Making

/-- Calls a thing, with no more than `fuel` calls inside one another. -/
def invokeWithin : (fuel : Nat) → Call
  | 0 => fun _ _ _ => refuse .tooDeep
  | fuel + 1 => invokeOnce (invokeWithin fuel)

def invoke : Call := invokeWithin greatestDepth

end ServiceClient
