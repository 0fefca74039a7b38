import ServiceClient.Arguments
import ServiceClient.Check

/-!
Records: making them from values, and their form on the wire.

`Value.toWire` turns a value into plain JSON, checking every record on the way: the check of a field
comes before the conversion of what is inside it. `Value.ofWire` goes back, and makes a record of
every mapping that stands where a declared type is expected.
-/

namespace ServiceClient

namespace RecordType

def fieldNames (type : RecordType) : List String := type.fields.map (·.1)

/-- Fills the fields that were given no value. -/
def fill : List (String × TypeRef) → List (Option Value) → List Value
  | (_, t) :: fields, value? :: values => value?.getD t.default :: fill fields values
  | _, _ => []

/-- A new record from values by position and by name. -/
def make (type : RecordType) (values : List Value) (named : List (String × Value)) :
    Except Failure Value := do
  refuseReceiver named
  match bindArguments type.fieldNames values named with
  | .error cause => throw (.binding (.type type.name) cause)
  | .ok given => return .record type (fill type.fields given)

end RecordType

mutual

/-- The plain form of a value: records become mappings and tuples become lists. -/
def Value.toWire : Value → Except Failure Value
  | .list items | .tuple items => do return .list (← toWireItems items)
  | .object entries => do return .object (← toWireEntries entries)
  | .record type values => do return .object (← toWireFields type.name type.fields values)
  | v => .ok v

def toWireItems : List Value → Except Failure (List Value)
  | [] => .ok []
  | v :: vs => do return (← v.toWire) :: (← toWireItems vs)

def toWireEntries : List (String × Value) → Except Failure (List (String × Value))
  | [] => .ok []
  | (key, v) :: rest => do return (key, ← v.toWire) :: (← toWireEntries rest)

/-- The entries of a record of the named type, each field checked and then converted. -/
def toWireFields (owner : String) : List (String × TypeRef) → List Value →
    Except Failure (List (String × Value))
  | (field, t) :: fields, v :: vs => do
    t.check (owner ++ "." ++ field) v
    return (field, ← v.toWire) :: (← toWireFields owner fields vs)
  | _, _ => .ok []

end

mutual

/-- Makes records of the mappings in a plain value, where the type declares them. -/
def Value.ofWire (types : List RecordType) : TypeRef → Value → Except Failure Value
  | .array element, .list items => do return .list (← ofWireItems types element items)
  | .named name, .object entries =>
    match findType? types name with
    | some type => do type.make [] (← ofWireEntries types type.fields entries)
    | none => .ok (.object entries)
  | _, v => .ok v

def ofWireItems (types : List RecordType) (element : TypeRef) :
    List Value → Except Failure (List Value)
  | [] => .ok []
  | v :: vs => do return (← v.ofWire types element) :: (← ofWireItems types element vs)

/-- Converts the entries that are declared fields by their types and leaves the others. -/
def ofWireEntries (types : List RecordType) (fields : List (String × TypeRef)) :
    List (String × Value) → Except Failure (List (String × Value))
  | [] => .ok []
  | (key, v) :: rest => do
    let converted ← match fields.lookup key with
      | some t => v.ofWire types t
      | none => .ok v
    return (key, converted) :: (← ofWireEntries types fields rest)

end

/-- A record from its form on the wire. -/
def RecordType.ofWireForm (types : List RecordType) (type : RecordType) : Value →
    Except Failure Value
  | .object entries => do type.make [] (← ofWireEntries types type.fields entries)
  | _ => .error (.misuse .noMember)

end ServiceClient
