import ServiceClient.Session.Collection

/-!
Views: what is shown of a thing. A record is shown with what it is called and with its fields, all
found by name; what has no view, such as a function, cannot be shown.
-/

namespace ServiceClient

inductive View
  | simple (v : Value)
  | list (items : List View)
  | tuple (items : List View)
  | mapping (entries : List (String × View))
  | absent
  | type (title : String)
  | record (called : Value) (fields : List (String × View))

/-- The plain value of a thing, if it has one. -/
def Item.plainWithin : (fuel : Nat) → Item → Run Value
  | 0, _ => refuse .tooDeep
  | fuel + 1, item => do
    match item, item.simple?, ← objectOf? item with
    | _, some v, _ => return v
    | .tuple items, _, _ => return .tuple (← items.mapM (Item.plainWithin fuel))
    | _, _, some (.list items) => return .list (← items.mapM (Item.plainWithin fuel))
    | _, _, some (.mapping entries) =>
      return .object (← entries.mapM fun (key, item) => return (key, ← item.plainWithin fuel))
    | _, _, _ => refuse .wrongKind

def Item.plain : Item → Run Value := Item.plainWithin greatestDepth

/-- The view of a thing that has nothing deeper inside than `fuel`. -/
def viewWithin (call : Call) : (fuel : Nat) → Item → Run View
  | 0, _ => refuse .tooDeep
  | fuel + 1, item => do
    match item, item.simple?, ← objectOf? item with
    | _, some v, _ => return .simple v
    | .absent, _, _ => return .absent
    | .tuple items, _, _ => return .tuple (← items.mapM (viewWithin call fuel))
    | .type name, _, _ => return .type (((← typeState? name).map (·.title)).getD name)
    | _, _, some (.list items) => return .list (← items.mapM (viewWithin call fuel))
    | _, _, some (.mapping entries) =>
      return .mapping (← entries.mapM fun (key, item) => return (key, ← viewWithin call fuel item))
    | _, _, some (.record ..) =>
      let called ← (← getMember call item Member.typeName).plain
      let names ← itemsOf call (← getMember call item Member.fields)
      return .record called (← names.mapM fun name => do
        let field ← nameOf name
        return (field, ← viewWithin call fuel (← getMember call item field)))
    | _, _, none => refuse .wrongKind

def viewOf (call : Call) : Item → Run View := viewWithin call greatestDepth

end ServiceClient
