import ServiceClient.Session.Collection
import ServiceClient.Value.Text

/-!
The texts of things. A record is written with its name and its fields as they are found by name; its
type may have set something in the place of its text, which is asked and is of no use.
-/

namespace ServiceClient

/-- The text of a type: its full name after that of its home. A type at home everywhere goes by its
name alone, and so does one whose home has no name. -/
def TypeState.text (state : TypeState) : String :=
  match state.members.lookup "__module__" with
  | some (.string home) =>
    if home == "builtins" then "<class '" ++ state.title ++ "'>"
    else Value.typeText home state.fullTitle
  | _ => "<class '" ++ state.title ++ "'>"

section Text

variable (call : Call)

/-- Asks what is set under the first of some names on the type of a record. It gives no text. -/
def askInstead (item : Item) (names : List String) (args : List Item) : Run Unit := do
  match ← firstSpecial? call item names with
  | some asked =>
    discard (call asked args [])
    refuse .wrongKind
  | none => pure ()

variable (textOf : Item → Run String)

/-- The text of a thing as a part of another text: a text stands as it is. -/
def plainTextBy (item : Item) : Run String := do
  match item with
  | .string s => return s
  | item =>
    askInstead call item ["__format__"] [.string ""]
    askInstead call item ["__str__"] []
    textOf item

/-- The text of a field of a record. -/
def fieldText (record name : Item) : Run String := do
  let shown ← plainTextBy call textOf name
  return shown ++ "=" ++ (← textOf (← getMemberBy call record name))

/-- The text of a thing in which texts are quoted. -/
def textOnce (item : Item) : Run String := do
  match ← objectOf? item with
  | some (.list items) => return Value.bracketed "[" "]" (← items.mapM textOf)
  | some (.mapping entries) =>
    return Value.bracketed "\x7b" "\x7d" (← entries.mapM fun (key, item) =>
      return quoted key ++ ": " ++ (← textOf item))
  | some (.record ..) =>
    askInstead call item ["__repr__"] []
    let fields ← (← itemsOf call (← getMember call item Member.fields)).mapM
      (fieldText call textOf item)
    let name ← plainTextBy call textOf (← getMember call item Member.typeName)
    return name ++ Value.bracketed "(" ")" fields
  | none =>
    match item with
    | .tuple items => return Value.tupleText (← items.mapM textOf)
    | .absent => return Value.absent.text
    | .type name => return ((← typeState? name).map TypeState.text).getD name
    | .declared t => return t.text
    | .check name _ | .common name | .bound name _ => return name
    | item => return (item.simple?.getD .null).text

end Text

/-- The text of a thing that has nothing deeper inside than `fuel`. -/
def textWithin (call : Call) : (fuel : Nat) → Item → Run String
  | 0, _ => refuse .tooDeep
  | fuel + 1, item => textOnce call (textWithin call fuel) item

def itemText (call : Call) : Item → Run String := textWithin call greatestDepth

/-- The text of a thing that is shown by itself. -/
def plainItemText (call : Call) : Item → Run String := plainTextBy call (itemText call)

end ServiceClient
