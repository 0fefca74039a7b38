import ServiceClient.Form.Html
import ServiceClient.Session.Making

/-!
Forms of things. They are laid out as the forms of plain records and methods are, but which fields a
record has, of which types those inside it are and how a record inside it is made is found by name
when the form is made; what is entered is read later, and then set in the records field by field.
-/

namespace ServiceClient

/-- A call to be made with what was entered. -/
structure Filled where
  method : Method
  args : Run (List Item)

/-- The making of a form. -/
abbrev Building := StateT (CallForms Filled) Run

/-- A part of a form, and what is entered in it. -/
abbrev Built (W : Type) := W × Run Item

section Build

variable {W : Type} (call : Call) (toolkit : Toolkit (CallForms Filled) W Filled (Run Item))

def liftToolkit {α : Type} (step : StateM (CallForms Filled) α) : Building α :=
  fun forms => return step.run forms

/-- An input for an object, which makes records of the mappings in what is entered. -/
def buildObject (types : Item) (optional : Bool) (label : String) (t : Item) :
    Building (Built W) := do
  let (widget, entered) ← liftToolkit (toolkit.input label .object optional)
  return (widget, do itemOfWireBy call types t (← entered))

/-- The part of a form for a field or a parameter. `around` has the names of the records that are
around it, and `buildRecord` builds the part for one inside. -/
def buildField (buildRecord : List String → Item → Building (Built W)) (types : Item)
    (around : List String) (optional : Bool) (name : String) (t : Item) :
    Building (Built W) := do
  let object := buildObject call toolkit types optional (label name) t
  match t with
  | .declared (.primitive kind) =>
    liftToolkit (toolkit.input (label name) (.ofPrimitive kind) optional)
  | .declared (.array element) =>
    let (widget, entered) ← liftToolkit (toolkit.arrayInput (label name) element optional)
    return (widget, do itemOfWire call types (.array element) (← entered))
  | .declared (.named type) =>
    if (← contains call types type) && !around.contains type then
      let record ← call (← itemAt call types type) [] []
      let (widget, entered) ← buildRecord around record
      return (toolkit.frame (label name) widget, entered)
    object
  | t =>
    askType call t
    object

/-- Sets the fields of a record to what was entered, one after the other. -/
def enter (record : Item) : List (String × Run Item) → Run Item
  | [] => return record
  | (name, entered) :: rest => do
    setMember call record name (← entered)
    enter record rest

/-- The part of a form for a record with no records inside deeper than `fuel`. What the record is
called has to be one that can be remembered. -/
def buildRecordWithin : (fuel : Nat) → List String → Item → Building (Built W)
  | 0, _, _ => refuse .tooDeep
  | fuel + 1, around, record => do
    let called ← getMember call record Member.typeName
    checkHashable call called
    let around := match called with
      | .string name => name :: around
      | _ => around
    let fields ← entriesOf call (← getMember call record Member.fields)
    let built ← fields.mapM fun (name, t) => do
      let types ← getMember call record Member.types
      let (widget, entered) ←
        buildField call toolkit (buildRecordWithin fuel) types around false name t
      return (widget, name, entered)
    return (toolkit.fieldset (built.map (·.1)), enter call record (built.map (·.2)))

def buildRecord : List String → Item → Building (Built W) :=
  buildRecordWithin call toolkit greatestDepth

/-- The form of a method: its widget, and the arguments entered. -/
def buildMethod (m : Method) : Building (W × Run (List Item)) := do
  liftToolkit (toolkit.startCall m.name)
  let built ← m.params.mapM fun p =>
    buildField call toolkit (buildRecord call toolkit) (.object World.typeTable) [] p.optional
      p.name (.declared p.type)
  let args := (built.map (·.2)).mapM id
  let widget ← liftToolkit (toolkit.callForm m.title (built.map (·.1)) ⟨m, args⟩)
  return (widget, args)

mutual

/-- The form of a member of a namespace, which is known there as `name`. -/
def buildNamed (name : String) : NameTree Method → Building W
  | .leaf m => do return (← buildMethod call toolkit m).1
  | .branch members => do
    let title := if name.isEmpty then none else some (label name)
    return toolkit.group title (← buildAll members)

def buildAll : List (String × NameTree Method) → Building (List W)
  | [] => return []
  | (name, member) :: rest => do return (← buildNamed name member) :: (← buildAll rest)

end

/-- The form of a namespace with a name of its own, or without one. -/
def buildNamespace (name : Option String) (members : Namespace Method) : Building W := do
  let title := name.bind fun name => if name.isEmpty then none else some (label name)
  return toolkit.group title (← buildAll call toolkit members)

end Build

/-- What was entered in an input. What is not a number, as an input for numbers has it, is another
thing each time it is read. -/
def enteredItem (kind : InputKind) (v : Value) : Run Item :=
  match kind, v with
  | .number, .float .nan => newNotNumber
  | _, v => Item.ofValue v

end ServiceClient
