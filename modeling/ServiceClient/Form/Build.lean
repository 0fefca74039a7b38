import ServiceClient.Client
import ServiceClient.Form.Control
import ServiceClient.Form.Label

/-!
Building forms. A `Toolkit` makes the widgets of one kind of presentation and says what every
input is read as; the functions here lay out the forms of records, methods and namespaces with any
toolkit. What is read from an array or an object input is converted to the records its type
declares, and only that can fail.
-/

namespace ServiceClient

/-- Makes widgets of type `W`, keeping a state `σ`. `A` is what a call form does when it is
submitted, and `V` is what is entered in an input. -/
structure Toolkit (σ W A V : Type) where
  /-- Told before the widgets of a call are made. -/
  startCall : (name : String) → StateM σ Unit
  /-- An input, and the value entered in it. -/
  input : (label : String) → InputKind → (optional : Bool) → StateM σ (W × V)
  /-- An input for an array of some type, and the value entered in it. -/
  arrayInput : (label : String) → (element : TypeRef) → (optional : Bool) → StateM σ (W × V)
  /-- A frame around the widget of a nested record. -/
  frame : (label : String) → W → W
  /-- The widgets of the fields of a record. -/
  fieldset : List W → W
  /-- The form of a call. -/
  callForm : (title : String) → List W → A → StateM σ W
  /-- The forms of a namespace; the outermost has no title. -/
  group : (title : Option String) → List W → W

/-- A toolkit in whose inputs something else is entered, depending on what they take; an array is
entered as an object is. -/
def Toolkit.mapEntered {σ W A U V : Type} (f : InputKind → U → V) (toolkit : Toolkit σ W A U) :
    Toolkit σ W A V where
  startCall := toolkit.startCall
  input label kind optional := do
    let (widget, v) ← toolkit.input label kind optional
    return (widget, f kind v)
  arrayInput label element optional := do
    let (widget, v) ← toolkit.arrayInput label element optional
    return (widget, f .object v)
  frame := toolkit.frame
  fieldset := toolkit.fieldset
  callForm := toolkit.callForm
  group := toolkit.group

/-- What reading an input comes to. -/
abbrev Entered := Except Failure Value

/-- All that was entered, or the first failure. -/
def allEntered : List Entered → Except Failure (List Value)
  | [] => .ok []
  | v :: vs => do return (← v) :: (← allEntered vs)

/-- A call to be made with what was entered. -/
structure Submission where
  method : Method
  args : Except Failure (List Value)

/-- Makes the call of a submission. What cannot be read takes no call number. -/
def Submission.run (client : Client) (s : Submission) (link : Link) : Except Failure Value × Link :=
  match s.args with
  | .error failure => (.error failure, link)
  | .ok args => client.call s.method args [] link

section Build

variable {σ W A : Type} (toolkit : Toolkit σ W A Value) (types : List RecordType)

mutual

/-- The widget of a control, and what is entered in it. -/
def Control.build (label : String) (optional : Bool) : Control → StateM σ (W × Entered)
  | .primitive kind => do
    let (widget, v) ← toolkit.input label (.ofPrimitive kind) optional
    return (widget, .ok v)
  | .object name => do
    let (widget, v) ← toolkit.input label .object optional
    return (widget, v.ofWire types (.named name))
  | .array element => do
    let (widget, v) ← toolkit.arrayInput label element optional
    return (widget, v.ofWire types (.array element))
  | .frame type fields => do
    let (widgets, entered) ← buildFields fields
    return (toolkit.frame label (toolkit.fieldset widgets),
      (allEntered entered).map (.record type ·))

/-- The widgets of the fields of a record, and what is entered in them. -/
def buildFields : List (String × Control) → StateM σ (List W × List Entered)
  | [] => return ([], [])
  | (name, control) :: rest => do
    let (widget, v) ← control.build (label name) false
    let (widgets, vs) ← buildFields rest
    return (widget :: widgets, v :: vs)

end

/-- The form of a record: its widget, and what is entered for each field. -/
def RecordType.buildForm (type : RecordType) : StateM σ (W × List Entered) := do
  let (widgets, entered) ← buildFields toolkit types (Control.ofRecord types type)
  return (toolkit.fieldset widgets, entered)

/-- The widgets for the parameters of a call, and what is entered in them. -/
def buildParameters : List Parameter → StateM σ (List W × List Entered)
  | [] => return ([], [])
  | p :: params => do
    let (widget, v) ← (Control.ofType types p.type).build toolkit types (label p.name) p.optional
    let (widgets, vs) ← buildParameters params
    return (widget :: widgets, v :: vs)

/-- The last segment of a method's name, which is the title of its form. -/
def Method.title (m : Method) : String := label ((segments m.name).getLastD "")

/-- The form of a call: its widget, and the arguments entered. -/
def Method.buildForm (submit : Submission → A) (m : Method) :
    StateM σ (W × Except Failure (List Value)) := do
  toolkit.startCall m.name
  let (widgets, entered) ← buildParameters toolkit types m.params
  let args := allEntered entered
  let widget ← toolkit.callForm m.title widgets (submit ⟨m, args⟩)
  return (widget, args)

mutual

/-- The form of a member of a namespace, which is known there as `name`. -/
def buildMember (submit : Submission → A) (name : String) : NameTree Method → StateM σ W
  | .leaf m => do return (← m.buildForm toolkit types submit).1
  | .branch members => do
    let title := if name.isEmpty then none else some (label name)
    return toolkit.group title (← buildMembers submit members)

def buildMembers (submit : Submission → A) : List (String × NameTree Method) → StateM σ (List W)
  | [] => return []
  | (name, member) :: rest => do
    return (← buildMember submit name member) :: (← buildMembers submit rest)

end

/-- The forms of a whole service. -/
def Client.buildForms (submit : Submission → A) (client : Client) : StateM σ W := do
  return toolkit.group none (← buildMembers toolkit client.types submit client.methods)

end Build

/-- Writes what was entered into the fields of a record, one after the other, up to the first that
cannot be read. -/
def writeEntered : List Value → List Entered → List Value × Option Failure
  | _ :: values, .ok v :: entered =>
    let (values, failure) := writeEntered values entered
    (v :: values, failure)
  | values, .error failure :: _ => (values, some failure)
  | values, _ => (values, none)

end ServiceClient
