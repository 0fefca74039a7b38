import ServiceClient.Session.Form
import ServiceClient.Session.Lookup
import ServiceClient.Session.Request

/-!
The steps of a session: they make records, change them, show them, call methods and fill in forms.
`Session.run` takes one step. What is shown in answer to it is looked at last; a step whose answer
cannot be shown was taken all the same.
-/

namespace ServiceClient

/-- What a form is made for. -/
inductive FormTarget
  | call (method : String)
  | record (name : String)
  | namespaceAt (path : List String)

/-- How a form is presented, and with what it is filled. -/
inductive FormView
  | html (form : Submitted)
  | outline (entered : List (String × Term))

inductive Step
  | make (name type : String) (args : List Term) (named : List (String × Term))
  | ofWireForm (name type : String) (data : Term)
  | ofWire (name : String) (type : Value) (data : Term)
  | keep (name : String) (term : Term)
  | setField (name field : String) (term : Term)
  | append (name field : String) (term : Term)
  | inspect (name : String)
  | toWire (name : String)
  | toJson (term : Term)
  | compare (a b : Term)
  | document (method : String)
  | bind (method : String) (args : List Term) (named : List (String × Term))
  | request (method : String) (id : Value) (values : List Term)
  | call (method : String) (args : List Term) (named : List (String × Term))
  | tree
  | find (access : Access) (path : List String)
  | form (target : FormTarget) (view : FormView) (submit : Option String)

/-- A form on show, as HTML or in outline. -/
inductive Widget
  | html (m : Markup)
  | outline (o : Outline)

/-- What a form gives: what was entered, or the result of submitting it. -/
inductive FormAnswer
  | entered (v : Except Failure View)
  | submitted (result : Except Failure Value)

inductive Answer
  | value (v : View)
  | inspected (v : View) (text : String)
  | json (text : String)
  | comparison (equal unequal : Bool)
  | documented (m : Method)
  | values (vs : List View)
  | called (result : Except Failure Value)
  | found (f : Found)
  | form (widget : Widget) (actions : List String) (answer : FormAnswer)

/-- What a form is made for, once it is found. -/
inductive FormSubject
  | method (m : Method)
  | namespaceOf (name : Option String) (members : Namespace Method)
  | record (item : Item)
  /-- What a record gives in place of its form. -/
  | instead (item : Item)

/-- A form that was built: its widget, its submissions by method names, and what was entered. -/
structure BuiltForm (W : Type) where
  widget : W
  submissions : List (String × Filled)
  entered : Run View

namespace Member

/-- What makes the form of a record, and what builds it. -/
def form : String := "gui"

def formBuilder : String := "build"

end Member

namespace Act

def view (item : Item) : Act View := inWorld (viewOf invoke item)

/-- The answer of a variable as it now is. -/
def answerValue (name : String) : Act Answer := do return .value (← view (← lookUp name))

/-- Keeps a new item in a variable and answers it. -/
def answerKept (name : String) (item : Item) : Act Answer := do
  keep name item
  return .value (← view item)

/-- What the form of a record is made for: the record, unless its type has set something else. -/
def recordSubject (record : Item) : Act FormSubject := do
  match ← inWorld (typeOf? record) with
  | none => throw (.misuse .noMember)
  | some type =>
    match ← inWorld (getMember invoke (.type type) Member.form) with
    | .common _ => return .record record
    | asked => return .instead (← inWorld (invoke asked [record] []))

/-- Finds what a form is to be made for. -/
def formSubject : FormTarget → Act FormSubject
  | .call name => do return .method (← methodNamed name)
  | .record name => do recordSubject (← lookUp name)
  | .namespaceAt path => do
    match ← ofExcept ((← get).client.find .byItem path) with
    | .namespaceOf name members => return .namespaceOf name members
    | .method m => return .method m
    | _ => throw (.misuse .noMember)

/-- Builds something that is no form. It has to be a pair, and that is nothing a record is. -/
def refuseForm {α : Type} (form : Item) : Run α := do
  let builder ← getMember invoke form Member.formBuilder
  let built ← invoke builder [.common "toolkit"] []
  discard (firstItem invoke built)
  refuse .badText

variable {W : Type}

/-- Builds the form of a subject. -/
def buildForm (toolkit : Toolkit (CallForms Filled) W Filled (Run Item)) (subject : FormSubject) :
    Act (BuiltForm W) := do
  let building : Building (W × Run View) := match subject with
    | .method m => do
      let (widget, args) ← buildMethod invoke toolkit m
      return (widget, do return .list (← (← args).mapM (viewOf invoke)))
    | .namespaceOf name members => do
      return (← buildNamespace invoke toolkit name members, return .simple .null)
    | .record item => do
      let (widget, entered) ← buildRecord invoke toolkit [] item
      return (widget, do viewOf invoke (← entered))
    | .instead item => refuseForm item
  let ((widget, entered), forms) ← inWorld (building.run .start)
  return ⟨widget, forms.actions, entered⟩

/-- What a form gives. Without a submission what was entered is read, and a record is changed. -/
def answerForm (widget : W → Widget) (submit : Option String) (form : BuiltForm W) :
    Act Answer := do
  let answer := Answer.form (widget form.widget) (form.submissions.map (·.1))
  match submit with
  | none => return answer (.entered (← outcome (inWorld form.entered)))
  | some name =>
    return answer (.submitted (← outcome do
      match form.submissions.lookup name with
      | none => throw (.misuse .noKey)
      | some filled => call filled.method (← inWorld filled.args) []))

/-- Makes a form and reads or submits it. What the form is for is found before what is entered. -/
def runForm (target : FormTarget) (view : FormView) (submit : Option String) : Act Answer := do
  let subject ← formSubject target
  match view with
  | .html form =>
    let toolkit := (Html.toolkit form Html.relativeAction).mapEntered enteredItem
    answerForm .html submit (← buildForm toolkit subject)
  | .outline terms =>
    let entered ← evalEntries terms
    let toolkit := Outline.toolkit fun number =>
      (return (entered.lookup (toString number)).getD .null : Run Item)
    answerForm .outline submit (← buildForm toolkit subject)

/-- Takes a step. -/
def answer : Step → Act Answer
  | .make name type args named => do answerKept name (← eval (.record type args named))
  | .ofWireForm name type data => do
    let reader ← inWorld (getMember invoke (← typeNamed type) Member.wireReader)
    let data ← eval data
    answerKept name (← inWorld (invoke reader [data] []))
  | .ofWire name type data => do
    let type ← ofExcept (refusing (TypeRef.read type))
    let data ← eval data
    match type with
    | some t =>
      answerKept name (← inWorld (itemOfWire invoke (.object World.typeTable) t data))
    | none => answerKept name data
  | .keep name term => do answerKept name (← eval term)
  | .setField name field term => do
    let item ← lookUp name
    let v ← eval term
    inWorld (setMember invoke item field v)
    answerValue name
  | .append name field term => do
    let collection ← inWorld (getMember invoke (← lookUp name) field)
    let add ← inWorld (getMember invoke collection adder)
    let v ← eval term
    discard (inWorld (invoke add [v] []))
    answerValue name
  | .inspect name => do
    let item ← lookUp name
    return .inspected (← view item) (← inWorld (itemText invoke item))
  | .toWire name => do
    let sender ← inWorld (getMember invoke (← lookUp name) Member.wireForm)
    return .value (← view (← inWorld (invoke sender [] [])))
  | .toJson term => do return .json (← inWorld (itemJson invoke (← eval term)))
  | .compare a b => do
    let a ← eval a
    let b ← eval b
    let equal ← inWorld (holds invoke .equal a b)
    return .comparison equal (← inWorld (holds invoke .unequal a b))
  | .document name => do return .documented (← methodNamed name)
  | .bind name args named => do
    let args ← evalItems args
    let named ← evalEntries named
    let items ← ofExcept ((← methodNamed name).bindItems args named)
    return .values (← items.mapM view)
  | .request name id values => do
    let m ← methodNamed name
    let items ← evalItems values
    return .value (← view (← inWorld do m.requestItem (← Item.ofValue id) items))
  | .call name args named => do
    let args ← evalItems args
    let named ← evalEntries named
    let m ← methodNamed name
    return .called (← outcome (call m args named))
  | .tree => do return .found (.namespaceOf none (← get).client.methods)
  | .find access path => do return .found (← ofExcept ((← get).client.find access path))
  | .form target view submit => runForm target view submit

end Act

/-- Takes a step. One that fails has done what it did before. -/
def Session.run (s : Session) (step : Step) : Except Failure Answer × Session :=
  (Act.answer step).run s

end ServiceClient
