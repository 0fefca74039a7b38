import ServiceClient.Form.Build

/-!
Forms as plain data: a toolkit that writes down which widgets were asked for. Inputs are numbered
from one over the whole form, and their numbers give what is entered in them.
-/

namespace ServiceClient

inductive Outline
  | input (number : Nat) (label : String) (kind : InputKind) (optional : Bool)
  | arrayInput (number : Nat) (label : String) (element : TypeRef) (optional : Bool)
  | frame (label : String) (inner : Outline)
  | fieldset (children : List Outline)
  | callForm (title : String) (children : List Outline)
  | group (title : Option String) (children : List Outline)

/-- The forms of calls made so far, by the names of their methods. -/
structure CallForms (A : Type) where
  current : String
  inputs : Nat
  actions : List (String × A)

namespace CallForms

variable {A : Type}

def start : CallForms A := ⟨"", 0, []⟩

/-- The number of a new input. -/
def nextInput : StateM (CallForms A) Nat := fun s =>
  (s.inputs + 1, { s with inputs := s.inputs + 1 })

/-- Registers what the current call does on submission. -/
def register (action : A) : StateM (CallForms A) Unit := fun s =>
  ((), { s with actions := putEntry s.current action s.actions })

end CallForms

/-- The outlining toolkit over what is entered by number. -/
def Outline.toolkit {A V : Type} (entered : Nat → V) : Toolkit (CallForms A) Outline A V where
  startCall name := fun s => ((), { s with current := name })
  input label kind optional := do
    let number ← CallForms.nextInput
    return (.input number label kind optional, entered number)
  arrayInput label element optional := do
    let number ← CallForms.nextInput
    return (.arrayInput number label element optional, entered number)
  frame := .frame
  fieldset := .fieldset
  callForm title children action := do
    CallForms.register action
    return .callForm title children
  group := .group

end ServiceClient
