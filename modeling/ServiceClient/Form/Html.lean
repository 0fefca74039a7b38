import ServiceClient.Form.Outline
import ServiceClient.Json.Reader
import ServiceClient.Markup
import ServiceClient.Number.Numeral

/-!
Forms as HTML. Inputs are named `call:n`, numbered from one within each call, so that the form of a
single call can be made again when it is submitted. Inputs show the submitted texts, and values are
read from these.
-/

namespace ServiceClient

/-- Submitted texts by the names of their inputs. -/
abbrev Submitted := List (String × String)

namespace Html

/-- Reads a number; a text that is none stays a text, for the check of the argument to report. -/
def readNumber (text : String) : Value :=
  match integer? text with
  | some n => .int n
  | none =>
    match floating? text with
    | some x => .float x
    | none => .string text

/-- Reads JSON; a text that is none stays a text, for the check of the argument to report. -/
def readJson (text : String) : Value :=
  match Json.parse text with
  | .ok v => v
  | .error _ => .string text

/-- What is entered in an input. An optional one left blank is absent, an empty one means
`fallback`. -/
def read (form : Submitted) (name : String) (optional : Bool) (parse : String → Value)
    (fallback : String) : Value :=
  let text := (form.lookup name).getD ""
  if optional && isBlankText text then .absent
  else parse (if text.isEmpty then fallback else text)

def attr (name value : String) : Attribute := ⟨name, some value⟩

def flag (name : String) (on : Bool) : List Attribute := if on then [⟨name, none⟩] else []

/-- A labelled input of one line. -/
def lineInput (attributes : List Attribute) (name value label : String) (optional : Bool) :
    Markup :=
  .element "div" [attr "class" "input"] [
    .void "input" (attributes ++ [attr "name" name, attr "value" value] ++
      flag "required" (!optional)),
    .element "label" [] [.text label]]

/-- A labelled input of several lines. -/
def textArea (label : List Markup) (name value : String) : Markup :=
  .element "div" [attr "class" "input"] [
    .element "label" [] label,
    .element "textarea" [attr "name" name] [.text value]]

def checkbox (label name : String) (checked : Bool) : Markup :=
  .element "label" [attr "class" "checkbox"] [
    .text label,
    .void "input" ([attr "type" "checkbox", attr "name" name, attr "value" "1"] ++
      flag "checked" checked)]

/-- The input of a kind, filled with what was submitted, and what is read from it. -/
def input (form : Submitted) (name label : String) (optional : Bool) : InputKind → Markup × Value
  | .boolean =>
    let checked := (form.lookup name).isSome
    (checkbox label name checked, .bool checked)
  | .object =>
    let value := (form.lookup name).getD ""
    let shown := if value.isEmpty then (if optional then "" else "\x7b\x7d") else value
    (textArea [.text label] name shown, read form name optional readJson "\x7b\x7d")
  | .number =>
    (lineInput [attr "type" "number", attr "step" "any"] name
        ((form.lookup name).getD "") label optional,
      read form name optional readNumber "")
  | .string =>
    (lineInput [attr "type" "text"] name ((form.lookup name).getD "") label optional,
      read form name optional .string "")

/-- The input of an array, filled with what was submitted, and what is read from it. -/
def arrayInput (form : Submitted) (name label : String) (element : TypeRef) (optional : Bool) :
    Markup × Value :=
  let shown := (form.lookup name).getD (if optional then "" else "[]")
  let hint := TypeRef.text (.array element) ++ " as JSON"
  (textArea [.text label, .text " (", .text hint, .text ")"] name shown,
    read form name optional readJson "[]")

def frame (label : String) (inner : Markup) : Markup :=
  .element "fieldset" [attr "class" "frame"] [.element "legend" [] [.text label], inner]

def fieldset (children : List Markup) : Markup :=
  .element "div" [attr "class" "record"] children

def callForm (title action : String) (children : List Markup) : Markup :=
  .element "details" (attr "class" "call" :: flag "open" true) [
    .element "summary" [] [.text title],
    .element "form" [attr "method" "post", attr "action" action]
      (children ++ [.element "button" [attr "type" "submit"] [.text title]])]

def group : Option String → List Markup → Markup
  | none, children => .element "div" [attr "class" "api"] children
  | some title, children =>
    .element "details" (attr "class" "namespace" :: flag "open" true)
      (.element "summary" [] [.text title] :: children)

/-- The name of a new input of the current call. -/
def inputName {A : Type} : StateM (CallForms A) String := do
  let number ← CallForms.nextInput
  return (← get).current ++ ":" ++ toString number

/-- The address a call form is posted to where nothing else is said. -/
def relativeAction (name : String) : String := "call/" ++ name

/-- The toolkit of HTML forms over submitted texts. `action` gives the address that the form of a
call is posted to. -/
def toolkit {A : Type} (form : Submitted) (action : String → String) :
    Toolkit (CallForms A) Markup A Value where
  startCall name := fun s => ((), { s with current := name, inputs := 0 })
  input label kind optional := do
    return input form (← inputName) label optional kind
  arrayInput label element optional := do
    return arrayInput form (← inputName) label element optional
  frame := frame
  fieldset := fieldset
  callForm title children submit := do
    CallForms.register submit
    return callForm title (action (← get).current) children
  group := group

end Html

end ServiceClient
