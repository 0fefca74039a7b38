import ServiceClient.Record
import ServiceClient.Text.Blank

/-!
The methods of a service: how they are documented, how arguments are matched to their parameters,
and the request a call of them sends.
-/

namespace ServiceClient

structure Parameter where
  name : String
  type : TypeRef
  optional : Bool
  docs : List String

structure Method where
  name : String
  params : List Parameter
  returns : Option TypeRef
  docs : List String
  returnDocs : List String
  /-- What the two were read from. -/
  docSource : Value
  returnDocSource : Value

namespace Parameter

/-- A parameter as it stands in a signature; a question mark says that it may be left out. -/
def text (p : Parameter) : String :=
  p.name ++ (if p.optional then "?" else "") ++ ": " ++ p.type.text

/-- The line of a parameter in the documentation of its method. -/
def docLine (p : Parameter) : String :=
  "    " ++ p.name ++ " (" ++ p.type.text ++ "): " ++ " ".intercalate p.docs

/-- A full account of a parameter. -/
def summary (p : Parameter) : String :=
  "ParamSpec(" ++ quoted p.name ++ ", " ++ p.type.text ++ ", optional=" ++
    (if p.optional then "True" else "False") ++ ")"

end Parameter

/-- A line without the blanks at its end. -/
def trimLine (line : String) : String := String.ofList (trimEnd isBlank line.toList)

namespace Method

def signature (m : Method) : String :=
  m.name ++ "(" ++ ", ".intercalate (m.params.map Parameter.text) ++ ") -> " ++ resultText m.returns

/-- The documentation of a method: its own lines, the signature, a line for each parameter, and one
for the result. -/
def documentation (m : Method) : String :=
  let own := if m.docs.isEmpty then [] else m.docs ++ [""]
  let params := if m.params.isEmpty then []
    else "" :: "Args:" :: m.params.map fun p => trimLine p.docLine
  let result := match m.returns with
    | none => []
    | some t => ["", trimLine ("Returns: " ++ t.text ++ " " ++ " ".intercalate m.returnDocs)]
  "\n".intercalate (own ++ m.signature :: params ++ result)

/-- A full account of a method. -/
def summary (m : Method) : String := "<CallStub " ++ m.signature ++ ">"

/-- What is given for each parameter, in call order. -/
def assign {α : Type} (m : Method) (args : List α) (named : List (String × α)) :
    Except Failure (List (Option α)) :=
  match bindArguments (m.params.map (·.name)) args named with
  | .error cause => .error (.binding (.method m.name) cause)
  | .ok given => .ok given

/-- The value for each parameter, in call order; one that is not given is absent. -/
def bind (m : Method) (args : List Value) (named : List (String × Value)) :
    Except Failure (List Value) := do
  return (← m.assign args named).map (·.getD .absent)

/-- The members of a request for the parameters: an optional argument that is absent or null is left
out, any other is checked and converted. -/
def requestParams : List Parameter → List Value → Except Failure (List (String × Value))
  | p :: params, v :: values =>
    if p.optional && v.isOmitted then requestParams params values
    else do
      p.type.check p.name v
      return (p.name, ← v.toWire) :: (← requestParams params values)
  | _, _ => .ok []

/-- The request that calls a method with a value for each parameter. -/
def request (m : Method) (id : Value) (values : List Value) : Except Failure Value := do
  return .object [("jsonrpc", .string "2.0"), ("id", id), ("method", .string m.name),
    ("params", .object (← requestParams m.params values))]

/-- What the server says in place of a result. Some servers send a mere message. -/
def remoteFailure : Value → Failure
  | .object fields =>
    .remote ((fields.lookup "message").getD (.string "")).plainText
      ((fields.lookup "code").getD .null) ((fields.lookup "data").getD .null)
  | error => .remote error.plainText .null .null

/-- The result in a response. An error that is not null counts before any result, and a response
without a result means null. -/
def result (m : Method) : Value → Except Failure Value
  | .object fields =>
    match fields.lookup "error" with
    | none | some .null => .ok ((fields.lookup "result").getD .null)
    | some error => .error (remoteFailure error)
  | response => .error (.exchange (.notAnObject m.name response))

end Method

end ServiceClient
