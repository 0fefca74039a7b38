import ServiceClient.Description
import ServiceClient.Json.Writer
import ServiceClient.Link
import ServiceClient.Method
import ServiceClient.Namespace
import ServiceClient.Reserved

/-!
The client of a service, as it is built from a description: the declared types, the methods in their
namespaces, and the address that calls are posted to.
-/

namespace ServiceClient

structure Client where
  serviceName : Value
  endpoint : String
  types : List RecordType
  methods : Namespace Method

namespace RecordType

/-- Fields all of which have types. -/
def typedFields (fields : List (String × Option TypeRef)) :
    Except DescriptionFault (List (String × TypeRef)) :=
  fields.mapM fun (field, t?) =>
    match t? with
    | some t => .ok (field, t)
    | none => .error .untypedField

/-- A declared type that records can be made of. -/
def ofDescription (name : String) (fields : List (String × Option TypeRef)) :
    Except Failure RecordType := do
  match fields.find? fun (field, _) => isReserved field with
  | some (field, _) => throw (.description (.reservedField name field))
  | none => pure ()
  let fields ← refusing (typedFields fields)
  if name.toList.contains '\x00' then throw (.misuse .badText)
  return ⟨name, fields⟩

end RecordType

/-- The lines of a documentation text. A mere text is a line for each of its characters. -/
def docLines (v : Value) : Except Failure (List String) :=
  let lines (items : List Value) : Except Failure (List String) := items.mapM fun
    | .string line => .ok line
    | _ => .error (.misuse .wrongKind)
  if !v.countsAsTrue then .ok []
  else match v with
    | .string text => .ok (text.toList.map Char.toString)
    | .list items | .tuple items => lines items
    | .object entries => .ok (entries.map (·.1))
    | _ => .error (.misuse .wrongKind)

/-- A parameter with a type. -/
def Parameter.ofDescription (method : String) (p : ParameterDescription) :
    Except Failure Parameter := do
  match p.type with
  | none => throw (.description (.untypedParameter method p.name))
  | some type =>
    return { name := p.name, type, optional := p.optional, docs := ← docLines p.docLines }

/-- A method that can be called. A method without a result has no use for the lines on it. -/
def Method.ofDescription (m : MethodDescription) : Except Failure Method := do
  let docs ← docLines m.docLines
  let params ← m.params.mapM (Parameter.ofDescription m.name)
  let returnDocs ← if m.returns.isSome then docLines m.returnDocLines else pure []
  return {
    name := m.name, params, docs, returnDocs
    returns := m.returns
    docSource := m.docLines
    returnDocSource := m.returnDocLines }

namespace Client

/-- Builds the client of a service whose calls are posted to `endpoint`. -/
def build (description : Value) (endpoint : String) : Except Failure Client := do
  let service ← ServiceDescription.read description
  let types ← service.types.mapM fun (name, fields) => RecordType.ofDescription name fields
  let methods ← service.methods.mapM fun m => return (m.name, ← Method.ofDescription m)
  return {
    types, endpoint
    serviceName := service.name
    methods := ← refusing (Namespace.ofList methods) }

def descriptionFile : String := "api_description.json"

def defaultBase : String := "http://0.0.0.0:8080/"

/-- The text, unless it is empty. -/
def textOr (fallback text : String) : String := if text.isEmpty then fallback else text

/-- Fetches the description of the service at `base` and builds its client. Calls are posted to
`base` when no other endpoint is given. -/
def load (base : String) (endpoint : Option String) (link : Link) : Except Failure Client × Link :=
  let base := textOr defaultBase base
  let (description, link) := link.get (base ++ descriptionFile)
  (do build (← description) (textOr base (endpoint.getD "")), link)

/-- The methods by their full names. -/
def methodList (client : Client) : List (String × Method) := Namespace.toList "" client.methods

def method? (client : Client) (name : String) : Option Method := client.methodList.lookup name

/-- Posts the request of a method, if there is one, and reads the result in the response. -/
def post (client : Client) (m : Method) (body : Except Failure String) (link : Link) :
    Except Failure Value × Link :=
  match body with
  | .error failure => (.error failure, link)
  | .ok body =>
    let (response, link) := link.post client.endpoint body
    (response >>= m.result, link)

/-- Calls a method with a value for each of its parameters. -/
def send (client : Client) (m : Method) (values : List Value) (link : Link) :
    Except Failure Value × Link :=
  let (id, link) := link.takeId
  client.post m (m.request (.int id) values >>= Json.write) link

/-- Calls a method with values by position and by name. A call number is taken once the values are
matched to the parameters. -/
def call (client : Client) (m : Method) (args : List Value) (named : List (String × Value))
    (link : Link) : Except Failure Value × Link :=
  match (do refuseReceiver named; m.bind args named) with
  | .error failure => (.error failure, link)
  | .ok values => client.send m values link

end Client

end ServiceClient
