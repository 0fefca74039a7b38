import ServiceClient.Session.Basic

/-!
Calls of methods in a session. A request has the arguments in their plain form, each checked before
it is converted; a call number is taken once the arguments are matched to the parameters.
-/

namespace ServiceClient

/-- Whether an argument counts as left out when it is optional. -/
def Item.isOmitted : Item → Bool
  | null | absent => true
  | _ => false

namespace Method

/-- The entries of a request for the parameters. -/
def requestEntries : List Parameter → List Item → Run (List (String × Item))
  | p :: params, v :: items => do
    if p.optional && v.isOmitted then return ← requestEntries params items
    checkItem invoke p.name p.type v
    return (p.name, ← itemToWire invoke v) :: (← requestEntries params items)
  | _, _ => return []

/-- The request that calls a method with an item for each parameter. -/
def requestItem (m : Method) (id : Item) (items : List Item) : Run Item := do
  let params ← allocate (.mapping (← requestEntries m.params items))
  allocate (.mapping [("jsonrpc", .string "2.0"), ("id", id), ("method", .string m.name),
    ("params", params)])

/-- The item for each parameter; one that is not given is absent. -/
def bindItems (m : Method) (args : List Item) (named : List (String × Item)) :
    Except Failure (List Item) := do
  return (← m.assign args named).map (·.getD .absent)

end Method

namespace Act

/-- Takes a call number. -/
def takeId : Act Int := modifyGet fun s =>
  let (id, link) := s.link.takeId
  (id, { s with link })

/-- Posts the text of a request of a method. -/
def post (m : Method) (body : String) : Act Value := do
  let s ← get
  let (result, link) := s.client.post m (.ok body) s.link
  set { s with link }
  ofExcept result

/-- Calls a method with items by position and by name. -/
def call (m : Method) (args : List Item) (named : List (String × Item)) : Act Value := do
  ofExcept (refuseReceiver named)
  let items ← ofExcept (m.bindItems args named)
  let id ← takeId
  let body ← inWorld do itemJson invoke (← m.requestItem (.int id) items)
  post m body

end Act

end ServiceClient
