import ServiceClient.Client
import ServiceClient.Session.Making
import ServiceClient.Session.Term

/-!
Sessions: a service in use. A session has the client of the service, the link to it, a world of
things, and variables for some of these. Variables may share objects, so that a change made through
one of them is seen through all.
-/

namespace ServiceClient

structure Session where
  client : Client
  link : Link
  world : World
  bindings : List (String × Item)

/-- What is done in a session. What was done before a failure stays. -/
abbrev Act := ExceptT Failure (StateM Session)

namespace Session

def start (client : Client) (link : Link) : Session :=
  { client, link, world := .start client.types, bindings := [] }

/-- A session as it stands before a step that is answered with this reply. -/
def expecting (s : Session) (reply : Option Reply) : Session :=
  { s with link := { s.link with replies := reply.toList, sent := [] } }

end Session

namespace Act

variable {α : Type}

/-- Does something in the world of a session. -/
def inWorld (step : Run α) : Act α := do
  let s ← get
  let (result, world) := step.run s.world
  set { s with world }
  match result with
  | .ok a => return a
  | .error failure => throw failure

def ofExcept : Except Failure α → Act α
  | .ok a => return a
  | .error failure => throw failure

/-- What something comes to, when its failure is none of what it is a part of. -/
def outcome (act : Act α) : Act (Except Failure α) := ExceptT.lift act.run

/-- The item in a variable. -/
def lookUp (name : String) : Act Item := do
  match (← get).bindings.lookup name with
  | some item => return item
  | none => throw (.misuse .noKey)

/-- Keeps an item in a variable. -/
def keep (name : String) (item : Item) : Act Unit :=
  modify fun s => { s with bindings := putEntry name item s.bindings }

/-- The declared type of a name. -/
def typeNamed (name : String) : Act Item := do
  match ← inWorld (typeState? name) with
  | some _ => return .type name
  | none => throw (.misuse .noKey)

/-- The method of a name. -/
def methodNamed (name : String) : Act Method := do
  match (← get).client.method? name with
  | some m => return m
  | none => throw (.misuse .noKey)

/-- Makes things of terms. What a term says is not a number is a thing of its own. -/
def maker : TermMaker Act Item where
  value v := inWorld (Item.ofValue v)
  number
    | .nan => inWorld newNotNumber
    | x => return .float x
  list items := inWorld (allocate (.list items))
  tuple items := return .tuple items
  object entries := inWorld (allocate (.mapping entries))
  record name args named := do
    let type ← typeNamed name
    inWorld (invoke type args named)
  typeObject := typeNamed
  reference := lookUp
  refuse cause := throw (.misuse cause)

def eval (term : Term) : Act Item := term.make maker

def evalItems (terms : List Term) : Act (List Item) := makeItems maker terms

def evalEntries (terms : List (String × Term)) : Act (List (String × Item)) :=
  makeEntries maker terms

end Act

end ServiceClient
