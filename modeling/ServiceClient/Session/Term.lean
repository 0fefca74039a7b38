import ServiceClient.Number.Numeral
import ServiceClient.Record

/-!
Terms: values as they are given from outside. A term may make new records and refer to variables.
Numbers may be given as texts. What a term comes to depends on what is made of its parts
(`TermMaker`): plain values, where there are no variables, or the things of a session.
-/

namespace ServiceClient

inductive Term
  | value (v : Value)
  | integer (text : String)
  | floating (text : String)
  | list (items : List Term)
  | tuple (items : List Term)
  | object (entries : List (String × Term))
  | record (type : String) (args : List Term) (named : List (String × Term))
  | typeObject (name : String)
  | reference (name : String)

/-- What is made of the parts of a term. -/
structure TermMaker (m : Type → Type) (V : Type) where
  value : Value → m V
  number : Binary64 → m V
  list : List V → m V
  tuple : List V → m V
  object : List (String × V) → m V
  record : (type : String) → List V → List (String × V) → m V
  typeObject : (name : String) → m V
  reference : (name : String) → m V
  refuse : Misuse → m V

section Make

variable {m : Type → Type} {V : Type} [Monad m] (maker : TermMaker m V)

mutual

/-- What a term comes to. Its parts are made from left to right, those of a record before its type
is looked up. -/
def Term.make : Term → m V
  | .value v => maker.value v
  | .integer text => (integer? text).elim (maker.refuse .badText) fun n => maker.value (.int n)
  | .floating text => (floating? text).elim (maker.refuse .badText) maker.number
  | .list items => do maker.list (← makeItems items)
  | .tuple items => do maker.tuple (← makeItems items)
  | .object entries => do maker.object (entriesOfPairs (← makeEntries entries))
  | .record type args named => do
    let args ← makeItems args
    maker.record type args (← makeEntries named)
  | .typeObject name => maker.typeObject name
  | .reference name => maker.reference name

def makeItems : List Term → m (List V)
  | [] => return []
  | t :: ts => do return (← t.make) :: (← makeItems ts)

def makeEntries : List (String × Term) → m (List (String × V))
  | [] => return []
  | (key, t) :: rest => do return (key, ← t.make) :: (← makeEntries rest)

end

end Make

/-- The type of a name. -/
def typeNamed (types : List RecordType) (name : String) : Except Failure RecordType :=
  match findType? types name with
  | some type => .ok type
  | none => .error (.misuse .noKey)

/-- Makes plain values of terms without variables. -/
def plainMaker (types : List RecordType) : TermMaker (Except Failure) Value where
  value v := .ok v
  number x := .ok (.float x)
  list items := .ok (.list items)
  tuple items := .ok (.tuple items)
  object entries := .ok (.object entries)
  record name args named := do (← typeNamed types name).make args named
  typeObject name := do return .typeObject (← typeNamed types name)
  reference _ := .error (.misuse .noKey)
  refuse cause := .error (.misuse cause)

/-- The plain value of a term. -/
def Term.eval (types : List RecordType) (term : Term) : Except Failure Value :=
  term.make (plainMaker types)

end ServiceClient
