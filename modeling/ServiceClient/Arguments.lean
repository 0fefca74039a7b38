import ServiceClient.Failure

/-!
Matching given values to declared names: first the values given by position, then those given by
name. `bindArguments` returns one place for each declared name, in their order, empty where no value
was given.
-/

namespace ServiceClient

variable {α : Type}

/-- The first named value that cannot be matched when the first `taken` names have values
already. -/
def bindingFault? (names : List String) (taken : Nat) :
    List (String × α) → Option BindingFault
  | [] => none
  | (key, _) :: named =>
    if key ∉ names then some (.unknown key)
    else if key ∈ names.take taken then some (.twice key)
    else bindingFault? names taken named

/-- The value for each name: the positional one, else the one given under that name. -/
def placeArguments : List String → List α → List (String × α) → List (Option α)
  | [], _, _ => []
  | _ :: names, value :: values, named => some value :: placeArguments names values named
  | name :: names, [], named => named.lookup name :: placeArguments names [] named

def bindArguments (names : List String) (values : List α) (named : List (String × α)) :
    Except BindingFault (List (Option α)) :=
  if names.length < values.length then .error (.tooMany names.length values.length)
  else
    match bindingFault? names values.length named with
    | some cause => .error cause
    | none => .ok (placeArguments names values named)

/-- The name under which a call's receiver is known, so that no value can be given for it by
name. -/
def receiverName : String := "self"

/-- Refuses named values for the receiver. -/
def refuseReceiver (named : List (String × α)) : Except Failure Unit :=
  if (named.lookup receiverName).isSome then .error (.misuse .receiverGiven) else .ok ()

end ServiceClient
