import ServiceClient.Value.Text

/-!
Everything that can go wrong, by cause. `Failure.message?` has the wording of the failures a client
reports; a misuse, where a value has none of the members an operation needs, has no wording of its
own.
-/

namespace ServiceClient

/-- Where a description refers to a type. -/
inductive Reference
  | field (type name : String)
  | result (method : String)
  | parameter (method name : String)

def Reference.text : Reference → String
  | field type name => type ++ "." ++ name
  | result method => method ++ " result"
  | parameter method name => method ++ "(" ++ name ++ ")"

/-- Why a service description is refused. -/
inductive DescriptionFault
  | notAnObject
  | arrayArity (raw : Value)
  | arrayOfNull
  | unsupportedType (raw : Value)
  | noOrder (method parameter : String)
  | orderTwice (method : String) (order : Int)
  | orderGap (method : String) (orders : List Int)
  | untypedParameter (method parameter : String)
  | unknownType (place : Reference) (name : String)
  | reservedField (type field : String)
  | untypedField
  | methodAsNamespace (method segment : String)
  | nameClash (method : String)

def DescriptionFault.message : DescriptionFault → String
  | notAnObject => "the service description must be a JSON object"
  | arrayArity raw => "array types must wrap exactly one type, got " ++ raw.text
  | arrayOfNull => "array element type cannot be null"
  | unsupportedType raw => "unsupported type in description: " ++ raw.text
  | noOrder method parameter => method ++ ": parameter " ++ parameter ++ " has no def_order"
  | orderTwice method order => method ++ ": def_order " ++ toString order ++ " is used twice"
  | orderGap method orders =>
    method ++ ": def_order values " ++ Value.bracketed "[" "]" (orders.map toString) ++
      " are not 1.." ++ toString orders.length
  | untypedParameter method parameter => method ++ ": parameter " ++ parameter ++ " has no type"
  | unknownType place name => place.text ++ " refers to unknown type " ++ name
  | reservedField type field => type ++ "." ++ field ++ ": field name is reserved"
  | untypedField => "not a type descriptor: None"
  | methodAsNamespace method segment => method ++ ": " ++ segment ++ " is already a method"
  | nameClash method => method ++ " clashes with another method or namespace"

/-- Why values cannot be matched to names. -/
inductive BindingFault
  | tooMany (limit given : Nat)
  | unknown (name : String)
  | twice (name : String)

/-- Whose names the values were meant for. -/
inductive Receiver
  | type (name : String)
  | method (name : String)

def BindingFault.message : Receiver → BindingFault → String
  | .type name, tooMany limit given =>
    name ++ " takes at most " ++ toString limit ++ " values, got " ++ toString given
  | .type name, unknown field => name ++ " has no field " ++ quoted field
  | .type name, twice field => name ++ " got multiple values for field " ++ quoted field
  | .method name, tooMany limit given =>
    name ++ " takes " ++ toString limit ++ " arguments, got " ++ toString given
  | .method name, unknown key => name ++ " got an unexpected argument " ++ quoted key
  | .method name, twice key => name ++ " got multiple values for argument " ++ quoted key

/-- The part of a value that does not have the type declared for it: its place inside the value, as
the indices that lead to it, and the type expected there. -/
structure Mismatch where
  path : List Nat
  expected : TypeRef

/-- The wording of a mismatch in the value of `subject`. -/
def Mismatch.message (subject : String) (m : Mismatch) : String :=
  subject ++ String.join (m.path.map fun i => "[" ++ toString i ++ "]") ++
    " must be " ++ m.expected.kindText

/-- Why no response was had. -/
inductive ExchangeFault
  | failed (verb url reason : String)
  | notJson (verb url : String) (status : Int)
  | notAnObject (method : String) (response : Value)

def ExchangeFault.message : ExchangeFault → String
  | failed verb url reason => verb ++ " " ++ url ++ " failed: " ++ reason
  | notJson verb url status =>
    verb ++ " " ++ url ++ " returned a non-JSON response (HTTP " ++ toString status ++ ")"
  | notAnObject method response =>
    "unexpected response to " ++ method ++ ": " ++ response.text

/-- An operation on a value that does not support it. -/
inductive Misuse
  /-- The value has no such member. -/
  | noMember
  /-- There is nothing of that name. -/
  | noKey
  /-- The value is not of a kind the operation works on. -/
  | wrongKind
  /-- The text is not one the operation accepts. -/
  | badText
  /-- A named value for the receiver itself, which is always given. -/
  | receiverGiven
  /-- There is no kind of that name. -/
  | noKind
  /-- The names in a pattern cannot stand side by side. -/
  | badPattern
  /-- The name of a host cannot be encoded. -/
  | badHost
  /-- A count has no end. -/
  | endless
  /-- The values are inside one another too deep. -/
  | tooDeep
deriving DecidableEq

inductive Failure
  | description (cause : DescriptionFault)
  | mismatch (subject : String) (cause : Mismatch)
  | binding (receiver : Receiver) (cause : BindingFault)
  | exchange (cause : ExchangeFault)
  | remote (message : String) (code data : Value)
  | misuse (cause : Misuse)

namespace Failure

/-- The wording of a failure; a misuse has none. -/
def message? : Failure → Option String
  | description cause => some cause.message
  | mismatch subject cause => some (cause.message subject)
  | binding receiver cause => some (cause.message receiver)
  | exchange cause => some cause.message
  | remote message _ _ => some message
  | misuse _ => none

/-- Whether the client itself reports the failure, on a page or on the command line: it is about the
description, a value of the wrong type, the exchange or the server's answer. -/
def isReported : Failure → Bool
  | description _ | mismatch .. | exchange _ | remote .. => true
  | binding .. | misuse _ => false

end Failure

end ServiceClient
