/-!
The types a service description can name: three primitive types, arrays of a type, and named types.
`object` is the name of the untyped object where the description declares no type of that name.
-/

namespace ServiceClient

inductive Primitive
  | number
  | string
  | boolean
deriving DecidableEq

inductive TypeRef
  | primitive (kind : Primitive)
  | array (element : TypeRef)
  | named (name : String)
deriving DecidableEq

/-- A declared composite type: its name and its fields, in the order of the declaration. -/
structure RecordType where
  name : String
  fields : List (String × TypeRef)
deriving DecidableEq

/-- The name under which a value may be any mapping. -/
def untypedObject : String := "object"

namespace Primitive

/-- The tag of a primitive type in a description. -/
def tag : Primitive → String
  | number => "number"
  | string => "string"
  | boolean => "boolean"

def ofTag? : String → Option Primitive
  | "number" => some number
  | "string" => some string
  | "boolean" => some boolean
  | _ => none

end Primitive

namespace TypeRef

/-- A type as documentation writes it. -/
def text : TypeRef → String
  | primitive kind => kind.tag
  | array element => "[" ++ element.text ++ "]"
  | named name => name

/-- The name a type is built on, unless that is primitive. -/
def reference? : TypeRef → Option String
  | primitive _ => none
  | array element => element.reference?
  | named name => some name

/-- A type as error messages write it. -/
def kindText : TypeRef → String
  | primitive kind => "a " ++ kind.tag
  | array _ => "an array"
  | named name => if name = untypedObject then "an object" else "an object of type " ++ name

end TypeRef

/-- A result type as documentation writes it; no type at all is `null`. -/
def resultText : Option TypeRef → String
  | none => "null"
  | some t => t.text

/-- The one-line summary of a declared type. -/
def RecordType.summary (type : RecordType) : String :=
  type.name ++ "(" ++
    ", ".intercalate (type.fields.map fun (field, t) => field ++ ": " ++ t.text) ++ ")"

/-- The declared type of a name. -/
def findType? (types : List RecordType) (name : String) : Option RecordType :=
  types.find? (·.name == name)

end ServiceClient
