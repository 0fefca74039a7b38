import ServiceClient.TypeRef

/-!
The controls through which a value of a type is entered. A declared type is entered field by field
in a frame, unless a frame of the same type is already around it: then it is entered as JSON, so
that every form is finite, whatever the types refer to.
-/

namespace ServiceClient

/-- What a single input takes. -/
inductive InputKind
  | number
  | string
  | boolean
  | object
deriving DecidableEq

namespace InputKind

def name : InputKind → String
  | number => "number"
  | string => "string"
  | boolean => "boolean"
  | object => "object"

/-- The kind of a name; an unknown one takes any text. -/
def ofName : String → InputKind
  | "number" => number
  | "boolean" => boolean
  | "object" => object
  | _ => string

def ofPrimitive : Primitive → InputKind
  | .number => number
  | .string => string
  | .boolean => boolean

end InputKind

inductive Control
  /-- An input of a primitive type. -/
  | primitive (kind : Primitive)
  /-- An input that takes an array as JSON. -/
  | array (element : TypeRef)
  /-- An input that takes an object as JSON. -/
  | object (name : String)
  /-- A frame with a control for each field of a type. -/
  | frame (type : RecordType) (fields : List (String × Control))

/-- The types other than the named one. -/
def withoutType (types : List RecordType) (name : String) : List RecordType :=
  types.filter (·.name ≠ name)

theorem length_withoutType_lt {types : List RecordType} {name : String} {type : RecordType}
    (found : findType? types name = some type) :
    (withoutType types name).length < types.length := by
  have named : type.name = name := by simpa using List.find?_some found
  have member : type ∈ types := List.mem_of_find?_eq_some found
  apply List.length_filter_lt_length_iff_exists.2
  exact ⟨type, member, by simp [named]⟩

/-- The control for a type. `frames` are the types that may still be framed: those of the service
that are not around the control already. -/
def Control.ofType (frames : List RecordType) : TypeRef → Control
  | .primitive kind => .primitive kind
  | .array element => .array element
  | .named name =>
    match _found : findType? frames name with
    | none => .object name
    | some type =>
      .frame type (type.fields.map fun (field, t) => (field, ofType (withoutType frames name) t))
termination_by frames.length
decreasing_by exact length_withoutType_lt _found

/-- The controls for the fields of a record. -/
def Control.ofRecord (types : List RecordType) (type : RecordType) : List (String × Control) :=
  type.fields.map fun (field, t) => (field, ofType (withoutType types type.name) t)

end ServiceClient
