import ServiceClient.Failure

/-!
Reading a service description: the declared types, and for every method its parameters in call
order and its result. `ServiceDescription.read` accepts a description when every type in it can be
read and every name refers to a declared type or to the untyped object.
-/

namespace ServiceClient

/-- Reads a type: the tag of a primitive type, a list around another type, or a name. Null is no
type. -/
def TypeRef.read : Value → Except DescriptionFault (Option TypeRef)
  | .null => .ok none
  | .string tag =>
    match Primitive.ofTag? tag with
    | some kind => .ok (some (.primitive kind))
    | none => .ok (some (.named tag))
  | .list [raw] => do
    match ← read raw with
    | some element => return some (.array element)
    | none => throw .arrayOfNull
  | raw@(.list ..) => .error (.arrayArity raw)
  | raw => .error (.unsupportedType raw)

structure ParameterDescription where
  name : String
  type : Option TypeRef
  optional : Bool
  order : Int
  docLines : Value

structure MethodDescription where
  name : String
  docLines : Value
  returns : Option TypeRef
  returnDocLines : Value
  params : List ParameterDescription

structure ServiceDescription where
  name : Value
  url : Value
  types : List (String × List (String × Option TypeRef))
  methods : List MethodDescription

namespace Value

/-- The entries of a mapping. -/
def entries : Value → Except Failure (List (String × Value))
  | object entries => .ok entries
  | _ => .error (.misuse .noMember)

/-- The entries of a mapping that may be left out. -/
def entriesOrNone (v? : Option Value) : Except Failure (List (String × Value)) :=
  match v? with
  | some v => if v.countsAsTrue then v.entries else .ok []
  | none => .ok []

end Value

/-- Carries a description error over to the failures of the client. -/
def refusing {α : Type} : Except DescriptionFault α → Except Failure α
  | .ok a => .ok a
  | .error cause => .error (.description cause)

namespace ParameterDescription

/-- Reads a parameter whose place in the call is known. -/
def read (name : String) (order : Int) (fields : List (String × Value)) :
    Except Failure ParameterDescription := do
  let type ← refusing (TypeRef.read ((fields.lookup "type").getD .null))
  return {
    name, type, order
    optional := ((fields.lookup "optional").map Value.countsAsTrue).getD false
    docLines := (fields.lookup "doc_lines").getD (.list []) }

/-- Reads parameters as they are written; `known` are the ones before them. -/
def readAll (method : String) (known : List ParameterDescription) :
    List (String × Value) → Except Failure (List ParameterDescription)
  | [] => .ok known
  | (name, raw) :: rest => do
    let fields ← raw.entries
    match fields.lookup "def_order" with
    | some (.int order) =>
      if known.any (·.order == order) then throw (.description (.orderTwice method order))
      readAll method (known ++ [← read name order fields]) rest
    | _ => throw (.description (.noOrder method name))

/-- Parameters in call order, which has to be that of the numbers from one on. -/
def inOrder (method : String) (params : List ParameterDescription) :
    Except DescriptionFault (List ParameterDescription) :=
  let sorted := params.mergeSort (·.order ≤ ·.order)
  if sorted.map (·.order) = (List.range params.length).map (fun (i : Nat) => (i : Int) + 1) then
    .ok sorted
  else .error (.orderGap method (sorted.map (·.order)))

end ParameterDescription

namespace MethodDescription

def read (name : String) (raw : Value) : Except Failure MethodDescription := do
  let fields ← raw.entries
  let result ← Value.entriesOrNone (fields.lookup "ret_info")
  let returns ← refusing (TypeRef.read ((result.lookup "type").getD .null))
  let params ← ParameterDescription.readAll name []
    (← Value.entriesOrNone (fields.lookup "params"))
  return {
    name, returns
    docLines := (fields.lookup "doc_lines").getD (.list [])
    returnDocLines := (result.lookup "doc_lines").getD (.list [])
    params := ← refusing (ParameterDescription.inOrder name params) }

/-- The types a method refers to, and where. -/
def references (method : MethodDescription) :
    Except DescriptionFault (List (Reference × Option TypeRef)) := do
  let params ← method.params.mapM fun p =>
    match p.type with
    | none => throw (.untypedParameter method.name p.name)
    | some t => return (Reference.parameter method.name p.name, some t)
  return (.result method.name, method.returns) :: params

end MethodDescription

namespace ServiceDescription

/-- Reads the fields of a declared type. -/
def readFields (raw : Value) : Except Failure (List (String × Option TypeRef)) := do
  (← raw.entries).mapM fun (field, t) => return (field, ← refusing (TypeRef.read t))

/-- Makes sure that a type refers to one of the declared types or to the untyped object. -/
def resolve (declared : List String) : Reference × Option TypeRef → Except DescriptionFault Unit
  | (place, t?) =>
    match t?.bind TypeRef.reference? with
    | some name =>
      if name ∈ declared || name == untypedObject then .ok ()
      else .error (.unknownType place name)
    | none => .ok ()

/-- Reads a description. Methods come before types, and names are looked up last. -/
def read : Value → Except Failure ServiceDescription
  | .object fields => do
    let methods ← (← Value.entriesOrNone (fields.lookup "methods")).mapM fun (name, raw) =>
      MethodDescription.read name raw
    let types ← (← Value.entriesOrNone (fields.lookup "types")).mapM fun (name, raw) =>
      return (name, ← readFields raw)
    let fieldReferences := types.flatMap fun (name, fields) =>
      fields.map fun (field, t) => (Reference.field name field, t)
    let methodReferences ← refusing (methods.mapM MethodDescription.references)
    refusing ((fieldReferences ++ methodReferences.flatten).forM (resolve (types.map (·.1))))
    return {
      types, methods
      name := (fields.lookup "servicename").getD (.string "")
      url := (fields.lookup "url").getD .null }
  | _ => .error (.description .notAnObject)

end ServiceDescription

end ServiceClient
