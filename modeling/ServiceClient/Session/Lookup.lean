import ServiceClient.Session.Kind

/-!
Walking from the root of a service by names. Two ways lead down: as an item, where only members are
found, or as an attribute, where a member of a namespace goes before everything a namespace has of
its own, unless its name starts with an underscore.
-/

namespace ServiceClient

inductive Access
  | byAttribute
  | byItem

namespace FunctionShape

def kindName : FunctionShape → String
  | written => "function"
  | writtenOf => "method"
  | givenOf => "builtin_function_or_method"
  | given => "method_descriptor"
  | operationOf => "method-wrapper"
  | operation => "wrapper_descriptor"

/-- What every function of a shape has, beside its names and its documentation. -/
def operations : FunctionShape → List String
  | written | given | operation => ["__call__", "__get__"]
  | writtenOf | givenOf | operationOf => ["__call__"]

end FunctionShape

namespace Found

def ofMember (name : String) : NameTree Method → Found
  | .leaf m => .method m
  | .branch members => .namespaceOf (some name) members

/-- What documentation lines are kept as; no lines at all are an empty list. -/
def ofLines (v : Value) : Found :=
  if !v.countsAsTrue then .thing Kind.list.name
  else match v with
    | .string s => .text s
    | .tuple _ => .thing Kind.tuple.name
    | .object _ => .thing Kind.mapping.name
    | .int _ => .thing Kind.integer.name
    | .float _ => .thing Kind.floating.name
    | .bool _ => .thing "bool"
    | _ => .thing Kind.list.name

/-- The kind of what is found. -/
def kindName : Found → String
  | namespaceOf .. => Kind.namespaceOf.name
  | method _ => Kind.method.name
  | text _ => Kind.text.name
  | nothing => Kind.nothing.name
  | type (.primitive _) => Kind.primitiveType.name
  | type (.array _) => Kind.arrayType.name
  | type (.named _) => Kind.namedType.name
  | thing name => name
  | function shape .. => shape.kindName
  | kind name => if (Kind.named name).isUnfinished then "ABCMeta" else Kind.kinds.name

/-- The documentation of a function written for the service. -/
def docOfWritten (owner name : String) : Found :=
  match Kind.functionDocs.lookup (owner ++ "." ++ name) with
  | some doc => .text doc
  | none => .nothing

/-- What only functions written for the service have. -/
def writtenMembers (owner name : String) : List (String × Found) :=
  let mappings := ["__annotations__", "__builtins__", "__dict__", "__globals__"]
  [("__doc__", docOfWritten owner name),
    ("__module__", ((Kind.named owner).home.map text).getD nothing),
    ("__closure__", nothing), ("__code__", thing "code"), ("__defaults__", nothing),
    ("__kwdefaults__", nothing)] ++
    mappings.map (·, thing Kind.mapping.name)

/-- What a function has of its own. -/
def functionMembers (shape : FunctionShape) (owner name : String) (self : Option Found) :
    List (String × Found) :=
  [("__name__", text name), ("__qualname__", text (owner ++ "." ++ name))] ++
    (match shape with
      | .written => writtenMembers owner name
      | .writtenOf =>
        ("__func__", function .written owner name none) :: writtenMembers owner name
      | .givenOf => [("__module__", nothing), ("__text_signature__", thing Kind.text.name)]
      | .given | .operation | .operationOf =>
        [("__objclass__", kind owner), ("__text_signature__", thing Kind.text.name)]) ++
    self.toList.map ("__self__", ·) ++
    shape.operations.map fun operation =>
      (operation, function .operationOf shape.kindName operation (function shape owner name self))

/-- What a kind has of its own. -/
def kindMembers (k : Kind) : List (String × Found) :=
  let sizes := ["__basicsize__", "__dictoffset__", "__flags__", "__itemsize__",
    "__weakrefoffset__"]
  let lineages := ["__bases__", "__mro__"]
  [("__name__", text k.name), ("__qualname__", text k.name),
    ("__module__", text (k.home.getD "builtins")), ("__doc__", k.doc),
    ("__base__", (k.bases.head?.map kind).getD nothing), ("__dict__", thing "mappingproxy"),
    ("__text_signature__", if k.home.isSome then nothing else thing Kind.text.name)] ++
    sizes.map (·, thing Kind.integer.name) ++ lineages.map (·, thing Kind.tuple.name) ++
    if k.home.isSome then [("__annotations__", thing Kind.mapping.name)] else []

/-- What is found only at this place. -/
def ownMembers (endpoint : String) : Found → List (String × Found)
  | namespaceOf own _ => [("_name", (own.map text).getD nothing)]
  | method m =>
    [("name", text m.name), ("path", text endpoint), ("__doc__", text m.documentation),
      ("return_type", (m.returns.map type).getD nothing), ("doc_lines", ofLines m.docSource),
      ("return_doc_lines", ofLines m.returnDocSource)]
  | type (.primitive p) => [("kind", text p.tag)]
  | type (.array element) => [("element", type element)]
  | type (.named name) => [("name", text name)]
  | function shape owner name self => functionMembers shape owner name self
  | kind name => kindMembers (Kind.named name)
  | text _ | nothing | thing _ => []

/-- What everything of a kind has under a name. -/
def kindMember? (name : String) (found : Found) : Option Found :=
  let k := Kind.named found.kindName
  if name == "__class__" then some (kind k.name)
  else if name == "__doc__" then some k.doc
  else if name == "__module__" then k.home.map text
  else k.lineage.findSome? (·.memberOf found k.name name)

/-- What a kind itself has under a name. -/
def memberOnKind? (name : String) : Found → Option Found
  | kind kindName =>
    let k := Kind.named kindName
    k.lineage.findSome? (·.memberOn kindName name)
  | _ => none

/-- The attribute of a name. -/
def ownMember (endpoint name : String) (found : Found) : Except Failure Found :=
  let member? := match found with
    | namespaceOf _ members =>
      if name.toList.head? = some '_' then none else (members.lookup name).map (ofMember name)
    | _ => none
  match member? <|> (found.ownMembers endpoint).lookup name <|> found.memberOnKind? name <|>
      found.kindMember? name with
  | some found => .ok found
  | none => .error (.misuse .noMember)

/-- The item of a name. -/
def item (name : String) : Found → Except Failure Found
  | namespaceOf _ members =>
    match members.lookup name with
    | some member => .ok (ofMember name member)
    | none => .error (.misuse .noKey)
  | _ => .error (.misuse .wrongKind)

end Found

/-- Walks down a path from the root of a service. -/
def Client.find (client : Client) (access : Access) (path : List String) : Except Failure Found :=
  path.foldlM (fun found name =>
    match access with
    | .byAttribute => found.ownMember client.endpoint name
    | .byItem => found.item name) (.namespaceOf none client.methods)

end ServiceClient
