import ServiceClient.Client

/-!
What can be found from the root of a service by the names of attributes: namespaces and methods, the
texts and types they hold, and behind these the things that everything of a kind has. `Kind` says
what that is, kind by kind.
-/

namespace ServiceClient

/-- How a function is had: as a function of something or for anything of a kind, written for the
service or given with the kind, where it may also be an operation. -/
inductive FunctionShape
  | written
  | writtenOf
  | givenOf
  | given
  | operationOf
  | operation

/-- What is found under a path of names. -/
inductive Found
  | namespaceOf (name : Option String) (members : Namespace Method)
  | method (m : Method)
  | text (s : String)
  | nothing
  | type (t : TypeRef)
  /-- Anything of a kind of which nothing more is known. -/
  | thing (kind : String)
  | function (shape : FunctionShape) (owner name : String) (self : Option Found)
  | kind (name : String)

/-- A kind of things. -/
structure Kind where
  name : String
  /-- Where the kind is at home, unless that is everywhere. -/
  home : Option String := none
  /-- The documentation of the kind. -/
  doc : Found := .thing "str"
  /-- The kinds this one is built on, the nearest first. -/
  bases : List String
  /-- The operations, and the functions given with the kind. -/
  slots : List String := []
  functions : List String := []
  /-- The functions that belong to the kind itself. -/
  onKind : List String := []
  /-- The functions written for the service. -/
  written : List String := []
  /-- What each thing has for itself, by a description that the kind has. -/
  described : List (String × Found) := []
  /-- What all things share with the kind. -/
  shared : List (String × Found) := []
  /-- What only a thing has. -/
  holds : List (String × Found) := []

namespace Kind

/-- What everything has. -/
def anything : Kind where
  name := "object"
  bases := []
  slots := [
    "__delattr__", "__eq__", "__ge__", "__getattribute__", "__gt__", "__hash__", "__init__",
    "__le__", "__lt__", "__ne__", "__repr__", "__setattr__", "__str__"]
  functions := [
    "__dir__", "__format__", "__getstate__", "__reduce__", "__reduce_ex__", "__sizeof__"]
  onKind := ["__init_subclass__", "__new__", "__subclasshook__"]

/-- What every kind has. -/
def kinds : Kind where
  name := "type"
  bases := ["object"]
  slots := [
    "__call__", "__delattr__", "__getattribute__", "__init__", "__or__", "__repr__", "__ror__",
    "__setattr__"]
  functions := [
    "__dir__", "__instancecheck__", "__sizeof__", "__subclasscheck__", "__subclasses__", "mro"]
  onKind := ["__new__", "__prepare__"]

/-- Mappings. -/
def mapping : Kind where
  name := "dict"
  bases := ["object"]
  slots := [
    "__delitem__", "__eq__", "__ge__", "__getattribute__", "__gt__", "__init__", "__ior__",
    "__iter__", "__le__", "__len__", "__lt__", "__ne__", "__or__", "__repr__", "__ror__",
    "__setitem__"]
  functions := [
    "__contains__", "__getitem__", "__reversed__", "__sizeof__", "clear", "copy", "get", "items",
    "keys", "pop", "popitem", "setdefault", "update", "values"]
  onKind := ["__class_getitem__", "__new__", "fromkeys"]
  shared := [("__hash__", .nothing)]

/-- Lists. -/
def list : Kind where
  name := "list"
  bases := ["object"]
  slots := [
    "__add__", "__contains__", "__delitem__", "__eq__", "__ge__", "__getattribute__", "__gt__",
    "__iadd__", "__imul__", "__init__", "__iter__", "__le__", "__len__", "__lt__", "__mul__",
    "__ne__", "__repr__", "__rmul__", "__setitem__"]
  functions := [
    "__getitem__", "__reversed__", "__sizeof__", "append", "clear", "copy", "count", "extend",
    "index", "insert", "pop", "remove", "reverse", "sort"]
  onKind := ["__class_getitem__", "__new__"]
  shared := [("__hash__", .nothing)]

/-- Tuples. -/
def tuple : Kind where
  name := "tuple"
  bases := ["object"]
  slots := [
    "__add__", "__contains__", "__eq__", "__ge__", "__getattribute__", "__getitem__", "__gt__",
    "__hash__", "__iter__", "__le__", "__len__", "__lt__", "__mul__", "__ne__", "__repr__",
    "__rmul__"]
  functions := ["__getnewargs__", "count", "index"]
  onKind := ["__class_getitem__", "__new__"]

/-- Texts. -/
def text : Kind where
  name := "str"
  bases := ["object"]
  slots := [
    "__add__", "__contains__", "__eq__", "__ge__", "__getattribute__", "__getitem__", "__gt__",
    "__hash__", "__iter__", "__le__", "__len__", "__lt__", "__mod__", "__mul__", "__ne__",
    "__repr__", "__rmod__", "__rmul__", "__str__"]
  functions := [
    "__format__", "__getnewargs__", "__sizeof__", "capitalize", "casefold", "center", "count",
    "encode", "endswith", "expandtabs", "find", "format", "format_map", "index", "isalnum",
    "isalpha", "isascii", "isdecimal", "isdigit", "isidentifier", "islower", "isnumeric",
    "isprintable", "isspace", "istitle", "isupper", "join", "ljust", "lower", "lstrip",
    "partition", "removeprefix", "removesuffix", "replace", "rfind", "rindex", "rjust",
    "rpartition", "rsplit", "rstrip", "split", "splitlines", "startswith", "strip", "swapcase",
    "title", "translate", "upper", "zfill"]
  onKind := ["__new__", "maketrans"]

/-- Whole numbers. -/
def integer : Kind where
  name := "int"
  bases := ["object"]
  slots := [
    "__abs__", "__add__", "__and__", "__bool__", "__divmod__", "__eq__", "__float__",
    "__floordiv__", "__ge__", "__getattribute__", "__gt__", "__hash__", "__index__", "__int__",
    "__invert__", "__le__", "__lshift__", "__lt__", "__mod__", "__mul__", "__ne__", "__neg__",
    "__or__", "__pos__", "__pow__", "__radd__", "__rand__", "__rdivmod__", "__repr__",
    "__rfloordiv__", "__rlshift__", "__rmod__", "__rmul__", "__ror__", "__rpow__", "__rrshift__",
    "__rshift__", "__rsub__", "__rtruediv__", "__rxor__", "__sub__", "__truediv__", "__xor__"]
  functions := [
    "__ceil__", "__floor__", "__format__", "__getnewargs__", "__round__", "__sizeof__",
    "__trunc__", "as_integer_ratio", "bit_count", "bit_length", "conjugate", "to_bytes"]
  onKind := ["__new__", "from_bytes"]
  described := [
    ("denominator", .thing "int"), ("imag", .thing "int"), ("numerator", .thing "int"),
    ("real", .thing "int")]

/-- Numbers with a fraction. -/
def floating : Kind where
  name := "float"
  bases := ["object"]
  slots := [
    "__abs__", "__add__", "__bool__", "__divmod__", "__eq__", "__float__", "__floordiv__",
    "__ge__", "__getattribute__", "__gt__", "__hash__", "__int__", "__le__", "__lt__", "__mod__",
    "__mul__", "__ne__", "__neg__", "__pos__", "__pow__", "__radd__", "__rdivmod__", "__repr__",
    "__rfloordiv__", "__rmod__", "__rmul__", "__rpow__", "__rsub__", "__rtruediv__", "__sub__",
    "__truediv__"]
  functions := [
    "__ceil__", "__floor__", "__format__", "__getnewargs__", "__round__", "__trunc__",
    "as_integer_ratio", "conjugate", "hex", "is_integer"]
  onKind := ["__getformat__", "__new__", "fromhex"]
  described := [("imag", .thing "float"), ("real", .thing "float")]

/-- What is nothing. -/
def nothing : Kind where
  name := "NoneType"
  doc := .nothing
  bases := ["object"]
  slots := ["__bool__", "__repr__"]
  onKind := ["__new__"]

/-- Namespaces. -/
def namespaceOf : Kind where
  name := "ApiNamespace"
  home := some "autojsonclient.namespace"
  doc := .text (
    "Mapping from a name segment to a call stub or a nested namespace.\n\n    Members can " ++
    "also be reached as attributes: `api.users.get(...)`. A member wins over the\n    dict " ++
    "method of the same name, so `api.users.items` is the stub declared as " ++
    "`users.items`.\n    Dict methods stay available from the class: " ++
    "`dict.items(api.users)`, and so does the\n    segment name of the namespace through " ++
    "`_name`.\n    ")
  bases := ["dict", "object"]
  written := ["__getattribute__", "__init__", "gui"]
  described := [("__dict__", .thing "dict"), ("__weakref__", .nothing)]

/-- Methods. Their names and types are not the same for all. -/
def method : Kind where
  name := "CallStub"
  home := some "autojsonclient.calls"
  doc := .nothing
  bases := ["object"]
  written := [
    "__call__", "__init__", "__repr__", "_make_doc", "bind", "gui", "make_request", "signature"]
  described := [("__dict__", .thing "dict"), ("__weakref__", .nothing)]
  holds := [
    ("counter", .thing "CallIdCounter"), ("params", .thing "list"),
    ("transport", .thing "HttpTransport"), ("types", .thing "dict")]

/-- What numbers the calls. -/
def counter : Kind where
  name := "CallIdCounter"
  home := some "autojsonclient.calls"
  doc := .text (
    "Source of JSON-RPC request ids. Ids are consecutive integers, shared by all the " ++
    "stubs\n    the counter is given to.")
  bases := ["object"]
  written := ["__init__", "next"]
  described := [("__dict__", .thing "dict"), ("__weakref__", .nothing), ("value", .thing "int")]
  holds := [("_lock", .thing "lock"), ("_next", .thing "int")]

/-- What sends the requests. -/
def link : Kind where
  name := "HttpTransport"
  home := some "autojsonclient.transport"
  doc := .nothing
  bases := ["Transport", "ABC", "object"]
  written := ["__init__", "_request", "get_json", "post_json"]
  described := [("__dict__", .thing "dict"), ("__weakref__", .nothing)]
  shared := [("__abstractmethods__", .thing "frozenset"), ("_abc_impl", .thing "_abc_data")]
  holds := [
    ("headers", .thing "dict"), ("session", .thing "Session"), ("timeout", .thing "float")]

/-- What requests could be sent by. -/
def anyLink : Kind where
  name := "Transport"
  home := some "autojsonclient.transport"
  doc := .text (
    "Performs the HTTP exchanges needed by a generated client and parses the JSON bodies.")
  bases := ["ABC", "object"]
  written := ["get_json", "post_json"]
  described := [("__dict__", .thing "dict"), ("__weakref__", .nothing)]
  shared := [("__abstractmethods__", .thing "frozenset"), ("_abc_impl", .thing "_abc_data")]

/-- What leaves something to others. -/
def unfinished : Kind where
  name := "ABC"
  home := some "abc"
  bases := ["object"]
  shared := [("__slots__", .thing "tuple")]

/-- Primitive types. -/
def primitiveType : Kind where
  name := "Primitive"
  home := some "autojsonclient.types"
  doc := .text "Primitive(kind: str)"
  bases := ["object"]
  written := [
    "__delattr__", "__eq__", "__hash__", "__init__", "__repr__", "__setattr__", "__str__"]
  described := [("__dict__", .thing "dict"), ("__weakref__", .nothing)]
  shared := [
    ("__annotations__", .thing "dict"), ("__dataclass_fields__", .thing "dict"),
    ("__dataclass_params__", .thing "_DataclassParams"), ("__match_args__", .thing "tuple")]

/-- Types of arrays. -/
def arrayType : Kind where
  name := "ArrayOf"
  home := some "autojsonclient.types"
  doc := .text "ArrayOf(element: 'TypeRef')"
  bases := ["object"]
  written := [
    "__delattr__", "__eq__", "__hash__", "__init__", "__repr__", "__setattr__", "__str__"]
  described := [("__dict__", .thing "dict"), ("__weakref__", .nothing)]
  shared := [
    ("__annotations__", .thing "dict"), ("__dataclass_fields__", .thing "dict"),
    ("__dataclass_params__", .thing "_DataclassParams"), ("__match_args__", .thing "tuple")]

/-- Named types. -/
def namedType : Kind where
  name := "Named"
  home := some "autojsonclient.types"
  doc := .text "Named(name: str)"
  bases := ["object"]
  written := [
    "__delattr__", "__eq__", "__hash__", "__init__", "__repr__", "__setattr__", "__str__"]
  described := [("__dict__", .thing "dict"), ("__weakref__", .nothing)]
  shared := [
    ("__annotations__", .thing "dict"), ("__dataclass_fields__", .thing "dict"),
    ("__dataclass_params__", .thing "_DataclassParams"), ("__match_args__", .thing "tuple")]

/-- Every kind of which more is known than that it is one. -/
def all : List Kind := [
    anything, kinds, mapping, list, tuple, text, integer, floating, nothing, namespaceOf, method,
    counter, link, anyLink, unfinished, primitiveType, arrayType, namedType]

/-- The kind of a name. Of any other only what everything has is known. -/
def named (name : String) : Kind :=
  (all.find? (·.name == name)).getD { name, bases := [anything.name] }

/-- A kind and those it is built on. -/
def lineage (k : Kind) : List Kind := k :: k.bases.map named

/-- Whether a kind is built on the one that leaves something to others. -/
def isUnfinished (k : Kind) : Bool := k.name == unfinished.name || k.bases.contains unfinished.name

/-- What a thing has because it is of a kind. -/
def memberOf (k : Kind) (self : Found) (selfKind name : String) : Option Found :=
  (k.described.lookup name <|> k.shared.lookup name <|> k.holds.lookup name) <|>
    if k.slots.contains name then some (.function .operationOf k.name name self)
    else if k.functions.contains name then some (.function .givenOf selfKind name self)
    else if k.onKind.contains name then
      some (.function .givenOf selfKind name (some (.kind selfKind)))
    else if k.written.contains name then some (.function .writtenOf k.name name self)
    else none

/-- What the kind called `selfKind` has because it is `k` or is built on it. -/
def memberOn (k : Kind) (selfKind name : String) : Option Found :=
  if (k.described.lookup name).isSome then some (.thing "getset_descriptor")
  else k.shared.lookup name <|>
    if k.slots.contains name then some (.function .operation k.name name none)
    else if k.functions.contains name then some (.function .given k.name name none)
    else if k.onKind.contains name then
      some (.function .givenOf selfKind name (some (.kind selfKind)))
    else if k.written.contains name then some (.function .written k.name name none)
    else none

/-- The documentation of the functions written for the service that have any. -/
def functionDocs : List (String × String) := [
    ("CallStub.bind",
      "Match positional and keyword arguments to the parameters, in call order."),
    ("CallStub.make_request",
      "Validate arguments and assemble the JSON-RPC request envelope."),
    ("Transport.get_json", "Fetch `url` and return its parsed JSON body."),
    ("Transport.post_json",
      "POST the serialized request `body` to `url` and return the parsed JSON response."),
    ("CallStub.__init__",
      "Create an invocable stub for a remote method\n        Args:\n            name (str): " ++
      "fully qualified method name, as sent in requests\n            params (list): " ++
      "parameters in call order\n            return_type (TypeRef): declared type of the " ++
      "result, None for no result\n            path (str): url the requests are posted " ++
      "to\n            transport (Transport): performs the round trip\n            counter " ++
      "(CallIdCounter): allocates request ids\n            types (dict): generated record " ++
      "types, used to build forms for record arguments\n        "),
    ("HttpTransport.__init__",
      "Transport based on `requests`. Blocking calls run in a worker thread so that\n        " ++
      "several calls can be outstanding at once.\n        Args:\n            timeout " ++
      "(float): seconds to wait for the server\n            headers (dict): extra headers " ++
      "sent with every request\n            session (requests.Session): session to reuse " ++
      "connections and cookies from\n        ")]

end Kind

end ServiceClient
