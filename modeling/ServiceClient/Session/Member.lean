import ServiceClient.Session.Lineage

/-!
The members of things, by name. A record has members of its own, those set on the types of its
lineage, and those all records share. A member set on a type can be a record that stands in for
something else: then it is asked for that (`attach`), and it may take over how the member is read
(`__get__`) and set (`__set__`, `__delete__`). A type may also have set what reads and sets the
members of its records in general.
-/

namespace ServiceClient

namespace Member

/-- What a record has because it is one: its type, its own members, and what refers to it without
keeping it. -/
def type : String := "__class__"

def own : String := "__dict__"

def weakReference : String := "__weakref__"

/-- What reads a member, in place of the item it is set as. -/
def reader : String := "__get__"

def setter : String := "__set__"

def remover : String := "__delete__"

/-- The functions that all records have. -/
def functions : List String := [
    "__delattr__", "__dir__", "__eq__", "__format__", "__ge__", "__getattribute__", "__getstate__",
    "__gt__", "__init__", "__init_subclass__", "__le__", "__lt__", "__ne__", "__new__",
    "__reduce__", "__reduce_ex__", "__repr__", "__setattr__", "__sizeof__", "__str__",
    "__subclasshook__", "gui", "to_wire_form"]

/-- The functions of a type. -/
def typeFunctions : List String := ["from_wire_form"]

/-- What all records share besides functions. -/
def shared : List (String × Item) := [
    ("__annotations__", .common "__annotations__"), ("__hash__", .null)]

/-- The members of a type that follow from its making. -/
def fixedOnTypes : List String := [
    "__basicsize__", "__bases__", "__class__", "__dict__", "__dictoffset__", "__flags__",
    "__itemsize__", "__mro__", "__text_signature__", "__weakrefoffset__"]

/-- What types have besides. -/
def onTypes : List String := [
    "__call__", "__instancecheck__", "__or__", "__prepare__", "__ror__", "__subclasscheck__",
    "__subclasses__", "mro"]

def title : String := "__name__"

def fullTitle : String := "__qualname__"

def bases : String := "__bases__"

def base : String := "__base__"

/-- What a type still lacks before records can be made of it. -/
def lacking : String := "__abstractmethods__"

def documentation : String := "__doc__"

/-- The members of a type that are those of the type alone. -/
def ofTypeAlone : List String := [lacking, documentation, "__module__"]

def annotations : String := "__annotations__"

end Member

section Access

variable (call : Call)

/-- What an item set on a type is for a receiver: the item itself, unless it is a record whose type
says otherwise. -/
def attach (item receiver : Item) (type : String) : Run Item := do
  match ← setOnTypeOf? item Member.reader with
  | some reader => call reader [item, receiver, .type type] []
  | none => return item

/-- What is set under a name on the type of a record, for the record itself. -/
def special? (record : Item) (name : String) : Run (Option Item) := do
  match ← typeOf? record with
  | none => return none
  | some type =>
    match ← setOnTypes? type name with
    | some item => return some (← attach call item record type)
    | none => return none

/-- Whether an item set on a type has a say in how the member is set. -/
def setsItself (item : Item) : Run Bool := do
  return (← setOnTypeOf? item Member.setter).isSome ||
    (← setOnTypeOf? item Member.remover).isSome

/-- Whether an item set on a type goes before the members of a record of it: it both reads the
member and has a say in setting it. -/
def goesFirst (item : Item) : Run Bool := do
  return (← setOnTypeOf? item Member.reader).isSome && (← setsItself item)

/-- What a record has under a name because it is a record. -/
def givenMember? (record : Item) (type : String) (name : String) : Option Item :=
  if Member.functions.contains name then some (.bound name record)
  else if Member.typeFunctions.contains name then some (.bound name (.type type))
  else Member.shared.lookup name

/-- The member of a record in the way it is found if nothing else was set for that. -/
def foundMember (record : Item) (type : String) (own : Nat) (name : String) : Run Item := do
  if name == Member.type then return .type type
  if name == Member.own then return .object own
  match ← setOnTypes? type name, (← entriesAt own).lookup name with
  | some item, own? =>
    match own?, ← goesFirst item with
    | some v, false => return v
    | _, _ => attach call item record type
  | none, own? =>
    if name == Member.weakReference then return .null
    match own? <|> givenMember? record type name with
    | some item => return item
    | none => refuse .noMember

/-- What a type has under a name as a type. -/
def givenOnType? (type name : String) : Option Item :=
  if Member.typeFunctions.contains name then some (.bound name (.type type))
  else if Member.functions.contains name || Member.onTypes.contains name ||
      name == Member.weakReference then some (.common name)
  else Member.shared.lookup name

/-- The member of a type that is the type's alone. -/
def memberOfTypeAlone (type name : String) (state : TypeState) : Run Item := do
  match state.members.lookup name with
  | some item => if name == Member.documentation then attach call item .null type else return item
  | none => if name == Member.lacking then refuse .noMember else return .null

/-- The mapping of the annotations of a type, a new one if it has none. -/
def annotationsOf (type : String) (state : TypeState) : Run Item := do
  match state.members.lookup Member.annotations with
  | some item => attach call item .null type
  | none =>
    let item ← allocate (.mapping [])
    setTypeState type { state with members := putEntry Member.annotations item state.members }
    return item

/-- The member of a type. -/
def memberOfType (type name : String) (state : TypeState) : Run Item := do
  if name == Member.title then return .string state.title
  if name == Member.fullTitle then return .string state.fullTitle
  if name == Member.base then return (state.bases.head?.map .type).getD (.common name)
  if name == Member.annotations then return ← annotationsOf call type state
  if Member.fixedOnTypes.contains name then return .common name
  if Member.ofTypeAlone.contains name then return ← memberOfTypeAlone call type name state
  match ← setOnTypes? type name with
  | some item => attach call item .null type
  | none =>
    match givenOnType? type name with
    | some item => return item
    | none => refuse .noMember

/-- What adds an item to a list. -/
def adder : String := "append"

/-- The kind that all lists have in common. -/
def listKind : String := "list"

/-- The member of a thing that is neither a record nor a type. -/
def plainMember (item : Item) (name : String) : Run Item := do
  match item, ← objectOf? item with
  | .absent, _ =>
    let own := (← get).absentOwn
    if name == Member.own then return .object own
    match (← entriesAt own).lookup name with
    | some item => return item
    | none => refuse .noMember
  | _, some (.list _) =>
    if name == adder then return .bound name item
    if name == Member.type then return .common listKind
    refuse .noMember
  | .common kind, _ =>
    if kind == listKind && name == adder then return .common name
    refuse .noMember
  | _, _ => refuse .noMember

/-- Does something else where there is no such member. -/
def orElseNoMember {α : Type} (attempt other : Run α) : Run α :=
  tryCatch attempt fun
    | .misuse .noMember => other
    | failure => throw failure

/-- The member of a thing. The type of a record may have set what finds its members, or what finds
those that are not found. -/
def getMember (item : Item) (name : String) : Run Item := do
  match ← objectOf? item with
  | some (.record type own) =>
    let attempt : Run Item := do
      match ← special? call item "__getattribute__" with
      | some finder => call finder [.string name] []
      | none => foundMember call item type own name
    match ← setOnTypes? type "__getattr__" with
    | none => attempt
    | some finder => orElseNoMember attempt do
      call (← attach call finder item type) [.string name] []
  | _ =>
    match item with
    | .type type =>
      match ← typeState? type with
      | some state => memberOfType call type name state
      | none => refuse .noMember
    | _ => plainMember item name

/-- The member of a thing under a name that is itself an item. -/
def getMemberBy (item name : Item) : Run Item := do getMember call item (← nameOf name)

/-- Asks a record for its type, as is done when something that is no record is looked for. Whatever
the answer is, it is no such thing. -/
def askType (item : Item) : Run Unit := do
  if (← typeOf? item).isSome then
    orElseNoMember (discard (getMember call item Member.type)) (pure ())

end Access

end ServiceClient
