import ServiceClient.Failure

/-!
Dotted names as a tree: `a.b.c` stands at `c` in the namespace `b` of the namespace `a`. A tree is
built from its names one by one (`Namespace.ofList`) and lists them again (`Namespace.toList`).
-/

namespace ServiceClient

inductive NameTree (α : Type)
  | leaf (item : α)
  | branch (members : List (String × NameTree α))

/-- The members of a namespace, in the order in which they were added. -/
abbrev Namespace (α : Type) := List (String × NameTree α)

/-- The parts of a name between its dots. There is at least one, and parts may be empty. -/
def segments (name : String) : List String :=
  (name.toList.splitOn '.').map String.ofList

namespace Namespace

variable {α : Type}

/-- Adds an item at the end of a path. `name` is the whole name, for messages. -/
def insert (name : String) (item : α) : (path : List String) → Namespace α →
    Except DescriptionFault (Namespace α)
  | [], members => .ok members
  | [last], members =>
    if (members.lookup last).isSome then .error (.nameClash name)
    else .ok (members ++ [(last, .leaf item)])
  | segment :: path, members =>
    match members.lookup segment with
    | none => do return members ++ [(segment, .branch (← insert name item path []))]
    | some (.branch inner) => do
      return putEntry segment (.branch (← insert name item path inner)) members
    | some (.leaf _) => .error (.methodAsNamespace name segment)

/-- The namespace of a list of named items. -/
def ofList (items : List (String × α)) : Except DescriptionFault (Namespace α) :=
  items.foldlM (fun members (name, item) => insert name item (segments name) members) []

mutual

/-- The dotted names below a member and their items; the member itself is called `name`. -/
def memberList (name : String) : NameTree α → List (String × α)
  | .leaf item => [(name, item)]
  | .branch members => toList (name ++ ".") members

/-- The dotted names of a namespace and their items, each name after the same `lead`. -/
def toList (lead : String) : List (String × NameTree α) → List (String × α)
  | [] => []
  | (segment, member) :: members => memberList (lead ++ segment) member ++ toList lead members

end

/-- The member at the end of a path. -/
def find? : (path : List String) → Namespace α → Option (NameTree α)
  | [], members => some (.branch members)
  | segment :: path, members =>
    match members.lookup segment with
    | some (.branch inner) => find? path inner
    | some leaf => if path.isEmpty then some leaf else none
    | none => none

end Namespace

end ServiceClient
