import ServiceClient.Failure

/-!
Checking values against types. `TypeRef.mismatch?` finds the first part of a value that does not
have its type, in the order of the indices that lead there.
-/

namespace ServiceClient

/-- Whether a value is of a primitive type. A boolean is not a number. -/
def Primitive.admits : Primitive → Value → Bool
  | .number, .int _ | .number, .float _ => true
  | .string, .string _ => true
  | .boolean, .bool _ => true
  | _, _ => false

/-- Whether a value is of the named type: a record of that type, or any mapping for the untyped
object. Only the name of a record's type counts, not its fields. -/
def namedAdmits (name : String) : Value → Bool
  | .record type _ => type.name == name
  | .object _ => name == untypedObject
  | _ => false

/-- The elements of a value that counts as an array. -/
def Value.elements? : Value → Option (List Value)
  | .list items | .tuple items => some items
  | _ => none

/-- The first mismatch among elements counted from `i`. -/
def firstMismatch? (mismatch? : Value → Option Mismatch) : Nat → List Value → Option Mismatch
  | _, [] => none
  | i, v :: vs =>
    match mismatch? v with
    | some m => some ⟨i :: m.path, m.expected⟩
    | none => firstMismatch? mismatch? (i + 1) vs

/-- The first part of a value that does not have the type. -/
def TypeRef.mismatch? : TypeRef → Value → Option Mismatch
  | .primitive kind, v => if kind.admits v then none else some ⟨[], .primitive kind⟩
  | .named name, v => if namedAdmits name v then none else some ⟨[], .named name⟩
  | .array element, v =>
    match v.elements? with
    | none => some ⟨[], .array element⟩
    | some items => firstMismatch? element.mismatch? 0 items

/-- Checks a value that messages call `subject`. -/
def TypeRef.check (t : TypeRef) (subject : String) (v : Value) : Except Failure Unit :=
  match t.mismatch? v with
  | some m => .error (.mismatch subject m)
  | none => .ok ()

end ServiceClient
