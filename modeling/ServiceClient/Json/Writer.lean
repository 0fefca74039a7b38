import ServiceClient.Number.Numeral
import ServiceClient.Number.Shortest
import ServiceClient.Text.Quoted
import ServiceClient.Failure

/-!
JSON text of plain values, in ASCII. `Json.write` puts everything on one line; `Json.writeIndented`
gives every element a line of its own. A value that has no JSON form cannot be written.
-/

namespace ServiceClient

namespace Json

/-- The UTF-16 units of a character. -/
def utf16Units (n : Nat) : List Nat :=
  if n < 0x10000 then [n]
  else [0xd800 + (n - 0x10000) / 0x400, 0xdc00 + (n - 0x10000) % 0x400]

/-- The spelling of a character inside a JSON string. -/
def spell (c : Char) : List Char :=
  if c = '"' then ['\\', '"']
  else if c = '\\' then ['\\', '\\']
  else if c = '\n' then ['\\', 'n']
  else if c = '\r' then ['\\', 'r']
  else if c = '\t' then ['\\', 't']
  else if c = '\x08' then ['\\', 'b']
  else if c = '\x0c' then ['\\', 'f']
  else if 0x20 ≤ c.toNat && c.toNat < 0x7f then [c]
  else (utf16Units c.toNat).flatMap fun unit => '\\' :: 'u' :: hexDigits 4 unit

def writeString (s : String) : List Char := '"' :: s.toList.flatMap spell ++ ['"']

/-- The text of an integer, unless it has more digits than are read. -/
def writeInt (n : Int) : Except Failure (List Char) :=
  if maxDigits < (Nat.toDigits 10 n.natAbs).length then .error (.misuse .badText)
  else .ok (toString n).toList

/-- The text of a number; not a number and the infinities have names that JSON itself does not
know. -/
def writeFloat : Binary64 → List Char
  | .nan => "NaN".toList
  | .infinite negative => if negative then "-Infinity".toList else "Infinity".toList
  | x => x.text.toList

/-- Where line breaks go: nowhere, or before every element, indented by its depth. -/
inductive Layout
  | oneLine
  | indented (step : Nat)

/-- What comes before an element or a closing bracket at a depth. -/
def Layout.gap : Layout → Nat → List Char
  | oneLine, _ => []
  | indented step, depth => '\n' :: List.replicate (step * depth) ' '

/-- What comes between two elements at a depth. -/
def Layout.comma : Layout → Nat → List Char
  | oneLine, _ => [',', ' ']
  | layout, depth => ',' :: layout.gap depth

/-- Elements between brackets; the elements are one level below `depth`. -/
def enclose (layout : Layout) (depth : Nat) (left right : Char) : List (List Char) → List Char
  | [] => [left, right]
  | parts =>
    left :: layout.gap (depth + 1) ++ (layout.comma (depth + 1)).intercalate parts ++
      layout.gap depth ++ [right]

mutual

/-- The text of a value that starts at a depth. -/
def writeAt (layout : Layout) (depth : Nat) : Value → Except Failure (List Char)
  | .null => .ok "null".toList
  | .bool b => .ok (if b then "true".toList else "false".toList)
  | .int n => writeInt n
  | .float x => .ok (writeFloat x)
  | .string s => .ok (writeString s)
  | .list items | .tuple items => do
    return enclose layout depth '[' ']' (← writeItems layout (depth + 1) items)
  | .object entries => do
    return enclose layout depth '\x7b' '\x7d' (← writeEntries layout (depth + 1) entries)
  | .absent | .typeObject _ | .record .. => .error (.misuse .wrongKind)

def writeItems (layout : Layout) (depth : Nat) : List Value → Except Failure (List (List Char))
  | [] => .ok []
  | v :: vs => do return (← writeAt layout depth v) :: (← writeItems layout depth vs)

def writeEntries (layout : Layout) (depth : Nat) :
    List (String × Value) → Except Failure (List (List Char))
  | [] => .ok []
  | (key, v) :: rest => do
    let text ← writeAt layout depth v
    return (writeString key ++ ':' :: ' ' :: text) :: (← writeEntries layout depth rest)

end

/-- The text of a value on one line. -/
def write (v : Value) : Except Failure String := String.ofList <$> writeAt .oneLine 0 v

/-- The text of a value with an element a line, each indented by two blanks a level. -/
def writeIndented (v : Value) : Except Failure String :=
  String.ofList <$> writeAt (.indented 2) 0 v

end Json

end ServiceClient
