import ServiceClient.Number.Shortest
import ServiceClient.Text.Quoted
import ServiceClient.Value.Basic

/-!
The text of a value as messages and pages show it. Texts inside it are quoted; a text that is the
whole value stands as it is (`plainText`).
-/

namespace ServiceClient

namespace Value

/-- Parts between two brackets, with commas between them. -/
def bracketed (left right : String) (parts : List String) : String :=
  left ++ ", ".intercalate parts ++ right

/-- The text of a tuple; a single item is followed by a comma. -/
def tupleText : List String → String
  | [item] => "(" ++ item ++ ",)"
  | items => bracketed "(" ")" items

/-- Where declared types are at home. -/
def typeHome : String := "autojsonclient.records"

/-- The text of a type: its full name after that of its home. -/
def typeText (home name : String) : String := "<class '" ++ home ++ "." ++ name ++ "'>"

mutual

/-- The text of a value in which texts are quoted. -/
def text : Value → String
  | null => "None"
  | bool b => if b then "True" else "False"
  | int n => toString n
  | float x => x.text
  | string s => quoted s
  | list items => bracketed "[" "]" (itemTexts items)
  | tuple items => tupleText (itemTexts items)
  | object entries => bracketed "\x7b" "\x7d" (entryTexts entries)
  | absent => "ABSENT"
  | typeObject type => typeText typeHome type.name
  | record type values => type.name ++ bracketed "(" ")" (fieldTexts type.fields values)

def itemTexts : List Value → List String
  | [] => []
  | v :: vs => v.text :: itemTexts vs

def entryTexts : List (String × Value) → List String
  | [] => []
  | (key, v) :: rest => (quoted key ++ ": " ++ v.text) :: entryTexts rest

def fieldTexts : List (String × TypeRef) → List Value → List String
  | (field, _) :: fields, v :: vs => (field ++ "=" ++ v.text) :: fieldTexts fields vs
  | _, _ => []

end

/-- The text of a value that is shown by itself. -/
def plainText : Value → String
  | string s => s
  | v => v.text

end Value

end ServiceClient
