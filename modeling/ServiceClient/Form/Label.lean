import ServiceClient.Text.LetterCase

/-!
Labels: names of identifiers as people read them. `getUserName` becomes `Get user name`, and an
acronym stays as it is, as in `HTTP server` for `HTTPServer`.
-/

namespace ServiceClient

namespace Label

/-- The label of the rest of a name, after the character `before`. An upper case letter starts a
word of lower case letters if a letter of another case follows, and is part of an acronym
otherwise. -/
def rest (before : Char) : List Char → List Char
  | [] => []
  | c :: cs =>
    if c == '_' then ' ' :: rest c cs
    else if isUpperCase c then
      let startsWord := match cs with
        | [] => false
        | next :: _ => !isUpperCase next
      let gap := if isUpperCase before && !startsWord then [] else [' ']
      gap ++ (if startsWord then lowerCase c else [c]) ++ rest c cs
    else c :: rest c cs

/-- The label of a name. -/
def chars : List Char → List Char
  | [] => []
  | c :: cs => upperCase c ++ rest c cs

end Label

/-- The label of an identifier. -/
def label (name : String) : String := String.ofList (Label.chars name.toList)

end ServiceClient
