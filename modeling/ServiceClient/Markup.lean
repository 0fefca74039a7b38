/-!
Markup as a tree of elements and texts. Rendering escapes every text and every attribute value, so
that none of them can change the structure of a page.
-/

namespace ServiceClient

/-- The spelling of a character inside a text or an attribute value. -/
def escapeChar (c : Char) : List Char :=
  if c = '&' then "&amp;".toList
  else if c = '<' then "&lt;".toList
  else if c = '>' then "&gt;".toList
  else if c = '\'' then "&#39;".toList
  else if c = '"' then "&#34;".toList
  else [c]

def escapeText (s : String) : List Char := s.toList.flatMap escapeChar

/-- An attribute with its value; a flag has none. -/
structure Attribute where
  name : String
  value : Option String

def Attribute.render (a : Attribute) : List Char :=
  match a.value with
  | none => ' ' :: a.name.toList
  | some v => ' ' :: a.name.toList ++ '=' :: '"' :: escapeText v ++ ['"']

inductive Markup
  | text (s : String)
  /-- An element between two tags. -/
  | element (tag : String) (attributes : List Attribute) (children : List Markup)
  /-- An element of one tag. -/
  | void (tag : String) (attributes : List Attribute)

namespace Markup

def openTag (tag : String) (attributes : List Attribute) : List Char :=
  '<' :: tag.toList ++ attributes.flatMap Attribute.render ++ ['>']

def closeTag (tag : String) : List Char := '<' :: '/' :: tag.toList ++ ['>']

mutual

def chars : Markup → List Char
  | text s => escapeText s
  | element tag attributes children =>
    openTag tag attributes ++ charsOfAll children ++ closeTag tag
  | void tag attributes => openTag tag attributes

def charsOfAll : List Markup → List Char
  | [] => []
  | m :: ms => m.chars ++ charsOfAll ms

end

def render (m : Markup) : String := String.ofList m.chars

end Markup

end ServiceClient
