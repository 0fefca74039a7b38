import ServiceClient.Route.Authority
import ServiceClient.Text.Percent

/-!
Addresses: a path, before which may come blanks, a scheme and an authority, and after which a query
and a fragment. Line breaks and tabs count nowhere.
-/

namespace ServiceClient

def isSchemeChar (c : Char) : Bool := c.isAlphanum || c == '+' || c == '-' || c == '.'

/-- An address without its scheme, which starts with a letter and ends with a colon. -/
def dropScheme (cs : List Char) : List Char :=
  match cs.span (· ≠ ':') with
  | (c :: scheme, _ :: rest) => if c.isAlpha && scheme.all isSchemeChar then rest else cs
  | _ => cs

/-- The authority that two slashes announce, and what follows it. -/
def splitAuthority : List Char → List Char × List Char
  | '/' :: '/' :: cs => cs.span fun c => c ≠ '/' && c ≠ '?' && c ≠ '#'
  | cs => ([], cs)

structure Address where
  authority : List Char
  path : List Char
  query : List Char

namespace Address

/-- Reads an address. -/
def read (address : List Char) : Except Misuse Address := do
  let cs := (address.dropWhile (· ≤ ' ')).filter fun c => c ≠ '\t' && c ≠ '\n' && c ≠ '\r'
  let (authority, rest) := splitAuthority (dropScheme cs)
  unless isAuthority authority do throw .badText
  let (path, query) := Authority.cut '?' (rest.takeWhile (· ≠ '#'))
  return { authority, path, query }

/-- The path of an address with the query, if there is one. -/
def target (a : Address) : List Char :=
  if a.query.isEmpty then a.path else a.path ++ '?' :: a.query

/-- Refuses an address whose authority names no host. -/
def checkHost (a : Address) : Except Misuse Unit := (Authority.read a.authority).checkHost

end Address

/-- A path in which what looks like an authority is written as one. -/
def normalPath (path : List Char) : Except Misuse (List Char) := do
  let a ← Address.read path
  a.checkHost
  if a.authority.isEmpty then return path
  return '/' :: '/' :: (Authority.read a.authority).text ++ a.path

/-- A path with one slash at its front, unless it is empty. -/
def rooted (path : List Char) : List Char :=
  if path.isEmpty then [] else '/' :: path.dropWhile (· == '/')

/-- The path that an address asks for. Whoever sends a request takes the path of its address, and
whoever receives that takes the path of it once more. -/
def requestPath (address : List Char) : Except Misuse (List Char) := do
  let sent ← Address.read address
  let received ← Address.read sent.target
  let path ← normalPath received.path
  sent.checkHost
  return rooted (percentDecode path)

/-- A path in which every row of slashes is a single one; the flag tells whether a slash came
before. -/
def mergeSlashes (afterSlash : Bool) : List Char → List Char
  | [] => []
  | c :: cs =>
    if afterSlash && c == '/' then mergeSlashes true cs else c :: mergeSlashes (c == '/') cs

end ServiceClient
