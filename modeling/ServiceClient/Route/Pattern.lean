import ServiceClient.Route.Address
import ServiceClient.Route.Hole
import ServiceClient.Text.Blank
import ServiceClient.Text.Word

/-!
Patterns of paths: texts with holes in them, such as `/call/<path:method>`. `Pattern.read` takes a
pattern apart at its slashes. A part without holes fits only itself; one with holes fits what its
holes can take. After a hole that spans slashes there is no other part, except that a slash at the
very end stays one.
-/

namespace ServiceClient

/-- A piece of a part: a text that stands for itself, or a hole. -/
inductive Piece
  | text (cs : List Char)
  | hole (kind : HoleKind)
deriving DecidableEq

inductive Part
  | fixed (cs : List Char)
  /-- Pieces with a hole among them. A part that is `last` takes all that is left of a path; one
  that is `closed` takes a slash at the end with it, if it is there. -/
  | fitting (pieces : List Piece) (last closed : Bool) (weight : List Int)
deriving DecidableEq

structure Pattern where
  parts : List Part
  /-- The names of the holes, and what they take. -/
  holes : List (String × HoleKind)

namespace Pattern

/-- The arguments of a hole as they are written: the name before an equals sign, if there is one,
and the value. -/
abbrev Argument := Option String × Value

/-- What follows a comma that may have blanks before it. -/
def afterComma? (cs : List Char) : Option (List Char) :=
  match cs.dropWhile isBlank with
  | ',' :: rest => some rest
  | _ => none

/-- The value of a bare word. -/
def wordValue (word : String) : Value :=
  match word with
  | "None" => .null
  | "True" => .bool true
  | "False" => .bool false
  | _ =>
    match integer? word, floating? word with
    | some n, _ => .int n
    | none, some x => .float x
    | none, none => .string word

/-- A text between two quotes, and what follows the comma behind it. -/
def takeQuoted? : List Char → Option (Value × List Char)
  | [] => none
  | quote :: cs =>
    if quote == '"' || quote == '\'' then
      match cs.span (· ≠ quote) with
      | (inside, _ :: rest) => (afterComma? rest).map (.string (String.ofList inside), ·)
      | (_, []) => none
    else none

/-- A value with the comma behind it: a word, or a text in quotes that may have a letter before
it. -/
def takeValue? (cs : List Char) : Option (Value × List Char) :=
  let (word, rest) := cs.span fun c => isWordChar c || c == '.'
  match word, afterComma? rest with
  | c :: word, some rest => some (wordValue (String.ofList (c :: word)), rest)
  | _, _ =>
    takeQuoted? cs <|>
      match cs with
      | c :: cs => if "urUR".toList.contains c then takeQuoted? cs else none
      | [] => none

/-- A named value with the comma behind it. -/
def takeNamed? (cs : List Char) : Option (Argument × List Char) :=
  match cs.span isWordChar with
  | ([], _) => none
  | (name, rest) =>
    match rest.dropWhile isBlank with
    | '=' :: rest => (takeValue? (rest.dropWhile isBlank)).map fun (v, rest) =>
        ((some (String.ofList name), v), rest)
    | _ => none

def takeArgument? (cs : List Char) : Option (Argument × List Char) :=
  let cs := cs.dropWhile isBlank
  takeNamed? cs <|> (takeValue? cs).map fun (v, rest) => ((none, v), rest)

/-- Whether an argument starts anywhere in a text. -/
def holdsArgument : List Char → Bool
  | [] => false
  | c :: cs => (takeArgument? (c :: cs)).isSome || holdsArgument cs

/-- The arguments of a hole, each with a comma behind it. What is left at the end counts for
nothing, but before another argument it is a fault. -/
def takeArguments : (fuel : Nat) → List Char → Except Misuse (List Argument)
  | 0, _ => .ok []
  | fuel + 1, cs =>
    match takeArgument? cs with
    | some (argument, rest) => do return argument :: (← takeArguments fuel rest)
    | none => if holdsArgument cs then .error .badText else .ok []

def isNameStart (c : Char) : Bool := c.isAlpha || c == '_'

/-- The name at the front of a text. -/
def takeName? : List Char → Option (String × List Char)
  | [] => none
  | c :: cs =>
    if isNameStart c then
      let (rest, behind) := cs.span fun c => c.isAlphanum || c == '_'
      some (String.ofList (c :: rest), behind)
    else none

/-- The name of a hole, and what follows the bracket that closes it. -/
def takeClosed? (cs : List Char) : Option (String × List Char) :=
  match takeName? cs with
  | some (name, '>' :: rest) => some (name, rest)
  | _ => none

/-- What stands in a hole. -/
structure HoleText where
  kind : String
  arguments : List Char
  name : String

/-- The arguments of a hole up to a parenthesis after which it has its name, with what follows the
hole. They are on one line. -/
def takeInside? (kind : String) (before : List Char) : List Char → Option (HoleText × List Char)
  | [] => none
  | c :: cs =>
    let here := match c, cs with
      | ')', ':' :: cs => takeClosed? cs
      | _, _ => none
    match here with
    | some (name, rest) => some (⟨kind, before, name⟩, rest)
    | none => if c == '\n' then none else takeInside? kind (before ++ [c]) cs

/-- The hole at the front of a text, after the bracket that opens it. -/
def takeHole? (cs : List Char) : Option (HoleText × List Char) :=
  match takeName? cs with
  | some (name, '>' :: rest) => some (⟨"default", [], name⟩, rest)
  | some (kind, ':' :: rest) =>
    (takeClosed? rest).map fun (name, rest) => (⟨kind, [], name⟩, rest)
  | some (kind, '(' :: rest) => takeInside? kind [] rest
  | _ => none

inductive Token
  | slash
  | text (cs : List Char)
  | hole (name : String) (kind : HoleKind)

/-- The kind of a hole as it is written. -/
def HoleText.read (hole : HoleText) : Except Misuse HoleKind := do
  let written := hole.arguments ++ [',']
  let arguments ← takeArguments written.length written
  let named := arguments.filterMap fun (name?, v) => name?.map (·, v)
  let args := arguments.filterMap fun (name?, v) => if name?.isNone then some v else none
  HoleKind.ofName hole.kind args (entriesOfPairs named)

/-- The tokens of a pattern. -/
def tokens : (fuel : Nat) → List Char → Except Misuse (List Token)
  | 0, _ | _, [] => .ok []
  | fuel + 1, '/' :: cs => do return .slash :: (← tokens fuel cs)
  | fuel + 1, '<' :: cs =>
    match takeHole? cs with
    | none => .error .badText
    | some (hole, rest) => do
      let kind ← hole.read
      return .hole hole.name kind :: (← tokens fuel rest)
  | fuel + 1, cs => do
    let (text, rest) := cs.span fun c => c ≠ '<' && c ≠ '/'
    return .text text :: (← tokens fuel rest)

/-- The pieces of a part with a hole count from many texts to few, then from long ones to short
ones, then from many holes to few, and then by the kinds of the holes. -/
def weight (pieces : List Piece) : List Int :=
  let texts := pieces.filterMap fun
    | .text cs => if cs = ['/'] then none else some (-(cs.length : Int))
    | .hole _ => none
  let holes := pieces.filterMap fun
    | .text _ => none
    | .hole kind => some kind.weight
  [-(texts.length : Int)] ++ texts ++ [-(holes.length : Int)] ++ holes

def spansSlashes : Piece → Bool
  | .text _ => false
  | .hole kind => kind.spansSlashes

/-- A part of these pieces with more behind it. -/
def innerPart (pieces : List Piece) : Part :=
  match pieces with
  | [] => .fixed []
  | [.text cs] => .fixed cs
  | pieces => .fitting pieces false false (weight pieces)

/-- The parts at the end of a pattern. -/
def lastParts (pieces : List Piece) : List Part :=
  if pieces.any spansSlashes then
    if pieces.getLast? = some (.text ['/']) then
      [.fitting pieces.dropLast true true (weight pieces), .fixed []]
    else [.fitting pieces true false (weight pieces)]
  else [innerPart pieces]

/-- The parts of tokens, after pieces of the first part. -/
def partsOf (pieces : List Piece) : List Token → List Part
  | [] => lastParts pieces
  | .slash :: tokens =>
    if pieces.any spansSlashes then partsOf (pieces ++ [.text ['/']]) tokens
    else innerPart pieces :: partsOf [] tokens
  | .text cs :: tokens => partsOf (pieces ++ [.text cs]) tokens
  | .hole _ kind :: tokens => partsOf (pieces ++ [.hole kind]) tokens

/-- The names that no hole can have, as they stand for values. -/
def valueNames : List String := ["None", "True", "False"]

/-- The name that is fixed already. -/
def fixedName : String := "__debug__"

/-- Reads a pattern, which starts with a slash. The holes have names of their own. -/
def read (pattern : String) : Except Misuse Pattern := do
  let cs := mergeSlashes false pattern.toList
  unless cs.head? = some '/' do throw .badText
  let tokens ← tokens cs.length cs
  let holes := tokens.filterMap fun
    | .hole name kind => some (name, kind)
    | _ => none
  let names := holes.map (·.1)
  if names.any valueNames.contains then throw .badText
  if names.contains fixedName || !names.Nodup then throw .badPattern
  return { holes, parts := partsOf [] tokens }

/-- Whether nothing is left of a path but the slash that a closed part takes with it; the answer
tells whether it was there. -/
def atEnd? (closed : Bool) (before : Option Char) : List Char → Option Bool
  | [] => if closed && before = some '/' then none else some false
  | ['/'] => if closed && before ≠ some '/' then some true else none
  | _ => none

/-- What the holes among pieces take so that all of a text is used, and whether a slash at the end
was left over; `before` is the character before the text. -/
def fit? (closed : Bool) (before : Option Char) :
    List Piece → List Char → Option (List String × Bool)
  | [], cs => (atEnd? closed before cs).map ([], ·)
  | .text text :: pieces, cs =>
    (text.isPrefixOf? cs).bind fun rest =>
      fit? closed (text.getLast? <|> before) pieces rest
  | .hole kind :: pieces, cs =>
    (kind.takes cs).findSome? fun (taken, rest) =>
      (fit? closed (taken.getLast? <|> before) pieces rest).map fun (values, slash) =>
        (String.ofList taken :: values, slash)

end Pattern

end ServiceClient
