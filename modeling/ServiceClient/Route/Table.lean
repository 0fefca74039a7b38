import ServiceClient.Route.Pattern

/-!
Finding the route of a path. Every part of a path is compared with the parts of the routes that fit
so far: a fixed part goes before those with holes, and of these the one with the least weight goes
first. A path that fits a route only with a slash at its end, or only when its rows of slashes are
merged, is redirected.
-/

namespace ServiceClient

/-- How a page is asked for: to see it, or to submit a form. -/
inductive Verb
  | get
  | post
deriving DecidableEq

/-- A way to a place `P`: the pattern of its paths, and the verb they are asked for with. -/
structure Route (P : Type) where
  pattern : Pattern
  verb : Verb
  place : P

/-- What a path comes to. -/
inductive Arrival (P : Type)
  /-- A route fits, with what its holes take. -/
  | at (route : Route P) (taken : List String)
  | redirected
  | wrongVerb
  | nowhere
  /-- What fits cannot be told. -/
  | unclear

namespace Route

variable {P : Type}

/-- What is found on the way: a route that fits, one that fits but for the verb, one that fits but
for a slash at the end, or a part for which there can be no texts. -/
inductive Finding (P : Type)
  | fits (route : Route P) (taken : List String)
  | wrongVerb
  | lacksSlash
  | unsound

/-- A route with the parts of it that are still to be fitted. -/
abbrev Candidate (P : Type) := List Part × Route P

/-- What is found where a path ends. -/
def findingsAtEnd (verb : Verb) (taken : List String) (candidates : List (Candidate P)) :
    List (Finding P) :=
  let here := candidates.filterMap fun (parts, route) =>
    match parts with
    | [] => some (if route.verb = verb then .fits route taken else .wrongVerb)
    | _ => none
  let behind := candidates.filterMap fun (parts, route) =>
    match parts with
    | [.fixed []] => if route.verb = verb then some .lacksSlash else none
    | _ => none
  here ++ behind

/-- The candidates whose next part is this one, after it. -/
def after (part : Part) (candidates : List (Candidate P)) : List (Candidate P) :=
  candidates.filterMap fun (parts, route) =>
    match parts with
    | next :: rest => if next = part then some (rest, route) else none
    | [] => none

/-- Whether one weight goes before another. -/
def precedes : List Int → List Int → Bool
  | [], _ => true
  | _ :: _, [] => false
  | a :: as, b :: bs => a < b || a == b && precedes as bs

def weightOf : Part → List Int
  | .fixed _ => []
  | .fitting _ _ _ weight => weight

/-- The next parts with holes, the one that goes first at the front. -/
def nextFitting (candidates : List (Candidate P)) : List Part :=
  let parts := candidates.filterMap fun (parts, _) =>
    match parts with
    | part@(.fitting ..) :: _ => some part
    | _ => none
  parts.eraseDups.mergeSort fun a b => precedes (weightOf a) (weightOf b)

/-- Whether there can be texts that a part fits. -/
def isSound : Part → Bool
  | .fixed _ => true
  | .fitting pieces _ _ _ => pieces.all fun
    | .text _ => true
    | .hole kind => kind.isSound

/-- What a part with holes takes from the parts of a path, and what it leaves of them. -/
def takeParts? (part : Part) (path : List (List Char)) :
    Option (List String × List (List Char)) :=
  match part, path with
  | .fitting pieces false closed _, target :: rest =>
    (Pattern.fit? closed none pieces target).map fun (values, _) => (values, rest)
  | .fitting pieces true closed _, path =>
    (Pattern.fit? closed none pieces (['/'].intercalate path)).map fun (values, slash) =>
      (values, if slash then [[]] else [])
  | _, _ => none

/-- What is found on a path, in the order in which it is found. -/
def findings (verb : Verb) : (fuel : Nat) → (taken : List String) → List (Candidate P) →
    (path : List (List Char)) → List (Finding P)
  | 0, _, _, _ => []
  | _, taken, candidates, [] => findingsAtEnd verb taken candidates
  | fuel + 1, taken, candidates, part :: path =>
    findings verb fuel taken (after (.fixed part) candidates) path ++
      (nextFitting candidates).flatMap fun next =>
        if !isSound next then [.unsound]
        else
          match takeParts? next (part :: path) with
          | none => []
          | some (values, rest) =>
            findings verb fuel (taken ++ values) (after next candidates) rest

/-- The most parts that a route has. -/
def length (routes : List (Route P)) : Nat :=
  routes.foldl (fun most route => max most route.pattern.parts.length) 0

/-- What is found on a path among some routes. -/
def search (routes : List (Route P)) (verb : Verb) (path : List Char) : List (Finding P) :=
  findings verb (length routes + 1) [] (routes.map fun route => (route.pattern.parts, route))
    (path.splitOn '/')

/-- Whether a finding is of no use. -/
def isWrongVerb : Finding P → Bool
  | .wrongVerb => true
  | _ => false

/-- What a path comes to that no route fits. -/
def refusal (found : List (Finding P)) : Arrival P :=
  if found.any isWrongVerb then .wrongVerb else .nowhere

/-- Whether all holes accept what they took. -/
def accepts : List (HoleKind × String) → Except Misuse Bool
  | [] => .ok true
  | (kind, taken) :: rest => do
    if ← kind.accepts taken then accepts rest else return false

/-- What a path comes to among some routes. -/
def arrive (routes : List (Route P)) (verb : Verb) (path : List Char) : Arrival P :=
  let found := search routes verb path
  match found.find? (!isWrongVerb ·) with
  | some (.fits route taken) =>
    match accepts ((route.pattern.holes.map (·.2)).zip taken) with
    | .ok true => .at route taken
    | .ok false => refusal (found.takeWhile isWrongVerb)
    | .error _ => .unclear
  | some .unsound => .unclear
  | some _ => .redirected
  | none =>
    let merged := search routes verb (mergeSlashes false path)
    match merged.find? (!isWrongVerb ·) with
    | some .unsound => .unclear
    | some _ => .redirected
    | none => refusal (found ++ merged)

end Route

end ServiceClient
