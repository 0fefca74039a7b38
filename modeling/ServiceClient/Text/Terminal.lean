/-!
Text as it arrives where no terminal is: without the sequences that control one, and with a single
character for every line break.
-/

namespace ServiceClient

/-- The characters that tell a control sequence what to do. -/
def isParameter (c : Char) : Bool := '0' ≤ c && c ≤ '?'

/-- The characters that may stand between these and the end of a control sequence. -/
def isIntermediate (c : Char) : Bool := ' ' ≤ c && c ≤ '/'

/-- The character that ends a control sequence. -/
def isFinal (c : Char) : Bool := '@' ≤ c && c ≤ '~'

/-- What follows the control sequence at the front of a text, if there is one. -/
def afterSequence? : List Char → Option (List Char)
  | '\x1b' :: '[' :: cs =>
    match (cs.dropWhile isParameter).dropWhile isIntermediate with
    | c :: rest => if isFinal c then some rest else none
    | [] => none
  | _ => none

theorem length_lt_of_afterSequence? {cs rest : List Char} (found : afterSequence? cs = some rest) :
    rest.length < cs.length := by
  unfold afterSequence? at found
  split at found
  · rename_i cs
    have shorter := (List.dropWhile_suffix isParameter (l := cs)).length_le
    have still := (List.dropWhile_suffix isIntermediate (l := cs.dropWhile isParameter)).length_le
    split at found
    · rename_i c tail dropped
      rw [dropped, List.length_cons] at still
      split at found
      · cases found
        simp only [List.length_cons]
        omega
      · cases found
    · cases found
  · cases found

/-- A text without control sequences. -/
def dropSequences (cs : List Char) : List Char :=
  match _found : afterSequence? cs with
  | some rest => dropSequences rest
  | none =>
    match cs with
    | [] => []
    | c :: cs => c :: dropSequences cs
termination_by cs.length
decreasing_by
  · exact length_lt_of_afterSequence? _found
  · simp

/-- A text in which a line feed alone breaks a line that a carriage return and a line feed broke. -/
def joinLineBreaks : List Char → List Char
  | '\r' :: '\n' :: cs => '\n' :: joinLineBreaks cs
  | c :: cs => c :: joinLineBreaks cs
  | [] => []

/-- A text as it is read from the output of a program. -/
def outputText (s : String) : String := String.ofList (joinLineBreaks (dropSequences s.toList))

end ServiceClient
