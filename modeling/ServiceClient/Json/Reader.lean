import ServiceClient.Number.Numeral
import ServiceClient.Value.Basic

/-!
Reading JSON text. `Json.parse` reads one value with blanks around it. Besides the JSON grammar it
knows `NaN`, `Infinity` and `-Infinity`; a number without a point and an exponent is an integer of
any size, but of at most 4300 digits; of several values for a key the last one counts, at the place
of the first. A fault names its cause and where in the text it was found.

A string here has characters only. An escaped half of a surrogate pair that stands without the
other half is none, and is read as `replacement`; a reader whose strings may have such halves keeps
it, and a text that shows it cannot be encoded. So what is read of a text with such a half is not
what that reader reads: the answers of the explorer are told for texts whose halves are paired
(`Json.IsOrdinary`), where every string is read as the units it spells (`readString_units`), and
what a reply means and what the command line prints are told in terms of this reader and hold of
that one for such texts.
-/

namespace ServiceClient

namespace Json

inductive Cause
  | byteOrderMark
  | noValue
  | extraData
  | noPropertyName
  | noColon
  | noComma
  | controlCharacter
  | openString
  | badEscape
  | badUnicodeEscape
  | tooManyDigits (count : Nat)

/-- What is wrong with a text, and how many characters are left where it is noticed. -/
structure Fault where
  cause : Cause
  remaining : Nat

def fail {α : Type} (cause : Cause) (here : List Char) : Except Fault α :=
  .error ⟨cause, here.length⟩

def skipBlanks (cs : List Char) : List Char := cs.dropWhile isJsonBlank

/-- The value of four hexadecimal digits. -/
def hexValue? (digits : List Char) : Option Nat :=
  digits.foldlM (fun value c => (hexDigit? c).map (16 * value + ·)) 0

/-- The four digits of an escape, after its `u`. Something has to follow them. -/
def readUnit (mark : List Char) : Except Fault (Nat × List Char) :=
  let cs := mark.drop 1
  if cs.length < 5 then fail .badUnicodeEscape mark
  else
    match hexValue? (cs.take 4) with
    | some unit => .ok (unit, cs.drop 4)
    | none => fail .badUnicodeEscape mark

/-- The character that is read in place of half a surrogate pair without the other half, where a
reader with strings of units instead of characters has that half. -/
def replacement : Char := '\ufffd'

/-- The character of an escape whose text starts at `mark`, the `u` after the backslash. A high
surrogate takes the escape of its low half with it; a half by itself is replaced, not kept. -/
def readUnicode (mark : List Char) : Except Fault (Char × List Char) := do
  let (unit, rest) ← readUnit mark
  if 0xd800 ≤ unit && unit < 0xdc00 then
    match rest with
    | '\\' :: 'u' :: more =>
      if more.length < 5 then return (replacement, rest)
      let (low, rest') ← readUnit ('u' :: more)
      if 0xdc00 ≤ low && low < 0xe000 then
        return (Char.ofNat (0x10000 + (unit - 0xd800) * 0x400 + (low - 0xdc00)), rest')
      else return (replacement, rest)
    | _ => return (replacement, rest)
  else if 0xdc00 ≤ unit && unit < 0xe000 then return (replacement, rest)
  else return (Char.ofNat unit, rest)

/-- The characters with an escape of one letter. -/
def shortEscapes : List (Char × Char) :=
  [('"', '"'), ('\\', '\\'), ('/', '/'), ('b', '\x08'), ('f', '\x0c'), ('n', '\n'), ('r', '\r'),
    ('t', '\t')]

/-- Reads the rest of a string whose opening quote was the first character of `opening`. -/
def readString (opening : List Char) :
    (fuel : Nat) → List Char → Except Fault (List Char × List Char)
  | 0, _ | _, [] => fail .openString opening
  | fuel + 1, c :: rest =>
    if c = '"' then .ok ([], rest)
    else if c = '\\' then do
      let (read, rest') ← match rest with
        | [] => fail .openString opening
        | 'u' :: _ => readUnicode rest
        | e :: rest' =>
          match shortEscapes.lookup e with
          | some read => .ok (read, rest')
          | none => fail .badEscape (c :: rest)
      let (more, end') ← readString opening fuel rest'
      return (read :: more, end')
    else if c < ' ' then fail .controlCharacter (c :: rest)
    else do
      let (more, end') ← readString opening fuel rest
      return (c :: more, end')

/-- The digits at the front of a text, and what follows them. -/
def takeDigits (cs : List Char) : List Char × List Char := cs.span Char.isDigit

/-- The digits before the point: a single zero, or digits that start with another one. -/
def takeWhole : List Char → List Char × List Char
  | '0' :: rest => (['0'], rest)
  | cs => takeDigits cs

/-- The digits after a point, if there are a point and digits. -/
def takeFraction : List Char → Option (List Char × List Char)
  | '.' :: rest =>
    let (digits, rest) := takeDigits rest
    if digits.isEmpty then none else some (digits, rest)
  | _ => none

/-- The exponent after its mark, if it is complete. -/
def takeExponent : List Char → Option (Int × List Char)
  | c :: rest =>
    if c == 'e' || c == 'E' then
      let (negative, rest) := Numeral.takeSign rest
      let (digits, rest) := takeDigits rest
      if digits.isEmpty then none else some (signedInt negative (digitsValue digits), rest)
    else none
  | [] => none

/-- Takes a minus sign off the front. -/
def takeMinus : List Char → Bool × List Char
  | '-' :: rest => (true, rest)
  | cs => (false, cs)

/-- Reads a number as far as it goes. -/
def readNumber (cs : List Char) : Except Fault (Value × List Char) :=
  let (negative, unsigned) := takeMinus cs
  let (whole, rest) := takeWhole unsigned
  if whole.isEmpty then fail .noValue cs
  else
    let fraction := takeFraction rest
    let afterFraction := match fraction with
      | some (_, rest) => rest
      | none => rest
    let exponent := takeExponent afterFraction
    match fraction, exponent with
    | none, none =>
      if maxDigits < whole.length then fail (.tooManyDigits whole.length) cs
      else .ok (.int (signedInt negative (digitsValue whole)), rest)
    | _, _ =>
      let numeral : Numeral :=
        ⟨negative, whole, (fraction.map (·.1)).getD [], (exponent.map (·.1)).getD 0⟩
      let behind := (exponent.map (·.2)).getD afterFraction
      .ok (.float numeral.toBinary64, behind)

/-- The values with a name. -/
def constants : List (String × Value) :=
  [("null", .null), ("true", .bool true), ("false", .bool false),
    ("NaN", .float .nan), ("Infinity", .float (.infinite false)),
    ("-Infinity", .float (.infinite true))]

/-- The named value at the front of a text. -/
def takeConstant? (cs : List Char) : Option (Value × List Char) :=
  constants.findSome? fun (name, v) =>
    if name.toList.isPrefixOf cs then some (v, cs.drop name.length) else none

mutual

/-- Reads the value at the front of a text. -/
def readValue : (fuel : Nat) → List Char → Except Fault (Value × List Char)
  | 0, cs => fail .noValue cs
  | _, [] => fail .noValue []
  | fuel + 1, cs@(c :: rest) =>
    if c = '"' then do
      let (s, rest) ← readString cs rest.length rest
      return (.string (String.ofList s), rest)
    else if c = '[' then
      match skipBlanks rest with
      | ']' :: rest => .ok (.list [], rest)
      | rest => do
        let (items, rest) ← readItems fuel rest
        return (.list items, rest)
    else if c = '\x7b' then
      match skipBlanks rest with
      | '\x7d' :: rest => .ok (.object [], rest)
      | rest => do
        let (entries, rest) ← readEntries fuel rest
        return (.object (entriesOfPairs entries), rest)
    else
      match takeConstant? cs with
      | some found => .ok found
      | none => readNumber cs

/-- Reads the elements of an array up to its end. -/
def readItems : (fuel : Nat) → List Char → Except Fault (List Value × List Char)
  | 0, cs => fail .noValue cs
  | fuel + 1, cs => do
    let (v, rest) ← readValue fuel cs
    match skipBlanks rest with
    | ']' :: rest => return ([v], rest)
    | ',' :: rest =>
      let (vs, rest) ← readItems fuel (skipBlanks rest)
      return (v :: vs, rest)
    | rest => fail .noComma rest

/-- Reads the members of an object up to its end. -/
def readEntries : (fuel : Nat) → List Char → Except Fault (List (String × Value) × List Char)
  | fuel + 1, cs@('"' :: rest) => do
    let (key, rest) ← readString cs rest.length rest
    match skipBlanks rest with
    | ':' :: rest =>
      let (v, rest) ← readValue fuel (skipBlanks rest)
      match skipBlanks rest with
      | '\x7d' :: rest => return ([(String.ofList key, v)], rest)
      | ',' :: rest =>
        let (entries, rest) ← readEntries fuel (skipBlanks rest)
        return ((String.ofList key, v) :: entries, rest)
      | rest => fail .noComma rest
    | rest => fail .noColon rest
  | _, cs => fail .noPropertyName cs

end

/-- Reads a text that holds one value and nothing else but blanks. -/
def readAll (cs : List Char) : Except Fault Value :=
  match cs with
  | '\ufeff' :: _ => fail .byteOrderMark cs
  | _ => do
    let (v, rest) ← readValue (2 * cs.length + 1) (skipBlanks cs)
    match skipBlanks rest with
    | [] => return v
    | rest => fail .extraData rest

def parse (text : String) : Except Fault Value := readAll text.toList

def Cause.text : Cause → String
  | byteOrderMark => "Unexpected UTF-8 BOM (decode using utf-8-sig)"
  | noValue => "Expecting value"
  | extraData => "Extra data"
  | noPropertyName => "Expecting property name enclosed in double quotes"
  | noColon => "Expecting ':' delimiter"
  | noComma => "Expecting ',' delimiter"
  | controlCharacter => "Invalid control character at"
  | openString => "Unterminated string starting at"
  | badEscape => "Invalid \\escape"
  | badUnicodeEscape => "Invalid \\uXXXX escape"
  | tooManyDigits count =>
    "Exceeds the limit (4300 digits) for integer string conversion: value has " ++ toString count ++
      " digits; use sys.set_int_max_str_digits() to increase the limit"

/-- The wording of a fault in a text: its cause, and its line and column, both counted from one. -/
def Fault.message (text : String) (fault : Fault) : String :=
  match fault.cause with
  | .tooManyDigits _ => fault.cause.text
  | cause =>
    let position := text.length - fault.remaining
    let before := text.toList.take position
    let line := before.count '\n' + 1
    let column := (before.reverse.takeWhile (· ≠ '\n')).length + 1
    cause.text ++ ": line " ++ toString line ++ " column " ++ toString column ++
      " (char " ++ toString position ++ ")"

end Json

end ServiceClient
