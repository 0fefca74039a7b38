import ServiceClient.Failure
import ServiceClient.Text.Digit
import ServiceClient.Text.LetterCase
import ServiceClient.Text.Punycode
import ServiceClient.Text.Word

/-!
The authority of an address: whom a request is for, as a host that may have a user before it and a
port behind it. `isAuthority` says which texts can stand for one at all; `checkHost` refuses a host
without a name that can be encoded, and a port that is none.
-/

namespace ServiceClient

namespace Authority

/-- The parts of a text before and after the first of a character; all of it is before one that is
not there. -/
def cut (mark : Char) (cs : List Char) : List Char × List Char :=
  (cs.takeWhile (· ≠ mark), (cs.dropWhile (· ≠ mark)).drop 1)

/-- Whether a text is a group of an address in brackets. -/
def isGroup (cs : List Char) : Bool :=
  !cs.isEmpty && cs.length ≤ 4 && cs.all fun c => (hexDigit? c).isSome

/-- Whether a text is a number from 0 to 255 without needless zeros. -/
def isOctet (cs : List Char) : Bool :=
  !cs.isEmpty && cs.length ≤ 3 && cs.all Char.isDigit && (cs.head? ≠ some '0' || cs.length == 1) &&
    cs.foldl (fun value c => 10 * value + (c.toNat - '0'.toNat)) 0 ≤ 255

/-- The groups of an address in brackets; four octets at its end count as two. -/
def groups (cs : List Char) : List (List Char) :=
  let parts := cs.splitOn ':'
  let octets := (parts.getLastD []).splitOn '.'
  if octets.length == 4 && octets.all isOctet then parts.dropLast ++ [['0'], ['0']] else parts

/-- Whether two colons can stand between these groups for all that are left out. -/
def areAround (before after : List (List Char)) : Bool :=
  let before := if before = [[]] then [] else before
  let after := if after = [[]] then [] else after
  before.all isGroup && after.all isGroup && before.length + after.length < 8

/-- Whether these groups are an address of eight; an empty one inside stands for as many as it
takes. -/
def areAddress (parts : List (List Char)) : Bool :=
  if 3 ≤ parts.length && parts.length ≤ 9 then
    match ((parts.drop 1).dropLast).idxOf? [] with
    | some i => areAround (parts.take (i + 1)) (parts.drop (i + 2))
    | none => parts.length == 8 && parts.all isGroup
  else false

/-- Whether a text in brackets is a host: an address in eight groups, which may name its zone, or
one of a form yet to come. -/
def isBracketed (cs : List Char) : Bool :=
  match cs with
  | 'v' :: rest =>
    let (version, address) := cut '.' rest
    !version.isEmpty && version.all (fun c => (hexDigit? c).isSome) && !address.isEmpty &&
      !address.contains '\n'
  | _ =>
    let (address, zone) := cut '%' cs
    areAddress (groups address) &&
      (!cs.contains '%' || !zone.isEmpty && !zone.contains '%') && !cs.contains '/'

/-- The characters that would count as marks of an address in a simpler form. -/
def hiddenMarks : List Nat := [
    0x2047, 0x2048, 0x2049, 0x2100, 0x2101, 0x2105, 0x2106, 0x2a74, 0xfe13, 0xfe16, 0xfe55, 0xfe56,
    0xfe5f, 0xfe6b, 0xff03, 0xff0f, 0xff1a, 0xff1f, 0xff20]

end Authority

/-- Whether a text can stand for an authority. -/
def isAuthority (cs : List Char) : Bool :=
  cs.contains '[' == cs.contains ']' &&
    (!cs.contains '[' ||
      Authority.isBracketed (Authority.cut ']' (Authority.cut '[' cs).2).1) &&
    !cs.any fun c => Authority.hiddenMarks.contains c.toNat

structure Authority where
  /-- What comes before the last `@`. -/
  user : List Char
  host : List Char
  port : List Char

namespace Authority

/-- The parts of an authority. -/
def read (cs : List Char) : Authority :=
  let pieces := cs.splitOn '@'
  let user := ['@'].intercalate pieces.dropLast
  let rest := pieces.getLastD []
  if rest.contains '[' then
    let (host, behind) := cut ']' (cut '[' rest).2
    ⟨user, host, (cut ':' behind).2⟩
  else
    let (host, port) := cut ':' rest
    ⟨user, host, port⟩

/-- The characters that separate the labels of a host. -/
def dots : List Char := ['.', '\u3002', '\uff0e', '\uff61']

/-- The characters beyond ASCII that count nowhere in a label. -/
def ignored : List (Nat × Nat) := [
    (0xad, 0xad), (0x34f, 0x34f), (0x1806, 0x1806), (0x180b, 0x180d), (0x200b, 0x200d),
    (0x2060, 0x2060), (0xfe00, 0xfe0f), (0xfeff, 0xfeff)]

/-- The characters beyond ASCII that no label may have. -/
def forbidden : List (Nat × Nat) := [
    (0x80, 0x9f), (0x6dd, 0x6dd), (0x70f, 0x70f), (0x1680, 0x1680), (0x180e, 0x180e),
    (0x200e, 0x200f), (0x2028, 0x202e), (0x2061, 0x2063), (0x206a, 0x206f), (0x2ff0, 0x2ffb),
    (0xe000, 0xf8ff), (0xfdd0, 0xfdef), (0xfff9, 0xffff), (0x1d173, 0x1d17a), (0x1fffe, 0x1ffff),
    (0x2fffe, 0x2ffff), (0x3fffe, 0x3ffff), (0x4fffe, 0x4ffff), (0x5fffe, 0x5ffff),
    (0x6fffe, 0x6ffff), (0x7fffe, 0x7ffff), (0x8fffe, 0x8ffff), (0x9fffe, 0x9ffff),
    (0xafffe, 0xaffff), (0xbfffe, 0xbffff), (0xcfffe, 0xcffff), (0xdfffe, 0xdffff),
    (0xe0001, 0xe0001), (0xe0020, 0xe007f), (0xefffe, 0x10ffff)]

/-- Whether a character is in one of some ranges. -/
def isWithin (ranges : List (Nat × Nat)) (c : Char) : Bool :=
  ranges.any fun (first, last) => first ≤ c.toNat && c.toNat ≤ last

def isAscii (cs : List Char) : Bool := cs.all fun c => c.toNat < 0x80

/-- The most characters a label can have. -/
def maxLabel : Nat := 63

/-- The characters of the scripts that are written from right to left. -/
def rightToLeft : List (Nat × Nat) := [
    (0x5be, 0x5be), (0x5c0, 0x5c0), (0x5c3, 0x5c3), (0x5d0, 0x5ea), (0x5f0, 0x5f4), (0x61b, 0x61b),
    (0x61f, 0x61f), (0x621, 0x63a), (0x640, 0x64a), (0x66d, 0x66f), (0x671, 0x6d5), (0x6dd, 0x6dd),
    (0x6e5, 0x6e6), (0x6fa, 0x6fe), (0x700, 0x70d), (0x710, 0x710), (0x712, 0x72c), (0x780, 0x7a5),
    (0x7b1, 0x7b1), (0x200f, 0x200f), (0x2135, 0x2138), (0xfb1d, 0xfb1d), (0xfb1f, 0xfb28),
    (0xfb2a, 0xfb36), (0xfb38, 0xfb3c), (0xfb3e, 0xfb3e), (0xfb40, 0xfb41), (0xfb43, 0xfb44),
    (0xfb46, 0xfbb1), (0xfbd3, 0xfc5d), (0xfc64, 0xfd3d), (0xfd50, 0xfd8f), (0xfd92, 0xfdc7),
    (0xfdf0, 0xfdfc), (0xfe71, 0xfe71), (0xfe73, 0xfe73), (0xfe77, 0xfe77), (0xfe79, 0xfe79),
    (0xfe7b, 0xfe7b), (0xfe7d, 0xfe7d), (0xfe7f, 0xfefc)]

/-- Whether a character is a letter of a script written from left to right. -/
def isLeftToRight (c : Char) : Bool :=
  isWordChar c && c ≠ '_' && (decimalDigit? c).isNone && !isWithin rightToLeft c

/-- Whether a text has one direction: one with anything written from right to left starts and ends
with such a character, and nothing inside it is written from left to right. -/
def hasDirection (cs : List Char) : Bool :=
  let turns := cs.map (isWithin rightToLeft)
  !turns.contains true ||
    turns.head? = some true && turns.getLast? = some true && !cs.any isLeftToRight

/-- What marks a label as one that was encoded. -/
def encodedMark : List Char := "xn--".toList

/-- Whether a label of a host that is not all in ASCII can be encoded. -/
def isLabel (cs : List Char) : Bool :=
  let counted := (cs.filter fun c => !isWithin ignored c).flatMap lowerCase
  if isAscii counted then !counted.isEmpty && counted.length ≤ maxLabel
  else
    !counted.any (isWithin forbidden) && hasDirection counted &&
      !encodedMark.isPrefixOf counted &&
      (encodedMark ++ Punycode.encode counted).length ≤ maxLabel

/-- Whether the name of a host can be encoded. Its last label may be empty. -/
def isHost (host : List Char) : Bool :=
  if isAscii host then
    let labels := host.splitOn '.'
    labels.dropLast.all (!·.isEmpty) && labels.all (·.length ≤ maxLabel)
  else
    let labels := host.splitOnP dots.contains
    (if labels.getLast? = some [] then labels.dropLast else labels).all isLabel

/-- The number of a port. -/
def portNumber? (port : List Char) : Option Nat :=
  if port.all Char.isDigit then
    let digits := port.dropWhile (· == '0')
    let number := digits.foldl (fun value c => 10 * value + (c.toNat - '0'.toNat)) 0
    if digits.length ≤ 5 && number < 65536 then some number else none
  else none

/-- Refuses an authority whose host cannot be encoded or whose port is no number of one. -/
def checkHost (a : Authority) : Except Misuse Unit := do
  unless isHost a.host do throw .badHost
  unless (portNumber? a.port).isSome do throw .badText

/-- A user with the password, as far as they are given. -/
def shownUser (user : List Char) : List Char :=
  let (name, password) := cut ':' user
  if name.isEmpty then []
  else if password.isEmpty then name ++ ['@']
  else name ++ ':' :: password ++ ['@']

/-- An authority as it is written down: its host in lower case, in brackets if it has colons, and
its port as a number. -/
def text (a : Authority) : List Char :=
  let (name, zone) := (a.host.takeWhile (· ≠ '%'), a.host.dropWhile (· ≠ '%'))
  let host := name.flatMap lowerCase ++ zone
  let host := if host.contains ':' then '[' :: host ++ [']'] else host
  let port := match portNumber? a.port with
    | none | some 0 => []
    | some number => ':' :: (toString number).toList
  shownUser a.user ++ host ++ port

end Authority

end ServiceClient
