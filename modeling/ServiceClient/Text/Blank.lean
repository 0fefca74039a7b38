/-!
White space. Three sets are in use: the blanks that count as nothing when a form input is judged
empty and that end no line of documentation, the smaller set that may stand around a number, and
the four blanks of JSON text.
-/

namespace ServiceClient

/-- White space and separators, in ASCII and beyond. -/
def isBlank (c : Char) : Bool :=
  let n := c.toNat
  (9 ≤ n && n ≤ 13) || (28 ≤ n && n ≤ 32) || n == 0x85 || n == 0xa0 || n == 0x1680 ||
    (0x2000 ≤ n && n ≤ 0x200a) || n == 0x2028 || n == 0x2029 || n == 0x202f || n == 0x205f ||
    n == 0x3000

/-- The blanks that may surround a number: all but the four separators of ASCII, 28 to 31. -/
def isNumberBlank (c : Char) : Bool :=
  isBlank c && !(28 ≤ c.toNat && c.toNat ≤ 31)

def isJsonBlank (c : Char) : Bool :=
  c == ' ' || c == '\t' || c == '\n' || c == '\r'

/-- The text without the characters of a set at its end. -/
def trimEnd (blank : Char → Bool) (cs : List Char) : List Char :=
  (cs.reverse.dropWhile blank).reverse

/-- The text without the characters of a set at its two ends. -/
def trimEnds (blank : Char → Bool) (cs : List Char) : List Char :=
  trimEnd blank (cs.dropWhile blank)

/-- Whether a text holds nothing but blanks. -/
def isBlankText (s : String) : Bool := s.toList.all isBlank

end ServiceClient
