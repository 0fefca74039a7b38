import ServiceClient.Text.Printable

/-!
Quoted text, as values and names are shown in messages. The quote is `'`, or `"` when the text holds
the first and not the second; the quote in use, the backslash and whatever cannot be shown are
escaped.
-/

namespace ServiceClient

/-- The last `width` hexadecimal digits of a number, in lower case. -/
def hexDigits : (width : Nat) → Nat → List Char
  | 0, _ => []
  | width + 1, n => hexDigits width (n / 16) ++ [Nat.digitChar (n % 16)]

namespace Quoted

/-- The spelling of one character between the given quotes. -/
def spell (quote c : Char) : List Char :=
  if c == quote || c == '\\' then ['\\', c]
  else if c == '\t' then ['\\', 't']
  else if c == '\n' then ['\\', 'n']
  else if c == '\r' then ['\\', 'r']
  else if isPrintable c then [c]
  else if c.toNat ≤ 0xff then '\\' :: 'x' :: hexDigits 2 c.toNat
  else if c.toNat ≤ 0xffff then '\\' :: 'u' :: hexDigits 4 c.toNat
  else '\\' :: 'U' :: hexDigits 8 c.toNat

def quoteFor (cs : List Char) : Char :=
  if cs.contains '\'' && !cs.contains '"' then '"' else '\''

end Quoted

/-- A text between quotes. -/
def quoted (s : String) : String :=
  let quote := Quoted.quoteFor s.toList
  String.ofList (quote :: s.toList.flatMap (Quoted.spell quote) ++ [quote])

end ServiceClient
