import ServiceClient.Text.Digit
import ServiceClient.Text.Quoted

/-!
Percent encoding inside the path of an address: a character that a path may hold stands for itself,
any other is written as the octets of its UTF-8 form. Reading a path back (`percentDecode`) takes
every octet that is written out, whichever character it belongs to.
-/

namespace ServiceClient

/-- The characters of a path besides letters and digits. -/
def pathMarks : List Char := "-._~!$&'()*+,/:;=@".toList

def isPathChar (c : Char) : Bool := c.isAlphanum || pathMarks.contains c

/-- The spelling of an octet. -/
def percentOctet (octet : UInt8) : List Char :=
  '%' :: (hexDigits 2 octet.toNat).map Char.toUpper

def percentEncode (s : String) : String :=
  String.ofList <| s.toList.flatMap fun c =>
    if isPathChar c then [c] else (String.utf8EncodeChar c).flatMap percentOctet

/-- The octets of a path. A percent sign that no two hexadecimal digits follow stands for itself. -/
def pathOctets : List Char → List UInt8
  | [] => []
  | '%' :: a :: b :: cs =>
    match hexDigit? a, hexDigit? b with
    | some high, some low => UInt8.ofNat (16 * high + low) :: pathOctets cs
    | _, _ => '%'.toUInt8 :: pathOctets (a :: b :: cs)
  | c :: cs => String.utf8EncodeChar c ++ pathOctets cs

/-- The characters of octets in UTF-8; an octet that belongs to none is replaced. -/
def decodeOctets (octets : List UInt8) : List Char :=
  match octets with
  | [] => []
  | octet :: rest =>
    match ((octet :: rest).take 4).toByteArray.utf8DecodeChar? 0 with
    | some c => c :: decodeOctets ((octet :: rest).drop c.utf8Size)
    | none => '\ufffd' :: decodeOctets rest
termination_by octets.length
decreasing_by
  · have positive := c.utf8Size_pos
    simp only [List.length_drop, List.length_cons]
    omega
  · simp

/-- A path with the characters that its octets stand for. -/
def percentDecode (path : List Char) : List Char := decodeOctets (pathOctets path)

end ServiceClient
