import IngressGateway.Text.Digits

/-!
Percent encoding of the parts of a URL. Control characters and everything beyond ASCII are always encoded,
byte by byte of their UTF-8 form; each part of a URL adds some characters of its own.
-/

set_option autoImplicit false

namespace IngressGateway.Url

def percentByte (b : UInt8) : List Char :=
  '%' :: Text.hexOf Text.capitalHexDigits 2 b.toNat

def alwaysEncoded (c : Char) : Bool := c.toNat < 0x20 || 0x7F ≤ c.toNat

/-- The text with its characters beyond `keep` in percent form. -/
def percentEncode (extra : List Char) (s : List Char) : List Char :=
  s.flatMap fun c =>
    if alwaysEncoded c || extra.contains c then (String.utf8EncodeChar c).flatMap percentByte
    else [c]

def fragmentSet : List Char := [' ', '"', '<', '>', '\x60']

def pathSet : List Char := fragmentSet ++ ['#', '?', '\x7b', '\x7d']

def querySet : List Char := [' ', '"', '#', '<', '>']

/-- What is encoded in the query of a URL with a well-known scheme. -/
def specialQuerySet : List Char := querySet ++ ['\x27']

/-- The bytes of a text, those in percent form decoded. A percent sign without two hexadecimal digits
after it stands for itself. -/
def percentDecode : List Char → List UInt8
  | [] => []
  | '%' :: a :: b :: rest =>
    match Text.hexDigit? a, Text.hexDigit? b with
    | some x, some y => UInt8.ofNat (x * 16 + y) :: percentDecode rest
    | _, _ => UInt8.ofNat '%'.toNat :: percentDecode (a :: b :: rest)
  | c :: rest => String.utf8EncodeChar c ++ percentDecode rest

/-- The text that bytes write, if they are the UTF-8 form of one. -/
def decodeUtf8? (bytes : List UInt8) : Option (List Char) :=
  (String.fromUTF8? ⟨bytes.toArray⟩).map String.toList

end IngressGateway.Url
