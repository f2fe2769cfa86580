import IngressGateway.Url.Address
import IngressGateway.Url.Idna
import IngressGateway.Url.Percent

/-!
Hosts of URLs: domains, internet addresses, and the uninterpreted hosts of schemes that are not well
known.
-/

set_option autoImplicit false

namespace IngressGateway.Url

inductive Host where
  | domain (name : List Char)
  | ipv4 (address : Nat)
  | ipv6 (groups : List Nat)
  | opaqueName (name : List Char)
deriving DecidableEq, Repr

namespace Host

def display : Host → String
  | .domain name => String.ofList name
  | .ipv4 address => displayIpv4 address
  | .ipv6 groups => "[" ++ displayIpv6 groups ++ "]"
  | .opaqueName name => String.ofList name

def readBracketed? (s : List Char) : Option Host :=
  match s with
  | '[' :: rest =>
    if rest.getLast? = some ']' then (readIpv6? rest.dropLast).map .ipv6 else none
  | _ => none

/-- The host of a URL with a well-known scheme. A domain that ends in a number has to be a version 4
address. -/
def read? (s : List Char) : Option Host :=
  match s with
  | '[' :: _ => readBracketed? s
  | _ =>
    match (decodeUtf8? (percentDecode s)).bind Idna.toAscii? with
    | none => none
    | some [] => none
    | some name => if endsInNumber name then (readIpv4? name).map .ipv4 else some (.domain name)

/-- The characters that no uninterpreted host may hold. -/
def forbidden : List Char :=
  ['\x00', '\t', '\n', '\r', ' ', '#', '/', ':', '<', '>', '?', '@', '[', '\\', ']', '^', '|']

/-- The host of a URL with any other scheme; it may not be empty here. -/
def readOpaque? (s : List Char) : Option Host :=
  match s with
  | [] => none
  | '[' :: _ => readBracketed? s
  | _ => if s.any forbidden.contains then none else some (.opaqueName (percentEncode [] s))

end Host

end IngressGateway.Url
