import IngressGateway.Gateway.Listener
import IngressGateway.Text.Present

/-!
The names of generated objects. Gateways and routes compute the names of listeners with the same function
`listener`, which is how they find each other.
-/

set_option autoImplicit false

namespace IngressGateway.GeneratedName

open Gateway (Protocol)

def gateway (ns : String) : String := ns ++ "-gateway"

def httpRoute (owner : String) : String := owner ++ "-httproute"

def grpcRoute (owner : String) : String := owner ++ "-grpcroute"

def redirectRoute (owner : String) : String := owner ++ "-redirect"

def connectionRoute (owner : String) (protocol : Protocol) : String :=
  owner ++ "-" ++ protocol.slug ++ "route"

def tlsPolicy (service upstream : String) : String := service ++ "-" ++ upstream ++ "-backend-tls"

/-- What a character of a host becomes inside the name of a listener. -/
def hostChar (c : Char) : List Char :=
  if c = '*' then "wildcard".toList else if c = '.' then ['-'] else [c.toLower]

/-- A host as a part of a name: small letters, a dash for each dot, a word for a star. -/
def hostSlug (host : String) : String := String.ofList (host.toList.flatMap hostChar)

/-- A listener by its protocol, its port and its host; an empty host counts as none. -/
def listener (protocol : Protocol) (portNumber : Unsigned16) (host : Option String) : String :=
  let stem := protocol.slug ++ "-" ++ toString portNumber.val
  match Text.present? host with
  | some h => stem ++ "-" ++ hostSlug h
  | none => stem

end IngressGateway.GeneratedName
