import IngressGateway.GeneratedName
import IngressGateway.Listeners.Named
import IngressGateway.Notification.Basic

/-!
The listener that a transport server attaches to, and why it may have none.
-/

set_option autoImplicit false

namespace IngressGateway.Listeners

open Gateway (Protocol)
open Ingress (ListenerChoice TransportServer)

inductive ConnectionProtocol where
  | tcp
  | udp
  | tlsPassthrough
deriving DecidableEq, Repr

namespace ConnectionProtocol

def all : List ConnectionProtocol := [.tcp, .udp, .tlsPassthrough]

def label : ConnectionProtocol → String
  | .tcp => "TCP"
  | .udp => "UDP"
  | .tlsPassthrough => "TLS_PASSTHROUGH"

/-- The protocol of that name; letter case counts. -/
def ofLabel? (s : String) : Option ConnectionProtocol := all.find? fun p => p.label = s

def listenerProtocol : ConnectionProtocol → Protocol
  | .tcp => .tcp
  | .udp => .udp
  | .tlsPassthrough => .tls

end ConnectionProtocol

/-- Why a transport server has no listener. -/
inductive ConnectionFault where
  | missingListener (server : String)
  | unknownListener (server listener : String)
  | unsupportedProtocol (server protocol : String)
deriving DecidableEq, Repr

namespace ConnectionFault

def message : ConnectionFault → String
  | .missingListener server =>
    s!"TransportServer '{server}' skipped: listener field is required but not specified"
  | .unknownListener server listener =>
    s!"TransportServer '{server}' skipped: listener '{listener}' "
      ++ "not found in GlobalConfiguration"
  | .unsupportedProtocol server protocol =>
    s!"Unsupported protocol '{protocol}' in TransportServer '{server}'"

def severity : ConnectionFault → Severity
  | .missingListener _ => .warning
  | .unknownListener _ _ => .warning
  | .unsupportedProtocol _ _ => .error

end ConnectionFault

structure ConnectionListener where
  protocol : ConnectionProtocol
  port : Unsigned16
  host : Option String
deriving DecidableEq, Repr

def ConnectionListener.sectionName (l : ConnectionListener) : String :=
  GeneratedName.listener l.protocol.listenerProtocol l.port l.host

/-- The listener that a transport server asks for; it has to give both a name and a protocol. -/
def declared? (ts : TransportServer) : Option ListenerChoice :=
  ts.spec.listener.filter fun l => !l.name.isEmpty && !l.protocol.isEmpty

def connectionListener (ts : TransportServer) (ports : NamedPorts) :
    Except ConnectionFault ConnectionListener :=
  match declared? ts with
  | none => .error (.missingListener ts.anyName)
  | some choice =>
    match ports.get? choice.name with
    | none => .error (.unknownListener ts.anyName choice.name)
    | some named =>
      match ConnectionProtocol.ofLabel? choice.protocol with
      | none => .error (.unsupportedProtocol ts.anyName choice.protocol)
      | some protocol => .ok ⟨protocol, named.port, Text.present? ts.spec.host⟩

end IngressGateway.Listeners
