import IngressGateway.Ingress.TransportServer
import IngressGateway.Settings

/-!
The listeners that servers can ask for by name: those of the global configuration, and one for connections
whose encryption is left alone.
-/

set_option autoImplicit false

namespace IngressGateway.Listeners

open Ingress (GlobalConfiguration NamedListener)

structure NamedPort where
  port : Unsigned16
  protocol : String
deriving DecidableEq, Repr

def NamedPort.record : Record NamedPort NamedPort :=
  NamedPort.mk <$> .required "port" .unsigned16 NamedPort.port
    <*> .required "protocol" .text NamedPort.protocol

abbrev NamedPorts := SortedMap String NamedPort

def builtinName : String := "tls-passthrough"

def builtinPort : NamedPort := ⟨Settings.usualHttpsPort, "TLS_PASSTHROUGH"⟩

/-- The listeners of a list after the one that is always there; the last one of a name counts. -/
def namedPortsOf (ls : List NamedListener) : NamedPorts :=
  .ofList ((builtinName, builtinPort) :: ls.map fun l => (l.name, ⟨l.port, l.protocol⟩))

/-- The listeners of a global configuration that may be missing. -/
def namedPorts (global : Option GlobalConfiguration) : NamedPorts :=
  namedPortsOf (global.elim [] fun g => g.spec.listeners)

end IngressGateway.Listeners
