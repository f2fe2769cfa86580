import IngressGateway.Backend.Tuning
import IngressGateway.Gateway.Route
import IngressGateway.Listeners.Connection
import IngressGateway.Notification.Reported
import IngressGateway.Settings

/-!
The routes of transport servers. A route attaches to the listener of its server and has one rule with at
most one backend.
-/

set_option autoImplicit false

namespace IngressGateway.Routing

open Backend (namesOfSet)
open Gateway (BackendRef ConnectionRule ParentRef TcpRoute TlsRoute UdpRoute)
open Ingress (TransportServer TransportTls TransportUpstream)
open Listeners (ConnectionListener ConnectionProtocol NamedPorts)

inductive ConnectionRoute where
  | tcp (route : TcpRoute)
  | tls (route : TlsRoute)
  | udp (route : UdpRoute)

def routeKind : ConnectionProtocol → String
  | .tcp => "TCPRoute"
  | .tlsPassthrough => "TLSRoute"
  | .udp => "UDPRoute"

/-- Warnings about the fields of a transport server that have no counterpart. -/
def checkTransportServer (ts : TransportServer) (source : ObjectRef) : Reported Unit :=
  Reported.tellEach .warning source <|
    (namesOfSet
      [ ("upstreamParameters", ts.spec.upstreamParameters.isSome),
        ("sessionParameters", ts.spec.sessionParameters.isSome),
        ("serverSnippets", !ts.spec.serverSnippets.isEmpty),
        ("streamSnippets", !ts.spec.streamSnippets.isEmpty) ]).map fun field =>
      s!"TransportServer field '{field}' is not supported in Gateway API and was not converted"

/-- Remarks about the fields of an upstream that have no counterpart. -/
def checkTransportUpstream (u : TransportUpstream) (source : ObjectRef) : Reported Unit :=
  Reported.tellEach .info source <|
    (namesOfSet
      [ ("failTimeout", u.failTimeout.isSome),
        ("maxFails", u.maxFails.isSome),
        ("maxConns", u.maxConns.isSome),
        ("loadBalancingMethod", u.loadBalancingMethod.isSome) ]).map fun field =>
      s!"Upstream '{u.name}': {field} field is not currently converted to Gateway API"

/-- Why a transport server has no backend. -/
inductive BackendFault where
  | noPass
  | unknownUpstream (name : String)
  | incompleteUpstream (name : String)
deriving DecidableEq, Repr

namespace BackendFault

def message (server : String) : BackendFault → String
  | .noPass => s!"TransportServer '{server}' has no action.pass configured"
  | .unknownUpstream name => s!"Upstream '{name}' not found in TransportServer '{server}'"
  | .incompleteUpstream name =>
    s!"Upstream '{name}' in TransportServer '{server}' has no service or port specified"

def severity : BackendFault → Severity
  | .noPass => .warning
  | .unknownUpstream _ => .error
  | .incompleteUpstream _ => .error

end BackendFault

/-- The upstream that a transport server passes its connections to: the first one of the name. -/
def passedUpstream (ts : TransportServer) : Except BackendFault TransportUpstream :=
  match Text.present? (ts.spec.action.map fun a => a.pass) with
  | none => .error .noPass
  | some name =>
    match ts.spec.upstreams.find? fun u => u.name = name with
    | none => .error (.unknownUpstream name)
    | some u =>
      if u.service.isEmpty || u.port.val = 0 then .error (.incompleteUpstream name) else .ok u

def connectionBackend (u : TransportUpstream) (ns : String) : BackendRef :=
  ⟨some "", some "Service", u.service, some ns, some u.port, none⟩

/-- The backends of a transport server: one, or none and a message. -/
def connectionBackends (ts : TransportServer) (ns : String) (source : ObjectRef) :
    Reported (List BackendRef) :=
  match passedUpstream ts with
  | .error fault => do
    Reported.tell fault.severity source (fault.message ts.anyName)
    return []
  | .ok u => do
    checkTransportUpstream u source
    return [connectionBackend u ns]

/-- Whether a transport server ends the encryption of its connections. -/
def endsTls (ts : TransportServer) : Bool := ts.spec.tls.any fun t => !t.secret.isEmpty

def connectionRouteFor (l : ConnectionListener) (ts : TransportServer) (settings : Settings)
    (backends : List BackendRef) : ConnectionRoute :=
  let ns := ts.namespaceOf
  let metadata := Metadata.labelled ns
    (GeneratedName.connectionRoute ts.anyName l.protocol.listenerProtocol)
    (settings.transportServerLabels fromTransportServer ts.anyName)
  let parents := [ParentRef.sibling (GeneratedName.gateway ns) (some l.sectionName)]
  let rules : List ConnectionRule := [⟨backends⟩]
  match l.protocol with
  | .tcp => .tcp ⟨metadata, ⟨parents, rules⟩⟩
  | .tlsPassthrough => .tls ⟨metadata, ⟨parents, l.host.toList, rules⟩⟩
  | .udp => .udp ⟨metadata, ⟨parents, rules⟩⟩

def connectionRouteOn (l : ConnectionListener) (ts : TransportServer) (source : ObjectRef)
    (settings : Settings) : Reported ConnectionRoute := do
  checkTransportServer ts source
  if l.protocol = .tcp ∧ endsTls ts then
    Reported.info source
      (s!"TLS termination for TransportServer '{ts.anyName}' is not converted; "
        ++ "the TCPRoute forwards raw TCP")
  let backends ← connectionBackends ts ts.namespaceOf source
  let kind := routeKind l.protocol
  let name := GeneratedName.connectionRoute ts.anyName l.protocol.listenerProtocol
  Reported.info source s!"Created {kind} '{name}' for TransportServer '{ts.anyName}'"
  return connectionRouteFor l ts settings backends

/-- The route of a transport server; without a listener there is none. -/
def connectionRoute (ts : TransportServer) (source : ObjectRef) (ports : NamedPorts)
    (settings : Settings) : Reported (Option ConnectionRoute) :=
  match Listeners.connectionListener ts ports with
  | .error fault => do
    Reported.tell fault.severity source fault.message
    return none
  | .ok l => some <$> connectionRouteOn l ts source settings

end IngressGateway.Routing
