import IngressGateway.Listeners.Connection
import IngressGateway.Listeners.Sections
import IngressGateway.Notification.Reported
import IngressGateway.Settings

/-!
The gateway that all servers of a namespace share. The servers are gone through in order; each asks for
listeners, and the first listener of a name stays. The class of the gateway is the first one that a
virtual server names.
-/

set_option autoImplicit false

namespace IngressGateway.Listeners

open Gateway (Gateway Listener ListenerTls Protocol)
open Ingress (ListenerNames TransportServer VirtualServer)

/-- The class of a gateway and the virtual server that named it. -/
structure ChosenClass where
  name : String
  chooser : String
deriving DecidableEq, Repr

structure Draft where
  chosen : Option ChosenClass
  listeners : SortedMap String Listener
deriving DecidableEq

namespace Draft

def empty : Draft := ⟨none, .empty⟩

/-- One more listener. One that differs from the present one of its name is left out. -/
def addListener (d : Draft) (l : Listener) (source : ObjectRef) : Reported Draft :=
  match d.listeners.get? l.name with
  | none => return { d with listeners := d.listeners.insert l.name l }
  | some present =>
    if present = l then return d
    else do
      Reported.warning source
        (s!"Listener '{l.name}' is already defined with different settings, "
          ++ "keeping the first definition")
      return d

/-- Several more listeners, in order. -/
def addListeners (d : Draft) (ls : List Listener) (source : ObjectRef) : Reported Draft :=
  match ls with
  | [] => return d
  | l :: rest => do addListeners (← d.addListener l source) rest source

def observeClass (d : Draft) (vs : VirtualServer) (source : ObjectRef) : Reported Draft :=
  match Text.present? vs.spec.ingressClassName with
  | none => return d
  | some name =>
    match d.chosen with
    | none => return { d with chosen := some ⟨name, vs.anyName⟩ }
    | some chosen =>
      if chosen.name = name then return d
      else do
        Reported.warning source
          (s!"Ingress class '{name}' differs from '{chosen.name}' chosen from VirtualServer "
            ++ s!"'{chosen.chooser}'; the shared Gateway uses '{chosen.name}'")
        return d

end Draft

/-- The port of a listener that a virtual server asks for by name; it has to speak HTTP. -/
def portNamed (name : Option String) (usual : Unsigned16) (ports : NamedPorts)
    (source : ObjectRef) : Reported Unsigned16 :=
  match Text.present? name with
  | none => return usual
  | some name =>
    match ports.get? name with
    | none => do
      Reported.warning source
        s!"Listener '{name}' not found in GlobalConfiguration, using port {usual.val}"
      return usual
    | some named =>
      if Text.sameIgnoringCase named.protocol "HTTP" then return named.port
      else do
        Reported.warning source
          (s!"Listener '{name}' has protocol '{named.protocol}' and cannot serve HTTP, "
            ++ s!"using port {usual.val}")
        return usual

def httpsListener (port : Unsigned16) (host secret : String) : Listener where
  name := GeneratedName.listener .https port (some host)
  hostname := some host
  port := port
  protocol := .https
  tls := some ⟨some .terminate, [⟨none, none, secret, none⟩]⟩

def httpListener (port : Unsigned16) (host : String) : Listener where
  name := GeneratedName.listener .http port (some host)
  hostname := some host
  port := port
  protocol := .http
  tls := none

/-- The listener of a transport server. Only connections whose encryption is left alone are told apart
by their host. -/
def listenerOf (l : ConnectionListener) : Listener where
  name := l.sectionName
  hostname := if l.protocol = .tlsPassthrough then l.host else none
  port := l.port
  protocol := l.protocol.listenerProtocol
  tls := if l.protocol = .tlsPassthrough then some ⟨some .passthrough, []⟩ else none

def redirects (vs : VirtualServer) : Bool := vs.spec.tlsRedirect?.isSome

/-- The encrypted listener of a virtual server, which needs a certificate. -/
def httpsListener? (vs : VirtualServer) (port : Unsigned16) : Option Listener :=
  vs.spec.tlsSecret?.map (httpsListener port vs.spec.host)

/-- The plain listener of a virtual server; an encrypted site has one for its redirect only. -/
def httpListener? (vs : VirtualServer) (port : Unsigned16) : Option Listener :=
  if vs.spec.tlsSecret?.isNone || redirects vs then some (httpListener port vs.spec.host) else none

/-- The ports of the plain and of the encrypted site of a virtual server. -/
def portsOf (vs : VirtualServer) (ports : NamedPorts) (settings : Settings) (source : ObjectRef) :
    Reported (Unsigned16 × Unsigned16) := do
  let http ← portNamed (vs.spec.listener.bind ListenerNames.http) settings.httpPort ports source
  let https ← portNamed (vs.spec.listener.bind ListenerNames.https) settings.httpsPort ports source
  return (http, https)

/-- Warnings about encryption that is asked for without a certificate. -/
def checkTls (vs : VirtualServer) (source : ObjectRef) : Reported Unit := do
  if vs.spec.tls.isSome && vs.spec.tlsSecret?.isNone then
    Reported.warning source
      "TLS is configured without a secret; the host is served over plain HTTP"
  if redirects vs && vs.spec.tlsSecret?.isNone then
    Reported.warning source "TLS redirect is enabled without a TLS secret and was not converted"

namespace Draft

def addVirtualServer (d : Draft) (vs : VirtualServer) (ports : NamedPorts) (settings : Settings)
    (source : ObjectRef) : Reported (Draft × Sections) := do
  let d ← d.observeClass vs source
  let (http, https) ← portsOf vs ports settings source
  checkTls vs source
  let encrypted := httpsListener? vs https
  let plain := httpListener? vs http
  let d ← d.addListeners (encrypted.toList ++ plain.toList) source
  return (d, ⟨plain.map Listener.name, encrypted.map Listener.name, https⟩)

/-- The listener of a transport server; nothing happens if it has none. -/
def addTransportServer (d : Draft) (ts : TransportServer) (ports : NamedPorts)
    (source : ObjectRef) : Reported Draft :=
  match connectionListener ts ports with
  | .error _ => return d
  | .ok l => d.addListener (listenerOf l) source

/-- The listeners of several virtual servers, in order. -/
def addVirtualServers (ports : NamedPorts) (settings : Settings) :
    Draft → List (ObjectRef × VirtualServer) → Reported (Draft × List (String × Sections))
  | d, [] => return (d, [])
  | d, (source, vs) :: rest => do
    let (d, sections) ← d.addVirtualServer vs ports settings source
    let (d, others) ← addVirtualServers ports settings d rest
    return (d, (vs.anyName, sections) :: others)

/-- The listeners of several transport servers, in order. -/
def addTransportServers (ports : NamedPorts) :
    Draft → List (ObjectRef × TransportServer) → Reported Draft
  | d, [] => return d
  | d, (source, ts) :: rest => do addTransportServers ports (← d.addTransportServer ts ports source) rest

/-- The finished gateway; without listeners there is none. -/
def finish (d : Draft) (ns : String) (settings : Settings) (source : String) : Option Gateway :=
  if d.listeners.isEmpty then none
  else some
    { metadata := .labelled ns (GeneratedName.gateway ns) (settings.baseLabels source)
      spec := ⟨(d.chosen.map ChosenClass.name).getD settings.gatewayClass, d.listeners.values⟩ }

end Draft

/-- The shared gateway of a namespace, and the listeners of its virtual servers by name. -/
structure Synthesized where
  gateway : Option Gateway
  sections : SortedMap String Sections
deriving DecidableEq

def synthesize (ns : String) (vss : List (ObjectRef × VirtualServer))
    (tss : List (ObjectRef × TransportServer)) (ports : NamedPorts) (settings : Settings) :
    Reported Synthesized := do
  let (d, sections) ← Draft.addVirtualServers ports settings .empty vss
  let d ← Draft.addTransportServers ports d tss
  let source :=
    if vss.isEmpty && !tss.isEmpty then fromTransportServer else fromVirtualServer
  return ⟨d.finish ns settings source, .ofList sections⟩

end IngressGateway.Listeners
