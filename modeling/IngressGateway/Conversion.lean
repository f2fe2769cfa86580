import IngressGateway.Bundle
import IngressGateway.Listeners.Synthesis
import IngressGateway.Routing.Assembly
import IngressGateway.Routing.Connection

/-!
The conversion of a snapshot of resources. The servers are grouped by namespace and sorted; each namespace
gets one gateway, and each server its routes. A conversion never fails: what cannot be converted is
reported.
-/

set_option autoImplicit false

namespace IngressGateway

open Backend (Catalog)
open Gateway (GatewaySpec)
open Ingress (ExternalDns GlobalConfiguration TransportServer TransportServerSpec VirtualServer
  VirtualServerRoute VirtualServerSpec)
open Listeners (NamedPorts Sections)
open Routing (AssembledRoutes ConnectionRoute RouteIndex)

structure Snapshot where
  virtualServers : List VirtualServer
  virtualServerRoutes : List VirtualServerRoute
  transportServers : List TransportServer
  globalConfiguration : Option GlobalConfiguration

def Snapshot.empty : Snapshot := ⟨[], [], [], none⟩

structure Converted where
  bundle : Bundle
  notifications : Notifications
deriving DecidableEq

namespace Conversion

/-- The name that stands in for a missing one. -/
def unnamed : String := "<unnamed>"

/-- The reference to a resource, with the namespace that stands in for a missing one. -/
def sourceOf? {σ : Type} [ResourceKind σ] (r : Resource σ) : Option ObjectRef :=
  match r.ref? with
  | .ok ref => some (Resource.refTo σ (some r.namespaceOf) ref.name)
  | .error _ => none

abbrev Sourced (σ : Type) := ObjectRef × Resource σ

/-- A virtual server, if it can be converted. -/
def admitVirtualServer (vs : VirtualServer) : Reported (Option (Sourced VirtualServerSpec)) :=
  match sourceOf? vs with
  | none => do
    Reported.warning (Resource.refTo VirtualServerSpec vs.metadata.ns unnamed)
      "VirtualServer has no name, skipping"
    return none
  | some source =>
    if vs.spec.host.isEmpty then do
      Reported.warning source "VirtualServer has no host specified, skipping"
      return none
    else return some (source, vs)

/-- A transport server, if it can be converted. -/
def admitTransportServer (ts : TransportServer) :
    Reported (Option (Sourced TransportServerSpec)) :=
  match sourceOf? ts with
  | none => do
    Reported.warning (Resource.refTo TransportServerSpec ts.metadata.ns unnamed)
      "TransportServer has no name, skipping"
    return none
  | some source => return some (source, ts)

structure NamespaceServers where
  virtualServers : List (Sourced VirtualServerSpec)
  transportServers : List (Sourced TransportServerSpec)

/-- Puts a server behind those whose references do not come after its own. -/
def place {σ : Type} (s : Sourced σ) : List (Sourced σ) → List (Sourced σ)
  | [] => [s]
  | t :: rest => if KeyOrder.before s.1 t.1 then s :: t :: rest else t :: place s rest

/-- Servers in the order of their references; servers with equal references keep their order. -/
def sortServers {σ : Type} (ss : List (Sourced σ)) : List (Sourced σ) :=
  ss.foldl (fun sorted s => place s sorted) []

def serversIn {σ : Type} (ns : String) (ss : List (Sourced σ)) : List (Sourced σ) :=
  sortServers (ss.filter fun s => s.2.namespaceOf = ns)

def groupServers (vss : List (Sourced VirtualServerSpec))
    (tss : List (Sourced TransportServerSpec)) : SortedMap String NamespaceServers :=
  .ofList ((vss.map (·.2.namespaceOf) ++ tss.map (·.2.namespaceOf)).map fun ns =>
    (ns, ⟨serversIn ns vss, serversIn ns tss⟩))

/-- The servers by namespace, with a warning about each one that is left out. -/
def groupByNamespace (input : Snapshot) : Reported (SortedMap String NamespaceServers) := do
  let vss ← Reported.each input.virtualServers admitVirtualServer
  let tss ← Reported.each input.transportServers admitTransportServer
  return groupServers (vss.filterMap id) (tss.filterMap id)

/-- Warnings about the fields of a virtual server that have no counterpart. -/
def checkVirtualServer (vs : VirtualServer) (source : ObjectRef) : Reported Unit :=
  Reported.tellEach .warning source <|
    (Backend.namesOfSet
      [ ("gunzip", vs.spec.gunzip),
        ("externalDNS", vs.spec.externalDns.any ExternalDns.enable),
        ("dos", !vs.spec.dos.isEmpty),
        ("policies", !vs.spec.policies.isEmpty),
        ("internalRoute", vs.spec.internalRoute),
        ("http-snippets", !vs.spec.httpSnippets.isEmpty),
        ("server-snippets", !vs.spec.serverSnippets.isEmpty) ]).map fun field =>
      let detail := if field = "policies" then s!" ({vs.spec.policies.length} policies)" else ""
      s!"VirtualServer field '{field}'{detail} is not supported in Gateway API conversion"

/-- The key under which the settings of the upstreams of a virtual server are recorded: that of its HTTP
route, or else of its gRPC route. -/
def extensionKey? (a : AssembledRoutes) (ns : String) : Option ObjectKey :=
  a.httpRoute.map (fun r => r.keyIn ns) <|> a.grpcRoute.map (fun r => r.keyIn ns)

/-- The objects of a virtual server in the order in which they are stored. -/
def objectsOf (a : AssembledRoutes) : List GeneratedObject :=
  a.redirectRoute.toList.map .httpRoute ++ a.httpRoute.toList.map .httpRoute
    ++ a.grpcRoute.toList.map .grpcRoute ++ a.policies.map .policy

def store (b : Bundle) (a : AssembledRoutes) (ns : String) : Bundle :=
  let b := match extensionKey? a ns with
    | none => b
    | some key => b.insertExtension key a.extension
  b.insertAll (objectsOf a)

/-- The routes of a virtual server; nothing if its references cannot be resolved at all. -/
def convertVirtualServer (vs : VirtualServer) (source : ObjectRef) (ns : String)
    (sections : Sections) (index : RouteIndex) (settings : Settings) :
    Reported (Option AssembledRoutes) := do
  checkVirtualServer vs source
  let catalog ← Catalog.build vs.spec.upstreams ns source
  match Routing.resolveRoutes vs.spec.routes index source with
  | .error e => do
    Reported.error source ("Failed to resolve routes: " ++ e.message)
    return none
  | .ok resolved => do
    let routes ← resolved
    some <$> Routing.assemble vs source routes catalog sections settings

def connectionObject : ConnectionRoute → GeneratedObject
  | .tcp r => .tcpRoute r
  | .tls r => .tlsRoute r
  | .udp r => .udpRoute r

structure Context where
  ports : NamedPorts
  index : RouteIndex
  settings : Settings

structure NamespaceResult where
  gateway : Option Gateway.Gateway
  routes : List (Option AssembledRoutes)
  connections : List (Option ConnectionRoute)

def convertNamespace (c : Context) (ns : String) (servers : NamespaceServers) :
    Reported NamespaceResult := do
  let shared ← Listeners.synthesize ns servers.virtualServers servers.transportServers c.ports
    c.settings
  let routes ← Reported.each servers.virtualServers fun s =>
    convertVirtualServer s.2 s.1 ns ((shared.sections.get? s.2.anyName).getD .none) c.index
      c.settings
  let connections ← Reported.each servers.transportServers fun s =>
    Routing.connectionRoute s.2 s.1 c.ports c.settings
  return ⟨shared.gateway, routes, connections⟩

def storeNamespace (b : Bundle) (ns : String) (r : NamespaceResult) : Bundle :=
  let b := b.insertAll (r.gateway.toList.map .gateway)
  let b := (r.routes.filterMap id).foldl (fun b a => store b a ns) b
  b.insertAll ((r.connections.filterMap id).map connectionObject)

def storeAll (b : Bundle) (rs : List (String × NamespaceResult)) : Bundle :=
  rs.foldl (fun b r => storeNamespace b r.1 r.2) b

/-- What a snapshot needs to be converted. -/
def contextOf (input : Snapshot) (settings : Settings) : Context :=
  ⟨Listeners.namedPorts input.globalConfiguration, Routing.indexRoutes input.virtualServerRoutes,
    settings⟩

def convertAll (input : Snapshot) (settings : Settings) : Reported Bundle := do
  let groups ← groupByNamespace input
  let results ← Reported.each groups.entries fun g => do
    let r ← convertNamespace (contextOf input settings) g.1 g.2
    return (g.1, r)
  return storeAll .empty results

end Conversion

def convert (input : Snapshot) (settings : Settings) : Converted :=
  let r := Conversion.convertAll input settings
  ⟨r.value, ⟨r.notes⟩⟩

end IngressGateway
