import IngressGateway.Backend.Tuning
import IngressGateway.Gateway.BackendTlsPolicy
import IngressGateway.Gateway.Route

/-!
Bundles of generated objects: a store for each kind, keyed by namespace and name, and the recorded settings
of upstreams beside them. An object that comes later takes the place of one with the same key.
-/

set_option autoImplicit false

namespace IngressGateway

open Backend (Extension)
open Gateway (BackendTlsPolicy Gateway GrpcRoute HttpRoute TcpRoute TlsRoute UdpRoute)

abbrev Store (α : Type) := SortedMap ObjectKey α

structure Bundle where
  gateways : Store Gateway
  httpRoutes : Store HttpRoute
  grpcRoutes : Store GrpcRoute
  tcpRoutes : Store TcpRoute
  tlsRoutes : Store TlsRoute
  udpRoutes : Store UdpRoute
  policies : Store BackendTlsPolicy
  extensions : Store Extension
deriving DecidableEq

inductive GeneratedObject where
  | gateway (object : Gateway)
  | httpRoute (object : HttpRoute)
  | grpcRoute (object : GrpcRoute)
  | tcpRoute (object : TcpRoute)
  | tlsRoute (object : TlsRoute)
  | udpRoute (object : UdpRoute)
  | policy (object : BackendTlsPolicy)

namespace GeneratedObject

def write : GeneratedObject → Json
  | .gateway o => Resource.codec.write o
  | .httpRoute o => Resource.codec.write o
  | .grpcRoute o => Resource.codec.write o
  | .tcpRoute o => Resource.codec.write o
  | .tlsRoute o => Resource.codec.write o
  | .udpRoute o => Resource.codec.write o
  | .policy o => Resource.codec.write o

/-- An object of the kind of that name; nothing if there is no such kind. -/
def read? (rule : NullRule) (kind : String) (j : Json) : Option (Option GeneratedObject) :=
  if kind = ResourceKind.kind Gateway.GatewaySpec then
    some ((Resource.codec.read rule j).map .gateway)
  else if kind = ResourceKind.kind Gateway.HttpRouteSpec then
    some ((Resource.codec.read rule j).map .httpRoute)
  else if kind = ResourceKind.kind Gateway.GrpcRouteSpec then
    some ((Resource.codec.read rule j).map .grpcRoute)
  else if kind = ResourceKind.kind Gateway.TcpRouteSpec then
    some ((Resource.codec.read rule j).map .tcpRoute)
  else if kind = ResourceKind.kind Gateway.TlsRouteSpec then
    some ((Resource.codec.read rule j).map .tlsRoute)
  else if kind = ResourceKind.kind Gateway.UdpRouteSpec then
    some ((Resource.codec.read rule j).map .udpRoute)
  else if kind = ResourceKind.kind Gateway.BackendTlsPolicySpec then
    some ((Resource.codec.read rule j).map .policy)
  else none

end GeneratedObject

namespace Bundle

def empty : Bundle :=
  ⟨.empty, .empty, .empty, .empty, .empty, .empty, .empty, .empty⟩

/-- The bundle with one more object, stored under the key of the object. -/
def insert (b : Bundle) : GeneratedObject → Bundle
  | .gateway o => { b with gateways := b.gateways.insert o.key o }
  | .httpRoute o => { b with httpRoutes := b.httpRoutes.insert o.key o }
  | .grpcRoute o => { b with grpcRoutes := b.grpcRoutes.insert o.key o }
  | .tcpRoute o => { b with tcpRoutes := b.tcpRoutes.insert o.key o }
  | .tlsRoute o => { b with tlsRoutes := b.tlsRoutes.insert o.key o }
  | .udpRoute o => { b with udpRoutes := b.udpRoutes.insert o.key o }
  | .policy o => { b with policies := b.policies.insert o.key o }

/-- The bundle with several more objects, in order. -/
def insertAll (b : Bundle) (os : List GeneratedObject) : Bundle := os.foldl insert b

/-- The bundle with recorded settings; empty ones are not stored. -/
def insertExtension (b : Bundle) (key : ObjectKey) (e : Extension) : Bundle :=
  if e.isEmpty then b else { b with extensions := b.extensions.insert key e }

/-- The bundle without an HTTP route. -/
def removeHttpRoute (b : Bundle) (key : ObjectKey) : Bundle :=
  { b with httpRoutes := b.httpRoutes.erase key }

/-- How many objects there are; recorded settings are not counted. -/
def objectCount (b : Bundle) : Nat :=
  b.gateways.size + b.httpRoutes.size + b.grpcRoutes.size + b.tcpRoutes.size + b.tlsRoutes.size
    + b.udpRoutes.size + b.policies.size

/-- All objects, kind by kind and in the order of their keys. -/
def objects (b : Bundle) : List GeneratedObject :=
  b.gateways.values.map .gateway ++ b.httpRoutes.values.map .httpRoute
    ++ b.grpcRoutes.values.map .grpcRoute ++ b.tcpRoutes.values.map .tcpRoute
    ++ b.tlsRoutes.values.map .tlsRoute ++ b.udpRoutes.values.map .udpRoute
    ++ b.policies.values.map .policy

def writeStore {α : Type} (write : α → Json) (s : Store α) : Json :=
  .arr (s.entries.map fun e => .obj [("key", .str e.1.display), ("object", write e.2)])

def write (b : Bundle) : List (String × Json) :=
  [ ("gateways", writeStore Resource.codec.write b.gateways),
    ("httpRoutes", writeStore Resource.codec.write b.httpRoutes),
    ("grpcRoutes", writeStore Resource.codec.write b.grpcRoutes),
    ("tcpRoutes", writeStore Resource.codec.write b.tcpRoutes),
    ("tlsRoutes", writeStore Resource.codec.write b.tlsRoutes),
    ("udpRoutes", writeStore Resource.codec.write b.udpRoutes),
    ("backendTlsPolicies", writeStore Resource.codec.write b.policies),
    ("extensions", writeStore Extension.codec.write b.extensions),
    ("objectCount", .int b.objectCount) ]

def writeKeys (b : Bundle) : List (String × Json) :=
  [ ("gateways", keysOf b.gateways), ("httpRoutes", keysOf b.httpRoutes),
    ("grpcRoutes", keysOf b.grpcRoutes), ("tcpRoutes", keysOf b.tcpRoutes),
    ("tlsRoutes", keysOf b.tlsRoutes), ("udpRoutes", keysOf b.udpRoutes),
    ("backendTlsPolicies", keysOf b.policies), ("extensions", keysOf b.extensions),
    ("objectCount", .int b.objectCount) ]
where
  keysOf {α : Type} (s : Store α) : Json := .arr (s.keys.map fun k => .str k.display)

end Bundle

end IngressGateway
