import IngressGateway.Proofs.Contributions

/-!
Routes attach to listeners that exist. A route finds its listener by name only: the gateway takes the names
from the listeners that it keeps, a virtual server from those that it asks for, a transport server from its
own. Whatever a server asks for is kept under its name by some listener of the same protocol, so the names
that routes use are always there.
-/

set_option autoImplicit false

namespace IngressGateway

open Gateway (GrpcRouteSpec HttpRouteSpec Listener ParentRef Protocol TcpRouteSpec TlsRouteSpec
  UdpRouteSpec)

/-! ### Attached routes -/

/-- A reference finds a gateway in the namespace of its route, and on the gateway a listener that speaks
one of the protocols. -/
def IsAttached (b : Bundle) (ns : String) (protocols : List Protocol) (p : ParentRef) : Prop :=
  p.ns = none ∧ ∃ g l, b.gateways.get? ⟨ns, p.name⟩ = some g ∧ g.key = ⟨ns, p.name⟩ ∧
    l ∈ g.spec.listeners ∧ p.sectionName = some l.name ∧ l.protocol ∈ protocols

/-- A route has references, and all of them are attached. -/
def IsRouteAttached {σ : Type} (b : Bundle) (parents : σ → List ParentRef)
    (protocols : List Protocol) (r : Resource σ) : Prop :=
  parents r.spec ≠ [] ∧ ∀ p ∈ parents r.spec, IsAttached b r.namespaceOf protocols p

/-- An object is attached if it is a route that is, or if it is none. -/
def IsObjectAttached (b : Bundle) : GeneratedObject → Prop
  | .gateway _ => True
  | .httpRoute r => IsRouteAttached b HttpRouteSpec.parentRefs [.http, .https] r
  | .grpcRoute r => IsRouteAttached b GrpcRouteSpec.parentRefs [.http, .https] r
  | .tcpRoute r => IsRouteAttached b TcpRouteSpec.parentRefs [.tcp] r
  | .tlsRoute r => IsRouteAttached b TlsRouteSpec.parentRefs [.tls] r
  | .udpRoute r => IsRouteAttached b UdpRouteSpec.parentRefs [.udp] r
  | .policy _ => True

/-- Every route of a bundle is attached to a gateway of the bundle. -/
structure Bundle.Anchored (b : Bundle) : Prop where
  httpRoutes : ∀ r ∈ b.httpRoutes.values,
    IsRouteAttached b HttpRouteSpec.parentRefs [.http, .https] r
  grpcRoutes : ∀ r ∈ b.grpcRoutes.values,
    IsRouteAttached b GrpcRouteSpec.parentRefs [.http, .https] r
  tcpRoutes : ∀ r ∈ b.tcpRoutes.values, IsRouteAttached b TcpRouteSpec.parentRefs [.tcp] r
  tlsRoutes : ∀ r ∈ b.tlsRoutes.values, IsRouteAttached b TlsRouteSpec.parentRefs [.tls] r
  udpRoutes : ∀ r ∈ b.udpRoutes.values, IsRouteAttached b UdpRouteSpec.parentRefs [.udp] r

theorem isRouteAttached_of_single {σ : Type} {b : Bundle} {parents : σ → List ParentRef}
    {protocols : List Protocol} {r : Resource σ} {p : ParentRef} (hp : parents r.spec = [p])
    (h : IsAttached b r.namespaceOf protocols p) : IsRouteAttached b parents protocols r := by
  unfold IsRouteAttached
  rw [hp]
  refine ⟨List.cons_ne_nil _ _, fun q hq => ?_⟩
  rw [List.mem_singleton] at hq
  rwa [hq]

/-! ### Every request is met -/

namespace Conversion

open Listeners (siteListeners siteSections)
open Routing (ConnectionRoute)

variable (input : Snapshot) (settings : Settings)

/-- A request is a promise: its name leads to a listener of its protocol. -/
theorem isAttached_of_request {ns : String} {l : Listener} {protocols : List Protocol}
    (hl : l ∈ requestsIn input settings ns) (hp : l.protocol ∈ protocols) :
    IsAttached (convert input settings).bundle ns protocols
      (.sibling (GeneratedName.gateway ns) (some l.name)) := by
  obtain ⟨l', hl', hname, hprotocol⟩ := Listeners.exists_listener_of_request _ _ _ _ hl
  have hg := (get?_gateways_eq_some_iff input settings).2
    ⟨ns, List.ne_nil_of_mem hl, rfl, rfl⟩
  refine ⟨rfl, sharedGateway input settings ns, l', hg, rfl, hl', ?_, ?_⟩
  · rw [hname]
    rfl
  · rwa [hprotocol]

theorem isAttached_of_site {ns : String} {s : Sourced Ingress.VirtualServerSpec} {l : Listener}
    (hs : s ∈ virtualServersIn input ns)
    (hl : l ∈ siteListeners (contextOf input settings).ports settings s.2) :
    IsAttached (convert input settings).bundle ns [.http, .https]
      (Routing.parentOf ns (some l.name)) :=
  isAttached_of_request input settings
    (List.mem_append_left _ (List.mem_flatMap.2 ⟨s, hs, hl⟩))
    (Listeners.protocol_siteListeners _ _ _ hl)

/-- The sections need not be those of the server itself, only those of some server beside it. -/
theorem isObjectAttached_of_server {ns : String} {s t : Sourced Ingress.VirtualServerSpec}
    {o : GeneratedObject} (hs : s.2.namespaceOf = ns) (ht : t ∈ virtualServersIn input ns)
    (ho : o ∈ objectsOf (Routing.serverRoutes (contextOf input settings).index settings s.2
      (siteSections (contextOf input settings).ports settings t.2))) :
    IsObjectAttached (convert input settings).bundle o := by
  subst hs
  obtain ⟨l, hl, hprimary⟩ :=
    Listeners.exists_listener_of_primary (contextOf input settings).ports settings t.2
  have hmain := isAttached_of_site input settings ht hl
  rw [objectsOf, List.mem_append, List.mem_append, List.mem_append] at ho
  simp only [List.mem_map, Option.mem_toList] at ho
  rcases ho with ((⟨r, hr, rfl⟩ | ⟨r, hr, rfl⟩) | ⟨r, hr, rfl⟩) | ⟨r, _, rfl⟩
  -- The redirect route attaches to the plain listener, the others to the listener of the site itself.
  · rw [Routing.redirectRoute_serverRoutes] at hr
    obtain ⟨redirect, _, hr⟩ := Option.bind_eq_some_iff.1 hr
    obtain ⟨httpSection, hhttp, hr⟩ := Option.bind_eq_some_iff.1 hr
    obtain ⟨httpsSection, _, rfl⟩ := Option.map_eq_some_iff.1 hr
    obtain ⟨l', hl', rfl⟩ := Listeners.exists_listener_of_http _ _ _ hhttp
    exact isRouteAttached_of_single rfl (isAttached_of_site input settings ht hl')
  · rw [Routing.httpRoute_serverRoutes, hprimary] at hr
    split at hr
    · cases hr
    · cases hr
      exact isRouteAttached_of_single rfl hmain
  · rw [Routing.grpcRoute_serverRoutes, hprimary] at hr
    split at hr
    · cases hr
    · cases hr
      exact isRouteAttached_of_single rfl hmain
  · trivial

theorem isObjectAttached_of_connection {ns : String} {s : Sourced Ingress.TransportServerSpec}
    {r : ConnectionRoute} (hs : s ∈ transportServersIn input ns)
    (hr : ownConnection? (contextOf input settings) s.2 = some r) :
    IsObjectAttached (convert input settings).bundle (connectionObject r) := by
  have hns : s.2.namespaceOf = ns := ((mem_transportServersIn input).1 hs).2.1
  rw [ownConnection?, Routing.transportRoute?_eq] at hr
  obtain ⟨c, hc, rfl⟩ := Option.map_eq_some_iff.1 hr
  have hrequest : Listeners.listenerOf c ∈ requestsIn input settings ns := by
    refine List.mem_append_right _ (List.mem_filterMap.2 ⟨s, hs, ?_⟩)
    rw [Listeners.connectionListener?, hc]
    rfl
  have hparent : IsAttached (convert input settings).bundle ns [c.protocol.listenerProtocol]
      (.sibling (GeneratedName.gateway ns) (some c.sectionName)) :=
    isAttached_of_request input settings hrequest (.head _)
  subst hns
  unfold Routing.connectionRouteFor
  revert hparent
  cases c.protocol <;> exact fun hparent => isRouteAttached_of_single rfl hparent

theorem isObjectAttached_of_mem {o : GeneratedObject} (h : o ∈ allObjects input settings) :
    IsObjectAttached (convert input settings).bundle o := by
  obtain ⟨ns, _, ho⟩ := (mem_allObjects input settings).1 h
  rcases (mem_namespaceObjects input settings).1 ho with ⟨g, _, rfl⟩ | ⟨s, hs, ho⟩ | ⟨s, hs, r, hr, rfl⟩
  · trivial
  · obtain ⟨t, ht, _, hfound⟩ := exists_foundSections (contextOf input settings) hs
    rw [hfound] at ho
    exact isObjectAttached_of_server input settings ((mem_virtualServersIn input).1 hs).2.1 ht ho
  · exact isObjectAttached_of_connection input settings hs hr

theorem isObjectAttached_of_mem_values {σ : Type} (s : Shelf σ) :
    ∀ r ∈ (s.store (convert input settings).bundle).values,
      IsObjectAttached (convert input settings).bundle (s.make r) := by
  intro r hr
  exact isObjectAttached_of_mem input settings (s.make_mem_allObjects hr)

/-- Whatever the resources of a snapshot are like, every route that comes of them is attached to a
listener of the gateway of its namespace, and the listener speaks what the route expects. -/
theorem anchored_convert : (convert input settings).bundle.Anchored where
  httpRoutes := isObjectAttached_of_mem_values input settings .httpRoutes
  grpcRoutes := isObjectAttached_of_mem_values input settings .grpcRoutes
  tcpRoutes := isObjectAttached_of_mem_values input settings .tcpRoutes
  tlsRoutes := isObjectAttached_of_mem_values input settings .tlsRoutes
  udpRoutes := isObjectAttached_of_mem_values input settings .udpRoutes

end Conversion

end IngressGateway
