import IngressGateway.Proofs.Contributions
import IngressGateway.Proofs.References

/-!
Where the services of referenced routes are. A backend names a namespace only if it is not the one of its
route, and a policy has to be in the namespace of its service. The upstreams of a virtual server route count
as being in its namespace. If it has none, the index holds it under the usual namespace, but its upstreams
count as being in the namespace of the virtual server that refers to it.
-/

set_option autoImplicit false

namespace IngressGateway

namespace Routing

open Backend (Catalog Target)
open Gateway (BackendRef GrpcBackend HttpBackend)
open Ingress (VirtualServer VirtualServerRoute)

/-- The namespace of the service that a backend of a route means. -/
def effectiveNs (routeNs : String) (b : BackendRef) : String := b.ns.getD routeNs

/-- The namespace of the upstreams of a resource that a virtual server refers to. -/
def upstreamNs (vs : VirtualServer) (r : VirtualServerRoute) : String :=
  r.metadata.ns.getD vs.namespaceOf

/-- The upstreams of a resource that a virtual server refers to, by name. -/
def entryCatalog (vs : VirtualServer) (entry : IndexedRoute) : Catalog :=
  (Catalog.build entry.resource.spec.upstreams (upstreamNs vs entry.resource) entry.ref).value

theorem effectiveNs_backendRef (t : Target) (routeNs : String) :
    effectiveNs routeNs (backendRef t routeNs) = t.ns := by
  unfold effectiveNs backendRef
  dsimp only
  split
  case isTrue h => exact h.symm
  case isFalse => rfl

theorem value_translateTarget (t : Target) (routeNs : String) (source : ObjectRef) :
    (translateTarget t routeNs source).value = backendRef t routeNs := by
  unfold translateTarget
  split <;> rfl

section

variable (d : RuleDraft) (routeNs : String) (source : ObjectRef)

theorem backends_httpRule :
    (httpRule d routeNs source).value.backendRefs.map HttpBackend.backend =
      d.backends.map fun t => backendRef t routeNs := by
  change List.map _ (d.backends.map _) = _
  rw [List.map_map]
  exact List.map_congr_left fun t _ => value_translateTarget t routeNs source

theorem backends_grpcRule :
    (grpcRule d routeNs source).value.backendRefs.map GrpcBackend.backend =
      d.backends.map fun t => backendRef t routeNs := by
  have hmap : (grpcRule d routeNs source).value.backendRefs =
      d.backends.map fun t => ⟨(translateTarget t routeNs source).value,
        (grpcFilters t.filters source).value⟩ := by
    unfold grpcRule
    by_cases h : d.predicates.queryParams.getD [] = []
    · simp [h]
    · simp [h]
  rw [hmap, List.map_map]
  exact List.map_congr_left fun t _ => value_translateTarget t routeNs source

end

section

variable (own : Catalog) (rs : List ResolvedRoute) (source : ObjectRef) (o : Origin)

theorem effectiveNs_of_mem_backends {b : BackendRef}
    (h : b ∈ (o.draft own rs).backends.map fun t => backendRef t own.ns) :
    effectiveNs own.ns b = (catalogOf own rs o.route).ns := by
  obtain ⟨t, ht, rfl⟩ := List.mem_map.1 h
  rw [effectiveNs_backendRef]
  exact ns_of_mem_backends _ _ _ ht

theorem effectiveNs_httpRule :
    ∀ x ∈ (o.httpRule own rs source).backendRefs,
      effectiveNs own.ns x.backend = (catalogOf own rs o.route).ns := by
  intro x hx
  refine effectiveNs_of_mem_backends own rs o ?_
  rw [← backends_httpRule (o.draft own rs) own.ns source]
  exact List.mem_map_of_mem hx

theorem effectiveNs_grpcRule :
    ∀ x ∈ (o.grpcRule own rs source).backendRefs,
      effectiveNs own.ns x.backend = (catalogOf own rs o.route).ns := by
  intro x hx
  refine effectiveNs_of_mem_backends own rs o ?_
  rw [← backends_grpcRule (o.draft own rs) own.ns source]
  exact List.mem_map_of_mem hx

end

/-- Both stand-ins for a missing namespace are the same only in the usual namespace. -/
theorem upstreamNs_eq_ns_iff (vs : VirtualServer) {rs : List VirtualServerRoute} {key : ObjectKey}
    {entry : IndexedRoute} (h : (indexRoutes rs).get? key = some entry) :
    upstreamNs vs entry.resource = key.ns ↔
      entry.resource.metadata.ns.isSome ∨ vs.namespaceOf = defaultNamespace := by
  rw [(eq_of_get?_indexRoutes h).2.1, upstreamNs]
  change _ = entry.resource.metadata.ns.getD defaultNamespace ↔ _
  cases entry.resource.metadata.ns <;> simp

end Routing

namespace Conversion

open Gateway (GrpcRule HttpRule)
open Ingress (Action VirtualServer VirtualServerRoute)
open Routing (IndexedRoute IsOwn Origin ResolvedRoute RouteIndex StemsFrom effectiveNs entryCatalog
  ownCatalog resolvedRoutes upstreamNs)

variable (input : Snapshot) (settings : Settings)

def indexOf : RouteIndex := Routing.indexRoutes input.virtualServerRoutes

section

variable (vs : VirtualServer)

/-- The routes of a virtual server with its references expanded. -/
def routesOf : List ResolvedRoute := resolvedRoutes (indexOf input) vs

def originsOf : List Origin := Routing.origins (routesOf input vs)

def httpRuleFrom (o : Origin) : HttpRule := o.httpRule (ownCatalog vs) (routesOf input vs) vs.source

def grpcRuleFrom (o : Origin) : GrpcRule := o.grpcRule (ownCatalog vs) (routesOf input vs) vs.source

def usesGrpc (o : Origin) : Bool := o.usesGrpc (ownCatalog vs) (routesOf input vs)

/-- What a rule has to do with an entry of the index that it comes from: the services of the rule and the
policies for the upstreams of the entry are all in one namespace. -/
structure IsHousedBy (b : Bundle) (o : Origin) (key : ObjectKey) (entry : IndexedRoute) : Prop where
  stems : StemsFrom (indexOf input) vs key entry o.route
  catalog : Routing.catalogOf (ownCatalog vs) (routesOf input vs) o.route = entryCatalog vs entry
  http : ∀ x ∈ (httpRuleFrom input vs o).backendRefs,
    effectiveNs vs.namespaceOf x.backend = upstreamNs vs entry.resource
  grpc : ∀ x ∈ (grpcRuleFrom input vs o).backendRefs,
    effectiveNs vs.namespaceOf x.backend = upstreamNs vs entry.resource
  policies : ∀ u ∈ (entryCatalog vs entry).toList, u.usesTls = true →
    (⟨upstreamNs vs entry.resource, GeneratedName.tlsPolicy u.service u.name⟩ : ObjectKey) ∈
      b.policies.keys
  /-- It is the namespace under which the index holds the entry unless the entry has none itself. -/
  agrees : upstreamNs vs entry.resource = key.ns ↔
    entry.resource.metadata.ns.isSome ∨ vs.namespaceOf = defaultNamespace

end

/-- Every rule of a bundle comes from a route of a virtual server, and if that route is referenced, the rule
is housed by the entry that it stems from. -/
structure Housed (b : Bundle) : Prop where
  httpRoutes : ∀ r ∈ b.httpRoutes.values, (∀ rule ∈ r.spec.rules, rule.backendRefs = []) ∨
    ∃ vs ∈ eligibleServers input, r.namespaceOf = vs.namespaceOf ∧
      r.spec.rules = ((originsOf input vs).filter fun o => !usesGrpc input vs o).map
        (httpRuleFrom input vs)
  grpcRoutes : ∀ r ∈ b.grpcRoutes.values,
    ∃ vs ∈ eligibleServers input, r.namespaceOf = vs.namespaceOf ∧
      r.spec.rules = ((originsOf input vs).filter fun o => usesGrpc input vs o).map
        (grpcRuleFrom input vs)
  origins : ∀ vs ∈ eligibleServers input, ∀ o ∈ originsOf input vs,
    IsOwn vs o.route ∨ ∃ key entry, IsHousedBy input vs b o key entry

theorem mem_allObjects_of_server {vs : VirtualServer} (hvs : vs ∈ eligibleServers input) :
    ∃ sections, ∀ o ∈ objectsOf (Routing.serverRoutes (indexOf input) settings vs sections),
      o ∈ allObjects input settings := by
  have hs : sourced vs ∈ virtualServersIn input vs.namespaceOf :=
    (mem_virtualServersIn input).2 ⟨hvs, rfl, rfl⟩
  have hns : vs.namespaceOf ∈ (groups input).keys := (mem_keys_groups input).2 (.inl ⟨vs, hvs, rfl⟩)
  refine ⟨foundSections (contextOf input settings) (virtualServersIn input vs.namespaceOf) vs,
    fun o ho => ?_⟩
  have hobject := (mem_namespaceObjects input settings).2 (.inr (.inl ⟨sourced vs, hs, ho⟩))
  exact (mem_allObjects input settings).2 ⟨vs.namespaceOf, hns, hobject⟩

/-- What is neither a gateway nor the route of a transport server comes from a virtual server. -/
theorem exists_server_of_mem {o : GeneratedObject} (h : o ∈ allObjects input settings)
    (hgateway : ∀ g, GeneratedObject.gateway g ≠ o) (hconnection : ∀ c, connectionObject c ≠ o) :
    ∃ vs ∈ eligibleServers input, ∃ sections,
      o ∈ objectsOf (Routing.serverRoutes (indexOf input) settings vs sections) := by
  obtain ⟨ns, _, ho⟩ := (mem_allObjects input settings).1 h
  rcases (mem_namespaceObjects input settings).1 ho with ⟨g, _, he⟩ | ⟨s, hs, ho⟩ | ⟨s, hs, c, _, he⟩
  · exact absurd he (hgateway g)
  · exact ⟨s.2, ((mem_virtualServersIn input).1 hs).1, _, ho⟩
  · exact absurd he (hconnection c)

/-- An HTTP route of a bundle has the one rule that redirects to the encrypted site, or the rules of a virtual
server. -/
theorem httpRoute_cases {r : Gateway.HttpRoute}
    (hr : r ∈ (convert input settings).bundle.httpRoutes.values) :
    (∃ port code, r.spec.rules =
        [⟨[Routing.everyPath], [.redirect (Routing.toEncrypted port code)], []⟩]) ∨
      ∃ vs ∈ eligibleServers input, r.namespaceOf = vs.namespaceOf ∧
        r.spec.rules = Routing.httpRules (indexOf input) vs := by
  obtain ⟨vs, hvs, sections, ho⟩ := exists_server_of_mem input settings
    (Shelf.httpRoutes.make_mem_allObjects hr) (by rintro g ⟨⟩) (by rintro (c | c | c) ⟨⟩)
  simp only [objectsOf, List.mem_append, List.mem_map, Option.mem_toList] at ho
  rcases ho with ((⟨r', hr', he⟩ | ⟨r', hr', he⟩) | ⟨r', _, he⟩) | ⟨p, _, he⟩ <;> cases he
  · rw [Routing.redirectRoute_serverRoutes] at hr'
    obtain ⟨redirect, _, hr'⟩ := Option.bind_eq_some_iff.1 hr'
    obtain ⟨httpSection, _, hr'⟩ := Option.bind_eq_some_iff.1 hr'
    obtain ⟨httpsSection, _, rfl⟩ := Option.map_eq_some_iff.1 hr'
    exact .inl ⟨_, _, rfl⟩
  · rw [Routing.httpRoute_serverRoutes] at hr'
    split at hr'
    · cases hr'
    · cases hr'
      exact .inr ⟨vs, hvs, rfl, rfl⟩

theorem rules_of_httpRoute {r : Gateway.HttpRoute}
    (hr : r ∈ (convert input settings).bundle.httpRoutes.values) :
    (∀ rule ∈ r.spec.rules, rule.backendRefs = []) ∨
      ∃ vs ∈ eligibleServers input, r.namespaceOf = vs.namespaceOf ∧
        r.spec.rules = Routing.httpRules (indexOf input) vs := by
  rcases httpRoute_cases input settings hr with ⟨port, code, hrules⟩ | h
  · left
    intro rule hrule
    rw [hrules] at hrule
    rw [List.mem_singleton.1 hrule]
  · exact .inr h

theorem rules_of_grpcRoute {r : Gateway.GrpcRoute}
    (hr : r ∈ (convert input settings).bundle.grpcRoutes.values) :
    ∃ vs ∈ eligibleServers input, r.namespaceOf = vs.namespaceOf ∧
      r.spec.rules = Routing.grpcRules (indexOf input) vs := by
  obtain ⟨vs, hvs, sections, ho⟩ := exists_server_of_mem input settings
    (Shelf.grpcRoutes.make_mem_allObjects hr) (by rintro g ⟨⟩) (by rintro (c | c | c) ⟨⟩)
  simp only [objectsOf, List.mem_append, List.mem_map, Option.mem_toList] at ho
  rcases ho with ((⟨r', _, he⟩ | ⟨r', _, he⟩) | ⟨r', hr', he⟩) | ⟨p, _, he⟩ <;> cases he
  rw [Routing.grpcRoute_serverRoutes] at hr'
  split at hr'
  · cases hr'
  · cases hr'
    exact ⟨vs, hvs, rfl, rfl⟩

theorem mem_keys_policies {vs : VirtualServer} (hvs : vs ∈ eligibleServers input) {r : ResolvedRoute}
    (hr : r ∈ routesOf input vs) :
    ∀ u ∈ (Routing.catalogOf (ownCatalog vs) (routesOf input vs) r).toList, u.usesTls = true →
      (⟨(Routing.catalogOf (ownCatalog vs) (routesOf input vs) r).ns,
          GeneratedName.tlsPolicy u.service u.name⟩ : ObjectKey) ∈
        (convert input settings).bundle.policies.keys := by
  intro u hu htls
  obtain ⟨sections, hsections⟩ := mem_allObjects_of_server input settings hvs
  let c := Routing.catalogOf (ownCatalog vs) (routesOf input vs) r
  have hc : c ∈ ownCatalog vs :: (Routing.ownerCatalogs (indexOf input) vs).values :=
    Routing.catalogOf_mem (ownCatalog vs) (routesOf input vs) hr
  have hpolicy : c.tlsPolicy vs.anyName settings u ∈
      (Routing.serverRoutes (indexOf input) settings vs sections).policies := by
    rw [Routing.policies_serverRoutes]
    refine List.mem_flatMap.2 ⟨c, hc, ?_⟩
    exact List.mem_map_of_mem (List.mem_filter.2 ⟨hu, htls⟩)
  have hobject := hsections _
    (List.mem_append_right _ (List.mem_map_of_mem (f := GeneratedObject.policy) hpolicy))
  exact Shelf.policies.mem_keys_convert.2 ⟨_, hobject, _, rfl, rfl⟩

theorem isHousedBy {vs : VirtualServer} (hvs : vs ∈ eligibleServers input) {o : Origin}
    (ho : o ∈ originsOf input vs) {key : ObjectKey} {entry : IndexedRoute}
    (h : StemsFrom (indexOf input) vs key entry o.route) :
    IsHousedBy input vs (convert input settings).bundle o key entry := by
  have hr : o.route ∈ routesOf input vs := ((Routing.mem_origins _).1 ho).1
  have hcatalog : Routing.catalogOf (ownCatalog vs) (routesOf input vs) o.route =
      entryCatalog vs entry := Routing.catalogOf_resolvedRoutes (ownCatalog vs) hr h
  have hns : (Routing.catalogOf (ownCatalog vs) (routesOf input vs) o.route).ns =
      upstreamNs vs entry.resource := by
    rw [hcatalog]
    rfl
  have hpolicies := mem_keys_policies input settings hvs hr
  rw [hcatalog] at hpolicies
  refine ⟨h, hcatalog, fun x hx => ?_, fun x hx => ?_, hpolicies,
    Routing.upstreamNs_eq_ns_iff vs h.held⟩
  · rw [← hns]
    exact Routing.effectiveNs_httpRule _ _ _ o x hx
  · rw [← hns]
    exact Routing.effectiveNs_grpcRule _ _ _ o x hx

/-- The rules of referenced routes find their services in the namespace of their resource, or in that of the
virtual server if the resource does not name one. -/
theorem housed_convert : Housed input (convert input settings).bundle where
  httpRoutes r hr := by
    rcases rules_of_httpRoute input settings hr with h | ⟨vs, hvs, hns, hrules⟩
    · exact .inl h
    · refine .inr ⟨vs, hvs, hns, hrules.trans ?_⟩
      exact Routing.map_httpRule_drafts (ownCatalog vs) (routesOf input vs) vs.source
  grpcRoutes r hr := by
    obtain ⟨vs, hvs, hns, hrules⟩ := rules_of_grpcRoute input settings hr
    refine ⟨vs, hvs, hns, hrules.trans ?_⟩
    exact Routing.map_grpcRule_drafts (ownCatalog vs) (routesOf input vs) vs.source
  origins vs hvs o ho := by
    have hr := ((Routing.mem_origins (routesOf input vs)).1 ho).1
    rcases Routing.isOwn_or_stemsFrom (indexOf input) vs hr with h | ⟨key, entry, h⟩
    · exact .inl h
    · exact .inr ⟨key, entry, isHousedBy input settings hvs ho h⟩

/-- A virtual server with one route, which refers to another resource. -/
def referringServer (ns name host reference : String) : VirtualServer :=
  let vs := simpleServer ns name host none
  { vs with spec := { vs.spec with routes := [⟨"/tea", some reference, none, [], [], [], [], ""⟩] } }

/-- A resource without a namespace: the index holds it under the usual one, but its services and policies
end up with the virtual server that refers to it. -/
theorem upstreamNs_ne_ns_shared :
    let passTea : Action := ⟨some "tea", none, none, none⟩
    let shared : VirtualServerRoute :=
      ⟨⟨some "tea", none, none, none, none⟩, none, "cafe.example",
        [simpleUpstream "tea" "tea-svc" none (some ⟨true⟩)],
        [⟨"/tea", none, some passTea, [], [], [], [], ""⟩]⟩
    let input : Snapshot :=
      ⟨[referringServer "shop" "cafe" "cafe.example" "default/tea"], [shared], [], none⟩
    let b := (convert input .usual).bundle
    (indexOf input).keys = [⟨"default", "tea"⟩] ∧
      (∃ r ∈ b.httpRoutes.values, ∃ rule ∈ r.spec.rules, ∃ x ∈ rule.backendRefs,
        x.backend.name = "tea-svc" ∧ effectiveNs r.namespaceOf x.backend = "shop") ∧
      b.policies.keys = [⟨"shop", "tea-svc-tea-backend-tls"⟩] := by
  decide

end Conversion

end IngressGateway
