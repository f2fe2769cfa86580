import IngressGateway.Proofs.LastEntry
import IngressGateway.Proofs.OwnerNamespaces
import IngressGateway.Proofs.RouteKeys

/-!
Policies for the services of upstreams. The name of a policy joins the name of a service and that of an upstream
with a dash, and both may have dashes of their own, so the policies for two services can come to one name. The
last one of a name stays; a service goes without a policy if all of those for it are lost in this way.
-/

set_option autoImplicit false

namespace IngressGateway

theorem Shelf.fromServer_policies (a : Routing.AssembledRoutes) : policies.fromServer a = a.policies := by
  simp [fromServer_eq, policies]

open Backend (Catalog)
open Gateway (BackendTlsPolicy PolicyTarget)
open Ingress (Upstream VirtualServer)

namespace Conversion

open Routing (StemsFrom entryCatalog ownCatalog)

/-! ### The upstreams that call for a policy -/

def serviceTarget (service : String) : PolicyTarget := ⟨"", "Service", service, none⟩

def IsPolicyFor (p : BackendTlsPolicy) (service : String) : Prop :=
  p.spec.targetRefs = [serviceTarget service]

instance (p : BackendTlsPolicy) (service : String) : Decidable (IsPolicyFor p service) :=
  inferInstanceAs (Decidable (_ = _))

/-- An upstream whose service speaks TLS, and the namespace of the service. -/
structure SecureUpstream where
  ns : String
  upstream : Upstream

namespace SecureUpstream

def service (t : SecureUpstream) : String := t.upstream.service

def policyKey (t : SecureUpstream) : ObjectKey :=
  ⟨t.ns, GeneratedName.tlsPolicy t.service t.upstream.name⟩

end SecureUpstream

variable (input : Snapshot) (settings : Settings)

/-- A catalog holds the upstreams of a virtual server or of a resource that one of its routes stems from. -/
def Provides (vs : VirtualServer) (c : Catalog) : Prop :=
  c = ownCatalog vs ∨ ∃ r ∈ routesOf input vs, ∃ key entry,
    StemsFrom (indexOf input) vs key entry r ∧ c = entryCatalog vs entry

def catalogsOf (vs : VirtualServer) : List Catalog :=
  ownCatalog vs :: (Routing.ownerCatalogs (indexOf input) vs).values

def secureUpstreamsIn (c : Catalog) : List SecureUpstream :=
  (c.toList.filter Upstream.usesTls).map (SecureUpstream.mk c.ns)

def secureUpstreamsOf (vs : VirtualServer) : List SecureUpstream :=
  (catalogsOf input vs).flatMap secureUpstreamsIn

/-- All upstreams that call for a policy, in the order in which their policies are stored. -/
def secureUpstreams : List SecureUpstream :=
  (groups input).keys.flatMap fun ns =>
    (virtualServersIn input ns).flatMap fun s => secureUpstreamsOf input s.2

theorem mem_catalogsOf_iff {vs : VirtualServer} {c : Catalog} :
    c ∈ catalogsOf input vs ↔ Provides input vs c := by
  constructor
  · intro h
    rcases List.mem_cons.1 h with rfl | h
    · exact .inl rfl
    · obtain ⟨owner, howner⟩ := SortedMap.mem_values_iff.1 h
      change (Routing.addOwners vs.namespaceOf .empty (routesOf input vs)).value.get? owner = _ at howner
      rw [Routing.get?_addOwners] at howner
      obtain ⟨us, hus, rfl⟩ := Option.map_eq_some_iff.1 howner
      obtain ⟨r, hr, he⟩ := List.exists_of_findSome?_eq_some hus
      split at he
      case isFalse => cases he
      case isTrue hr' =>
        subst hr'
        rcases Routing.isOwn_or_stemsFrom (indexOf input) vs hr with hown | ⟨key, entry, hstems⟩
        · rw [hown.upstreams] at he
          cases he
        · refine .inr ⟨r, hr, key, entry, hstems, ?_⟩
          rw [hstems.upstreams] at he
          cases he
          rw [hstems.owner, entryCatalog, (Routing.eq_of_get?_indexRoutes hstems.held).2.2]
          rfl
  · rintro (rfl | ⟨r, hr, key, entry, hstems, rfl⟩)
    · exact List.mem_cons_self
    · have hcatalog : Routing.catalogOf (ownCatalog vs) (routesOf input vs) r = entryCatalog vs entry :=
        Routing.catalogOf_resolvedRoutes (ownCatalog vs) hr hstems
      rw [← hcatalog]
      exact Routing.catalogOf_mem (ownCatalog vs) (routesOf input vs) hr

theorem mem_secureUpstreams {vs : VirtualServer} (hvs : vs ∈ eligibleServers input) {c : Catalog}
    (hc : Provides input vs c) {u : Upstream} (hu : u ∈ c.toList) (htls : u.usesTls = true) :
    ⟨c.ns, u⟩ ∈ secureUpstreams input := by
  refine List.mem_flatMap.2 ⟨vs.namespaceOf, (mem_keys_groups input).2 (.inl ⟨vs, hvs, rfl⟩), ?_⟩
  refine List.mem_flatMap.2 ⟨sourced vs, sourced_mem_virtualServersIn hvs, ?_⟩
  refine List.mem_flatMap.2 ⟨c, (mem_catalogsOf_iff input).2 hc, ?_⟩
  exact List.mem_map_of_mem (List.mem_filter.2 ⟨hu, htls⟩)

/-! ### The policies that are stored -/

/-- Every upstream that calls for a policy finds its name among the policies, but the policy of that name is
for the service of the last upstream that has it. -/
structure KeepsLast (b : Bundle) : Prop where
  named : ∀ vs ∈ eligibleServers input, ∀ c, Provides input vs c → ∀ u ∈ c.toList, u.usesTls = true →
    SecureUpstream.policyKey ⟨c.ns, u⟩ ∈ b.policies.keys
  /-- A service has a policy iff one of its upstreams is the last one of its name. -/
  exists_iff : ∀ ns service,
    (∃ p ∈ b.policies.values, p.namespaceOf = ns ∧ IsPolicyFor p service) ↔
      ∃ t, IsLast SecureUpstream.policyKey (secureUpstreams input) t ∧ t.ns = ns ∧ t.service = service
  /-- No service goes without a policy whose upstream shares its name with the upstreams of that service only. -/
  kept : ∀ vs ∈ eligibleServers input, ∀ c, Provides input vs c → ∀ u ∈ c.toList, u.usesTls = true →
    (∀ t ∈ secureUpstreams input, t.policyKey = SecureUpstream.policyKey ⟨c.ns, u⟩ →
      t.service = u.service) →
    ∃ p ∈ b.policies.values, p.namespaceOf = c.ns ∧ IsPolicyFor p u.service

theorem policies_of_server (vs : VirtualServer) (sections : Listeners.Sections) :
    (Routing.serverRoutes (indexOf input) settings vs sections).policies.map
        (fun p => (p.key, p.spec.targetRefs)) =
      (secureUpstreamsOf input vs).map fun t => (t.policyKey, [serviceTarget t.service]) := by
  rw [Routing.policies_serverRoutes, secureUpstreamsOf, List.map_flatMap, List.map_flatMap]
  refine List.flatMap_congr fun c _ => ?_
  rw [secureUpstreamsIn, List.map_map]
  change List.map _ (List.map _ _) = _
  rw [List.map_map]
  rfl

theorem policies_namespaceObjects (ns : String) :
    ((namespaceObjects (resultIn input settings ns)).filterMap Shelf.policies.pick?).map
        (fun p => (p.key, p.spec.targetRefs)) =
      ((virtualServersIn input ns).flatMap fun s => secureUpstreamsOf input s.2).map fun t =>
        (t.policyKey, [serviceTarget t.service]) := by
  have hgateway : ∀ gs : List Gateway.Gateway,
      (gs.map GeneratedObject.gateway).filterMap Shelf.policies.pick? = [] := by
    intro gs
    rw [List.filterMap_map]
    exact List.filterMap_eq_nil_iff.2 fun _ _ => rfl
  have hconnection : ∀ cs : List Routing.ConnectionRoute,
      (cs.map connectionObject).filterMap Shelf.policies.pick? = [] := by
    intro cs
    rw [List.filterMap_map]
    exact List.filterMap_eq_nil_iff.2 fun c _ => by cases c <;> rfl
  rw [namespaceObjects, List.filterMap_append, List.filterMap_append, hgateway, hconnection,
    List.nil_append, List.append_nil, routes_resultIn, List.flatMap_map, List.filterMap_flatMap,
    List.map_flatMap, List.map_flatMap]
  refine List.flatMap_congr fun s _ => ?_
  rw [← policies_of_server input settings s.2 (foundSections _ _ s.2)]
  exact congrArg _ (Shelf.fromServer_policies _)

theorem policies_allObjects :
    ((allObjects input settings).filterMap Shelf.policies.pick?).map
        (fun p => (p.key, p.spec.targetRefs)) =
      (secureUpstreams input).map fun t => (t.policyKey, [serviceTarget t.service]) := by
  rw [allObjects, results_eq, List.flatMap_map, List.filterMap_flatMap, List.map_flatMap,
    secureUpstreams, List.map_flatMap]
  exact List.flatMap_congr fun ns _ => policies_namespaceObjects input settings ns

theorem get?_policies (key : ObjectKey) :
    ((convert input settings).bundle.policies.get? key).map (fun p => p.spec.targetRefs) =
      (SortedMap.ofList ((secureUpstreams input).map fun t =>
        (t.policyKey, [serviceTarget t.service]))).get? key := by
  rw [← policies_allObjects input settings]
  have hstore : (convert input settings).bundle.policies =
      .ofList (Shelf.policies.entriesOf (allObjects input settings)) :=
    Shelf.policies.store_convert input settings
  have hempty : ∀ k : ObjectKey, (SortedMap.empty : SortedMap ObjectKey (List PolicyTarget)).get? k =
      ((SortedMap.empty : Store BackendTlsPolicy).get? k).map fun p => p.spec.targetRefs := fun _ => rfl
  rw [hstore, SortedMap.ofList_eq_insertMany, ← SortedMap.get?_insertMany_map _ hempty,
    Shelf.entriesOf, List.map_map]
  rfl

theorem exists_policy_iff {ns service : String} :
    (∃ p ∈ (convert input settings).bundle.policies.values, p.namespaceOf = ns ∧ IsPolicyFor p service) ↔
      ∃ t, IsLast SecureUpstream.policyKey (secureUpstreams input) t ∧ t.ns = ns ∧
        t.service = service := by
  constructor
  · rintro ⟨p, hp, rfl, hfor⟩
    obtain ⟨key, hkey⟩ := SortedMap.mem_values_iff.1 hp
    have htarget := get?_policies input settings key
    rw [hkey, Option.map_some, hfor] at htarget
    obtain ⟨t, ht, rfl, hservice⟩ := (SortedMap.get?_ofList_map_eq_some_iff _ _).1 htarget.symm
    obtain ⟨hpkey, _⟩ := Shelf.policies.exists_object_of_get? hkey
    have hns : p.namespaceOf = t.ns := congrArg ObjectKey.ns hpkey
    refine ⟨t, ht, hns.symm, ?_⟩
    exact congrArg PolicyTarget.name (List.singleton_inj.1 hservice)
  · rintro ⟨t, ht, rfl, rfl⟩
    have htarget := (get?_policies input settings t.policyKey).trans
      ((SortedMap.get?_ofList_map_eq_some_iff SecureUpstream.policyKey _).2 ⟨t, ht, rfl, rfl⟩)
    obtain ⟨p, hp, hfor⟩ := Option.map_eq_some_iff.1 htarget
    obtain ⟨hpkey, _⟩ := Shelf.policies.exists_object_of_get? hp
    exact ⟨p, SortedMap.mem_values_iff.2 ⟨_, hp⟩, congrArg ObjectKey.ns hpkey, hfor⟩

/-- No service that speaks TLS goes without a policy unless the names of its policies are all taken by later
ones for other services. -/
theorem keepsLast_convert : KeepsLast input (convert input settings).bundle where
  named vs hvs c hc u hu htls := by
    have ht := mem_secureUpstreams input hvs hc hu htls
    obtain ⟨t, hlast, hkey⟩ := exists_isLast SecureUpstream.policyKey ht
    have htarget := (get?_policies input settings t.policyKey).trans
      ((SortedMap.get?_ofList_map_eq_some_iff SecureUpstream.policyKey _).2 ⟨t, hlast, rfl, rfl⟩)
    obtain ⟨p, hp, _⟩ := Option.map_eq_some_iff.1 htarget
    rw [← hkey]
    exact SortedMap.mem_keys_iff.2 ⟨p, hp⟩
  exists_iff ns service := exists_policy_iff input settings
  kept vs hvs c hc u hu htls hsame := by
    have ht := mem_secureUpstreams input hvs hc hu htls
    obtain ⟨t, hlast, hkey⟩ := exists_isLast SecureUpstream.policyKey ht
    refine (exists_policy_iff input settings).2 ⟨t, hlast, ?_, hsame t hlast.mem hkey⟩
    exact congrArg ObjectKey.ns hkey

/-- Two upstreams of one virtual server: the name of the first service with that of its upstream reads like the
name of the second service with that of the other upstream. -/
theorem not_isPolicyFor_dashed :
    let first := simpleUpstream "b-c" "a" none (some ⟨true⟩)
    let second := simpleUpstream "c" "a-b" none (some ⟨true⟩)
    let vs := simpleServer "shop" "cafe" "cafe.example" none
    let cafe : VirtualServer := { vs with spec := { vs.spec with upstreams := [first, second] } }
    let input : Snapshot := ⟨[cafe], [], [], none⟩
    cafe ∈ eligibleServers input ∧ first ∈ (ownCatalog cafe).toList ∧ first.usesTls = true ∧
      ∀ p ∈ (convert input .usual).bundle.policies.values, ¬ IsPolicyFor p first.service := by
  intro first second vs cafe input
  have heligible : cafe ∈ eligibleServers input := List.mem_filter.2 ⟨List.mem_singleton_self cafe, rfl⟩
  have hfirst : first ∈ (ownCatalog cafe).toList := SortedMap.mem_values_iff.2 ⟨"b-c", by decide⟩
  exact ⟨heligible, hfirst, rfl, by decide⟩

end Conversion

end IngressGateway
