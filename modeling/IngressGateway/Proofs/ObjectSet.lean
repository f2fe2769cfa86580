import IngressGateway.Proofs.RouteKeys
import Mathlib.Data.List.Dedup

/-!
The objects that a conversion makes, all of them and no others. For each kind the servers of a snapshot say
which keys there have to be; if no two servers share their namespace and their name, these are the keys of
the store, each once, and the count of objects follows.
-/

set_option autoImplicit false

namespace IngressGateway

namespace Conversion

variable (input : Snapshot) (settings : Settings)

/-- The namespaces with a virtual server or with a transport server that finds a listener. -/
def gatewayNamespaces : List String :=
  ((eligibleServers input).map Resource.namespaceOf ++
    ((namedTransports input).filter fun ts =>
      (Listeners.connectionListener ts (contextOf input settings).ports).isOk).map
        Resource.namespaceOf).dedup

def gatewayKeys : List ObjectKey :=
  (gatewayNamespaces input settings).map fun ns => ⟨ns, ns ++ "-gateway"⟩

/-- A bundle has the keys that the servers of the snapshot call for, and no others. -/
structure IsExact (b : Bundle) : Prop where
  gateways : b.gateways.keys.Perm (gatewayKeys input settings)
  httpRoutes : b.httpRoutes.keys.Perm (httpRouteKeys input settings)
  grpcRoutes : b.grpcRoutes.keys.Perm (grpcRouteKeys input settings)
  tcpRoutes : b.tcpRoutes.keys.Perm (connectionRouteKeys input settings .tcp)
  tlsRoutes : b.tlsRoutes.keys.Perm (connectionRouteKeys input settings .tlsPassthrough)
  udpRoutes : b.udpRoutes.keys.Perm (connectionRouteKeys input settings .udp)
  objectCount : b.objectCount =
    (gatewayKeys input settings).length + (httpRouteKeys input settings).length +
      (grpcRouteKeys input settings).length + (connectionRouteKeys input settings .tcp).length +
      (connectionRouteKeys input settings .tlsPassthrough).length +
      (connectionRouteKeys input settings .udp).length + b.policies.size

theorem requestsIn_ne_nil_iff (ns : String) :
    requestsIn input settings ns ≠ [] ↔ ns ∈ gatewayNamespaces input settings := by
  rw [gatewayNamespaces, List.mem_dedup, List.mem_append, List.mem_map, List.mem_map]
  constructor
  · intro h
    obtain ⟨l, hl⟩ := List.exists_mem_of_ne_nil _ h
    rcases List.mem_append.1 hl with hl | hl
    · obtain ⟨s, hs, _⟩ := List.mem_flatMap.1 hl
      obtain ⟨hvs, hns, _⟩ := (mem_virtualServersIn input).1 hs
      exact .inl ⟨s.2, hvs, hns⟩
    · obtain ⟨s, hs, hlistener⟩ := List.mem_filterMap.1 hl
      obtain ⟨hts, hns, _⟩ := (mem_transportServersIn input).1 hs
      refine .inr ⟨s.2, List.mem_filter.2 ⟨hts, ?_⟩, hns⟩
      rw [← Listeners.isSome_connectionListener?, hlistener]
      rfl
  · rintro (⟨vs, hvs, rfl⟩ | ⟨ts, hts, rfl⟩)
    · obtain ⟨l, hl, _⟩ :=
        Listeners.exists_listener_of_primary (contextOf input settings).ports settings vs
      exact List.ne_nil_of_mem (mem_requestsIn_of_site hvs hl)
    · obtain ⟨hts, hok⟩ := List.mem_filter.1 hts
      have hs : sourced ts ∈ transportServersIn input ts.namespaceOf :=
        (mem_transportServersIn input).2 ⟨hts, rfl, rfl⟩
      rw [← Listeners.isSome_connectionListener?] at hok
      obtain ⟨l, hl⟩ := Option.isSome_iff_exists.1 hok
      exact List.ne_nil_of_mem (List.mem_append_right _ (List.mem_filterMap.2 ⟨_, hs, hl⟩))

theorem gatewayKeys_nodup : (gatewayKeys input settings).Nodup :=
  (List.nodup_dedup _).map fun _ _ h => (ObjectKey.mk.inj h).1

/-- This needs no distinct names, since the servers of a namespace share its gateway. -/
theorem keys_gateways_perm :
    (convert input settings).bundle.gateways.keys.Perm (gatewayKeys input settings) := by
  rw [List.perm_ext_iff_of_nodup (SortedMap.keys_nodup _) (gatewayKeys_nodup input settings)]
  intro key
  rw [SortedMap.mem_keys_iff, gatewayKeys, List.mem_map]
  constructor
  · rintro ⟨g, hg⟩
    obtain ⟨ns, hns, rfl, _⟩ := (get?_gateways_eq_some_iff input settings).1 hg
    exact ⟨ns, (requestsIn_ne_nil_iff input settings ns).1 hns, rfl⟩
  · rintro ⟨ns, hns, rfl⟩
    exact ⟨_, (get?_gateways_eq_some_iff input settings).2
      ⟨ns, (requestsIn_ne_nil_iff input settings ns).2 hns, rfl, rfl⟩⟩

theorem size_eq_of_keys_perm {α : Type} {s : Store α} {ks : List ObjectKey}
    (hp : s.keys.Perm ks) : s.size = ks.length := by
  rw [← hp.length_eq, SortedMap.keys, List.length_map]
  rfl

variable {input}

/-- Nothing is overwritten and nothing is made up. -/
theorem convert_isExact (hv : Resource.DistinctKeys (eligibleServers input))
    (ht : Resource.DistinctKeys (namedTransports input)) :
    IsExact input settings (convert input settings).bundle := by
  have hgateways := keys_gateways_perm input settings
  have hhttp := Shelf.httpRoutes.keys_convert_perm settings (fun _ => rfl) hv
    (Shelf.keys_httpRoutes_contributions input settings) (httpRouteKeys_nodup settings hv)
  have hgrpc := Shelf.grpcRoutes.keys_convert_perm settings (fun _ => rfl) hv
    (.of_eq (Shelf.keys_grpcRoutes_contributions input settings)) (grpcRouteKeys_nodup settings hv)
  have htcp := Shelf.tcpRoutes.keys_convert_perm settings (fun _ => rfl) hv
    (.of_eq (Shelf.isFor_tcpRoutes.keys_contributions input settings))
    (connectionRouteKeys_nodup settings ht .tcp)
  have htls := Shelf.tlsRoutes.keys_convert_perm settings (fun _ => rfl) hv
    (.of_eq (Shelf.isFor_tlsRoutes.keys_contributions input settings))
    (connectionRouteKeys_nodup settings ht .tlsPassthrough)
  have hudp := Shelf.udpRoutes.keys_convert_perm settings (fun _ => rfl) hv
    (.of_eq (Shelf.isFor_udpRoutes.keys_contributions input settings))
    (connectionRouteKeys_nodup settings ht .udp)
  refine ⟨hgateways, hhttp, hgrpc, htcp, htls, hudp, ?_⟩
  rw [← size_eq_of_keys_perm hgateways, ← size_eq_of_keys_perm hhttp, ← size_eq_of_keys_perm hgrpc,
    ← size_eq_of_keys_perm htcp, ← size_eq_of_keys_perm htls, ← size_eq_of_keys_perm hudp]
  rfl

/-- Two virtual servers, one of them with a redirect, and a transport server on one gateway. -/
theorem convert_isExact_mixed :
    let a := simpleServer "shop" "a" "a.example" (some "cert")
    let b := simpleServer "shop" "b" "b.example" none
    let t := simpleTransport "shop" "t" "tls-passthrough" "TLS_PASSTHROUGH"
    let input : Snapshot := ⟨[a, b], [], [t], none⟩
    Resource.DistinctKeys (eligibleServers input) ∧ Resource.DistinctKeys (namedTransports input) ∧
      httpRouteKeys input .usual =
        [⟨"shop", "a-redirect"⟩, ⟨"shop", "a-httproute"⟩, ⟨"shop", "b-httproute"⟩] ∧
      IsExact input .usual (convert input .usual).bundle := by
  intro a b t input
  have hv : Resource.DistinctKeys (eligibleServers input) := by decide
  have ht : Resource.DistinctKeys (namedTransports input) := by decide
  exact ⟨hv, ht, by decide, convert_isExact .usual hv ht⟩

end Conversion

end IngressGateway
