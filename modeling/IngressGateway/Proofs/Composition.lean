import IngressGateway.Proofs.RouteKeys

/-!
Conversions of parts. What a server leads to depends on itself, on the resources that it refers to and on
the choices of the user, but not on the servers beside it, although all servers of a namespace go through
one draft of a gateway. So the servers of a snapshot can be converted in two parts, and the routes of the
whole are those of one part together with those of the other.
-/

set_option autoImplicit false

namespace IngressGateway

/-- Two snapshots share the servers of a third one and have all the rest of it. -/
structure Snapshot.IsSplit (whole left right : Snapshot) : Prop where
  virtualServers : whole.virtualServers.Perm (left.virtualServers ++ right.virtualServers)
  transportServers : whole.transportServers.Perm (left.transportServers ++ right.transportServers)
  routesLeft : left.virtualServerRoutes = whole.virtualServerRoutes
  routesRight : right.virtualServerRoutes = whole.virtualServerRoutes
  configurationLeft : left.globalConfiguration = whole.globalConfiguration
  configurationRight : right.globalConfiguration = whole.globalConfiguration

/-- The routes and the recorded settings of a bundle are those of one of two bundles, and its policies have
the keys that policies have there. -/
structure Bundle.IsComposed (whole left right : Bundle) : Prop where
  httpRoutes : whole.httpRoutes.IsDisjointUnion left.httpRoutes right.httpRoutes
  grpcRoutes : whole.grpcRoutes.IsDisjointUnion left.grpcRoutes right.grpcRoutes
  tcpRoutes : whole.tcpRoutes.IsDisjointUnion left.tcpRoutes right.tcpRoutes
  tlsRoutes : whole.tlsRoutes.IsDisjointUnion left.tlsRoutes right.tlsRoutes
  udpRoutes : whole.udpRoutes.IsDisjointUnion left.udpRoutes right.udpRoutes
  extensions : whole.extensions.IsDisjointUnion left.extensions right.extensions
  policies : ∀ key, key ∈ whole.policies.keys ↔
    key ∈ left.policies.keys ∨ key ∈ right.policies.keys

variable {whole left right : Snapshot}

theorem Snapshot.IsSplit.symm (h : whole.IsSplit left right) : whole.IsSplit right left where
  virtualServers := h.virtualServers.trans List.perm_append_comm
  transportServers := h.transportServers.trans List.perm_append_comm
  routesLeft := h.routesRight
  routesRight := h.routesLeft
  configurationLeft := h.configurationRight
  configurationRight := h.configurationLeft

namespace Conversion

open Resource (DistinctKeys)

theorem contextOf_part (settings : Settings) (h : whole.IsSplit left right) :
    contextOf left settings = contextOf whole settings := by
  rw [contextOf, contextOf, h.routesLeft, h.configurationLeft]

theorem eligibleServers_perm (h : whole.IsSplit left right) :
    (eligibleServers whole).Perm (eligibleServers left ++ eligibleServers right) := by
  have hp := h.virtualServers.filter isEligible
  rwa [List.filter_append] at hp

theorem namedTransports_perm (h : whole.IsSplit left right) :
    (namedTransports whole).Perm (namedTransports left ++ namedTransports right) := by
  have hp := h.transportServers.filter Resource.hasName
  rwa [List.filter_append] at hp

theorem distinctKeys_part (h : whole.IsSplit left right)
    (hd : DistinctKeys (eligibleServers whole)) : DistinctKeys (eligibleServers left) :=
  (hd.perm (eligibleServers_perm h)).sublist (List.sublist_append_left _ _)

theorem extensions_isDisjointUnion (settings : Settings) (h : whole.IsSplit left right)
    (hd : DistinctKeys (eligibleServers whole)) :
    (convert whole settings).bundle.extensions.IsDisjointUnion
      (convert left settings).bundle.extensions (convert right settings).bundle.extensions := by
  have hentries : ∀ {input : Snapshot}, DistinctKeys (eligibleServers input) →
      (convert input settings).bundle.extensions.entries.Perm
        ((eligibleServers input).filterMap (ownRecord? (contextOf input settings))) := by
    intro input hd
    have hp := allRecords_perm settings hd
    have hn := (hp.map Prod.fst).nodup_iff.2 (ownRecords_nodup hd (contextOf input settings))
    rw [extensions_convert]
    exact (SortedMap.entries_ofList_perm hn).trans hp
  have hleft := hentries (distinctKeys_part h hd)
  have hright := hentries (distinctKeys_part h.symm hd)
  rw [contextOf_part settings h] at hleft
  rw [contextOf_part settings h.symm] at hright
  have hrecords := (eligibleServers_perm h).filterMap (ownRecord? (contextOf whole settings))
  rw [List.filterMap_append] at hrecords
  exact SortedMap.isDisjointUnion_of_perm
    ((hentries hd).trans (hrecords.trans (hleft.append hright).symm))

end Conversion

namespace Shelf

open Conversion
open Resource (DistinctKeys)

variable {σ : Type} (s : Shelf σ) (settings : Settings)

theorem contributions_perm (h : whole.IsSplit left right) :
    (s.contributions whole settings).Perm
      (s.contributions left settings ++ s.contributions right settings) := by
  let f := fun vs => s.fromServer (ownRoutes (contextOf whole settings) vs)
  let g := fun ts => (ownConnection? (contextOf whole settings) ts).bind s.fromConnection?
  have hleft : s.contributions left settings =
      (eligibleServers left).flatMap f ++ (namedTransports left).filterMap g := by
    rw [contributions, contextOf_part settings h]
  have hright : s.contributions right settings =
      (eligibleServers right).flatMap f ++ (namedTransports right).filterMap g := by
    rw [contributions, contextOf_part settings h.symm]
  have hv := (eligibleServers_perm h).flatMap_right f
  have ht := (namedTransports_perm h).filterMap g
  rw [List.flatMap_append] at hv
  rw [List.filterMap_append] at ht
  rw [hleft, hright]
  refine (hv.append ht).trans ?_
  rw [List.append_assoc, List.append_assoc]
  exact List.Perm.append_left _ (List.perm_append_comm_assoc _ _ _)

/-- If no two servers of the whole compete for a key, no part takes anything from the other. -/
theorem isDisjointUnion (hg : ∀ g, s.pick? (.gateway g) = none) (h : whole.IsSplit left right)
    (hd : DistinctKeys (eligibleServers whole))
    (hn : ((s.contributions whole settings).map Resource.key).Nodup) :
    (s.store (convert whole settings).bundle).IsDisjointUnion
      (s.store (convert left settings).bundle) (s.store (convert right settings).bundle) := by
  have hp := s.contributions_perm settings h
  have hparts : ((s.contributions left settings).map Resource.key ++
      (s.contributions right settings).map Resource.key).Nodup := by
    rw [← List.map_append]
    exact (hp.map Resource.key).nodup_iff.1 hn
  obtain ⟨hnl, hnr, _⟩ := List.nodup_append.1 hparts
  have hw := s.entries_perm_contributions settings hg hd hn
  have hl := s.entries_perm_contributions settings hg (distinctKeys_part h hd) hnl
  have hr := s.entries_perm_contributions settings hg (distinctKeys_part h.symm hd) hnr
  have hentries := hp.map fun r => (r.key, r)
  rw [List.map_append] at hentries
  exact SortedMap.isDisjointUnion_of_perm (hw.trans (hentries.trans (hl.append hr).symm))

theorem mem_keys_iff_contributions {input : Snapshot} (hg : ∀ g, s.pick? (.gateway g) = none)
    (hd : DistinctKeys (eligibleServers input)) {key : ObjectKey} :
    key ∈ (s.store (convert input settings).bundle).keys ↔
      key ∈ (s.contributions input settings).map Resource.key := by
  have hp := (s.filterMap_allObjects_perm settings hg hd).map Resource.key
  rw [← hp.mem_iff, s.store_convert, SortedMap.mem_keys_ofList, map_fst_entriesOf]

/-- Whatever shares its key with another object, the key is there. -/
theorem mem_keys_iff_of_isSplit (hg : ∀ g, s.pick? (.gateway g) = none)
    (h : whole.IsSplit left right) (hd : DistinctKeys (eligibleServers whole)) {key : ObjectKey} :
    key ∈ (s.store (convert whole settings).bundle).keys ↔
      key ∈ (s.store (convert left settings).bundle).keys ∨
        key ∈ (s.store (convert right settings).bundle).keys := by
  rw [s.mem_keys_iff_contributions settings hg hd,
    s.mem_keys_iff_contributions settings hg (distinctKeys_part h hd),
    s.mem_keys_iff_contributions settings hg (distinctKeys_part h.symm hd),
    ((s.contributions_perm settings h).map Resource.key).mem_iff, List.map_append, List.mem_append]

theorem IsFor.isDisjointUnion {s : Shelf σ} {p : Listeners.ConnectionProtocol} (hs : s.IsFor p)
    (hg : ∀ g, s.pick? (.gateway g) = none) (h : whole.IsSplit left right)
    (hv : DistinctKeys (eligibleServers whole)) (ht : DistinctKeys (namedTransports whole)) :
    (s.store (convert whole settings).bundle).IsDisjointUnion
      (s.store (convert left settings).bundle) (s.store (convert right settings).bundle) := by
  refine s.isDisjointUnion settings hg h hv ?_
  rw [hs.keys_contributions whole settings]
  exact connectionRouteKeys_nodup settings ht p

end Shelf

namespace Conversion

open Resource (DistinctKeys)

/-- Servers with names of their own can be converted in two parts: no server changes the routes that another
one gets. -/
theorem convert_isComposed (settings : Settings) (h : whole.IsSplit left right)
    (hv : DistinctKeys (eligibleServers whole)) (ht : DistinctKeys (namedTransports whole)) :
    (convert whole settings).bundle.IsComposed (convert left settings).bundle
      (convert right settings).bundle where
  httpRoutes := Shelf.httpRoutes.isDisjointUnion settings (fun _ => rfl) h hv <|
    (Shelf.keys_httpRoutes_contributions whole settings).nodup_iff.2 (httpRouteKeys_nodup settings hv)
  grpcRoutes := Shelf.grpcRoutes.isDisjointUnion settings (fun _ => rfl) h hv <| by
    rw [Shelf.keys_grpcRoutes_contributions whole settings]
    exact grpcRouteKeys_nodup settings hv
  tcpRoutes := Shelf.isFor_tcpRoutes.isDisjointUnion settings (fun _ => rfl) h hv ht
  tlsRoutes := Shelf.isFor_tlsRoutes.isDisjointUnion settings (fun _ => rfl) h hv ht
  udpRoutes := Shelf.isFor_udpRoutes.isDisjointUnion settings (fun _ => rfl) h hv ht
  extensions := extensions_isDisjointUnion settings h hv
  policies _ := Shelf.policies.mem_keys_iff_of_isSplit settings (fun _ => rfl) h hv

/-- Two virtual servers for one host, parted from each other, and a transport server beside one of them. -/
theorem convert_isComposed_contending :
    let a := simpleServer "shop" "a" "shop.example" (some "cert")
    let b := simpleServer "shop" "b" "shop.example" none
    let t := simpleTransport "shop" "t" "tls-passthrough" "TLS_PASSTHROUGH"
    let whole : Snapshot := ⟨[a, b], [], [t], none⟩
    let left : Snapshot := ⟨[b], [], [t], none⟩
    let right : Snapshot := ⟨[a], [], [], none⟩
    whole.IsSplit left right ∧ DistinctKeys (eligibleServers whole) ∧
      DistinctKeys (namedTransports whole) ∧
      (convert whole .usual).bundle.IsComposed (convert left .usual).bundle
        (convert right .usual).bundle := by
  intro a b t whole left right
  have h : whole.IsSplit left right := ⟨.swap b a [], .refl _, rfl, rfl, rfl, rfl⟩
  have hv : DistinctKeys (eligibleServers whole) := by decide
  have ht : DistinctKeys (namedTransports whole) := by decide
  exact ⟨h, hv, ht, convert_isComposed .usual h hv ht⟩

end Conversion

end IngressGateway
