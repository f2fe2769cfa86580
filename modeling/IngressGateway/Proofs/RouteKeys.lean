import IngressGateway.Proofs.Contributions

/-!
The keys of routes. Which routes a server leads to, and under which keys, shows in the server and in what it
refers to. The keys are made from the namespace and the name of the server, with an ending for each purpose,
so servers that do not share both never compete for a key.
-/

set_option autoImplicit false

namespace IngressGateway

open Backend (Extension)
open Ingress (TransportServer VirtualServer)

namespace Resource

variable {σ : Type}

/-- A key in the namespace of a resource: its own name with an ending. -/
def keyWith (ending : String) (r : Resource σ) : ObjectKey := ⟨r.namespaceOf, r.anyName ++ ending⟩

theorem key_eq_of_keyWith {ending : String} {r s : Resource σ} (h : r.keyWith ending = s.keyWith ending) :
    r.key = s.key := by
  obtain ⟨hns, hname⟩ := ObjectKey.mk.inj h
  exact key_eq_iff.2 ⟨hns, (String.append_left_inj ending).1 hname⟩

theorem keyWith_ne {ending ending' : String} (h : ∀ a b : String, a ++ ending ≠ b ++ ending')
    (r s : Resource σ) : r.keyWith ending ≠ s.keyWith ending' :=
  fun he => h _ _ (ObjectKey.mk.inj he).2

theorem DistinctKeys.nodup_keyWith {rs : List (Resource σ)} (h : DistinctKeys rs) (ending : String) :
    (rs.map (keyWith ending)).Nodup := by
  unfold DistinctKeys at h
  rw [List.Nodup, List.pairwise_map] at *
  exact h.imp fun hne he => hne (key_eq_of_keyWith he)

end Resource

open Listeners (ConnectionProtocol)
open Resource (keyWith)

/-! ### What a server calls for -/

namespace Routing

def hasPlainRule (index : RouteIndex) (vs : VirtualServer) : Bool :=
  (serverDrafts index vs).any fun d => !d.isGrpc

def hasGrpcRule (index : RouteIndex) (vs : VirtualServer) : Bool :=
  (serverDrafts index vs).any RuleDraft.isGrpc

/-- Whether plain requests for a virtual server are sent on to its encrypted site. -/
def hasRedirect (vs : VirtualServer) : Bool :=
  vs.spec.tlsSecret?.isSome && vs.spec.tlsRedirect?.isSome

variable (index : RouteIndex) (vs : VirtualServer)

theorem httpRules_eq_nil_iff : httpRules index vs = [] ↔ hasPlainRule index vs = false := by
  rw [httpRules, List.map_eq_nil_iff, List.filter_eq_nil_iff, hasPlainRule, List.any_eq_false]

theorem grpcRules_eq_nil_iff : grpcRules index vs = [] ↔ hasGrpcRule index vs = false := by
  rw [grpcRules, List.map_eq_nil_iff, List.filter_eq_nil_iff, hasGrpcRule, List.any_eq_false]

end Routing

namespace Listeners

def speaks (ports : NamedPorts) (p : ConnectionProtocol) (ts : TransportServer) : Bool :=
  (connectionListener ts ports).toOption.any fun l => l.protocol = p

variable (ports : NamedPorts) (settings : Settings) (vs : VirtualServer)

theorem isSome_http_siteSections :
    (siteSections ports settings vs).http.isSome =
      (vs.spec.tlsSecret?.isNone || vs.spec.tlsRedirect?.isSome) := by
  rw [siteSections, Option.isSome_map, httpListener?, redirects]
  cases vs.spec.tlsSecret?.isNone || vs.spec.tlsRedirect?.isSome <;> rfl

theorem isSome_https_siteSections :
    (siteSections ports settings vs).https.isSome = vs.spec.tlsSecret?.isSome := by
  rw [siteSections, Option.isSome_map, httpsListener?, Option.isSome_map]

end Listeners

/-! ### The keys of what a server leads to -/

namespace Conversion

variable (c : Context) (vs : VirtualServer)

theorem keys_unless_nil {β σ : Type} {rules : List β} {p : Bool} (r : Resource σ)
    (h : rules = [] ↔ p = false) :
    (if rules = [] then none else some r).toList.map Resource.key = if p then [r.key] else [] := by
  cases p with
  | false =>
    rw [if_pos (h.2 rfl)]
    rfl
  | true =>
    rw [if_neg fun he => Bool.noConfusion (h.1 he)]
    rfl

theorem keys_httpRoute_ownRoutes :
    (ownRoutes c vs).httpRoute.toList.map Resource.key =
      if Routing.hasPlainRule c.index vs then [vs.keyWith "-httproute"] else [] := by
  rw [ownRoutes, Routing.httpRoute_serverRoutes]
  exact keys_unless_nil _ (Routing.httpRules_eq_nil_iff c.index vs)

theorem keys_grpcRoute_ownRoutes :
    (ownRoutes c vs).grpcRoute.toList.map Resource.key =
      if Routing.hasGrpcRule c.index vs then [vs.keyWith "-grpcroute"] else [] := by
  rw [ownRoutes, Routing.grpcRoute_serverRoutes]
  exact keys_unless_nil _ (Routing.grpcRules_eq_nil_iff c.index vs)

/-- A redirect needs both listeners; with a certificate and a redirect there are both. -/
theorem keys_redirectRoute_ownRoutes :
    (ownRoutes c vs).redirectRoute.toList.map Resource.key =
      if Routing.hasRedirect vs then [vs.keyWith "-redirect"] else [] := by
  have hhttp := Listeners.isSome_http_siteSections c.ports c.settings vs
  have hhttps := Listeners.isSome_https_siteSections c.ports c.settings vs
  rw [ownRoutes, Routing.redirectRoute_serverRoutes, Routing.hasRedirect]
  revert hhttp hhttps
  cases vs.spec.tlsRedirect? with
  | none => simp
  | some redirect =>
    cases vs.spec.tlsSecret? with
    | none =>
      intro _ hhttps
      rw [Option.isSome_none, Option.isSome_eq_false_iff, Option.isNone_iff_eq_none] at hhttps
      rw [hhttps]
      cases (Listeners.siteSections c.ports c.settings vs).http <;> rfl
    | some secret =>
      intro hhttp hhttps
      obtain ⟨http, hhttp⟩ := Option.isSome_iff_exists.1 hhttp
      obtain ⟨https, hhttps⟩ := Option.isSome_iff_exists.1 hhttps
      rw [hhttp, hhttps]
      rfl

end Conversion

/-! ### All keys of a kind -/

namespace Conversion

variable (input : Snapshot) (settings : Settings)

def httpRouteKeys : List ObjectKey :=
  ((eligibleServers input).filter Routing.hasRedirect).map (keyWith "-redirect") ++
    ((eligibleServers input).filter (Routing.hasPlainRule (contextOf input settings).index)).map
      (keyWith "-httproute")

def grpcRouteKeys : List ObjectKey :=
  ((eligibleServers input).filter (Routing.hasGrpcRule (contextOf input settings).index)).map
    (keyWith "-grpcroute")

def connectionRouteKeys (p : ConnectionProtocol) : List ObjectKey :=
  ((namedTransports input).filter (Listeners.speaks (contextOf input settings).ports p)).map
    (keyWith (GeneratedName.connectionEnding p))

variable {input}

theorem httpRouteKeys_nodup (hd : Resource.DistinctKeys (eligibleServers input)) :
    (httpRouteKeys input settings).Nodup := by
  rw [httpRouteKeys, List.nodup_append']
  refine ⟨(hd.sublist List.filter_sublist).nodup_keyWith _, (hd.sublist List.filter_sublist).nodup_keyWith _, ?_⟩
  intro key hredirect hplain
  obtain ⟨r, _, rfl⟩ := List.mem_map.1 hredirect
  obtain ⟨s, _, he⟩ := List.mem_map.1 hplain
  exact Resource.keyWith_ne GeneratedName.httpRoute_ne_redirectRoute s r he

theorem grpcRouteKeys_nodup (hd : Resource.DistinctKeys (eligibleServers input)) :
    (grpcRouteKeys input settings).Nodup :=
  (hd.sublist List.filter_sublist).nodup_keyWith _

theorem connectionRouteKeys_nodup (hd : Resource.DistinctKeys (namedTransports input))
    (p : ConnectionProtocol) : (connectionRouteKeys input settings p).Nodup :=
  (hd.sublist List.filter_sublist).nodup_keyWith _

section

variable {index : Routing.RouteIndex} {settings : Settings} {vs vs' : VirtualServer}
  {sections sections' : Listeners.Sections} {record record' : ObjectKey × Extension}

theorem key_of_recordOf?
    (h : recordOf? vs.namespaceOf (Routing.serverRoutes index settings vs sections) = some record) :
    record.1 = vs.keyWith "-httproute" ∨ record.1 = vs.keyWith "-grpcroute" := by
  obtain ⟨key, hkey, hrecord⟩ := Option.bind_eq_some_iff.1 h
  have hfst : record.1 = key := by
    split at hrecord
    · cases hrecord
    · cases hrecord
      rfl
  rw [hfst]
  rw [extensionKey?, Routing.httpRoute_serverRoutes, Routing.grpcRoute_serverRoutes] at hkey
  split at hkey
  · split at hkey
    · cases hkey
    · cases hkey
      exact .inr rfl
  · cases hkey
    exact .inl rfl

/-- Two HTTP routes or two gRPC routes of one key are of one server; one of each have different endings. -/
theorem key_eq_of_recordOf?
    (h : recordOf? vs.namespaceOf (Routing.serverRoutes index settings vs sections) = some record)
    (h' : recordOf? vs'.namespaceOf (Routing.serverRoutes index settings vs' sections') = some record')
    (hkey : record.1 = record'.1) : vs.key = vs'.key := by
  rcases key_of_recordOf? h with hk | hk <;> rcases key_of_recordOf? h' with hk' | hk'
  · rw [hk, hk'] at hkey
    exact Resource.key_eq_of_keyWith hkey
  · rw [hk, hk'] at hkey
    exact absurd hkey (Resource.keyWith_ne GeneratedName.httpRoute_ne_grpcRoute _ _)
  · rw [hk, hk'] at hkey
    exact absurd hkey.symm (Resource.keyWith_ne GeneratedName.httpRoute_ne_grpcRoute _ _)
  · rw [hk, hk'] at hkey
    exact Resource.key_eq_of_keyWith hkey

end

theorem ownRecords_nodup (hd : Resource.DistinctKeys (eligibleServers input)) (c : Context) :
    (((eligibleServers input).filterMap (ownRecord? c)).map Prod.fst).Nodup := by
  rw [List.Nodup, List.pairwise_map]
  refine List.Pairwise.filterMap _ (fun vs vs' hne e he e' he' heq => ?_) (List.pairwise_map.1 hd)
  exact hne (key_eq_of_recordOf? he he' heq)

end Conversion

namespace Shelf

open Conversion
open Routing (AssembledRoutes)

section

variable (a : AssembledRoutes)

theorem fromServer_eq {σ : Type} (s : Shelf σ) :
    s.fromServer a =
      a.redirectRoute.toList.filterMap (fun r => s.pick? (.httpRoute r)) ++
        a.httpRoute.toList.filterMap (fun r => s.pick? (.httpRoute r)) ++
        a.grpcRoute.toList.filterMap (fun r => s.pick? (.grpcRoute r)) ++
        a.policies.filterMap fun r => s.pick? (.policy r) := by
  simp only [fromServer, objectsOf, List.filterMap_append, List.filterMap_map, Function.comp_def]

theorem fromServer_httpRoutes :
    httpRoutes.fromServer a = a.redirectRoute.toList ++ a.httpRoute.toList := by
  simp [fromServer_eq, httpRoutes]

theorem fromServer_grpcRoutes : grpcRoutes.fromServer a = a.grpcRoute.toList := by
  simp [fromServer_eq, grpcRoutes]

end

variable (input : Snapshot) (settings : Settings)

theorem contributions_of_servers {σ : Type} {s : Shelf σ} (hs : ∀ r, s.fromConnection? r = none) :
    s.contributions input settings = (eligibleServers input).flatMap fun vs =>
      s.fromServer (ownRoutes (contextOf input settings) vs) := by
  have hnone : ((namedTransports input).filterMap fun ts =>
      (ownConnection? (contextOf input settings) ts).bind s.fromConnection?) = [] := by
    refine List.filterMap_eq_nil_iff.2 fun ts _ => ?_
    rw [Option.bind_eq_none_iff]
    exact fun r _ => hs r
  rw [contributions, hnone, List.append_nil]

theorem keys_httpRoutes_contributions :
    ((httpRoutes.contributions input settings).map Resource.key).Perm
      (httpRouteKeys input settings) := by
  rw [contributions_of_servers input settings fun r => by cases r <;> rfl, List.map_flatMap]
  simp only [fromServer_httpRoutes, List.map_append, keys_redirectRoute_ownRoutes,
    keys_httpRoute_ownRoutes]
  rw [httpRouteKeys, ← flatMap_if, ← flatMap_if]
  exact (List.flatMap_append_perm _ _ _).symm

theorem keys_grpcRoutes_contributions :
    (grpcRoutes.contributions input settings).map Resource.key = grpcRouteKeys input settings := by
  rw [contributions_of_servers input settings fun r => by cases r <;> rfl, List.map_flatMap]
  simp only [fromServer_grpcRoutes, keys_grpcRoute_ownRoutes]
  exact flatMap_if _ _ _

variable {σ : Type} {s : Shelf σ} {p : ConnectionProtocol}

variable {input} in
theorem keys_convert_perm (hg : ∀ g, s.pick? (.gateway g) = none)
    (hd : Resource.DistinctKeys (eligibleServers input)) {ks : List ObjectKey}
    (hp : ((s.contributions input settings).map Resource.key).Perm ks) (hn : ks.Nodup) :
    (s.store (convert input settings).bundle).keys.Perm ks := by
  have h := (s.entries_perm_contributions settings hg hd (hp.nodup_iff.2 hn)).map Prod.fst
  rw [List.map_map] at h
  exact h.trans hp

theorem key_connectionRoute (ts : TransportServer) (p : ConnectionProtocol) :
    (⟨ts.namespaceOf, GeneratedName.connectionRoute ts.anyName p.listenerProtocol⟩ : ObjectKey) =
      ts.keyWith (GeneratedName.connectionEnding p) := by
  rw [GeneratedName.connectionRoute_eq]
  rfl

/-- A shelf for the routes of the transport servers that speak one protocol. -/
structure IsFor (s : Shelf σ) (p : ConnectionProtocol) : Prop where
  fromServer : ∀ a, s.fromServer a = []
  fromConnection : ∀ l ts settings backends,
    (s.fromConnection? (Routing.connectionRouteFor l ts settings backends)).map Resource.key =
      if l.protocol = p then
        some (ts.keyWith (GeneratedName.connectionEnding p)) else none

theorem isFor_tcpRoutes : tcpRoutes.IsFor .tcp where
  fromServer a := by simp [fromServer_eq, tcpRoutes]
  fromConnection l ts settings backends := by
    rw [← key_connectionRoute]
    unfold Routing.connectionRouteFor
    cases l.protocol <;> rfl

theorem isFor_tlsRoutes : tlsRoutes.IsFor .tlsPassthrough where
  fromServer a := by simp [fromServer_eq, tlsRoutes]
  fromConnection l ts settings backends := by
    rw [← key_connectionRoute]
    unfold Routing.connectionRouteFor
    cases l.protocol <;> rfl

theorem isFor_udpRoutes : udpRoutes.IsFor .udp where
  fromServer a := by simp [fromServer_eq, udpRoutes]
  fromConnection l ts settings backends := by
    rw [← key_connectionRoute]
    unfold Routing.connectionRouteFor
    cases l.protocol <;> rfl

theorem IsFor.key_ownConnection? (h : s.IsFor p) (c : Context) (ts : TransportServer) :
    ((ownConnection? c ts).bind s.fromConnection?).map Resource.key =
      if Listeners.speaks c.ports p ts then
        some (ts.keyWith (GeneratedName.connectionEnding p)) else none := by
  rw [ownConnection?, Routing.transportRoute?_eq, Listeners.speaks]
  cases (Listeners.connectionListener ts c.ports).toOption with
  | none => rfl
  | some l => simpa using h.fromConnection l ts c.settings _

theorem IsFor.keys_contributions (h : s.IsFor p) :
    (s.contributions input settings).map Resource.key = connectionRouteKeys input settings p := by
  have hnil : ((eligibleServers input).flatMap fun vs =>
      s.fromServer (ownRoutes (contextOf input settings) vs)) = [] :=
    List.flatMap_eq_nil_iff.2 fun vs _ => h.fromServer _
  rw [contributions, hnil, List.nil_append, List.map_filterMap, connectionRouteKeys, ← filterMap_if]
  exact List.filterMap_congr fun ts _ => h.key_ownConnection? (contextOf input settings) ts

end Shelf

end IngressGateway
