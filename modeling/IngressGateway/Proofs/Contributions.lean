import IngressGateway.Proofs.Shelves

/-!
What each server contributes to a conversion. The servers of a namespace share a gateway and a map of
sections, but a virtual server whose name is its own finds its own sections there. So if no two servers
share their namespace and their name, the objects of a conversion are the gateways and, one after another,
the objects that each server would lead to by itself.
-/

set_option autoImplicit false

namespace IngressGateway

namespace Conversion

open Backend (Extension)
open Gateway (Listener)
open Ingress (TransportServer TransportServerSpec VirtualServer VirtualServerSpec)
open Listeners (Sections)
open Routing (AssembledRoutes ConnectionRoute)

variable (c : Context)

def ownRoutes (vs : VirtualServer) : AssembledRoutes :=
  Routing.serverRoutes c.index c.settings vs (Listeners.siteSections c.ports c.settings vs)

def ownRecord? (vs : VirtualServer) : Option (ObjectKey × Extension) :=
  recordOf? vs.namespaceOf (ownRoutes c vs)

def ownConnection? (ts : TransportServer) : Option ConnectionRoute :=
  Routing.transportRoute? c.settings ts c.ports

/-- The sections that a virtual server finds among those of its namespace. -/
def foundSections (vss : List (Sourced VirtualServerSpec)) (vs : VirtualServer) : Sections :=
  ((SortedMap.ofList (vss.map fun s =>
    (s.2.anyName, Listeners.siteSections c.ports c.settings s.2))).get? vs.anyName).getD .none

/-- Every server stands in its namespace and carries the reference to it. -/
def Settled {σ : Type} [ResourceKind σ] (ns : String) (ss : List (Sourced σ)) : Prop :=
  ∀ s ∈ ss, s.1 = s.2.source ∧ s.2.namespaceOf = ns

theorem settled_serversIn {σ : Type} [ResourceKind σ] (ns : String) (rs : List (Resource σ)) :
    Settled ns (serversIn ns (rs.map sourced)) := by
  intro s hs
  obtain ⟨hmem, hns⟩ := mem_serversIn.1 hs
  obtain ⟨r, _, rfl⟩ := List.mem_map.1 hmem
  exact ⟨rfl, hns⟩

/-- With several servers of one name, the sections may be those of another one of them. -/
theorem exists_foundSections {vss : List (Sourced VirtualServerSpec)}
    {s : Sourced VirtualServerSpec} (h : s ∈ vss) :
    ∃ t ∈ vss, t.2.anyName = s.2.anyName ∧
      foundSections c vss s.2 = Listeners.siteSections c.ports c.settings t.2 := by
  let entries := vss.map fun s => (s.2.anyName, Listeners.siteSections c.ports c.settings s.2)
  have hkey : s.2.anyName ∈ (SortedMap.ofList entries).keys := by
    rw [SortedMap.mem_keys_ofList, List.map_map]
    exact List.mem_map.2 ⟨s, h, rfl⟩
  obtain ⟨sections, hs⟩ := SortedMap.mem_keys_iff.1 hkey
  obtain ⟨t, ht, he⟩ := List.mem_map.1 (SortedMap.mem_of_get?_ofList hs)
  obtain ⟨hname, hsec⟩ := Prod.mk.inj he
  refine ⟨t, ht, hname, ?_⟩
  change ((SortedMap.ofList entries).get? s.2.anyName).getD .none = _
  rw [hs, hsec]
  rfl

theorem foundSections_eq {vss : List (Sourced VirtualServerSpec)} {s : Sourced VirtualServerSpec}
    (hn : (vss.map fun s => s.2.anyName).Nodup) (h : s ∈ vss) :
    foundSections c vss s.2 = Listeners.siteSections c.ports c.settings s.2 := by
  obtain ⟨t, ht, hname, hsec⟩ := exists_foundSections c h
  rw [hsec, List.inj_on_of_nodup_map hn ht h hname]

theorem value_convertNamespace {ns : String} {servers : NamespaceServers}
    (hv : Settled ns servers.virtualServers) (ht : Settled ns servers.transportServers) :
    (convertNamespace c ns servers).value =
      ⟨(Listeners.synthesize ns servers.virtualServers servers.transportServers c.ports
          c.settings).value.gateway,
        servers.virtualServers.map fun s => some
          (Routing.serverRoutes c.index c.settings s.2 (foundSections c servers.virtualServers s.2)),
        servers.transportServers.map fun s => ownConnection? c s.2⟩ := by
  unfold convertNamespace
  simp only [Reported.value_bind, Reported.value_each, Reported.value_pure,
    Listeners.sections_synthesize]
  congr 1
  · refine List.map_congr_left fun s hs => ?_
    obtain ⟨hsource, hns⟩ := hv s hs
    subst hns
    rw [hsource]
    exact Routing.value_convertVirtualServer c.index c.settings s.2 _
  · refine List.map_congr_left fun s hs => ?_
    rw [(ht s hs).1]
    rfl

/-! ### The groups of a snapshot -/

variable (input : Snapshot) (settings : Settings)

def virtualServersIn (ns : String) : List (Sourced VirtualServerSpec) :=
  serversIn ns ((eligibleServers input).map sourced)

def transportServersIn (ns : String) : List (Sourced TransportServerSpec) :=
  serversIn ns ((namedTransports input).map sourced)

def groups : SortedMap String NamespaceServers := (groupByNamespace input).value

def resultIn (ns : String) : NamespaceResult :=
  (convertNamespace (contextOf input settings) ns
    ⟨virtualServersIn input ns, transportServersIn input ns⟩).value

theorem entries_groups :
    (groups input).entries = (groups input).keys.map fun ns =>
      (ns, ⟨virtualServersIn input ns, transportServersIn input ns⟩) := by
  rw [groups, value_groupByNamespace]
  exact entries_groupServers _ _

theorem mem_keys_groups {ns : String} :
    ns ∈ (groups input).keys ↔
      (∃ vs ∈ eligibleServers input, vs.namespaceOf = ns) ∨
        ∃ ts ∈ namedTransports input, ts.namespaceOf = ns := by
  rw [groups, value_groupByNamespace, mem_keys_groupServers, namespacesOf, List.mem_append]
  simp [sourced]

theorem results_eq :
    results input settings = (groups input).keys.map fun ns => (ns, resultIn input settings ns) := by
  change (groups input).entries.map _ = _
  rw [entries_groups, List.map_map]
  rfl

theorem mem_serversIn_sourced {σ : Type} [ResourceKind σ] {ns : String} {rs : List (Resource σ)}
    {s : Sourced σ} :
    s ∈ serversIn ns (rs.map sourced) ↔ s.2 ∈ rs ∧ s.2.namespaceOf = ns ∧ s = sourced s.2 := by
  rw [mem_serversIn, List.mem_map]
  constructor
  · rintro ⟨⟨r, hr, rfl⟩, hns⟩
    exact ⟨hr, hns, rfl⟩
  · rintro ⟨hr, hns, hs⟩
    exact ⟨⟨s.2, hr, hs.symm⟩, hns⟩

theorem mem_virtualServersIn {ns : String} {s : Sourced VirtualServerSpec} :
    s ∈ virtualServersIn input ns ↔
      s.2 ∈ eligibleServers input ∧ s.2.namespaceOf = ns ∧ s = sourced s.2 := mem_serversIn_sourced

theorem mem_transportServersIn {ns : String} {s : Sourced TransportServerSpec} :
    s ∈ transportServersIn input ns ↔
      s.2 ∈ namedTransports input ∧ s.2.namespaceOf = ns ∧ s = sourced s.2 := mem_serversIn_sourced

variable {input} in
theorem sourced_mem_virtualServersIn {vs : VirtualServer} (h : vs ∈ eligibleServers input) :
    sourced vs ∈ virtualServersIn input vs.namespaceOf :=
  (mem_virtualServersIn input).2 ⟨h, rfl, rfl⟩

theorem resultIn_eq (ns : String) :
    resultIn input settings ns =
      ⟨(Listeners.synthesize ns (virtualServersIn input ns) (transportServersIn input ns)
          (contextOf input settings).ports settings).value.gateway,
        (virtualServersIn input ns).map fun s => some
          (Routing.serverRoutes (contextOf input settings).index settings s.2
            (foundSections (contextOf input settings) (virtualServersIn input ns) s.2)),
        (transportServersIn input ns).map fun s =>
          ownConnection? (contextOf input settings) s.2⟩ :=
  value_convertNamespace (contextOf input settings) (settled_serversIn ns _) (settled_serversIn ns _)

theorem routes_resultIn (ns : String) :
    (resultIn input settings ns).routes.filterMap id =
      (virtualServersIn input ns).map fun s =>
        Routing.serverRoutes (contextOf input settings).index settings s.2
          (foundSections (contextOf input settings) (virtualServersIn input ns) s.2) := by
  rw [resultIn_eq, List.filterMap_map, ← List.filterMap_eq_map]
  rfl

theorem connections_resultIn (ns : String) :
    (resultIn input settings ns).connections.filterMap id =
      (transportServersIn input ns).filterMap fun s =>
        ownConnection? (contextOf input settings) s.2 := by
  rw [resultIn_eq, List.filterMap_map]
  rfl

theorem mem_allObjects {o : GeneratedObject} :
    o ∈ allObjects input settings ↔
      ∃ ns ∈ (groups input).keys, o ∈ namespaceObjects (resultIn input settings ns) := by
  rw [allObjects, results_eq, List.flatMap_map, List.mem_flatMap]

theorem mem_namespaceObjects {ns : String} {o : GeneratedObject} :
    o ∈ namespaceObjects (resultIn input settings ns) ↔
      (∃ g, (resultIn input settings ns).gateway = some g ∧ .gateway g = o) ∨
      (∃ s ∈ virtualServersIn input ns,
        o ∈ objectsOf (Routing.serverRoutes (contextOf input settings).index settings s.2
          (foundSections (contextOf input settings) (virtualServersIn input ns) s.2))) ∨
      ∃ s ∈ transportServersIn input ns, ∃ r,
        ownConnection? (contextOf input settings) s.2 = some r ∧ connectionObject r = o := by
  rw [namespaceObjects, routes_resultIn, connections_resultIn]
  simp only [List.mem_append, List.mem_map, List.mem_flatMap, List.mem_filterMap, Option.mem_toList,
    or_assoc]
  refine or_congr Iff.rfl (or_congr ?_ ?_)
  · constructor
    · rintro ⟨a, ⟨s, hs, rfl⟩, ho⟩
      exact ⟨s, hs, ho⟩
    · rintro ⟨s, hs, ho⟩
      exact ⟨_, ⟨s, hs, rfl⟩, ho⟩
  · constructor
    · rintro ⟨r, ⟨s, hs, hr⟩, ho⟩
      exact ⟨s, hs, r, hr, ho⟩
    · rintro ⟨s, hs, r, hr, ho⟩
      exact ⟨r, ⟨s, hs, hr⟩, ho⟩

/-! ### The gateway of a namespace -/

def requestsIn (ns : String) : List Listener :=
  Listeners.requests (contextOf input settings).ports settings (virtualServersIn input ns)
    (transportServersIn input ns)

variable {input settings} in
theorem mem_requestsIn_of_site {vs : VirtualServer} {l : Listener} (h : vs ∈ eligibleServers input)
    (hl : l ∈ Listeners.siteListeners (contextOf input settings).ports settings vs) :
    l ∈ requestsIn input settings vs.namespaceOf :=
  List.mem_append_left _ (List.mem_flatMap.2 ⟨_, sourced_mem_virtualServersIn h, hl⟩)

def sharedGateway (ns : String) : Gateway.Gateway :=
  Listeners.gatewayOf settings ns (virtualServersIn input ns) (transportServersIn input ns)
    (requestsIn input settings ns)

theorem gateway_resultIn (ns : String) :
    (resultIn input settings ns).gateway =
      if requestsIn input settings ns = [] then none else some (sharedGateway input settings ns) := by
  rw [resultIn_eq]
  exact Listeners.gateway_synthesize _ _ _ _ _

theorem mem_keys_groups_of_request {ns : String} (h : requestsIn input settings ns ≠ []) :
    ns ∈ (groups input).keys := by
  obtain ⟨l, hl⟩ := List.exists_mem_of_ne_nil _ h
  rw [mem_keys_groups]
  rcases List.mem_append.1 hl with hl | hl
  · obtain ⟨s, hs, _⟩ := List.mem_flatMap.1 hl
    obtain ⟨hvs, hns, _⟩ := (mem_virtualServersIn input).1 hs
    exact .inl ⟨s.2, hvs, hns⟩
  · obtain ⟨s, hs, _⟩ := List.mem_filterMap.1 hl
    obtain ⟨hts, hns, _⟩ := (mem_transportServersIn input).1 hs
    exact .inr ⟨s.2, hts, hns⟩

theorem gateway_mem_allObjects_iff {g : Gateway.Gateway} :
    .gateway g ∈ allObjects input settings ↔
      ∃ ns, requestsIn input settings ns ≠ [] ∧ g = sharedGateway input settings ns := by
  rw [mem_allObjects]
  constructor
  · rintro ⟨ns, _, ho⟩
    rcases (mem_namespaceObjects input settings).1 ho with ⟨g', hg, he⟩ | ⟨s, _, ho⟩ | ⟨s, _, r, _, he⟩
    · cases he
      rw [gateway_resultIn] at hg
      split at hg
      · cases hg
      · cases hg
        exact ⟨ns, ‹_›, rfl⟩
    · simp [objectsOf] at ho
    · cases r <;> cases he
  · rintro ⟨ns, hreq, rfl⟩
    refine ⟨ns, mem_keys_groups_of_request input settings hreq, ?_⟩
    refine (mem_namespaceObjects input settings).2 (.inl ⟨_, ?_, rfl⟩)
    rw [gateway_resultIn, if_neg hreq]

theorem get?_gateways_eq_some_iff {key : ObjectKey} {g : Gateway.Gateway} :
    (convert input settings).bundle.gateways.get? key = some g ↔
      ∃ ns, requestsIn input settings ns ≠ [] ∧ key = ⟨ns, GeneratedName.gateway ns⟩ ∧
        g = sharedGateway input settings ns := by
  have hmade : ∀ {key g}, (convert input settings).bundle.gateways.get? key = some g →
      ∃ ns, requestsIn input settings ns ≠ [] ∧ key = ⟨ns, GeneratedName.gateway ns⟩ ∧
        g = sharedGateway input settings ns := by
    intro key g h
    obtain ⟨hkey, o, ho, hpick⟩ := Shelf.gateways.exists_object_of_get? h
    cases o <;> cases hpick
    obtain ⟨ns, hreq, rfl⟩ := (gateway_mem_allObjects_iff input settings).1 ho
    exact ⟨ns, hreq, hkey.symm, rfl⟩
  refine ⟨hmade, ?_⟩
  rintro ⟨ns, hreq, rfl, rfl⟩
  have hkey : (⟨ns, GeneratedName.gateway ns⟩ : ObjectKey) ∈
      (convert input settings).bundle.gateways.keys :=
    Shelf.gateways.mem_keys_convert.2 ⟨.gateway (sharedGateway input settings ns),
      (gateway_mem_allObjects_iff input settings).2 ⟨ns, hreq, rfl⟩, _, rfl, rfl⟩
  obtain ⟨g, hg⟩ := SortedMap.mem_keys_iff.1 hkey
  obtain ⟨ns', _, hk, rfl⟩ := hmade hg
  rw [hg, (ObjectKey.mk.inj hk).1]

/-! ### The contributions to a shelf -/

theorem virtualServersIn_perm :
    ((groups input).keys.flatMap (virtualServersIn input)).Perm
      ((eligibleServers input).map sourced) := by
  have h := virtualServers_groupServers_perm ((eligibleServers input).map sourced)
    ((namedTransports input).map sourced)
  rwa [← value_groupByNamespace, ← groups, entries_groups, List.flatMap_map] at h

theorem transportServersIn_perm :
    ((groups input).keys.flatMap (transportServersIn input)).Perm
      ((namedTransports input).map sourced) := by
  have h := transportServers_groupServers_perm ((eligibleServers input).map sourced)
    ((namedTransports input).map sourced)
  rwa [← value_groupByNamespace, ← groups, entries_groups, List.flatMap_map] at h

variable {input}

theorem names_virtualServersIn_nodup (hd : Resource.DistinctKeys (eligibleServers input))
    (ns : String) : ((virtualServersIn input ns).map fun s => s.2.anyName).Nodup := by
  have hkeys : ((virtualServersIn input ns).map fun s => s.2.key).Nodup := by
    have hp := (serversIn_perm ns ((eligibleServers input).map sourced)).map fun s => s.2.key
    have hsub := (List.filter_sublist (p := fun s => decide (s.2.namespaceOf = ns))
      (l := (eligibleServers input).map sourced)).map fun s => s.2.key
    refine hp.nodup_iff.2 (List.Nodup.sublist hsub ?_)
    rw [List.map_map]
    exact hd
  have hmap : ((virtualServersIn input ns).map fun s => s.2.key) =
      ((virtualServersIn input ns).map fun s => s.2.anyName).map (ObjectKey.mk ns) := by
    rw [List.map_map]
    refine List.map_congr_left fun s hs => ?_
    have hns := ((mem_virtualServersIn input).1 hs).2.1
    rw [← hns]
    rfl
  rw [hmap] at hkeys
  exact List.Nodup.of_map _ hkeys

theorem allRecords_perm (hd : Resource.DistinctKeys (eligibleServers input)) :
    (allRecords input settings).Perm
      ((eligibleServers input).filterMap (ownRecord? (contextOf input settings))) := by
  let f := fun s : Sourced VirtualServerSpec => ownRecord? (contextOf input settings) s.2
  have hall : allRecords input settings =
      (groups input).keys.flatMap fun ns => (virtualServersIn input ns).filterMap f := by
    rw [allRecords, results_eq, List.flatMap_map]
    refine List.flatMap_congr fun ns _ => ?_
    rw [routes_resultIn, List.filterMap_map]
    refine List.filterMap_congr fun s hs => ?_
    have hns : s.2.namespaceOf = ns := ((mem_virtualServersIn input).1 hs).2.1
    subst hns
    rw [Function.comp_apply, foundSections_eq _ (names_virtualServersIn_nodup hd _) hs]
    rfl
  have h := (virtualServersIn_perm input).filterMap f
  rwa [List.filterMap_flatMap, ← hall, List.filterMap_map] at h

end Conversion

namespace Shelf

open Conversion
open Routing (AssembledRoutes ConnectionRoute)

variable {σ : Type} (s : Shelf σ)

def fromServer (a : AssembledRoutes) : List (Resource σ) := (objectsOf a).filterMap s.pick?

def fromConnection? (r : ConnectionRoute) : Option (Resource σ) := s.pick? (connectionObject r)

/-- What the servers of a snapshot contribute to the shelf, each by itself. -/
def contributions (input : Snapshot) (settings : Settings) : List (Resource σ) :=
  ((eligibleServers input).flatMap fun vs =>
    s.fromServer (ownRoutes (contextOf input settings) vs)) ++
  (namedTransports input).filterMap fun ts =>
    (ownConnection? (contextOf input settings) ts).bind s.fromConnection?

variable {input : Snapshot} (settings : Settings)

theorem filterMap_namespaceObjects (ns : String) (hg : ∀ g, s.pick? (.gateway g) = none)
    (hd : Resource.DistinctKeys (eligibleServers input)) :
    (namespaceObjects (resultIn input settings ns)).filterMap s.pick? =
      ((virtualServersIn input ns).flatMap fun v =>
        s.fromServer (ownRoutes (contextOf input settings) v.2)) ++
      (transportServersIn input ns).filterMap fun t =>
        (ownConnection? (contextOf input settings) t.2).bind s.fromConnection? := by
  rw [namespaceObjects, routes_resultIn, connections_resultIn, List.filterMap_append,
    List.filterMap_append, List.filterMap_map, List.filterMap_map, List.filterMap_filterMap,
    List.flatMap_map, List.filterMap_flatMap]
  have hgateway : (resultIn input settings ns).gateway.toList.filterMap (s.pick? ∘ .gateway) = [] :=
    List.filterMap_eq_nil_iff.2 fun g _ => hg g
  rw [hgateway, List.nil_append]
  congr 1
  -- Distinct names make each server find its own sections.
  refine List.flatMap_congr fun v hv => ?_
  rw [foundSections_eq _ (names_virtualServersIn_nodup hd ns) hv]
  rfl

/-- The objects of a shelf come from the servers one by one; only their order is another one. -/
theorem filterMap_allObjects_perm (hg : ∀ g, s.pick? (.gateway g) = none)
    (hd : Resource.DistinctKeys (eligibleServers input)) :
    ((allObjects input settings).filterMap s.pick?).Perm (s.contributions input settings) := by
  let f := fun v : Sourced Ingress.VirtualServerSpec =>
    s.fromServer (ownRoutes (contextOf input settings) v.2)
  let g := fun t : Sourced Ingress.TransportServerSpec =>
    (ownConnection? (contextOf input settings) t.2).bind s.fromConnection?
  have hall : (allObjects input settings).filterMap s.pick? =
      (groups input).keys.flatMap fun ns =>
        (virtualServersIn input ns).flatMap f ++ (transportServersIn input ns).filterMap g := by
    rw [allObjects, results_eq, List.flatMap_map, List.filterMap_flatMap]
    exact List.flatMap_congr fun ns _ => s.filterMap_namespaceObjects settings ns hg hd
  have hservers : ((groups input).keys.flatMap fun ns => (virtualServersIn input ns).flatMap f).Perm
      ((eligibleServers input).flatMap fun vs => f (sourced vs)) := by
    have h := (virtualServersIn_perm input).flatMap_right f
    rwa [List.flatMap_assoc, List.flatMap_map] at h
  have hconnections : ((groups input).keys.flatMap fun ns =>
      (transportServersIn input ns).filterMap g).Perm
      ((namedTransports input).filterMap fun ts => g (sourced ts)) := by
    have h := (transportServersIn_perm input).filterMap g
    rwa [List.filterMap_flatMap, List.filterMap_map] at h
  rw [hall]
  exact (List.flatMap_append_perm _ _ _).symm.trans (hservers.append hconnections)

/-- Distinct contributions all stay, and nothing else is stored. -/
theorem entries_perm_contributions (hg : ∀ g, s.pick? (.gateway g) = none)
    (hd : Resource.DistinctKeys (eligibleServers input))
    (hn : ((s.contributions input settings).map Resource.key).Nodup) :
    (s.store (convert input settings).bundle).entries.Perm
      ((s.contributions input settings).map fun r => (r.key, r)) := by
  have hp := s.filterMap_allObjects_perm settings hg hd
  exact (s.entries_convert_perm ((hp.map Resource.key).nodup_iff.2 hn)).trans (hp.map _)

end Shelf

end IngressGateway
