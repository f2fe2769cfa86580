import IngressGateway.Proofs.Catalogs
import IngressGateway.Proofs.PolicyNames
import IngressGateway.Proofs.SecureRedirects

/-!
Recorded settings of upstreams. One record serves a virtual server and all resources that it refers to, and it
holds settings by the name of the upstream; but a name is unique within one owner only. Of several owners that
have settings for upstreams of one name, the first one counts: the virtual server, then the others in the
order of their references.
-/

set_option autoImplicit false

namespace IngressGateway

namespace Backend

open Ingress (Upstream)

/-- The settings that an owner has for its upstream of that name. -/
def Catalog.tuning? (name : String) (c : Catalog) : Option Tuning :=
  (c.get? name).bind Tuning.ofUpstream?

/-- Every upstream stands under its own name. -/
def Catalog.IsKeyed (c : Catalog) : Prop := ∀ name u, c.get? name = some u → u.name = name

theorem Catalog.isKeyed_build (us : List Upstream) (ns : String) (owner : ObjectRef) :
    (Catalog.build us ns owner).value.IsKeyed := by
  intro name u hu
  rw [Catalog.get?_build] at hu
  exact name_of_firstUsable? hu

namespace Catalog.IsKeyed

variable {c : Catalog} (h : c.IsKeyed)
include h

theorem get?_of_mem {u : Upstream} (hu : u ∈ c.toList) : c.get? u.name = some u := by
  obtain ⟨name, hname⟩ := SortedMap.mem_values_iff.1 hu
  rw [h name u hname]
  exact hname

/-- Each upstream with settings has one entry, under its name. -/
theorem get?_extension (name : String) : c.extension.upstreams.get? name = c.tuning? name := by
  let entries := c.toList.filterMap fun u => (Tuning.ofUpstream? u).map fun t => (u.name, t)
  have hmem : ∀ t, (name, t) ∈ entries ↔ c.tuning? name = some t := by
    intro t
    rw [List.mem_filterMap, tuning?, Option.bind_eq_some_iff]
    constructor
    · rintro ⟨u, hu, he⟩
      obtain ⟨t', ht, he⟩ := Option.map_eq_some_iff.1 he
      cases he
      exact ⟨u, h.get?_of_mem hu, ht⟩
    · rintro ⟨u, hu, ht⟩
      refine ⟨u, SortedMap.mem_values_iff.2 ⟨name, hu⟩, ?_⟩
      rw [ht, Option.map_some, h name u hu]
  apply Option.ext
  intro t
  change (SortedMap.ofList entries).get? name = some t ↔ _
  constructor
  · exact fun ht => (hmem t).1 (SortedMap.mem_of_get?_ofList ht)
  · intro ht
    refine SortedMap.get?_insertMany_of_mem ((hmem t).2 ht) fun t' ht' => ?_
    exact Option.some.inj (((hmem t').1 ht').symm.trans ht)

end Catalog.IsKeyed

theorem Extension.get?_orElse (e f : Extension) (name : String) :
    (e.orElse f).upstreams.get? name = (e.upstreams.get? name <|> f.upstreams.get? name) := by
  refine (SortedMap.get?_foldl_insertIfNew Prod.fst Prod.snd _ _ name).trans ?_
  rw [SortedMap.map_find?_entries]

end Backend

namespace Routing

open Backend (Catalog Extension)

theorem get?_foldl_orElse {cs : List Catalog} (h : ∀ c ∈ cs, c.IsKeyed) (e : Extension)
    (name : String) :
    (cs.foldl (fun e c => e.orElse c.extension) e).upstreams.get? name =
      (e.upstreams.get? name <|> cs.findSome? (Catalog.tuning? name)) := by
  induction cs generalizing e with
  | nil => cases h : e.upstreams.get? name <;> simp [h]
  | cons c cs ih =>
    rw [List.foldl_cons, ih fun c' hc' => h c' (List.mem_cons_of_mem _ hc'),
      Backend.Extension.get?_orElse, (h c List.mem_cons_self).get?_extension, List.findSome?_cons]
    cases e.upstreams.get? name <;> cases c.tuning? name <;> rfl

/-- Under a name stand the settings of the first owner that has any. -/
theorem get?_assembledExtension {own : Catalog} {others : OwnerCatalogs}
    (h : ∀ c ∈ own :: others.values, c.IsKeyed) (name : String) :
    (assembledExtension own others).upstreams.get? name =
      (own :: others.values).findSome? (Catalog.tuning? name) := by
  rw [assembledExtension, get?_foldl_orElse fun c hc => h c (List.mem_cons_of_mem _ hc),
    (h own List.mem_cons_self).get?_extension, List.findSome?_cons]
  cases own.tuning? name <;> rfl

end Routing

namespace Conversion

open Backend (Catalog Extension Tuning)
open Ingress (Upstream VirtualServer VirtualServerRoute)
open Routing (AssembledRoutes)

variable {input : Snapshot} {settings : Settings} {vs : VirtualServer}

/-! ### Records of a conversion -/

/-- The key of the HTTP route, or of the gRPC route where there is no HTTP route. -/
def routeKey? (a : AssembledRoutes) : Option ObjectKey :=
  a.httpRoute.map Resource.key <|> a.grpcRoute.map Resource.key

theorem isKeyed_of_mem_catalogsOf {c : Catalog} (h : c ∈ catalogsOf input vs) : c.IsKeyed := by
  rcases (mem_catalogsOf_iff input).1 h with rfl | ⟨_, _, _, _, _, rfl⟩
  · exact Catalog.isKeyed_build _ _ _
  · exact Catalog.isKeyed_build _ _ _

theorem get?_extension_routesFor (name : String) :
    (routesFor input settings vs).extension.upstreams.get? name =
      (catalogsOf input vs).findSome? (Catalog.tuning? name) := by
  rw [routesFor, Routing.extension_serverRoutes]
  exact Routing.get?_assembledExtension (fun _ => isKeyed_of_mem_catalogsOf) name

/-- The routes of a server name its namespace, so nothing has to stand in for it. -/
theorem extensionKey?_routesFor :
    extensionKey? (routesFor input settings vs) vs.namespaceOf =
      routeKey? (routesFor input settings vs) := by
  rw [extensionKey?, routeKey?, routesFor, Routing.httpRoute_serverRoutes,
    Routing.grpcRoute_serverRoutes]
  split <;> split <;> rfl

theorem mem_allRecords {record : ObjectKey × Extension} :
    record ∈ allRecords input settings ↔ ∃ vs ∈ eligibleServers input,
      recordOf? vs.namespaceOf (routesFor input settings vs) = some record := by
  rw [allRecords, results_eq, List.flatMap_map, List.mem_flatMap]
  simp only [routes_resultIn, List.filterMap_map, List.mem_filterMap]
  constructor
  · rintro ⟨ns, _, s, hs, hrecord⟩
    obtain ⟨hvs, rfl, _⟩ := (mem_virtualServersIn input).1 hs
    exact ⟨s.2, hvs, hrecord⟩
  · rintro ⟨vs, hvs, hrecord⟩
    exact ⟨vs.namespaceOf, (mem_keys_groups input).2 (.inl ⟨vs, hvs, rfl⟩), sourced vs,
      sourced_mem_virtualServersIn hvs, hrecord⟩

/-- Only servers of one key compete for a record. -/
theorem get?_extensions (hvs : vs ∈ eligibleServers input)
    (hunique : ∀ vs' ∈ eligibleServers input, vs'.key = vs.key → vs' = vs)
    {key : ObjectKey} {x : Extension}
    (h : recordOf? vs.namespaceOf (routesFor input settings vs) = some (key, x)) :
    (convert input settings).bundle.extensions.get? key = some x := by
  rw [extensions_convert]
  refine SortedMap.get?_insertMany_of_mem (mem_allRecords.2 ⟨vs, hvs, h⟩) fun x' hx' => ?_
  obtain ⟨vs', hvs', h'⟩ := mem_allRecords.1 hx'
  have hsame := hunique vs' hvs' (key_eq_of_recordOf? h' h rfl)
  subst hsame
  rw [h] at h'
  cases h'
  rfl

/-! ### What is kept -/

/-- The bundle records these settings under the key of a route and the name of an upstream. -/
def HoldsRecord (b : Bundle) (key : ObjectKey) (name : String) (t : Tuning) : Prop :=
  ∃ x, b.extensions.get? key = some x ∧ x.upstreams.get? name = some t

variable (input settings) in
/-- A virtual server of its own name leads to a route of that key. -/
structure LeadsToKey (vs : VirtualServer) (key : ObjectKey) : Prop where
  unique : ∀ vs' ∈ eligibleServers input, vs'.key = vs.key → vs' = vs
  routed : ∃ a, (vs, some a) ∈ assembled input settings ∧ routeKey? a = some key

theorem holdsRecord_of_first {key : ObjectKey} (h : LeadsToKey input settings vs key) {name : String}
    {t : Tuning} (ht : (catalogsOf input vs).findSome? (Catalog.tuning? name) = some t) :
    HoldsRecord (convert input settings).bundle key name t := by
  obtain ⟨a, ha, hkey⟩ := h.routed
  obtain ⟨hvs, ha⟩ := (mem_assembled input settings).1 ha
  cases ha
  have hheld : (routesFor input settings vs).extension.upstreams.get? name = some t := by
    rw [get?_extension_routesFor, ht]
  have hnonempty : (routesFor input settings vs).extension.isEmpty = false := by
    rw [Bool.eq_false_iff]
    intro hempty
    have hentries := SortedMap.get?_eq_some_iff.1 hheld
    rw [List.isEmpty_iff.1 hempty] at hentries
    cases hentries
  refine ⟨_, get?_extensions hvs h.unique ?_, hheld⟩
  rw [recordOf?, extensionKey?_routesFor, hkey, Option.bind_some, if_neg (by rw [hnonempty]; decide)]

theorem tuning?_of_mem {c : Catalog} (hc : c ∈ catalogsOf input vs) {u : Upstream} (hu : u ∈ c.toList) :
    c.tuning? u.name = Tuning.ofUpstream? u := by
  rw [Catalog.tuning?, (isKeyed_of_mem_catalogsOf hc).get?_of_mem hu, Option.bind_some]

variable (input settings)

/-- Every upstream of a server or of a resource that it refers to has its settings recorded. -/
def RecordsAll (b : Bundle) : Prop :=
  ∀ vs key, LeadsToKey input settings vs key → ∀ c, Provides input vs c → ∀ u ∈ c.toList, ∀ t,
    Tuning.ofUpstream? u = some t → HoldsRecord b key u.name t

/-- Under the name of every upstream with settings, those of the first owner that has any are recorded. So an
upstream keeps its settings unless an owner before its own has some for that name. -/
structure RecordsFirst (b : Bundle) : Prop where
  first : ∀ vs key, LeadsToKey input settings vs key → ∀ c, Provides input vs c → ∀ u ∈ c.toList,
    (Tuning.ofUpstream? u).isSome = true →
    ∃ t, (catalogsOf input vs).findSome? (Catalog.tuning? u.name) = some t ∧
      HoldsRecord b key u.name t
  kept : ∀ vs key, LeadsToKey input settings vs key → ∀ before c after,
    catalogsOf input vs = before ++ c :: after → ∀ u ∈ c.toList, ∀ t, Tuning.ofUpstream? u = some t →
    (∀ c' ∈ before, c'.tuning? u.name = none) → HoldsRecord b key u.name t

theorem recordsFirst_convert :
    RecordsFirst input settings (convert input settings).bundle where
  first vs key h c hc u hu ht := by
    have hmem := (mem_catalogsOf_iff input).2 hc
    have hfound : ((catalogsOf input vs).findSome? (Catalog.tuning? u.name)).isSome = true := by
      rw [List.findSome?_isSome_iff]
      exact ⟨c, hmem, by rwa [tuning?_of_mem hmem hu]⟩
    obtain ⟨t, hfirst⟩ := Option.isSome_iff_exists.1 hfound
    exact ⟨t, hfirst, holdsRecord_of_first h hfirst⟩
  kept vs key h before c after hcs u hu t ht hbefore := by
    have hmem : c ∈ catalogsOf input vs := hcs ▸ List.mem_append_right before List.mem_cons_self
    refine holdsRecord_of_first h ?_
    rw [hcs, List.findSome?_append, List.findSome?_eq_none_iff.2 hbefore, Option.none_or,
      List.findSome?_cons, tuning?_of_mem hmem hu, ht]

/-- A virtual server and the resource that it refers to have an upstream of one name, with different settings. -/
theorem not_recordsAll_shared :
    let tea := simpleUpstream "tea" "tea-svc" none none
    let first : Upstream := { tea with lbMethod := some "ip_hash" }
    let second : Upstream := { tea with lbMethod := some "round_robin" }
    let vs := referringServer "shop" "cafe" "cafe.example" "tea"
    let cafe : VirtualServer := { vs with spec := { vs.spec with upstreams := [first] } }
    let shared : VirtualServerRoute :=
      ⟨⟨some "tea", some "shop", none, none, none⟩, none, "cafe.example", [second],
        [⟨"/tea", none, some ⟨some "tea", none, none, none⟩, [], [], [], [], ""⟩]⟩
    let input : Snapshot := ⟨[cafe], [shared], [], none⟩
    ¬ RecordsAll input .usual (convert input .usual).bundle := by
  intro tea first second vs cafe shared input h
  have heligible : cafe ∈ eligibleServers input :=
    List.mem_filter.2 ⟨List.mem_singleton_self cafe, rfl⟩
  have hleads : LeadsToKey input .usual cafe ⟨"shop", "cafe-httproute"⟩ := by
    refine ⟨fun vs' hvs' _ => ?_, routesFor input .usual cafe, ?_, by decide⟩
    · exact List.mem_singleton.1 (List.mem_filter.1 hvs').1
    · exact (mem_assembled input .usual).2 ⟨heligible, rfl⟩
  have hfirst : ∃ c ∈ catalogsOf input cafe, first ∈ c.toList := by decide
  have hsecond : ∃ c ∈ catalogsOf input cafe, second ∈ c.toList := by decide
  obtain ⟨c, hc, hu⟩ := hfirst
  obtain ⟨c', hc', hu'⟩ := hsecond
  obtain ⟨x, hx, ht⟩ := h cafe _ hleads c ((mem_catalogsOf_iff input).1 hc) first hu _ rfl
  obtain ⟨x', hx', ht'⟩ := h cafe _ hleads c' ((mem_catalogsOf_iff input).1 hc') second hu' _ rfl
  -- One name has room for one of the two only.
  rw [hx] at hx'
  cases hx'
  have hsame : some "ip_hash" = some "round_robin" :=
    congrArg (fun t? => t?.bind Tuning.lbMethod) (ht.symm.trans ht')
  exact absurd hsame (by decide)

end Conversion

end IngressGateway
