import IngressGateway.Proofs.Catalogs
import IngressGateway.Proofs.OwnerNamespaces

/-!
The scope of upstream names. Every owner of routes has upstreams of its own, and different owners may use the
same names. A name in a route means the first usable upstream of that name that the owner of the route has;
what the other owners have under it makes no difference.
-/

set_option autoImplicit false

namespace IngressGateway.Routing

open Backend (Catalog Target firstUsable?)
open Gateway (BackendRef GrpcBackend HttpBackend)
open Ingress (Match Split Upstream VirtualServer VirtualServerRoute)
open Listeners (Sections)

/-! ### What a rule shows of an upstream -/

structure Endpoint where
  service : String
  port : Option Unsigned16
  grpc : Bool
deriving DecidableEq, Repr

namespace Endpoint

def ofUpstream (u : Upstream) : Endpoint := ⟨u.service, some u.port, u.isGrpc⟩

/-- The endpoint of a target; filters alone have none. -/
def ofTarget? (t : Target) : Option Endpoint :=
  if t.service.isEmpty then none else some ⟨t.service, t.port, t.grpc⟩

/-- What is left of an endpoint in a finished rule. -/
def address (e : Endpoint) : String × Option Unsigned16 := (e.service, e.port)

end Endpoint

def RuleDraft.endpoints (d : RuleDraft) : List Endpoint := d.backends.filterMap Endpoint.ofTarget?

/-- What the upstream names of a clause mean if they are those of some upstreams. -/
def endpointsIn (us : List Upstream) (m : Match) : List Endpoint :=
  (upstreamNames m).filterMap fun name => (firstUsable? us name).map Endpoint.ofUpstream

/-- The services that the backends of a rule name, with their ports. -/
def addresses (bs : List BackendRef) : List (String × Option Unsigned16) :=
  (bs.filter fun b => !b.name.isEmpty).map fun b => (b.name, b.port)

theorem addresses_backendRef (d : RuleDraft) (routeNs : String) :
    addresses (d.backends.map fun t => backendRef t routeNs) = d.endpoints.map Endpoint.address := by
  rw [addresses, RuleDraft.endpoints, List.filter_map, List.map_map, List.map_filterMap,
    ← List.filterMap_eq_map, List.filterMap_filter]
  refine List.filterMap_congr fun t _ => ?_
  change (if (!t.service.isEmpty) = true then some (t.service, t.port) else none) = _
  rw [Endpoint.ofTarget?]
  cases t.service.isEmpty <;> rfl

section

variable (us : List Upstream) (ns : String) (owner source : ObjectRef)

theorem isEmpty_service_of_firstUsable? {name : String} {u : Upstream}
    (h : firstUsable? us name = some u) : u.service.isEmpty = false := by
  have husable := List.find?_some h
  simp only [Backend.isUsable, Bool.and_eq_true, Bool.not_eq_true'] at husable
  exact husable.1.1

theorem bind_ofTarget?_target? (name : String) :
    ((Catalog.build us ns owner).value.target? name).bind Endpoint.ofTarget? =
      (firstUsable? us name).map Endpoint.ofUpstream := by
  rw [Catalog.target?, Catalog.get?_build]
  cases h : firstUsable? us name with
  | none => rfl
  | some u =>
    have hservice := isEmpty_service_of_firstUsable? us h
    simp [Endpoint.ofTarget?, Endpoint.ofUpstream, Target.ofUpstream, hservice]

theorem filterMap_toList {α β : Type} (f : α → Option β) (o : Option α) :
    o.toList.filterMap f = (o.bind f).toList := by
  cases o with
  | none => rfl
  | some a => cases h : f a <;> simp [h]

/-- A part of the requests goes where its action sends it; filters alone send it nowhere. -/
theorem bind_ofTarget?_splitTarget? (weight : Signed32) (o : Backend.Outcome) :
    (Backend.splitTarget? weight ns o).bind Endpoint.ofTarget? =
      o.backend.bind Endpoint.ofTarget? := by
  unfold Backend.splitTarget?
  cases o.backend with
  | some t => rfl
  | none => cases o.filters.isEmpty <;> rfl

theorem bind_ofTarget?_translateSplit (s : Split) :
    (Backend.translateSplit s (Catalog.build us ns owner).value source).value.bind
        Endpoint.ofTarget? =
      (splitTo? s).bind fun name => (firstUsable? us name).map Endpoint.ofUpstream := by
  rw [value_translateSplit, splitTo?]
  split
  · cases s.action with
    | none => rfl
    | some a =>
      rw [Option.bind_some, Option.bind_some, bind_ofTarget?_splitTarget?, backend_translateAction,
        Option.bind_assoc]
      simp only [bind_ofTarget?_target?]
  · rfl

theorem endpoints_ruleFor (path : String) (m : Match) :
    (ruleFor path (Catalog.build us ns owner).value source m).endpoints = endpointsIn us m := by
  have haction : ((m.action.bind passedTo?).bind
      (Catalog.build us ns owner).value.target?).bind Endpoint.ofTarget? =
      (m.action.bind passedTo?).bind fun name =>
        (firstUsable? us name).map Endpoint.ofUpstream := by
    rw [Option.bind_assoc]
    simp only [bind_ofTarget?_target?]
  rw [RuleDraft.endpoints, backends_ruleFor, endpointsIn, upstreamNames, List.filterMap_append,
    List.filterMap_append, List.filterMap_filterMap, List.filterMap_filterMap]
  congr 1
  · rw [filterMap_toList, filterMap_toList, haction]
  · exact List.filterMap_congr fun s _ => bind_ofTarget?_translateSplit us ns owner source s

end

/-! ### Other upstreams for one owner -/

/-- Whose upstreams the names in a route mean: those of the virtual server itself, or those of the resource
that the index has under a key. -/
inductive Holder where
  | server
  | resource (key : ObjectKey)
deriving DecidableEq, Repr

def ResolvedRoute.holder (r : ResolvedRoute) : Holder :=
  if r.isReferenced then .resource ⟨r.owner.ns.getD defaultNamespace, r.owner.name⟩ else .server

namespace Holder

variable (h : Holder) (us : List Upstream)

/-- A virtual server with other upstreams, if these are its to have. -/
def equipServer (vs : VirtualServer) : VirtualServer :=
  if h = .server then { vs with spec := { vs.spec with upstreams := us } } else vs

/-- A resource that routes are referenced from with other upstreams, if these are its to have. -/
def equipResource (r : VirtualServerRoute) : VirtualServerRoute :=
  if h = .resource r.key then { r with spec := { r.spec with upstreams := us } } else r

def equipEntry (entry : IndexedRoute) : IndexedRoute :=
  { entry with resource := h.equipResource us entry.resource }

def equipRoute (r : ResolvedRoute) : ResolvedRoute :=
  if r.isReferenced ∧ r.holder = h then { r with upstreams := some us } else r

def equipOrigin (o : Origin) : Origin := { o with route := h.equipRoute us o.route }

variable (vs : VirtualServer) (rs : List VirtualServerRoute)

theorem routes_equipServer : (h.equipServer us vs).spec.routes = vs.spec.routes := by
  unfold equipServer
  split <;> rfl

theorem metadata_equipServer : (h.equipServer us vs).metadata = vs.metadata := by
  unfold equipServer
  split <;> rfl

theorem namespaceOf_equipServer : (h.equipServer us vs).namespaceOf = vs.namespaceOf := by
  rw [Resource.namespaceOf, metadata_equipServer]
  rfl

theorem source_equipServer : (h.equipServer us vs).source = vs.source := by
  rw [Resource.source, namespaceOf_equipServer, Resource.anyName, metadata_equipServer]
  rfl

theorem indexEntry?_equipResource (r : VirtualServerRoute) :
    indexEntry? (h.equipResource us r) =
      (Routing.indexEntry? r).map fun e => (e.1, h.equipEntry us e.2) := by
  have hmetadata : (h.equipResource us r).metadata = r.metadata := by
    unfold equipResource
    split <;> rfl
  rw [indexEntry?_eq, indexEntry?_eq, Resource.hasName, Resource.hasName, Resource.key, Resource.key,
    Resource.keyIn, Resource.keyIn, Resource.anyName, Resource.anyName, hmetadata]
  cases Text.isPresent r.metadata.name <;> rfl

theorem get?_indexRoutes_equipResource (key : ObjectKey) :
    (indexRoutes (rs.map (h.equipResource us))).get? key =
      ((indexRoutes rs).get? key).map (h.equipEntry us) := by
  have hentries : (rs.map (h.equipResource us)).filterMap indexEntry? =
      (rs.filterMap indexEntry?).map fun e => (e.1, h.equipEntry us e.2) := by
    rw [List.filterMap_map, List.map_filterMap]
    exact List.filterMap_congr fun r _ => indexEntry?_equipResource h us r
  rw [indexRoutes, indexRoutes, hentries]
  exact SortedMap.get?_insertMany_map (h.equipEntry us) (fun _ => rfl) _ key

/-- The routes of an entry get the upstreams that the entry gets. -/
theorem equipRoute_of_entry {key : ObjectKey} {entry : IndexedRoute}
    (he : (indexRoutes rs).get? key = some entry) (sub : Ingress.Route) :
    h.equipRoute us ⟨sub, entry.ref, some entry.resource.spec.upstreams⟩ =
      ⟨sub, (h.equipEntry us entry).ref, some (h.equipEntry us entry).resource.spec.upstreams⟩ := by
  have hkey : entry.resource.key = ⟨entry.ref.ns.getD defaultNamespace, entry.ref.name⟩ := by
    rw [← key_eq_of_ref he]
    exact (eq_of_get?_indexRoutes he).2.1.symm
  unfold equipRoute equipEntry equipResource ResolvedRoute.holder ResolvedRoute.isReferenced
  rw [hkey]
  by_cases hh : h = .resource ⟨entry.ref.ns.getD defaultNamespace, entry.ref.name⟩
  · simp [hh]
  · have hh' := Ne.symm hh
    simp [hh, hh']

theorem value_expandEntry_equipEntry {key : ObjectKey} {entry : IndexedRoute}
    (he : (indexRoutes rs).get? key = some entry) (owner : ObjectRef) :
    (expandEntry key (h.equipEntry us entry) owner).value =
      (expandEntry key entry owner).value.map (h.equipRoute us) := by
  have hsubroutes : (h.equipEntry us entry).resource.spec.subroutes =
      entry.resource.spec.subroutes := by
    unfold equipEntry equipResource
    split <;> rfl
  rw [value_expandEntry, value_expandEntry, hsubroutes, List.map_filterMap]
  refine List.filterMap_congr fun sub _ => ?_
  rw [value_expandSubroute, value_expandSubroute]
  split
  · exact congrArg some (equipRoute_of_entry h us rs he sub).symm
  · rfl

theorem value_expandRoute_equipResource (owner : ObjectRef) (ns : String) (route : Ingress.Route) :
    (expandRoute (indexRoutes (rs.map (h.equipResource us))) owner ns route).value =
      (expandRoute (indexRoutes rs) owner ns route).value.map (h.equipRoute us) := by
  unfold expandRoute
  cases route.reference? with
  | none => rfl
  | some reference =>
    dsimp only
    cases readReference? reference ns with
    | none => rfl
    | some key =>
      dsimp only
      rw [get?_indexRoutes_equipResource]
      cases he : (indexRoutes rs).get? key with
      | none => rfl
      | some entry => exact value_expandEntry_equipEntry h us rs he owner

theorem resolvedRoutes_equip :
    resolvedRoutes (indexRoutes (rs.map (h.equipResource us))) (h.equipServer us vs) =
      (resolvedRoutes (indexRoutes rs) vs).map (h.equipRoute us) := by
  rw [resolvedRoutes, resolvedRoutes, routes_equipServer, source_equipServer,
    namespaceOf_equipServer, List.map_flatMap]
  exact List.flatMap_congr fun route _ => value_expandRoute_equipResource h us rs _ _ route

theorem origins_equipRoute (resolved : List ResolvedRoute) :
    origins (resolved.map (h.equipRoute us)) = (origins resolved).map (h.equipOrigin us) := by
  have hroute : ∀ r : ResolvedRoute, (h.equipRoute us r).route = r.route := by
    intro r
    unfold equipRoute
    split <;> rfl
  rw [origins, origins, List.flatMap_map, List.map_flatMap]
  refine List.flatMap_congr fun r _ => ?_
  rw [hroute, List.map_map]
  rfl

theorem equipRoute_of_ne {r : ResolvedRoute} (hr : r.holder ≠ h) : h.equipRoute us r = r :=
  if_neg fun he => hr he.2

end Holder

/-! ### Whose upstreams a rule goes to -/

section

variable (own : Catalog) (resolved : List ResolvedRoute) (source : ObjectRef) (o : Origin)

/-- The rule of a clause goes to upstreams of a list only: to the first usable one of each name that the
clause mentions, in the order of the names. -/
structure DrawsOn (us : List Upstream) : Prop where
  endpoints : (o.draft own resolved).endpoints = endpointsIn us o.clause
  usesGrpc : o.usesGrpc own resolved = (endpointsIn us o.clause).any Endpoint.grpc
  http : addresses ((o.httpRule own resolved source).backendRefs.map HttpBackend.backend) =
    (endpointsIn us o.clause).map Endpoint.address
  grpc : addresses ((o.grpcRule own resolved source).backendRefs.map GrpcBackend.backend) =
    (endpointsIn us o.clause).map Endpoint.address

theorem drawsOn_of_catalogOf {us : List Upstream} {ns : String} {owner : ObjectRef}
    (h : catalogOf own resolved o.route = (Catalog.build us ns owner).value) :
    DrawsOn own resolved source o us := by
  have hendpoints : (o.draft own resolved).endpoints = endpointsIn us o.clause := by
    rw [Origin.draft, h, endpoints_ruleFor]
  refine ⟨hendpoints, ?_, ?_, ?_⟩
  · have hname : ∀ name, namesGrpc (Catalog.build us ns owner).value name =
        ((firstUsable? us name).map Endpoint.ofUpstream).any Endpoint.grpc := by
      intro name
      rw [namesGrpc, Catalog.get?_build, Option.any_map]
      rfl
    rw [Origin.usesGrpc, h, endpointsIn, any_filterMap]
    exact List.any_congr rfl hname
  · rw [Origin.httpRule, backends_httpRule, addresses_backendRef, hendpoints]
  · rw [Origin.grpcRule, backends_grpcRule, addresses_backendRef, hendpoints]

end

variable (rs : List VirtualServerRoute) (vs : VirtualServer)

theorem holder_of_isOwn {r : ResolvedRoute} (hr : IsOwn vs r) : r.holder = .server := by
  rw [ResolvedRoute.holder, ResolvedRoute.isReferenced, hr.upstreams]
  rfl

variable {rs vs}

theorem holder_of_stemsFrom {key : ObjectKey} {entry : IndexedRoute} {r : ResolvedRoute}
    (hr : StemsFrom (indexRoutes rs) vs key entry r) : r.holder = .resource key := by
  rw [key_eq_of_ref hr.held, ResolvedRoute.holder, ResolvedRoute.isReferenced, hr.upstreams, hr.owner]
  rfl

section

variable {h : Holder} {r : ResolvedRoute} (us : List Upstream)

theorem stemsFrom_equip {key : ObjectKey} {entry : IndexedRoute}
    (hr : StemsFrom (indexRoutes rs) vs key entry r) (hh : r.holder ≠ h) :
    StemsFrom (indexRoutes (rs.map (h.equipResource us))) (h.equipServer us vs) key entry r := by
  have hkey : entry.resource.key = key := (eq_of_get?_indexRoutes hr.held).2.1.symm
  have hentry : h.equipEntry us entry = entry := by
    rw [holder_of_stemsFrom hr, ← hkey] at hh
    rw [Holder.equipEntry, Holder.equipResource, if_neg hh.symm]
  refine ⟨?_, ?_, hr.subroute, hr.owner, hr.upstreams⟩
  · rw [Holder.get?_indexRoutes_equipResource, hr.held, Option.map_some, hentry]
  · rw [Holder.routes_equipServer, Holder.namespaceOf_equipServer]
    exact hr.referenced

/-- The upstream names in the routes of one holder mean what they meant when another one gets other
upstreams. -/
theorem catalogOf_equip (hr : r ∈ resolvedRoutes (indexRoutes rs) vs) (hh : r.holder ≠ h) :
    catalogOf (ownCatalog (h.equipServer us vs))
        (resolvedRoutes (indexRoutes (rs.map (h.equipResource us))) (h.equipServer us vs)) r =
      catalogOf (ownCatalog vs) (resolvedRoutes (indexRoutes rs) vs) r := by
  have hmem : r ∈ resolvedRoutes (indexRoutes (rs.map (h.equipResource us)))
      (h.equipServer us vs) := by
    rw [Holder.resolvedRoutes_equip]
    exact List.mem_map.2 ⟨r, hr, Holder.equipRoute_of_ne h us hh⟩
  -- A route of the server reads the server's catalog, a referenced one that of the entry it stems from.
  rcases isOwn_or_stemsFrom (indexRoutes rs) vs hr with hown | ⟨key, entry, hstems⟩
  · rw [holder_of_isOwn vs hown] at hh
    rw [catalogOf, catalogOf, hown.upstreams, Holder.equipServer, if_neg hh.symm]
  · have hns : (ownCatalog (h.equipServer us vs)).ns = (ownCatalog vs).ns :=
      Holder.namespaceOf_equipServer h us vs
    rw [catalogOf_resolvedRoutes _ hmem (stemsFrom_equip us hstems hh), hns,
      catalogOf_resolvedRoutes _ hr hstems]

theorem draft_equipOrigin {o : Origin} (ho : o ∈ origins (resolvedRoutes (indexRoutes rs) vs))
    (hh : o.route.holder ≠ h) :
    (h.equipOrigin us o).draft (ownCatalog (h.equipServer us vs))
        (resolvedRoutes (indexRoutes (rs.map (h.equipResource us))) (h.equipServer us vs)) =
      o.draft (ownCatalog vs) (resolvedRoutes (indexRoutes rs) vs) := by
  have hroute : h.equipRoute us o.route = o.route := Holder.equipRoute_of_ne h us hh
  rw [Holder.equipOrigin, Origin.draft, Origin.draft, hroute,
    catalogOf_equip us ((mem_origins _).1 ho).1 hh]

end

variable (rs vs) (settings : Settings) (sections : Sections)

/-- Clause by clause, the rules of the routes that are assembled for a virtual server go to the upstreams of
the owner of the clause, and to no others. -/
structure IsScoped (a : AssembledRoutes) : Prop where
  resolved : ∃ r, resolveRoutes vs.spec.routes (indexRoutes rs) vs.source = .ok r ∧
    r.value = resolvedRoutes (indexRoutes rs) vs
  http : a.httpRoute.map (fun r => r.spec.rules) =
    listIfAny (((origins (resolvedRoutes (indexRoutes rs) vs)).filter fun o =>
      !o.usesGrpc (ownCatalog vs) (resolvedRoutes (indexRoutes rs) vs)).map
        (Origin.httpRule (ownCatalog vs) (resolvedRoutes (indexRoutes rs) vs) vs.source))
  grpc : a.grpcRoute.map (fun r => r.spec.rules) =
    listIfAny (((origins (resolvedRoutes (indexRoutes rs) vs)).filter fun o =>
      o.usesGrpc (ownCatalog vs) (resolvedRoutes (indexRoutes rs) vs)).map
        (Origin.grpcRule (ownCatalog vs) (resolvedRoutes (indexRoutes rs) vs) vs.source))
  drawn : ∀ o ∈ origins (resolvedRoutes (indexRoutes rs) vs),
    (IsOwn vs o.route ∧
      DrawsOn (ownCatalog vs) (resolvedRoutes (indexRoutes rs) vs) vs.source o vs.spec.upstreams) ∨
    ∃ key entry, StemsFrom (indexRoutes rs) vs key entry o.route ∧
      DrawsOn (ownCatalog vs) (resolvedRoutes (indexRoutes rs) vs) vs.source o
        entry.resource.spec.upstreams
  /-- If one holder gets other upstreams, the rules of all others stay as they are. -/
  independent : ∀ (h : Holder) (us : List Upstream),
    List.Forall₂ (fun o o' =>
        o'.clause = o.clause ∧ o'.route.route = o.route.route ∧ o'.route.owner = o.route.owner ∧
        (o.route.holder ≠ h →
          o'.draft (ownCatalog (h.equipServer us vs))
              (resolvedRoutes (indexRoutes (rs.map (h.equipResource us))) (h.equipServer us vs)) =
            o.draft (ownCatalog vs) (resolvedRoutes (indexRoutes rs) vs)))
      (origins (resolvedRoutes (indexRoutes rs) vs))
      (origins (resolvedRoutes (indexRoutes (rs.map (h.equipResource us))) (h.equipServer us vs)))

/-- An upstream name means an upstream of the owner of the route in which it stands, however the names of
different owners and the references to one owner are mixed. -/
theorem isScoped_serverRoutes :
    IsScoped rs vs (serverRoutes (indexRoutes rs) settings vs sections) where
  resolved := ⟨_, rfl, List.flatMap_def.symm⟩
  http := rules_httpRoute_assemble (ownCatalog vs) _ vs vs.source sections settings
  grpc := rules_grpcRoute_assemble (ownCatalog vs) _ vs vs.source sections settings
  drawn o ho := by
    have hr := ((mem_origins _).1 ho).1
    rcases isOwn_or_stemsFrom (indexRoutes rs) vs hr with hown | ⟨key, entry, hstems⟩
    · have hcatalog : catalogOf (ownCatalog vs) (resolvedRoutes (indexRoutes rs) vs) o.route =
          (Catalog.build vs.spec.upstreams vs.namespaceOf vs.source).value := by
        rw [catalogOf, hown.upstreams]
        rfl
      exact .inl ⟨hown, drawsOn_of_catalogOf _ _ _ o hcatalog⟩
    · exact .inr ⟨key, entry, hstems,
        drawsOn_of_catalogOf _ _ _ o (catalogOf_resolvedRoutes (ownCatalog vs) hr hstems)⟩
  independent h us := by
    rw [Holder.resolvedRoutes_equip, Holder.origins_equipRoute, List.forall₂_map_right_iff,
      List.forall₂_same]
    intro o ho
    refine ⟨rfl, ?_, ?_, fun hh => ?_⟩
    · change (h.equipRoute us o.route).route = _
      unfold Holder.equipRoute
      split <;> rfl
    · change (h.equipRoute us o.route).owner = _
      unfold Holder.equipRoute
      split <;> rfl
    · rw [← Holder.resolvedRoutes_equip]
      exact draft_equipOrigin us ho hh

end IngressGateway.Routing
