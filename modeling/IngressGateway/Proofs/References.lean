import IngressGateway.Proofs.Flattening
import IngressGateway.Proofs.ServerRoutes

/-!
Referenced routes. A reference leads to a virtual server route through the index, and stands for the subroutes
there. Their upstream names mean the upstreams of that resource, which is known by its reference: two routes
of one owner come from the same entry of the index.
-/

set_option autoImplicit false

namespace IngressGateway.Routing

open Backend (Catalog)
open Ingress (Route VirtualServer VirtualServerRoute VirtualServerRouteSpec)

/-! ### The index -/

theorem indexEntry?_eq (r : VirtualServerRoute) :
    indexEntry? r =
      if r.hasName then
        some (r.key, ⟨Resource.refTo VirtualServerRouteSpec r.metadata.ns r.anyName, r⟩)
      else none := by
  unfold indexEntry? Resource.ref? Resource.hasName Text.isPresent
  cases h : r.metadata.name with
  | none => rfl
  | some name =>
    cases hn : name.isEmpty with
    | true => simp [hn]
    | false => simp [hn, Resource.anyName, Metadata.anyName, h]

section

variable {rs : List VirtualServerRoute} {key key' : ObjectKey} {entry entry' : IndexedRoute}

/-- The key fills in a missing namespace, the reference does not. -/
theorem eq_of_get?_indexRoutes (h : (indexRoutes rs).get? key = some entry) :
    entry.resource ∈ rs ∧ key = entry.resource.key ∧
      entry.ref = Resource.refTo VirtualServerRouteSpec entry.resource.metadata.ns
        entry.resource.anyName := by
  obtain ⟨r, hr, he⟩ := List.mem_filterMap.1 (SortedMap.mem_of_get?_ofList h)
  rw [indexEntry?_eq] at he
  split at he
  · cases he
    exact ⟨hr, rfl, rfl⟩
  · cases he

theorem key_eq_of_ref (h : (indexRoutes rs).get? key = some entry) :
    key = ⟨entry.ref.ns.getD defaultNamespace, entry.ref.name⟩ := by
  obtain ⟨_, hkey, href⟩ := eq_of_get?_indexRoutes h
  rw [hkey, href]
  rfl

/-- An owner is known by its reference, although the reference may lack a namespace. -/
theorem entry_eq_of_ref (h : (indexRoutes rs).get? key = some entry)
    (h' : (indexRoutes rs).get? key' = some entry') (href : entry.ref = entry'.ref) :
    entry = entry' := by
  rw [key_eq_of_ref h, href, ← key_eq_of_ref h', h', Option.some.injEq] at h
  exact h.symm

end

/-! ### What references stand for -/

/-- A route of a virtual server stands for a subroute of the resource that the index has under a key. -/
structure StemsFrom (index : RouteIndex) (vs : VirtualServer) (key : ObjectKey) (entry : IndexedRoute)
    (r : ResolvedRoute) : Prop where
  held : index.get? key = some entry
  referenced : ∃ declared ∈ vs.spec.routes, ∃ reference, declared.reference? = some reference ∧
    readReference? reference vs.namespaceOf = some key
  subroute : r.route ∈ entry.resource.spec.subroutes
  owner : r.owner = entry.ref
  upstreams : r.upstreams = some entry.resource.spec.upstreams

variable (index : RouteIndex) (vs : VirtualServer)

/-- A route of a virtual server is one of its own. -/
structure IsOwn (r : ResolvedRoute) : Prop where
  declared : r.route ∈ vs.spec.routes
  owner : r.owner = vs.source
  upstreams : r.upstreams = none

theorem value_expandSubroute (entry : IndexedRoute) (sub : Route) :
    (expandSubroute entry sub).value =
      if sub.reference? = none then some ⟨sub, entry.ref, some entry.resource.spec.upstreams⟩
      else none := by
  unfold expandSubroute
  cases sub.reference? <;> rfl

theorem value_expandEntry (key : ObjectKey) (entry : IndexedRoute) (owner : ObjectRef) :
    (expandEntry key entry owner).value =
      entry.resource.spec.subroutes.filterMap fun sub => (expandSubroute entry sub).value := by
  have hfound : (entry.resource.spec.subroutes.map fun sub =>
      (expandSubroute entry sub).value).filterMap id =
        entry.resource.spec.subroutes.filterMap fun sub => (expandSubroute entry sub).value := by
    rw [List.filterMap_map]
    rfl
  rw [← hfound]
  unfold expandEntry
  rw [Reported.value_bind, Reported.value_each]
  dsimp only
  split <;> rfl

/-- Every route is one of the virtual server itself or stems from a resource that it refers to. -/
theorem isOwn_or_stemsFrom {r : ResolvedRoute} (hr : r ∈ resolvedRoutes index vs) :
    IsOwn vs r ∨ ∃ key entry, StemsFrom index vs key entry r := by
  obtain ⟨declared, hdeclared, hr⟩ := List.mem_flatMap.1 hr
  unfold expandRoute at hr
  split at hr
  case h_1 =>
    cases List.mem_singleton.1 hr
    exact .inl ⟨hdeclared, rfl, rfl⟩
  case h_2 reference href =>
    split at hr
    case h_1 => cases hr
    case h_2 key hkey =>
      split at hr
      case h_1 => cases hr
      case h_2 entry hentry =>
        rw [value_expandEntry, List.mem_filterMap] at hr
        obtain ⟨sub, hsub, hr⟩ := hr
        rw [value_expandSubroute] at hr
        split at hr
        · cases hr
          exact .inr ⟨key, entry, hentry, ⟨declared, hdeclared, reference, href, hkey⟩, hsub, rfl, rfl⟩
        · cases hr

section

variable {vs} {rs : List VirtualServerRoute} {key : ObjectKey} {entry : IndexedRoute} {r : ResolvedRoute}

theorem upstreamsOf?_resolvedRoutes (hr : r ∈ resolvedRoutes (indexRoutes rs) vs)
    (h : StemsFrom (indexRoutes rs) vs key entry r) :
    upstreamsOf? (resolvedRoutes (indexRoutes rs) vs) entry.ref =
      some entry.resource.spec.upstreams := by
  have hfound : ∃ us, upstreamsOf? (resolvedRoutes (indexRoutes rs) vs) entry.ref = some us := by
    rw [← Option.isSome_iff_exists, upstreamsOf?, List.findSome?_isSome_iff]
    exact ⟨r, hr, by simp [h.owner, h.upstreams]⟩
  obtain ⟨us, hus⟩ := hfound
  -- The first route of the owner counts, but it comes from the same entry.
  obtain ⟨r', hr', he⟩ := List.exists_of_findSome?_eq_some hus
  split at he
  case isTrue howner =>
    rcases isOwn_or_stemsFrom (indexRoutes rs) vs hr' with hown | ⟨key', entry', h'⟩
    · rw [hown.upstreams] at he
      cases he
    · have hentry : entry' = entry := entry_eq_of_ref h'.held h.held (h'.owner.symm.trans howner)
      rw [h'.upstreams, hentry] at he
      rw [hus, ← he]
  case isFalse => cases he

/-- The upstream names of a referenced route mean the upstreams of its owner. -/
theorem catalogOf_resolvedRoutes (own : Catalog) (hr : r ∈ resolvedRoutes (indexRoutes rs) vs)
    (h : StemsFrom (indexRoutes rs) vs key entry r) :
    catalogOf own (resolvedRoutes (indexRoutes rs) vs) r =
      (Catalog.build entry.resource.spec.upstreams (entry.resource.metadata.ns.getD own.ns)
        entry.ref).value := by
  have hns : entry.ref.ns = entry.resource.metadata.ns := by
    rw [(eq_of_get?_indexRoutes h.held).2.2]
    rfl
  rw [catalogOf, h.upstreams, h.owner]
  dsimp only
  rw [upstreamsOf?_resolvedRoutes hr h, hns]
  rfl

end

end IngressGateway.Routing
