import IngressGateway.Proofs.References
import IngressGateway.Proofs.Severities

/-!
References expanded. In place of a route that refers to a resource stand the subroutes which that resource
holds, except for those that refer any further. What stands in the way of a reference is warned about, and of
the routes that do stand in its place the owner is told the number. Only a reference to a resource without any
subroutes goes by in silence.
-/

set_option autoImplicit false

namespace IngressGateway.Routing

open Ingress (Route VirtualServerRoute VirtualServerRouteSpec)

def refers (route : Route) : Bool := Text.isPresent route.route

theorem refers_eq_isSome (route : Route) : refers route = route.reference?.isSome :=
  Text.isPresent_eq_isSome route.route

/-- Why a reference is not replaced by any routes. -/
inductive Obstacle where
  | malformed (reference : String)
  | unknown (key : ObjectKey)
  | nested (entry : IndexedRoute) (path reference : String)

/-- The warning about an obstacle. About a nested reference the owner of the subroute is told. -/
def Obstacle.warning (owner : ObjectRef) : Obstacle → Notification
  | .malformed reference =>
    ⟨.warning, s!"VirtualServerRoute reference '{reference}' is malformed, skipping route", owner⟩
  | .unknown key => ⟨.warning, s!"VirtualServerRoute {key.display} not found, skipping route", owner⟩
  | .nested entry path reference =>
    ⟨.warning, s!"Subroute '{path}' references VirtualServerRoute '{reference}'; "
      ++ "nested references are not supported, skipping subroute", entry.ref⟩

def countRemark (owner : ObjectRef) (key : ObjectKey) (count : Nat) : Notification :=
  ⟨.info, s!"Resolved {count} routes from VirtualServerRoute {key.display}", owner⟩

namespace IndexedRoute

def contributed (entry : IndexedRoute) : List ResolvedRoute :=
  (entry.resource.spec.subroutes.filter fun sub => !refers sub).map fun sub =>
    ⟨sub, entry.ref, some entry.resource.spec.upstreams⟩

def nestedReferences (entry : IndexedRoute) : List Obstacle :=
  entry.resource.spec.subroutes.filterMap fun sub => sub.reference?.map (.nested entry sub.path)

theorem subroutes_eq_nil_iff (entry : IndexedRoute) :
    entry.resource.spec.subroutes = [] ↔ entry.contributed = [] ∧ entry.nestedReferences = [] := by
  constructor
  · intro h
    rw [contributed, nestedReferences, h]
    exact ⟨rfl, rfl⟩
  · -- A subroute either stands in the place of a reference or is a reference itself.
    rintro ⟨hcontributed, hnested⟩
    refine List.eq_nil_iff_forall_not_mem.2 fun sub hsub => ?_
    have hrefers := List.filter_eq_nil_iff.1 (List.map_eq_nil_iff.1 hcontributed) sub hsub
    have hnone := List.filterMap_eq_nil_iff.1 hnested sub hsub
    rw [Option.map_eq_none_iff] at hnone
    rw [refers_eq_isSome, hnone] at hrefers
    exact hrefers rfl

end IndexedRoute

section

variable (index : RouteIndex) (owner : ObjectRef) (ns : String)

def entryOf (reference : String) : Except Obstacle (ObjectKey × IndexedRoute) :=
  match readReference? reference ns with
  | none => .error (.malformed reference)
  | some key =>
    match index.get? key with
    | none => .error (.unknown key)
    | some entry => .ok (key, entry)

/-- Where a route leads, if it refers to anything: to a resource, or to an obstacle. -/
def destination? (route : Route) : Option (Except Obstacle (ObjectKey × IndexedRoute)) :=
  route.reference?.map (entryOf index ns)

/-- The routes that stand in the place of a route; one that refers to nothing stands for itself. -/
def replacement (route : Route) : List ResolvedRoute :=
  match destination? index ns route with
  | none => [⟨route, owner, none⟩]
  | some (.error _) => []
  | some (.ok (_, entry)) => entry.contributed

def obstacles (route : Route) : List Obstacle :=
  match destination? index ns route with
  | none => []
  | some (.error obstacle) => [obstacle]
  | some (.ok (_, entry)) => entry.nestedReferences

def count? (route : Route) : Option (ObjectKey × Nat) :=
  match destination? index ns route with
  | some (.ok (key, entry)) =>
    if entry.contributed = [] then none else some (key, entry.contributed.length)
  | _ => none

end

/-- That a route belongs to a resource: it is one of its subroutes, and its upstream names are looked up there. -/
structure BelongsTo (resource : VirtualServerRoute) (x : ResolvedRoute) : Prop where
  subroute : x.route ∈ resource.spec.subroutes
  owner : x.owner = Resource.refTo VirtualServerRouteSpec resource.metadata.ns resource.anyName
  upstreams : x.upstreams = some resource.spec.upstreams

/-- That routes are expanded in order and one level deep, with a warning about each obstacle and a remark on
each number of routes. -/
structure IsExpanded (index : RouteIndex) (owner : ObjectRef) (ns : String) (routes : List Route)
    (r : Reported (List ResolvedRoute)) : Prop where
  inOrder : r.value = routes.flatMap (replacement index owner ns)
  oneLevel : ∀ x ∈ r.value, refers x.route = false
  referenced : ∀ rs, index = indexRoutes rs → ∀ x ∈ r.value, x.isReferenced = true →
    ∃ resource ∈ rs, BelongsTo resource x
  warnings : (Notifications.mk r.notes).ofSeverity .warning =
    (routes.flatMap (obstacles index ns)).map (Obstacle.warning owner)
  counts : (Notifications.mk r.notes).ofSeverity .info =
    (routes.filterMap (count? index ns)).map fun found => countRemark owner found.1 found.2

def IsSilent {α : Type} (r : Reported (List α)) : Prop := r.value = [] ∧ r.notes = []

def combined {α : Type} (answers : List (Reported (List α))) : Reported (List α) :=
  ⟨answers.flatMap Reported.value, answers.flatMap Reported.notes⟩

theorem combined_singleton {α : Type} (r : Reported (List α)) : combined [r] = r := by
  rw [combined, List.flatMap_singleton, List.flatMap_singleton]

def LeadsToEmpty (index : RouteIndex) (ns : String) (route : Route) : Prop :=
  ∃ key entry, destination? index ns route = some (.ok (key, entry)) ∧
    entry.resource.spec.subroutes = []

/-- That each route has an answer, the one that it has by itself, and that a route which refers to a resource has
a silent one only if that resource has no subroutes. -/
def IsAnswered (index : RouteIndex) (owner : ObjectRef) (ns : String) (routes : List Route)
    (r : Reported (List ResolvedRoute)) : Prop :=
  ∃ answers, r = combined answers ∧ List.Forall₂ (fun route answer =>
    resolveRoutes [route] index owner = .ok answer ∧
      (refers route = true → (IsSilent answer ↔ LeadsToEmpty index ns route))) routes answers

/-! ### One route -/

theorem severity_warning (owner : ObjectRef) (obstacle : Obstacle) :
    (obstacle.warning owner).severity = .warning := by
  cases obstacle <;> rfl

theorem severity_countRemark (owner : ObjectRef) (key : ObjectKey) (count : Nat) :
    (countRemark owner key count).severity = .info := rfl

theorem value_expandEntry_eq (key : ObjectKey) (entry : IndexedRoute) (owner : ObjectRef) :
    (expandEntry key entry owner).value = entry.contributed := by
  rw [value_expandEntry, IndexedRoute.contributed, ← List.filterMap_eq_map, List.filterMap_filter]
  refine List.filterMap_congr fun sub _ => ?_
  rw [value_expandSubroute, refers_eq_isSome]
  cases sub.reference? <;> rfl

theorem notes_expandSubroute (entry : IndexedRoute) (owner : ObjectRef) (sub : Route) :
    (expandSubroute entry sub).notes =
      (sub.reference?.map fun nested => (Obstacle.nested entry sub.path nested).warning owner).toList := by
  unfold expandSubroute
  cases sub.reference? <;> rfl

theorem nestedReferences_warnings (entry : IndexedRoute) (owner : ObjectRef) :
    entry.nestedReferences.map (Obstacle.warning owner) =
      entry.resource.spec.subroutes.flatMap fun sub => (expandSubroute entry sub).notes := by
  rw [IndexedRoute.nestedReferences, List.map_filterMap, List.filterMap_eq_flatMap_toList]
  refine List.flatMap_congr fun sub _ => ?_
  rw [notes_expandSubroute entry owner, Option.map_map]
  rfl

theorem notes_expandEntry (key : ObjectKey) (entry : IndexedRoute) (owner : ObjectRef) :
    (expandEntry key entry owner).notes = entry.nestedReferences.map (Obstacle.warning owner) ++
      if entry.contributed = [] then [] else [countRemark owner key entry.contributed.length] := by
  have hfound : (entry.resource.spec.subroutes.map fun sub =>
      (expandSubroute entry sub).value).filterMap id = entry.contributed := by
    rw [List.filterMap_map, ← value_expandEntry_eq key entry owner, value_expandEntry]
    rfl
  rw [nestedReferences_warnings]
  unfold expandEntry
  rw [Reported.notes_bind, Reported.notes_each, Reported.value_each]
  dsimp only
  rw [hfound]
  cases entry.contributed <;> rfl

section

variable (index : RouteIndex) (owner : ObjectRef) (ns : String) (route : Route)

theorem expandRoute_eq :
    expandRoute index owner ns route =
      match destination? index ns route with
      | none => ⟨[⟨route, owner, none⟩], []⟩
      | some (.error obstacle) => ⟨[], [obstacle.warning owner]⟩
      | some (.ok (key, entry)) => expandEntry key entry owner := by
  unfold expandRoute destination?
  cases route.reference? with
  | none => rfl
  | some reference =>
    dsimp only [Option.map_some]
    unfold entryOf
    cases readReference? reference ns with
    | none => rfl
    | some key =>
      dsimp only
      cases index.get? key <;> rfl

theorem value_expandRoute :
    (expandRoute index owner ns route).value = replacement index owner ns route := by
  rw [expandRoute_eq, replacement]
  rcases destination? index ns route with _ | _ | ⟨key, entry⟩
  · rfl
  · rfl
  · exact value_expandEntry_eq key entry owner

theorem notes_expandRoute :
    (expandRoute index owner ns route).notes =
      (obstacles index ns route).map (Obstacle.warning owner) ++
        (count? index ns route).toList.map fun found => countRemark owner found.1 found.2 := by
  rw [expandRoute_eq, obstacles, count?]
  rcases destination? index ns route with _ | _ | ⟨key, entry⟩
  · rfl
  · rfl
  · refine (notes_expandEntry key entry owner).trans ?_
    dsimp only
    split <;> rfl

theorem isSome_destination? : (destination? index ns route).isSome = refers route := by
  rw [destination?, Option.isSome_map, refers_eq_isSome]

theorem get?_of_destination? {key : ObjectKey} {entry : IndexedRoute}
    (h : destination? index ns route = some (.ok (key, entry))) : index.get? key = some entry := by
  obtain ⟨reference, -, h⟩ := Option.map_eq_some_iff.1 h
  unfold entryOf at h
  split at h
  · cases h
  · split at h
    · cases h
    · cases h
      assumption

theorem mem_replacement_cases {x : ResolvedRoute} (h : x ∈ replacement index owner ns route) :
    (refers route = false ∧ x = ⟨route, owner, none⟩) ∨
    ∃ key entry, index.get? key = some entry ∧ ∃ sub ∈ entry.resource.spec.subroutes,
      refers sub = false ∧ x = ⟨sub, entry.ref, some entry.resource.spec.upstreams⟩ := by
  rw [replacement] at h
  rcases hd : destination? index ns route with _ | _ | ⟨key, entry⟩
  · rw [hd] at h
    refine .inl ⟨?_, List.mem_singleton.1 h⟩
    rw [← isSome_destination? index ns, hd]
    rfl
  · rw [hd] at h
    cases h
  · rw [hd] at h
    obtain ⟨sub, hsub, hx⟩ := List.mem_map.1 h
    obtain ⟨hsub, hrefers⟩ := List.mem_filter.1 hsub
    rw [Bool.not_eq_true'] at hrefers
    exact .inr ⟨key, entry, get?_of_destination? index ns route hd, sub, hsub, hrefers, hx.symm⟩

theorem refers_of_mem_replacement {x : ResolvedRoute} (h : x ∈ replacement index owner ns route) :
    refers x.route = false := by
  rcases mem_replacement_cases index owner ns route h with ⟨hrefers, rfl⟩ | ⟨_, _, _, _, _, hrefers, rfl⟩
  · exact hrefers
  · exact hrefers

theorem belongsTo_of_mem_replacement {rs : List VirtualServerRoute} {x : ResolvedRoute}
    (h : x ∈ replacement (indexRoutes rs) owner ns route) (hx : x.isReferenced = true) :
    ∃ resource ∈ rs, BelongsTo resource x := by
  rcases mem_replacement_cases (indexRoutes rs) owner ns route h with
    ⟨_, rfl⟩ | ⟨key, entry, hentry, sub, hsub, _, rfl⟩
  · cases hx
  · obtain ⟨hmem, -, href⟩ := eq_of_get?_indexRoutes hentry
    exact ⟨entry.resource, hmem, hsub, href, rfl⟩

theorem isSilent_expandRoute_iff (h : refers route = true) :
    IsSilent (expandRoute index owner ns route) ↔ LeadsToEmpty index ns route := by
  rw [IsSilent, LeadsToEmpty, value_expandRoute, notes_expandRoute, replacement, obstacles, count?]
  rcases hd : destination? index ns route with _ | obstacle | ⟨key, entry⟩
  · rw [← isSome_destination? index ns, hd] at h
    cases h
  · constructor
    · rintro ⟨-, hnotes⟩
      cases hnotes
    · rintro ⟨key, entry, hentry, -⟩
      cases hentry
  · -- The number of routes is told only if there are any, and warnings need subroutes to warn about.
    constructor
    · rintro ⟨hvalue, hnotes⟩
      have hnested := List.map_eq_nil_iff.1 (List.append_eq_nil_iff.1 hnotes).1
      exact ⟨key, entry, rfl, entry.subroutes_eq_nil_iff.2 ⟨hvalue, hnested⟩⟩
    · rintro ⟨key', entry', hentry, hempty⟩
      cases hentry
      obtain ⟨hcontributed, hnested⟩ := entry.subroutes_eq_nil_iff.1 hempty
      simp [hcontributed, hnested]

theorem ofSeverity_expandRoute (s : Severity) :
    (Notifications.mk (expandRoute index owner ns route).notes).ofSeverity s =
      (if s = .warning then (obstacles index ns route).map (Obstacle.warning owner) else []) ++
        if s = .info then
          (count? index ns route).toList.map fun found => countRemark owner found.1 found.2
        else [] := by
  have hobstacles := Notifications.ofSeverity_map (obstacles index ns route) (severity_warning owner) s
  have hcounts := Notifications.ofSeverity_map (count? index ns route).toList
    (fun found => severity_countRemark owner found.1 found.2) s
  rw [notes_expandRoute, Notifications.ofSeverity_append, hobstacles, hcounts]

end

/-! ### All routes -/

section

variable (routes : List Route) (index : RouteIndex) {owner : ObjectRef} {ns : String}

theorem resolveRoutes_eq (h : owner.ns = some ns) :
    resolveRoutes routes index owner = .ok (combined (routes.map (expandRoute index owner ns))) := by
  unfold resolveRoutes
  rw [h]
  refine congrArg Except.ok ?_
  calc
    List.flatten <$> Reported.each routes (expandRoute index owner ns) =
        ⟨(routes.map fun route => (expandRoute index owner ns route).value).flatten,
          (routes.flatMap fun route => (expandRoute index owner ns route).notes) ++ []⟩ := rfl
    _ = combined (routes.map (expandRoute index owner ns)) := by
      rw [combined, List.append_nil, List.flatMap_map, List.flatMap_map]
      rfl

theorem isExpanded_combined :
    IsExpanded index owner ns routes (combined (routes.map (expandRoute index owner ns))) := by
  have hvalue : (combined (routes.map (expandRoute index owner ns))).value =
      routes.flatMap (replacement index owner ns) := by
    rw [combined, List.flatMap_map]
    exact List.flatMap_congr fun route _ => value_expandRoute index owner ns route
  have hnotes : ∀ s, (Notifications.mk (combined (routes.map (expandRoute index owner ns))).notes).ofSeverity s =
      routes.flatMap fun route =>
        (Notifications.mk (expandRoute index owner ns route).notes).ofSeverity s := by
    intro s
    rw [combined, List.flatMap_map, List.flatMap_map, Notifications.ofSeverity_flatMap]
  refine ⟨hvalue, ?_, ?_, ?_, ?_⟩
  · intro x hx
    rw [hvalue] at hx
    obtain ⟨route, -, hx⟩ := List.mem_flatMap.1 hx
    exact refers_of_mem_replacement index owner ns route hx
  · rintro rs rfl x hx hreferenced
    rw [hvalue] at hx
    obtain ⟨route, -, hx⟩ := List.mem_flatMap.1 hx
    exact belongsTo_of_mem_replacement owner ns route hx hreferenced
  · rw [hnotes, List.map_flatMap]
    refine List.flatMap_congr fun route _ => ?_
    rw [ofSeverity_expandRoute]
    exact List.append_nil _
  · rw [hnotes, List.filterMap_eq_flatMap_toList, List.map_flatMap]
    refine List.flatMap_congr fun route _ => ?_
    rw [ofSeverity_expandRoute]
    rfl

/-- The routes of an owner with a namespace are always expanded, whatever they refer to. -/
theorem isExpanded_resolveRoutes (h : owner.ns = some ns) :
    ∃ r, resolveRoutes routes index owner = .ok r ∧ IsExpanded index owner ns routes r :=
  ⟨_, resolveRoutes_eq routes index h, isExpanded_combined routes index⟩

def inlineRoute (path : String) : Route := ⟨path, none, none, [], [], [], [], ""⟩

def referringRoute (path reference : String) : Route := ⟨path, some reference, none, [], [], [], [], ""⟩

def heldRoutes (ns name : String) (subs : List Route) : VirtualServerRoute :=
  ⟨⟨some name, some ns, none, none, none⟩, none, "cafe.example", [], subs⟩

/-- A resource that is referred to twice and refers further itself, among references that lead nowhere. -/
theorem isExpanded_mixed :
    let index := indexRoutes
      [heldRoutes "shop" "tea" [inlineRoute "/tea/green", referringRoute "/tea/black" "black"]]
    let owner : ObjectRef := ⟨"VirtualServer", none, some "shop", "cafe"⟩
    let routes := [referringRoute "/tea" "tea", inlineRoute "/", referringRoute "/milk" "milk",
      referringRoute "/a" "a/b/c", referringRoute "/tea" "shop/tea"]
    owner.ns = some "shop" ∧
      (routes.flatMap (replacement index owner "shop")).map (fun x => x.route.path) =
        ["/tea/green", "/", "/tea/green"] ∧
      (routes.flatMap (obstacles index "shop")).length = 4 ∧
      ∃ r, resolveRoutes routes index owner = .ok r ∧ IsExpanded index owner "shop" routes r := by
  intro index owner routes
  have hns : owner.ns = some "shop" := rfl
  exact ⟨hns, by decide, by decide, isExpanded_resolveRoutes routes index hns⟩

/-- Of all routes that refer to a resource only those to a resource without subroutes go by in silence. -/
theorem isAnswered_resolveRoutes (h : owner.ns = some ns) :
    ∃ r, resolveRoutes routes index owner = .ok r ∧ IsAnswered index owner ns routes r := by
  refine ⟨_, resolveRoutes_eq routes index h, _, rfl, ?_⟩
  rw [List.forall₂_map_right_iff, List.forall₂_same]
  intro route _
  have hsingle : resolveRoutes [route] index owner = .ok (expandRoute index owner ns route) := by
    rw [resolveRoutes_eq [route] index h, List.map_singleton, combined_singleton]
  exact ⟨hsingle, isSilent_expandRoute_iff index owner ns route⟩

end

/-- A reference to a resource that is missing, and one to a resource without any subroutes. -/
theorem isAnswered_missing_and_empty :
    let index := indexRoutes [heldRoutes "shop" "tea" []]
    let owner : ObjectRef := ⟨"VirtualServer", none, some "shop", "cafe"⟩
    let routes := [referringRoute "/milk" "milk", referringRoute "/tea" "tea"]
    owner.ns = some "shop" ∧
      ∃ r, resolveRoutes routes index owner = .ok r ∧ IsAnswered index owner "shop" routes r := by
  intro index owner routes
  have hns : owner.ns = some "shop" := rfl
  exact ⟨hns, isAnswered_resolveRoutes routes index hns⟩

/-- A reference to a resource without any subroutes: no route comes of it, and no notification. -/
theorem isSilent_empty_resource :
    let index := indexRoutes [heldRoutes "shop" "tea" []]
    let owner : ObjectRef := ⟨"VirtualServer", none, some "shop", "cafe"⟩
    let route := referringRoute "/tea" "tea"
    owner.ns = some "shop" ∧ refers route = true ∧
      ∃ r, resolveRoutes [route] index owner = .ok r ∧ IsSilent r :=
  ⟨rfl, by decide, _, rfl, rfl, rfl⟩

end IngressGateway.Routing
