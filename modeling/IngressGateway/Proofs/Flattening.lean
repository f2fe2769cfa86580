import IngressGateway.Proofs.GrpcMatches
import IngressGateway.Proofs.Lookup

/-!
Flattened routes. The routes of a virtual server are nested: each one has matches, and references stand for
further routes. What comes of them are two flat lists, the rules of an HTTP route and those of a gRPC route.
Every clause of every route has its rule in one of them, in the order in which the clauses are declared.
-/

set_option autoImplicit false

namespace IngressGateway.Routing

open Backend (Catalog)
open Gateway (GrpcMatch GrpcRule HttpRule MetadataMatch MethodMatch)
open Ingress (Match Upstream VirtualServer)
open Listeners (Sections)
open Matching (Literal Predicates)

/-! ### Whose upstreams -/

/-- The upstreams of an owner of routes: those that its first route comes with. -/
def upstreamsOf? (rs : List ResolvedRoute) (owner : ObjectRef) : Option (List Upstream) :=
  rs.findSome? fun r => if r.owner = owner then r.upstreams else none

/-- The catalog for the upstream names of a route, which is that of the resource the route comes from. -/
def catalogOf (own : Catalog) (rs : List ResolvedRoute) (r : ResolvedRoute) : Catalog :=
  match r.upstreams with
  | none => own
  | some us =>
    (Catalog.build ((upstreamsOf? rs r.owner).getD us) (r.owner.ns.getD own.ns) r.owner).value

theorem get?_addOwner (ns : String) (m : OwnerCatalogs) (r : ResolvedRoute) (owner : ObjectRef) :
    (addOwner ns m r).value.get? owner =
      (m.get? owner <|> (if r.owner = owner then r.upstreams else none).map fun us =>
        (Catalog.build us (owner.ns.getD ns) owner).value) := by
  unfold addOwner
  cases r.upstreams with
  | none => simp
  | some us =>
    have hinsert : (if m.contains r.owner then return m else do
        let c ← Catalog.build us (r.owner.ns.getD ns) r.owner
        return m.insert r.owner c : Reported OwnerCatalogs).value =
        m.insertIfNew r.owner (Catalog.build us (r.owner.ns.getD ns) r.owner).value := by
      unfold SortedMap.insertIfNew
      cases m.contains r.owner <;> rfl
    change (if m.contains r.owner then return m else do
        let c ← Catalog.build us (r.owner.ns.getD ns) r.owner
        return m.insert r.owner c : Reported OwnerCatalogs).value.get? owner = _
    rw [hinsert, SortedMap.get?_insertIfNew]
    by_cases h : r.owner = owner
    · subst h
      simp
    · have h' : owner ≠ r.owner := Ne.symm h
      simp [h, h']

/-- Of several routes of one owner the first one counts. -/
theorem get?_addOwners (ns : String) (rs : List ResolvedRoute) (m : OwnerCatalogs)
    (owner : ObjectRef) :
    (addOwners ns m rs).value.get? owner =
      (m.get? owner <|> (upstreamsOf? rs owner).map fun us =>
        (Catalog.build us (owner.ns.getD ns) owner).value) := by
  induction rs generalizing m with
  | nil => simp [addOwners, upstreamsOf?]
  | cons r rs ih =>
    have hcons : upstreamsOf? (r :: rs) owner =
        ((if r.owner = owner then r.upstreams else none) <|> upstreamsOf? rs owner) := by
      rw [upstreamsOf?, List.findSome?_cons]
      cases (if r.owner = owner then r.upstreams else none) <;> rfl
    change (addOwners ns (addOwner ns m r).value rs).value.get? owner = _
    rw [ih, get?_addOwner, hcons]
    cases m.get? owner with
    | some c => rfl
    | none => cases (if r.owner = owner then r.upstreams else none) <;> rfl

variable (own : Catalog) (rs : List ResolvedRoute)

theorem catalogFor?_eq {r : ResolvedRoute} (hr : r ∈ rs) :
    catalogFor? own (addOwners own.ns .empty rs).value r = some (catalogOf own rs r) := by
  unfold catalogFor? catalogOf ResolvedRoute.isReferenced
  cases hu : r.upstreams with
  | none => rfl
  | some us =>
    have hfound : ∃ us', upstreamsOf? rs r.owner = some us' := by
      rw [← Option.isSome_iff_exists, upstreamsOf?, List.findSome?_isSome_iff]
      exact ⟨r, hr, by simp [hu]⟩
    obtain ⟨us', hus'⟩ := hfound
    change (addOwners own.ns .empty rs).value.get? r.owner = _
    rw [get?_addOwners, hus']
    rfl

theorem catalogOf_mem {r : ResolvedRoute} (hr : r ∈ rs) :
    catalogOf own rs r ∈ own :: (addOwners own.ns .empty rs).value.values := by
  have h := catalogFor?_eq own rs hr
  unfold catalogFor? at h
  split at h
  · exact List.mem_cons_of_mem _ (SortedMap.mem_values_iff.2 ⟨_, h⟩)
  · rw [← Option.some.inj h]
    exact List.mem_cons_self

/-! ### Where rules come from -/

/-- What a rule comes from: a clause of a route. -/
structure Origin where
  route : ResolvedRoute
  clause : Match

/-- What the rules for a list of routes come from: every clause of every route, in order. -/
def origins : List Origin := rs.flatMap fun r => (clauses r.route).map (Origin.mk r)

def Origin.draft (o : Origin) : RuleDraft :=
  ruleFor o.route.route.path (catalogOf own rs o.route) o.route.owner o.clause

/-- Whether a clause passes requests to a gRPC upstream of the resource that it comes from. -/
def Origin.usesGrpc (o : Origin) : Bool :=
  (upstreamNames o.clause).any (namesGrpc (catalogOf own rs o.route))

theorem isGrpc_draft (o : Origin) : (o.draft own rs).isGrpc = o.usesGrpc own rs :=
  isGrpc_ruleFor _ _ _ _

theorem value_draftRules :
    (draftRules own (addOwners own.ns .empty rs).value rs).value =
      (origins rs).map (Origin.draft own rs) := by
  rw [origins, List.map_flatMap]
  change (rs.map fun r => (resolvedRules own _ r).value).flatten = _
  rw [← List.flatMap_def]
  refine List.flatMap_congr fun r hr => ?_
  rw [resolvedRules, catalogFor?_eq own rs hr, List.map_map]
  exact value_routeRules _ _ _

theorem mem_origins {o : Origin} :
    o ∈ origins rs ↔ o.route ∈ rs ∧ o.clause ∈ clauses o.route.route := by
  simp only [origins, List.mem_flatMap, List.mem_map]
  constructor
  · rintro ⟨r, hr, m, hm, rfl⟩
    exact ⟨hr, hm⟩
  · rintro ⟨hr, hm⟩
    exact ⟨o.route, hr, o.clause, hm, rfl⟩

/-- Of the clauses of a route, the route itself is the one whose conditions come to nothing. -/
theorem literals_eq_nil_iff {o : Origin} (ho : o ∈ origins rs) :
    o.clause.conditions.filterMap Literal.of? = [] ↔ o.clause = rest o.route.route := by
  rcases List.mem_append.1 ((mem_origins rs).1 ho).2 with hm | hm
  · have henabled : o.clause.conditions.filterMap Literal.of? ≠ [] := by
      have h := (List.mem_filter.1 hm).2
      rw [isEnabled, any_translates, Bool.and_eq_true] at h
      simpa using h.2
    refine iff_of_false henabled fun h => henabled ?_
    rw [h]
    rfl
  · split at hm
    · have h := List.mem_singleton.1 hm
      refine iff_of_true ?_ h
      rw [h]
      rfl
    · cases hm

/-- Only the route itself has a rule without predicates. -/
theorem literals_draft_eq_nil_iff {o : Origin} (ho : o ∈ origins rs) :
    (o.draft own rs).literals = [] ↔ o.clause = rest o.route.route := by
  rw [← literals_eq_nil_iff rs ho, Origin.draft, literals_ruleFor,
    Predicates.literals_ofLiterals_eq_nil_iff]

/-! ### The rules of the routes -/

variable (vs : VirtualServer) (source : ObjectRef) (sections : Sections) (settings : Settings)

theorem rules_httpRouteOf (ns : String) (rules : List HttpRule) :
    (httpRouteOf vs source ns sections settings rules).value.map (fun r => r.spec.rules) =
      listIfAny rules := by
  unfold httpRouteOf
  cases rules <;> rfl

theorem rules_grpcRouteOf (ns : String) (rules : List GrpcRule) :
    (grpcRouteOf vs source ns sections settings rules).value.map (fun r => r.spec.rules) =
      listIfAny rules := by
  unfold grpcRouteOf
  cases rules <;> rfl

def Origin.httpRule (o : Origin) : HttpRule := (Routing.httpRule (o.draft own rs) own.ns source).value

def Origin.grpcRule (o : Origin) : GrpcRule := (Routing.grpcRule (o.draft own rs) own.ns source).value

/-- That routes consist of the rules for a list of routes, neither fewer nor more, in order. -/
structure Flattens (a : AssembledRoutes) : Prop where
  http : a.httpRoute.map (fun r => r.spec.rules) =
    listIfAny (((origins rs).filter fun o => !o.usesGrpc own rs).map (Origin.httpRule own rs source))
  grpc : a.grpcRoute.map (fun r => r.spec.rules) =
    listIfAny (((origins rs).filter fun o => o.usesGrpc own rs).map (Origin.grpcRule own rs source))
  /-- A rule asks nothing but the path of a request if and only if it is for a route itself. -/
  bare : ∀ o ∈ origins rs, (o.draft own rs).literals = [] ↔ o.clause = rest o.route.route
  /-- An HTTP rule has one match, on the path of the route and on all that the clause asks for. -/
  asks : ∀ o ∈ origins rs, ∃ x, (o.httpRule own rs source).matchList = [x] ∧
    AsksFor o.route.route.path o.clause x ∧
    (x.headers = none ∧ x.queryParams = none ↔ o.clause = rest o.route.route)
  /-- A gRPC rule has a match on the method that the path names and on the headers that the clause asks for; the one for
  a route itself is on no headers. -/
  calls : ∀ o ∈ origins rs,
    (o.grpcRule own rs source).matchList =
        grpcMatches (methodOn? (some (Matching.readPath o.route.route.path))) (metadataOf o.clause) ∧
      (o.clause = rest o.route.route → ∀ x ∈ (o.grpcRule own rs source).matchList, x.headers = [])
  /-- A rule of which no upstream name can be resolved is there nevertheless. -/
  unresolved : ∀ o ∈ origins rs,
    (∀ name ∈ upstreamNames o.clause, (catalogOf own rs o.route).get? name = none) →
      ∃ route, a.httpRoute = some route ∧ o.httpRule own rs source ∈ route.spec.rules

theorem map_drafts {α : Type} (p : RuleDraft → Bool) (f : RuleDraft → α) :
    ((draftRules own (addOwners own.ns .empty rs).value rs).value.filter p).map f =
      ((origins rs).filter fun o => p (o.draft own rs)).map fun o => f (o.draft own rs) := by
  rw [value_draftRules, List.filter_map, List.map_map]
  rfl

theorem map_httpRule_drafts :
    ((draftRules own (addOwners own.ns .empty rs).value rs).value.filter fun d => !d.isGrpc).map
        (fun d => (httpRule d own.ns source).value) =
      ((origins rs).filter fun o => !o.usesGrpc own rs).map (Origin.httpRule own rs source) := by
  rw [map_drafts]
  simp only [isGrpc_draft]
  rfl

theorem map_grpcRule_drafts :
    ((draftRules own (addOwners own.ns .empty rs).value rs).value.filter RuleDraft.isGrpc).map
        (fun d => (grpcRule d own.ns source).value) =
      ((origins rs).filter fun o => o.usesGrpc own rs).map (Origin.grpcRule own rs source) := by
  rw [map_drafts]
  simp only [isGrpc_draft]
  rfl

theorem rules_httpRoute_assemble :
    ((assemble vs source rs own sections settings).value.httpRoute).map (fun r => r.spec.rules) =
      listIfAny (((origins rs).filter fun o => !o.usesGrpc own rs).map
        (Origin.httpRule own rs source)) := by
  rw [← map_httpRule_drafts]
  exact rules_httpRouteOf vs source sections settings own.ns _

theorem rules_grpcRoute_assemble :
    ((assemble vs source rs own sections settings).value.grpcRoute).map (fun r => r.spec.rules) =
      listIfAny (((origins rs).filter fun o => o.usesGrpc own rs).map
        (Origin.grpcRule own rs source)) := by
  rw [← map_grpcRule_drafts]
  exact rules_grpcRouteOf vs source sections settings own.ns _

theorem usesGrpc_of_unresolved {o : Origin}
    (h : ∀ name ∈ upstreamNames o.clause, (catalogOf own rs o.route).get? name = none) :
    o.usesGrpc own rs = false := by
  rw [Origin.usesGrpc, List.any_eq_false]
  intro name hname
  simp [namesGrpc, h name hname]

theorem matchList_httpRule (o : Origin) :
    (o.httpRule own rs source).matchList = [(o.draft own rs).predicates] := rfl

theorem headers_of_mem_grpcMatches {method : Option MethodMatch} {headers : List MetadataMatch} {x : GrpcMatch}
    (h : x ∈ grpcMatches method headers) : x.headers = headers := by
  unfold grpcMatches at h
  split at h
  · rw [List.mem_singleton.1 h]
  · cases h

/-- Every clause of every route has its rule in one of the two routes, which one is told by its upstreams,
and each of them keeps the order of the clauses. -/
theorem flattens_assemble :
    Flattens own rs source (assemble vs source rs own sections settings).value where
  http := rules_httpRoute_assemble own rs vs source sections settings
  grpc := rules_grpcRoute_assemble own rs vs source sections settings
  bare _ ho := literals_draft_eq_nil_iff own rs ho
  asks o ho := by
    have hasks := asksFor_ruleFor o.route.route.path (catalogOf own rs o.route) o.route.owner o.clause
    refine ⟨_, matchList_httpRule own rs source o, hasks, ?_⟩
    exact hasks.bare.trans (literals_eq_nil_iff rs ho)
  calls o ho := by
    have hmatches := matchList_ruleFor o.route.route.path (catalogOf own rs o.route) o.route.owner own.ns
      source o.clause
    refine ⟨hmatches, fun hrest x hx => ?_⟩
    rw [Origin.grpcRule, Origin.draft, hmatches] at hx
    rw [headers_of_mem_grpcMatches hx, hrest]
    rfl
  unresolved o ho h := by
    have hmem : o ∈ (origins rs).filter fun o => !o.usesGrpc own rs := by
      rw [List.mem_filter, usesGrpc_of_unresolved own rs h]
      exact ⟨ho, rfl⟩
    have hrule := List.mem_map_of_mem (f := Origin.httpRule own rs source) hmem
    have hrules := rules_httpRoute_assemble own rs vs source sections settings
    rw [listIfAny_of_mem hrule] at hrules
    obtain ⟨route, hroute, heq⟩ := Option.map_eq_some_iff.1 hrules
    exact ⟨route, hroute, heq ▸ hrule⟩

end IngressGateway.Routing
