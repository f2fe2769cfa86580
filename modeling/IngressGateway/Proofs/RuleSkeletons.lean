import IngressGateway.Proofs.RuleFilters

/-!
What the upstreams of a route decide. The number of its rules, their order, what they ask of requests and their
own filters are read off the route alone. Upstreams that are missing, broken or renamed show in the backends of
those rules that name them.
-/

set_option autoImplicit false

namespace IngressGateway.Routing

open Backend (Catalog)
open Gateway (HttpFilter HttpMatch)
open Ingress (Match Route Split)
open Matching (Literal)

/-- A rule without its backends. -/
structure Skeleton where
  predicates : HttpMatch
  filters : List HttpFilter

def RuleDraft.skeleton (d : RuleDraft) : Skeleton := ⟨d.predicates, d.filters⟩

theorem RuleDraft.eq_of_skeleton {d d' : RuleDraft} (hs : d.skeleton = d'.skeleton)
    (hb : d.backends = d'.backends) : d = d' := by
  cases d
  cases d'
  obtain ⟨rfl, rfl⟩ := Skeleton.mk.inj hs
  cases hb
  rfl

section

variable (source : ObjectRef)

def skeletonOf (path : String) (m : Match) : Skeleton where
  predicates :=
    matchOn (Matching.readPath path) (.ofLiterals (m.conditions.filterMap Literal.of?))
  filters := m.action.elim [] (actionFilters source)

/-- That the rules of a route differ in their backends at most, whichever of two catalogs they are made with. -/
structure SharesSkeletons (route : Route) (c c' : Catalog) : Prop where
  same : (routeRules route c source).value.map RuleDraft.skeleton =
    (routeRules route c' source).value.map RuleDraft.skeleton
  ofClauses : (routeRules route c source).value.map RuleDraft.skeleton =
    (clauses route).map (skeletonOf source route.path)
  /-- A rule is the same altogether if its upstream names mean the same in both catalogs. -/
  whole : c.ns = c'.ns → List.Forall₂ (fun m rules =>
      (∀ name ∈ upstreamNames m, c.get? name = c'.get? name) → rules.1 = rules.2)
    (clauses route) ((routeRules route c source).value.zip (routeRules route c' source).value)

theorem skeleton_ruleFor (path : String) (c : Catalog) (m : Match) :
    (ruleFor path c source m).skeleton = skeletonOf source path m := by
  rw [RuleDraft.skeleton, filters_ruleFor]
  rfl

theorem skeletons_routeRules (route : Route) (c : Catalog) :
    (routeRules route c source).value.map RuleDraft.skeleton =
      (clauses route).map (skeletonOf source route.path) := by
  rw [value_routeRules, List.map_map]
  exact List.map_congr_left fun m _ => skeleton_ruleFor source route.path c m

end

/-! ### Catalogs that agree on some names -/

section

variable {c c' : Catalog} (hns : c.ns = c'.ns)

theorem bind_get?_of_agree {name? : Option String} (h : ∀ name ∈ name?, c.get? name = c'.get? name) :
    name?.bind c.get? = name?.bind c'.get? := by
  cases name? with
  | none => rfl
  | some name => exact h name rfl

theorem isUnserved_of_agree {s : Split} (h : servedBy? c s = servedBy? c' s) :
    isUnserved c s = isUnserved c' s := by
  simp only [isUnserved, dangles, h]

include hns in
theorem target?_of_agree {name : String} (h : c.get? name = c'.get? name) : c.target? name = c'.target? name := by
  rw [Catalog.target?, Catalog.target?, h, hns]

include hns in
theorem value_translateSplit_of_agree (source : ObjectRef) {s : Split}
    (h : ∀ name ∈ splitTo? s, c.get? name = c'.get? name) :
    (Backend.translateSplit s c source).value = (Backend.translateSplit s c' source).value := by
  have hserved : servedBy? c s = servedBy? c' s := bind_get?_of_agree h
  simp only [value_translateSplit_eq, hserved, isUnserved_of_agree hserved, hns]

include hns in
theorem ruleFor_of_agree (path : String) (source : ObjectRef) {m : Match}
    (h : ∀ name ∈ upstreamNames m, c.get? name = c'.get? name) :
    ruleFor path c source m = ruleFor path c' source m := by
  have hskeleton : (ruleFor path c source m).skeleton = (ruleFor path c' source m).skeleton := by
    rw [skeleton_ruleFor, skeleton_ruleFor]
  have haction : (m.action.bind passedTo?).bind c.target? = (m.action.bind passedTo?).bind c'.target? := by
    cases hname : m.action.bind passedTo? with
    | none => rfl
    | some name =>
      refine target?_of_agree hns (h name ?_)
      rw [upstreamNames, hname]
      exact List.mem_cons_self
  have hsplits : (m.splits.filterMap fun s => (Backend.translateSplit s c source).value) =
      m.splits.filterMap fun s => (Backend.translateSplit s c' source).value := by
    refine List.filterMap_congr fun s hs => value_translateSplit_of_agree hns source fun name hname => ?_
    exact h name (List.mem_append_right _ (List.mem_filterMap.2 ⟨s, hs, hname⟩))
  refine RuleDraft.eq_of_skeleton hskeleton ?_
  rw [backends_ruleFor, backends_ruleFor, haction, hsplits]

end

/-- Upstreams have no say in how many rules a route has, in their order, predicates or filters. -/
theorem sharesSkeletons_routeRules (route : Route) (c c' : Catalog) (source : ObjectRef) :
    SharesSkeletons source route c c' where
  same := (skeletons_routeRules source route c).trans (skeletons_routeRules source route c').symm
  ofClauses := skeletons_routeRules source route c
  whole hns := by
    rw [value_routeRules, value_routeRules, List.zip_map', List.forall₂_map_right_iff, List.forall₂_same]
    intro m _ hagree
    exact ruleFor_of_agree hns route.path source hagree

end IngressGateway.Routing
