import IngressGateway.Proofs.SplitTargets
import IngressGateway.Proofs.UpstreamScope

/-!
The backends of gRPC rules. A rule goes to a gRPC route as soon as one of its backends speaks gRPC, and it takes
along what the other parts of its requests lead to. A redirected part leads to a backend without a service, for
the sake of its filter; the gRPC rule drops the filter and keeps the backend, which then stands for nothing.
-/

set_option autoImplicit false

namespace IngressGateway

namespace Routing

open Backend (Catalog Target isUsable)
open Gateway (BackendRef GrpcBackend GrpcRule)
open Ingress (Match Split Upstream)

/-- Whether a backend names a service and a port. -/
def IsReal (b : BackendRef) : Prop := b.name ≠ "" ∧ ∃ port ∈ b.port, port.val ≠ 0

def IsBlank (b : BackendRef) : Prop := b.name = "" ∧ b.port = none

/-- That a gRPC rule has the backends for a clause: one for its action, and one for each part of its requests
that has a target. They are real except for those of unserved parts, which are blank. -/
structure IsGrounded (c : Catalog) (m : Match) (bs : List BackendRef) : Prop where
  parts : ∃ ofAction ofSplits, bs = ofAction ++ ofSplits ∧ (∀ b ∈ ofAction, IsReal b) ∧
    List.Forall₂ (fun s b => if isUnserved c s then IsBlank b else IsReal b)
      (m.splits.filter (hasTarget c)) ofSplits
  someReal : ∃ b ∈ bs, IsReal b
  allReal_iff : (∀ b ∈ bs, IsReal b) ↔ ∀ s ∈ m.splits, isUnserved c s = false

/-- Whether all upstreams that a catalog leads to have a service and a port. -/
def IsSound (c : Catalog) : Prop := ∀ name u, c.get? name = some u → isUsable u = true

theorem isSound_build (us : List Upstream) (ns : String) (owner : ObjectRef) :
    IsSound (Catalog.build us ns owner).value := by
  intro name u h
  rw [Catalog.get?_build] at h
  have husable := List.find?_some h
  rw [Bool.and_eq_true] at husable
  exact husable.1

theorem isSound_catalogOf {own : Catalog} (h : IsSound own) (rs : List ResolvedRoute)
    (r : ResolvedRoute) : IsSound (catalogOf own rs r) := by
  unfold catalogOf
  split
  · exact h
  · exact isSound_build _ _ _

theorem isReal_of_isUsable {u : Upstream} (h : isUsable u = true) {b : BackendRef}
    (hname : b.name = u.service) (hport : b.port = some u.port) : IsReal b := by
  rw [isUsable, Bool.and_eq_true, Bool.not_eq_true', bne_iff_ne] at h
  refine ⟨?_, u.port, hport, h.2⟩
  rw [hname]
  intro hempty
  rw [hempty] at h
  exact absurd h.1 (by decide)

theorem not_isReal_of_isBlank {b : BackendRef} (h : IsBlank b) : ¬ IsReal b := by
  intro hreal
  exact hreal.1 h.1

section

variable {c : Catalog} (hc : IsSound c) (ns : String)

include hc

theorem isReal_of_target? {name? : Option String} {t : Target} (h : name?.bind c.target? = some t) :
    IsReal (backendRef t ns) := by
  obtain ⟨name, _, h⟩ := Option.bind_eq_some_iff.1 h
  obtain ⟨u, hu, rfl⟩ := Option.map_eq_some_iff.1 h
  exact isReal_of_isUsable (hc name u hu) rfl rfl

theorem isReal_of_translateSplit {source : ObjectRef} {s : Split} {t : Target}
    (h : (Backend.translateSplit s c source).value = some t) (hu : isUnserved c s = false) :
    IsReal (backendRef t ns) := by
  have htarget : (Backend.translateSplit s c source).value.isSome = hasTarget c s :=
    isSome_translateSplit s
  rw [h, Option.isSome_some, hasTarget, hu, Bool.or_false] at htarget
  obtain ⟨u, hserved⟩ := Option.isSome_iff_exists.1 htarget.symm
  obtain ⟨name, _, hname⟩ := Option.bind_eq_some_iff.1 hserved
  obtain ⟨_, hservice, hport, _⟩ := (isTargetOf_of_translateSplit h).served u hserved
  exact isReal_of_isUsable (hc name u hname) hservice hport

omit hc in
theorem isBlank_of_translateSplit {source : ObjectRef} {s : Split} {t : Target}
    (h : (Backend.translateSplit s c source).value = some t) (hu : isUnserved c s = true) :
    IsBlank (backendRef t ns) ∧ t.grpc = false := by
  obtain ⟨_, hservice, hport, hgrpc, _⟩ :=
    (isTargetOf_of_translateSplit h).unserved (servedBy?_of_isUnserved hu)
  exact ⟨⟨hservice, hport⟩, hgrpc⟩

variable (path : String) (source : ObjectRef) (m : Match)

theorem isReal_of_grpc {t : Target} (h : t ∈ (ruleFor path c source m).backends) (hg : t.grpc = true) :
    IsReal (backendRef t ns) := by
  rw [backends_ruleFor, List.mem_append, Option.mem_toList, List.mem_filterMap] at h
  rcases h with h | ⟨s, _, h⟩
  · exact isReal_of_target? hc ns h
  · cases hu : isUnserved c s with
    | true =>
      have hblank := (isBlank_of_translateSplit ns h hu).2
      rw [hg] at hblank
      cases hblank
    | false => exact isReal_of_translateSplit hc ns h hu

theorem parts_ruleFor :
    ∃ ofAction ofSplits,
      ((ruleFor path c source m).backends.map fun t => backendRef t ns) = ofAction ++ ofSplits ∧
      (∀ b ∈ ofAction, IsReal b) ∧
      List.Forall₂ (fun s b => if isUnserved c s then IsBlank b else IsReal b)
        (m.splits.filter (hasTarget c)) ofSplits := by
  refine ⟨_, _, by rw [backends_ruleFor, List.map_append], ?_, ?_⟩
  · intro b hb
    obtain ⟨t, ht, rfl⟩ := List.mem_map.1 hb
    exact isReal_of_target? hc ns (Option.mem_toList.1 ht)
  · rw [List.forall₂_map_right_iff]
    refine forall₂_filterMap isSome_translateSplit (fun s t h => ?_) m.splits
    cases hu : isUnserved c s with
    | true => exact (isBlank_of_translateSplit ns h hu).1
    | false => exact isReal_of_translateSplit hc ns h hu

end

theorem forall_isReal_iff {c : Catalog} {splits : List Split} {bs : List BackendRef}
    (h : List.Forall₂ (fun s b => if isUnserved c s then IsBlank b else IsReal b) splits bs) :
    (∀ b ∈ bs, IsReal b) ↔ ∀ s ∈ splits, isUnserved c s = false := by
  induction h with
  | nil => simp
  | @cons s b splits bs hhead _ ih =>
    rw [List.forall_mem_cons, List.forall_mem_cons, ih]
    refine and_congr_left fun _ => ?_
    cases hu : isUnserved c s with
    | true =>
      rw [hu] at hhead
      exact iff_of_false (not_isReal_of_isBlank hhead) Bool.false_ne_true.symm
    | false =>
      rw [hu] at hhead
      exact iff_of_true hhead rfl

theorem isGrounded_ruleFor {c : Catalog} (hc : IsSound c) (ns path : String) (source : ObjectRef)
    (m : Match) (hg : (ruleFor path c source m).isGrpc = true) :
    IsGrounded c m ((ruleFor path c source m).backends.map fun t => backendRef t ns) where
  parts := parts_ruleFor hc ns path source m
  someReal := by
    obtain ⟨t, ht, hgrpc⟩ := List.any_eq_true.1 hg
    exact ⟨_, List.mem_map_of_mem ht, isReal_of_grpc hc ns path source m ht hgrpc⟩
  allReal_iff := by
    obtain ⟨ofAction, ofSplits, heq, haction, hsplits⟩ := parts_ruleFor hc ns path source m
    rw [heq, List.forall_mem_append, forall_isReal_iff hsplits]
    constructor
    · rintro ⟨_, hall⟩ s hs
      cases hu : isUnserved c s with
      | false => rfl
      | true =>
        have htarget : hasTarget c s = true := by rw [hasTarget, hu, Bool.or_true]
        rw [hall s (List.mem_filter.2 ⟨hs, htarget⟩)] at hu
        exact hu.symm
    · intro hall
      exact ⟨haction, fun s hs => hall s (List.mem_filter.1 hs).1⟩

end Routing

namespace Conversion

open Gateway (GrpcBackend GrpcRule)
open Ingress (Route Split VirtualServer)
open Routing (IsGrounded IsSound Origin ownCatalog)

variable (input : Snapshot) (settings : Settings)

theorem isGrounded_grpcRuleFrom (vs : VirtualServer) {o : Origin} (hg : usesGrpc input vs o = true) :
    IsGrounded (Routing.catalogOf (ownCatalog vs) (routesOf input vs) o.route) o.clause
      ((grpcRuleFrom input vs o).backendRefs.map GrpcBackend.backend) := by
  have hsound : IsSound (Routing.catalogOf (ownCatalog vs) (routesOf input vs) o.route) :=
    Routing.isSound_catalogOf (Routing.isSound_build _ _ _) _ _
  have hdraft : (o.draft (ownCatalog vs) (routesOf input vs)).isGrpc = true := by
    rw [Routing.isGrpc_draft]
    exact hg
  rw [grpcRuleFrom, Origin.grpcRule, Routing.backends_grpcRule]
  exact Routing.isGrounded_ruleFor hsound _ _ _ _ hdraft

/-- Every gRPC rule of a bundle is that of a clause, and has a backend that speaks gRPC. Its backends are real
unless a part of its requests is redirected, or passed to a missing upstream by a proxy that changes them. -/
def GroundedIn (b : Bundle) : Prop :=
  ∀ r ∈ b.grpcRoutes.values, ∃ vs ∈ eligibleServers input, r.namespaceOf = vs.namespaceOf ∧
    List.Forall₂ (fun o rule => rule = grpcRuleFrom input vs o ∧
        IsGrounded (Routing.catalogOf (ownCatalog vs) (routesOf input vs) o.route) o.clause
          (rule.backendRefs.map GrpcBackend.backend))
      ((originsOf input vs).filter fun o => usesGrpc input vs o) r.spec.rules

theorem groundedIn_convert : GroundedIn input (convert input settings).bundle := by
  intro r hr
  obtain ⟨vs, hvs, hns, hrules⟩ := rules_of_grpcRoute input settings hr
  have horigins : r.spec.rules =
      ((originsOf input vs).filter fun o => usesGrpc input vs o).map (grpcRuleFrom input vs) :=
    hrules.trans (Routing.map_grpcRule_drafts (ownCatalog vs) (routesOf input vs) vs.source)
  refine ⟨vs, hvs, hns, ?_⟩
  rw [horigins, List.forall₂_map_right_iff, List.forall₂_same]
  intro o ho
  exact ⟨rfl, isGrounded_grpcRuleFrom input vs (List.mem_filter.1 ho).2⟩

/-- A route that passes half of its requests to a gRPC upstream and redirects the others. The gRPC rule has a
backend without a service, a port or a filter. -/
theorem exists_blank_redirected :
    let half : Signed32 := ⟨50, by decide⟩
    let passed : Split := ⟨half, some ⟨some "tea", none, none, none⟩⟩
    let redirected : Split := ⟨half, some ⟨none, some ⟨"/moved", none⟩, none, none⟩⟩
    let route : Route := ⟨"/tea", none, none, [passed, redirected], [], [], [], ""⟩
    let server := simpleServer "shop" "cafe" "cafe.example" none
    let vs : VirtualServer :=
      { server with
        spec :=
          { server.spec with
            upstreams := [simpleUpstream "tea" "tea-svc" (some "grpc") none], routes := [route] } }
    ∃ r ∈ (convert ⟨[vs], [], [], none⟩ .usual).bundle.grpcRoutes.values, ∃ rule ∈ r.spec.rules,
      ∃ x ∈ rule.backendRefs, x.backend.name = "" ∧ x.backend.port = none ∧ x.filters = [] := by
  decide

end Conversion

end IngressGateway
