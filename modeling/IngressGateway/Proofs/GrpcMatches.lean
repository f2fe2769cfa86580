import IngressGateway.Proofs.Arrangement
import IngressGateway.Proofs.RouteRules
import IngressGateway.Routing.Assembly

/-!
The matches of gRPC rules. A match without any predicate has no rule, since the rule would take every request
that is meant for the route itself. But predicates on query parameters are dropped from a rule once it turns
out to be a gRPC rule: what remains selects requests only if there is a predicate on a header as well.
-/

set_option autoImplicit false

namespace IngressGateway.Routing

open Backend (Catalog)
open Gateway (GrpcMatch GrpcRule MetadataMatch MethodMatch PathMatch)
open Ingress (Action Match Route)
open Matching (Literal)

/-- The method match for a path match, if there is one. -/
def methodOn? : Option PathMatch → Option MethodMatch
  | some ⟨type, some value⟩ =>
    if type = some .regularExpression then none else Matching.methodOfPath? value
  | _ => none

/-- The match list for a method and predicates on headers; there is no match that asks nothing. -/
def grpcMatches (method : Option MethodMatch) (headers : List MetadataMatch) : List GrpcMatch :=
  if method.isSome || !headers.isEmpty then [⟨method, headers⟩] else []

/-- The predicates on headers that a gRPC rule keeps of a match. -/
def metadataOf (m : Match) : List MetadataMatch :=
  ((m.conditions.filterMap Literal.of?).filterMap Literal.header?).map grpcHeader

/-- Whether a rule takes only requests with certain headers, in each of its matches. -/
def IsSelective (r : GrpcRule) : Prop := r.matchList ≠ [] ∧ ∀ x ∈ r.matchList, x.headers ≠ []

instance (r : GrpcRule) : Decidable (IsSelective r) := inferInstanceAs (Decidable (_ ∧ _))

theorem value_translateMethod (path : Option PathMatch) (source : ObjectRef) :
    (Matching.translateMethod path source).value = methodOn? path := by
  unfold Matching.translateMethod methodOn?
  rcases path with _ | ⟨type, _ | value⟩
  · rfl
  · rfl
  · dsimp only
    split <;> rfl

theorem matchList_grpcRule (d : RuleDraft) (ns : String) (source : ObjectRef) :
    (grpcRule d ns source).value.matchList =
      grpcMatches (methodOn? d.predicates.path)
        ((d.predicates.headers.getD []).map grpcHeader) := by
  rw [← value_translateMethod _ source]
  unfold grpcRule
  by_cases h : d.predicates.queryParams.getD [] = []
  · simp [h, grpcMatches]
  · simp [h, grpcMatches]

section

variable (path : String) (c : Catalog) (source : ObjectRef) (ns : String) (owner : ObjectRef)

theorem matchList_ruleFor (m : Match) :
    (grpcRule (ruleFor path c source m) ns owner).value.matchList =
      grpcMatches (methodOn? (some (Matching.readPath path))) (metadataOf m) := by
  rw [matchList_grpcRule]
  change grpcMatches _ (((listIfAny _).getD []).map grpcHeader) = _
  rw [getD_listIfAny]
  rfl

theorem metadataOf_ne_nil_iff (m : Match) :
    metadataOf m ≠ [] ↔ m.conditions.any Matching.translatesToHeader = true := by
  rw [metadataOf, List.filterMap_filterMap, ← not_iff_not, not_not, List.map_eq_nil_iff,
    List.filterMap_eq_nil_iff, Bool.not_eq_true, List.any_eq_false]
  refine forall₂_congr fun condition _ => ?_
  rw [Matching.translatesToHeader]
  cases Literal.of? condition <;> simp

end

/-- A method alone does not make a rule selective. -/
theorem isSelective_iff {r : GrpcRule} {method : Option MethodMatch} {headers : List MetadataMatch}
    (h : r.matchList = grpcMatches method headers) : IsSelective r ↔ headers ≠ [] := by
  rw [IsSelective, h, grpcMatches]
  cases headers with
  | nil => cases method <;> simp
  | cons header headers => simp

/-- A rule is selective if and only if a condition of its match asks for a header; any other rule has the
very matches of the rule for the route itself, and stands before it. -/
theorem isSelective_routeRules (route : Route) (c : Catalog) (source : ObjectRef) (ns : String)
    (owner : ObjectRef) :
    List.Forall₂ (fun m d =>
        (IsSelective (grpcRule d ns owner).value ↔
          m.conditions.any Matching.translatesToHeader = true) ∧
        (¬ IsSelective (grpcRule d ns owner).value →
          (grpcRule d ns owner).value.matchList =
            (grpcRule (ruleFor route.path c source (rest route)) ns owner).value.matchList))
      (clauses route) (routeRules route c source).value := by
  rw [value_routeRules, List.forall₂_map_right_iff, List.forall₂_same]
  intro m _
  have hm := matchList_ruleFor route.path c source ns owner m
  have hrest := matchList_ruleFor route.path c source ns owner (rest route)
  constructor
  · rw [isSelective_iff hm, metadataOf_ne_nil_iff]
  · intro h
    rw [isSelective_iff hm, not_not] at h
    rw [hm, hrest, h]
    rfl

/-- A match on a query parameter alone. Its rule takes the requests that are meant for the route itself. -/
theorem not_isSelective_argument :
    let passTo (name : String) : Action := ⟨some name, none, none, none⟩
    let m : Match := ⟨[⟨none, none, some "env", none, "test"⟩], some (passTo "canary"), []⟩
    let route : Route := ⟨"/", none, some (passTo "stable"), [], [m], [], [], ""⟩
    let source : ObjectRef := ⟨"VirtualServer", none, some "shop", "cafe"⟩
    let upstreams := [Conversion.simpleUpstream "canary" "canary-svc" (some "grpc") none,
      Conversion.simpleUpstream "stable" "stable-svc" (some "grpc") none]
    let c := (Catalog.build upstreams "shop" source).value
    ∃ d ∈ (matchRules route (Matching.readPath route.path) c source).value,
      d.isGrpc = true ∧ ¬ IsSelective (grpcRule d "shop" source).value ∧
        (grpcRule d "shop" source).value.matchList = [] := by
  decide

end IngressGateway.Routing
