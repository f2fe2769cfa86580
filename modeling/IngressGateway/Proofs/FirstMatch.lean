import IngressGateway.Proofs.SplitTargets

/-!
First matches. The matches of a route are nested in it and tried before it; its rules are one flat list, of
which the first one counts that takes a request. Whatever the predicates say of a request, both choose alike,
and the chosen rule does with the request what the chosen match says.
-/

set_option autoImplicit false

namespace IngressGateway.Routing

open Backend (Catalog Target)
open Ingress (Match Route Upstream)
open Matching (Literal Predicates)

/-- Whether all predicates of the conditions of a match are true; conditions without one do not count. -/
def holds (v : Literal → Bool) (m : Match) : Bool :=
  m.conditions.all fun c => (Literal.of? c).all v

/-- Whether all predicates of a rule are true. -/
def RuleDraft.accepts (v : Literal → Bool) (d : RuleDraft) : Bool := d.literals.all v

/-- What becomes of a request: its first enabled match that holds takes it, or else the route itself if it
has an outcome. -/
def chosen? (v : Literal → Bool) (route : Route) : Option Match :=
  match route.branches.find? fun m => isEnabled m && holds v m with
  | some m => some m
  | none => if hasOutcome route.action route.splits then some (rest route) else none

/-- That a target is the service of an upstream, for all requests and without filters of its own. -/
structure IsServiceOf (c : Catalog) (u : Upstream) (t : Target) : Prop where
  upstream : t.upstream = u.name
  service : t.service = u.service
  ns : t.ns = c.ns
  port : t.port = some u.port
  grpc : t.grpc = u.isGrpc
  weight : t.weight = none
  filters : t.filters = []

/-- That a rule is the one for a match on a path. It has the filters of the action; its backends are the service of the
upstream that the action passes requests to and, behind it, the targets of the splits with the filters of theirs. -/
structure IsRuleFor (path : String) (c : Catalog) (source : ObjectRef) (m : Match) (d : RuleDraft) : Prop where
  asks : AsksFor path m d.predicates
  filters : d.filters = m.action.elim [] (actionFilters source)
  backends : ∃ own parts, d.backends = own ++ parts ∧
    List.Forall₂ (IsServiceOf c) ((m.action.bind passedTo?).bind c.get?).toList own ∧
    List.Forall₂ (fun s t => IsTargetOf c s t ∧ t.filters = s.action.elim [] (actionFilters source))
      (m.splits.filter (hasTarget c)) parts

section

variable (route : Route) (c : Catalog) (source : ObjectRef) (v : Literal → Bool)

theorem accepts_ruleFor (path : String) (m : Match) :
    (ruleFor path c source m).accepts v = holds v m := by
  rw [RuleDraft.accepts, literals_ruleFor, Predicates.all_literals_ofLiterals, List.all_filterMap]
  exact List.all_congr rfl fun condition => by cases Literal.of? condition <;> rfl

theorem isServiceOf_target? (name? : Option String) :
    List.Forall₂ (IsServiceOf c) (name?.bind c.get?).toList (name?.bind c.target?).toList := by
  cases name? with
  | none => exact .nil
  | some name =>
    change List.Forall₂ _ (c.get? name).toList ((c.get? name).map (Target.ofUpstream c.ns)).toList
    cases c.get? name with
    | none => exact .nil
    | some u => exact .cons ⟨rfl, rfl, rfl, rfl, rfl, rfl, rfl⟩ .nil

theorem isRuleFor_ruleFor (path : String) (m : Match) :
    IsRuleFor path c source m (ruleFor path c source m) where
  asks := asksFor_ruleFor path c source m
  filters := filters_ruleFor path c source m
  backends := by
    refine ⟨_, _, backends_ruleFor path c source m, isServiceOf_target? c _, ?_⟩
    exact forall₂_filterMap isSome_translateSplit
      (fun s t h => ⟨isTargetOf_of_translateSplit h, filters_of_translateSplit h⟩) m.splits

/-- Asking nothing of a request, the route itself takes every one. -/
theorem holds_rest : holds v (rest route) = true := rfl

theorem find?_clauses : (clauses route).find? (holds v) = chosen? v route := by
  have henabled : (route.branches.filter isEnabled).find? (holds v) =
      route.branches.find? fun m => isEnabled m && holds v m := by
    rw [List.find?_filter]
    simp
  rw [clauses, List.find?_append, henabled, chosen?]
  cases route.branches.find? fun m => isEnabled m && holds v m with
  | some m => rfl
  | none => cases hasOutcome route.action route.splits <;> simp [holds_rest]

/-- The first rule that takes a request is the rule for what the route itself would choose, with its predicates, its
filters and its backends. It stands where its match stands among the enabled ones, and behind all of them if no
match holds. -/
theorem find?_routeRules :
    (routeRules route c source).value.find? (RuleDraft.accepts v) =
        (chosen? v route).map (ruleFor route.path c source) ∧
      (∀ m ∈ chosen? v route, IsRuleFor route.path c source m (ruleFor route.path c source m)) ∧
      (routeRules route c source).value.findIdx? (RuleDraft.accepts v) =
        ((route.branches.filter isEnabled).findIdx? (holds v) <|>
          if hasOutcome route.action route.splits then some (route.branches.filter isEnabled).length
          else none) := by
  have haccepts : RuleDraft.accepts v ∘ ruleFor route.path c source = holds v :=
    funext fun m => accepts_ruleFor c source v route.path m
  rw [value_routeRules]
  refine ⟨?_, fun m _ => isRuleFor_ruleFor c source route.path m, ?_⟩
  · rw [List.find?_map, haccepts, find?_clauses]
  · rw [List.findIdx?_map, haccepts, clauses, List.findIdx?_append]
    cases hasOutcome route.action route.splits <;> simp [holds_rest]

end

end IngressGateway.Routing
