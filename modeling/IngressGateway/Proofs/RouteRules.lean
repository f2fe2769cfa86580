import IngressGateway.Proofs.Literals
import IngressGateway.Routing.Rule

/-!
The rules of a route one by one. A route leads to one rule for each match that has an outcome and a condition
which translates, in order, and then to one for itself if it has an outcome. Whether an upstream name can be
resolved decides about the backends of a rule, but not about the rule.
-/

set_option autoImplicit false

namespace IngressGateway.Routing

open Backend (Catalog Target)
open Gateway (HttpMatch)
open Ingress (Action Match Route Split Upstream)
open Matching (Literal Predicates)

/-- The route itself as a match, one that asks nothing of a request. -/
def rest (route : Route) : Match := ⟨[], route.action, route.splits⟩

/-- Whether a match has a rule. -/
def isEnabled (m : Match) : Bool :=
  hasOutcome m.action m.splits && m.conditions.any Matching.translates

/-- What there are rules for, in order: the enabled matches, and the route itself behind them. -/
def clauses (route : Route) : List Match :=
  route.branches.filter isEnabled ++
    if hasOutcome route.action route.splits then [rest route] else []

/-- The rule for a match on a path, with the predicates of the conditions that have one. -/
def ruleFor (path : String) (c : Catalog) (source : ObjectRef) (m : Match) : RuleDraft :=
  (draftRule (matchOn (Matching.readPath path) (.ofLiterals (m.conditions.filterMap Literal.of?)))
    m.action m.splits c source).value

/-- The predicates of a rule on headers and on query parameters. -/
def RuleDraft.literals (d : RuleDraft) : List Literal :=
  (d.predicates.headers.getD []).map .header ++ (d.predicates.queryParams.getD []).map .queryParam

/-- That a match of a rule asks for a path and for what the conditions of a clause come to. It asks for the path alone
if they come to nothing. -/
structure AsksFor (path : String) (m : Match) (x : HttpMatch) : Prop where
  path : x.path = some (Matching.readPath path)
  method : x.method = none
  headers : x.headers.getD [] = (m.conditions.filterMap Literal.of?).filterMap Literal.header?
  queryParams : x.queryParams.getD [] = (m.conditions.filterMap Literal.of?).filterMap Literal.queryParam?
  bare : x.headers = none ∧ x.queryParams = none ↔ m.conditions.filterMap Literal.of? = []

theorem getD_listIfAny {α : Type} (l : List α) : (listIfAny l).getD [] = l := by
  cases l <;> rfl

theorem listIfAny_eq_none_iff {α : Type} {l : List α} : listIfAny l = none ↔ l = [] := by
  cases l <;> simp [listIfAny]

theorem listIfAny_of_mem {α : Type} {l : List α} {a : α} (h : a ∈ l) : listIfAny l = some l := by
  cases h <;> rfl

section

variable (route : Route) (path : String) (c : Catalog) (source : ObjectRef) (m : Match)

theorem literals_ruleFor :
    (ruleFor path c source m).literals =
      (Predicates.ofLiterals (m.conditions.filterMap Literal.of?)).literals := by
  change ((listIfAny _).getD []).map _ ++ ((listIfAny _).getD []).map _ = _
  rw [getD_listIfAny, getD_listIfAny]
  rfl

theorem asksFor_ruleFor : AsksFor path m (ruleFor path c source m).predicates where
  path := rfl
  method := rfl
  headers := getD_listIfAny _
  queryParams := getD_listIfAny _
  bare := by
    have hempty := Predicates.isEmpty_ofLiterals (m.conditions.filterMap Literal.of?)
    rw [Predicates.isEmpty, Bool.eq_iff_iff, Bool.and_eq_true, List.isEmpty_iff, List.isEmpty_iff,
      List.isEmpty_iff] at hempty
    rw [← hempty]
    exact and_congr listIfAny_eq_none_iff listIfAny_eq_none_iff

theorem any_translates :
    m.conditions.any Matching.translates = !(m.conditions.filterMap Literal.of?).isEmpty := by
  rw [Bool.eq_iff_iff]
  simp [Matching.translates, List.filterMap_eq_nil_iff, Option.isSome_iff_ne_none]

theorem value_matchRule (index : Nat) :
    (matchRule route (Matching.readPath route.path) c source index m).value =
      if isEnabled m then some (ruleFor route.path c source m) else none := by
  unfold matchRule isEnabled
  rw [any_translates]
  cases hasOutcome m.action m.splits with
  | false => rfl
  | true =>
    have hp := Matching.value_translateConditions m.conditions source
    cases hempty : (m.conditions.filterMap Literal.of?).isEmpty with
    | true => simp [hp, Predicates.isEmpty_ofLiterals, hempty]
    | false => simp [hp, Predicates.isEmpty_ofLiterals, hempty, ruleFor]

/-- The index of a match shows in a warning only. -/
theorem value_matchRules :
    (matchRules route (Matching.readPath route.path) c source).value =
      (route.branches.filter isEnabled).map (ruleFor route.path c source) := by
  have hrules : (route.branches.zipIdx.map fun m =>
      (matchRule route (Matching.readPath route.path) c source m.2 m.1).value) =
      route.branches.map fun m =>
        if isEnabled m then some (ruleFor route.path c source m) else none := by
    conv_rhs => rw [← List.zipIdx_map_fst 0 route.branches, List.map_map]
    exact List.map_congr_left fun m _ => value_matchRule route c source m.1 m.2
  change (route.branches.zipIdx.map fun m =>
    (matchRule route (Matching.readPath route.path) c source m.2 m.1).value).filterMap id = _
  rw [hrules, List.filterMap_map, ← List.filterMap_eq_map, List.filterMap_filter]
  rfl

theorem value_catchAllRule :
    (catchAllRule route (Matching.readPath route.path) c source).value =
      if hasOutcome route.action route.splits then some (ruleFor route.path c source (rest route))
      else none := by
  unfold catchAllRule
  cases hasOutcome route.action route.splits <;> rfl

theorem value_translatePath :
    (Matching.translatePath path source).value = Matching.readPath path := by
  unfold Matching.translatePath
  cases Matching.ignoresCase path <;> rfl

theorem value_routeRules :
    (routeRules route c source).value = (clauses route).map (ruleFor route.path c source) := by
  simp only [routeRules, Reported.value_bind, Reported.value_pure, value_translatePath,
    value_matchRules, value_catchAllRule, clauses, List.map_append]
  cases hasOutcome route.action route.splits <;> rfl

end

/-! ### The backends of a rule -/

/-- The name of the upstream that an action passes requests to, if it passes them on at all. -/
def passedTo? (a : Action) : Option String :=
  match a.choice with
  | .ok (.pass name) => some name
  | .ok (.proxy p) => if p.upstream.isEmpty then none else some p.upstream
  | _ => none

/-- The name of the upstream of a part of the requests; without weight there is no part. -/
def splitTo? (s : Split) : Option String :=
  if 0 < s.weight.val then s.action.bind passedTo? else none

/-- The names of all upstreams that a match passes requests to. -/
def upstreamNames (m : Match) : List String :=
  (m.action.bind passedTo?).toList ++ m.splits.filterMap splitTo?

/-- Whether a name is that of a gRPC upstream. -/
def namesGrpc (c : Catalog) (name : String) : Bool := (c.get? name).any Upstream.isGrpc

variable (path : String) (c : Catalog) (source : ObjectRef)

theorem value_lookUp (name : String) : (Backend.lookUp c name source).value = c.target? name := by
  unfold Backend.lookUp
  cases c.target? name <;> rfl

theorem backend_translateAction (a : Action) :
    (Backend.translateAction a c source).value.backend = (passedTo? a).bind c.target? := by
  unfold Backend.translateAction passedTo?
  cases a.choice with
  | error e => rfl
  | ok choice =>
    cases choice with
    | pass name => exact value_lookUp c source name
    | redirect url code => rfl
    | reply code body => rfl
    | proxy p =>
      change (Backend.proxyTarget c p source).value =
        (if p.upstream.isEmpty then none else some p.upstream).bind c.target?
      unfold Backend.proxyTarget
      split
      · rfl
      · exact value_lookUp c source p.upstream

theorem backend_translateOptional (a : Option Action) :
    (translateOptional a c source).value.backend = (a.bind passedTo?).bind c.target? := by
  cases a with
  | none => rfl
  | some a => exact backend_translateAction c source a

theorem value_translateSplits (splits : List Split) :
    (Backend.translateSplits splits c source).value =
      splits.filterMap fun s => (Backend.translateSplit s c source).value := by
  unfold Backend.translateSplits
  cases splits with
  | nil => rfl
  | cons s splits =>
    change ((s :: splits).map fun s => (Backend.translateSplit s c source).value).filterMap id = _
    rw [List.filterMap_map]
    rfl

theorem backends_ruleFor (m : Match) :
    (ruleFor path c source m).backends =
      ((m.action.bind passedTo?).bind c.target?).toList ++
        m.splits.filterMap fun s => (Backend.translateSplit s c source).value := by
  rw [← backend_translateOptional c source, ← value_translateSplits]
  rfl

theorem value_translateSplit (s : Split) :
    (Backend.translateSplit s c source).value =
      if 0 < s.weight.val then s.action.bind fun a =>
        Backend.splitTarget? s.weight c.ns (Backend.translateAction a c source).value else none := by
  unfold Backend.translateSplit
  split
  · cases s.action <;> rfl
  · rfl

/-! A target of filters alone is in the namespace of the catalog, and no gRPC backend. -/

theorem any_grpc_splitTarget? (weight : Signed32) (ns : String) (o : Backend.Outcome) :
    (Backend.splitTarget? weight ns o).any Target.grpc = o.backend.any Target.grpc := by
  unfold Backend.splitTarget?
  cases o.backend with
  | some t => rfl
  | none => cases o.filters.isEmpty <;> rfl

theorem ns_of_splitTarget? {weight : Signed32} {ns : String} {o : Backend.Outcome} {t : Target}
    (ho : ∀ t ∈ o.backend, t.ns = ns) (h : Backend.splitTarget? weight ns o = some t) : t.ns = ns := by
  unfold Backend.splitTarget? at h
  split at h
  case h_1 t' ht' =>
    cases h
    exact ho t' ht'
  case h_2 =>
    split at h
    · cases h
    · cases h
      rfl

theorem any_grpc_target? (name? : Option String) :
    (name?.bind c.target?).any Target.grpc = name?.any (namesGrpc c) := by
  cases name? with
  | none => rfl
  | some name => exact Option.any_map

theorem ns_of_target? {name? : Option String} {t : Target} (h : name?.bind c.target? = some t) :
    t.ns = c.ns := by
  obtain ⟨name, _, h⟩ := Option.bind_eq_some_iff.1 h
  obtain ⟨u, _, rfl⟩ := Option.map_eq_some_iff.1 h
  rfl

theorem any_grpc_translateSplit (s : Split) :
    (Backend.translateSplit s c source).value.any Target.grpc = (splitTo? s).any (namesGrpc c) := by
  rw [value_translateSplit, splitTo?]
  split
  · cases s.action with
    | none => rfl
    | some a =>
      rw [Option.bind_some, Option.bind_some, any_grpc_splitTarget?, backend_translateAction,
        any_grpc_target?]
  · rfl

theorem any_toList {α : Type} (o : Option α) (p : α → Bool) : o.toList.any p = o.any p := by
  cases o with
  | none => rfl
  | some a => exact Bool.or_false (p a)

theorem any_filterMap {α β : Type} (f : α → Option β) (p : β → Bool) (l : List α) :
    (l.filterMap f).any p = l.any fun a => (f a).any p := by
  rw [List.any_filterMap]
  exact List.any_congr rfl fun a => by cases f a <;> rfl

/-- A rule is a gRPC rule if and only if one of its upstream names is that of a gRPC upstream. -/
theorem isGrpc_ruleFor (m : Match) :
    (ruleFor path c source m).isGrpc = (upstreamNames m).any (namesGrpc c) := by
  rw [RuleDraft.isGrpc, backends_ruleFor, upstreamNames, List.any_append, List.any_append,
    any_filterMap, any_filterMap, any_toList, any_toList, any_grpc_target?]
  simp only [any_grpc_translateSplit]

/-- All backends of a rule are in the namespace of the catalog in which their names are looked up. -/
theorem ns_of_mem_backends {m : Match} {t : Target} (h : t ∈ (ruleFor path c source m).backends) :
    t.ns = c.ns := by
  rw [backends_ruleFor, List.mem_append, Option.mem_toList, List.mem_filterMap] at h
  rcases h with h | ⟨s, _, h⟩
  · exact ns_of_target? c h
  · rw [value_translateSplit] at h
    split at h
    · obtain ⟨a, _, h⟩ := Option.bind_eq_some_iff.1 h
      refine ns_of_splitTarget? (fun t' ht' => ?_) h
      rw [backend_translateAction] at ht'
      exact ns_of_target? c ht'
    · cases h

end IngressGateway.Routing
