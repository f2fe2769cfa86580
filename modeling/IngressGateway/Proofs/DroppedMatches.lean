import IngressGateway.Proofs.Arrangement
import IngressGateway.Proofs.ConditionOutcomes
import IngressGateway.Proofs.RouteRules

/-!
Matches without a rule. A match that asks nothing of requests would take all those that are meant for its route,
so it has no rule, and the owner is warned of it. A match without an action and without splits has no rule
either, but of that nobody is told.
-/

set_option autoImplicit false

namespace IngressGateway.Routing

open Backend (Catalog)
open Ingress (Action Match Route)

/-- Whether there is nothing to do with the requests that a match takes. -/
def isIdle (m : Match) : Bool := m.action.isNone && m.splits.isEmpty

def asksNothing (m : Match) : Bool := !m.conditions.any Matching.asksOfRequests

def shadowWarning (route : Route) (source : ObjectRef) (index : Nat) : Notification :=
  ⟨.warning, s!"Match {index} on path '{route.path}' has no convertible conditions "
    ++ "and would shadow the route, skipping", source⟩

/-- What becomes of one match of a route: it has a rule, or the owner is warned, or it is idle. -/
structure IsAnswerTo (route : Route) (source : ObjectRef) (m : Match × Nat)
    (a : Reported (Option RuleDraft)) : Prop where
  built : a.value.isSome = (!isIdle m.1 && !asksNothing m.1)
  warned : isIdle m.1 = false → a.value = none → shadowWarning route source m.2 ∈ a.notes
  idle : isIdle m.1 = true → a.notes = []

/-- That each match of a route has an answer of its own, in order, and that no more matches than the idle ones
are dropped without a warning. -/
structure AnswersEach (route : Route) (source : ObjectRef) (r : Reported (List RuleDraft))
    (answers : List (Reported (Option RuleDraft))) : Prop where
  each : List.Forall₂ (IsAnswerTo route source) route.branches.zipIdx answers
  rules : ∃ last : Option RuleDraft, last.isSome = hasOutcome route.action route.splits ∧
    r.value = answers.filterMap Reported.value ++ last.toList
  notes : answers.flatMap Reported.notes <:+: r.notes
  dropped : answers.countP (fun a => a.value.isNone) ≤
    (Notifications.mk r.notes).count .warning + route.branches.countP isIdle

theorem hasOutcome_eq_not_isIdle (m : Match) : hasOutcome m.action m.splits = !isIdle m := by
  rw [hasOutcome, isIdle, Bool.not_and, Option.not_isNone]

theorem isEnabled_eq (m : Match) : isEnabled m = (!isIdle m && !asksNothing m) := by
  rw [isEnabled, hasOutcome_eq_not_isIdle, asksNothing, Bool.not_not]
  congr 2
  exact funext Matching.translates_eq_asksOfRequests

section

variable (route : Route) (c : Catalog) (source : ObjectRef)

def answerTo (m : Match × Nat) : Reported (Option RuleDraft) :=
  matchRule route (Matching.readPath route.path) c source m.2 m.1

theorem isEmpty_translateConditions {m : Match} (h : asksNothing m = true) :
    (Matching.translateConditions m.conditions source).value.isEmpty = true := by
  have htranslates : m.conditions.any Matching.translates = false := by
    rw [asksNothing, Bool.not_eq_true'] at h
    rw [← h]
    exact List.any_congr rfl Matching.translates_eq_asksOfRequests
  rw [any_translates, Bool.not_eq_false'] at htranslates
  rw [Matching.value_translateConditions, Matching.Predicates.isEmpty_ofLiterals, htranslates]

theorem shadowWarning_mem_answerTo {m : Match × Nat} (hidle : isIdle m.1 = false)
    (hasks : asksNothing m.1 = true) : shadowWarning route source m.2 ∈ (answerTo route c source m).notes := by
  have hempty := isEmpty_translateConditions source hasks
  rw [answerTo, matchRule, hasOutcome_eq_not_isIdle, hidle, if_pos Bool.not_false, Reported.notes_bind,
    hempty, if_pos rfl]
  exact List.mem_append_right _ (List.mem_singleton_self _)

theorem isAnswerTo_answerTo (m : Match × Nat) :
    IsAnswerTo route source m (answerTo route c source m) := by
  have hbuilt : (answerTo route c source m).value.isSome = (!isIdle m.1 && !asksNothing m.1) := by
    rw [answerTo, value_matchRule, ← isEnabled_eq]
    cases isEnabled m.1 <;> rfl
  refine ⟨hbuilt, ?_, ?_⟩
  · intro hidle hnone
    rw [hnone, hidle] at hbuilt
    exact shadowWarning_mem_answerTo route c source hidle (by simpa using hbuilt)
  · intro hidle
    rw [answerTo, matchRule, hasOutcome_eq_not_isIdle, hidle]
    rfl

theorem notes_matchRules :
    (matchRules route (Matching.readPath route.path) c source).notes =
      (route.branches.zipIdx.map (answerTo route c source)).flatMap Reported.notes := by
  rw [matchRules, Reported.notes_map, Reported.notes_each, List.flatMap_map]
  rfl

theorem notes_routeRules :
    (routeRules route c source).notes =
      ((checkRoute route source).notes ++ (Matching.translatePath route.path source).notes) ++
        (route.branches.zipIdx.map (answerTo route c source)).flatMap Reported.notes ++
          (catchAllRule route (Matching.readPath route.path) c source).notes := by
  rw [← notes_matchRules, List.append_assoc, List.append_assoc, routeRules]
  simp only [Reported.notes_bind, Reported.notes_pure, value_translatePath, List.append_nil]

theorem value_matchRules_eq :
    (matchRules route (Matching.readPath route.path) c source).value =
      (route.branches.zipIdx.map (answerTo route c source)).filterMap Reported.value := by
  rw [matchRules, Reported.value_map, Reported.value_each, List.filterMap_map, List.filterMap_map]
  rfl

end

/-! ### All matches -/

section

variable {route : Route} {source : ObjectRef}

theorem IsAnswerTo.isNone_le {m : Match × Nat} {a : Reported (Option RuleDraft)}
    (h : IsAnswerTo route source m a) :
    (if a.value.isNone then 1 else 0) ≤
      (Notifications.mk a.notes).count .warning + if isIdle m.1 then 1 else 0 := by
  cases hidle : isIdle m.1 with
  | true =>
    rw [if_pos rfl]
    split <;> omega
  | false =>
    cases hvalue : a.value with
    | some d => exact Nat.zero_le _
    | none =>
      have hwarned := Notifications.count_pos_of_mem (h.warned hidle hvalue)
      exact Nat.le_add_right_of_le hwarned

theorem countP_isNone_le {ms : List (Match × Nat)} {answers : List (Reported (Option RuleDraft))}
    (h : List.Forall₂ (IsAnswerTo route source) ms answers) :
    answers.countP (fun a => a.value.isNone) ≤
      (Notifications.mk (answers.flatMap Reported.notes)).count .warning +
        ms.countP fun m => isIdle m.1 := by
  induction h with
  | nil => exact Nat.le_refl 0
  | cons hm hms ih =>
    -- A match without a rule is idle, or one of the warnings is about it and about no other match.
    have hone := hm.isNone_le
    rw [List.flatMap_cons, Notifications.count_append, List.countP_cons, List.countP_cons]
    omega

end

/-- The answers to the matches of a route make up its rules and notifications, those for the route itself apart.
A match is dropped in silence if and only if it is idle. -/
theorem answersEach_routeRules (route : Route) (c : Catalog) (source : ObjectRef) :
    ∃ answers, AnswersEach route source (routeRules route c source) answers := by
  let answers := route.branches.zipIdx.map (answerTo route c source)
  have heach : List.Forall₂ (IsAnswerTo route source) route.branches.zipIdx answers := by
    rw [List.forall₂_map_right_iff, List.forall₂_same]
    exact fun m _ => isAnswerTo_answerTo route c source m
  have hnotes : answers.flatMap Reported.notes <:+: (routeRules route c source).notes :=
    ⟨_, _, (notes_routeRules route c source).symm⟩
  refine ⟨answers, heach, ?_, hnotes, ?_⟩
  · refine ⟨(catchAllRule route (Matching.readPath route.path) c source).value, ?_, ?_⟩
    · rw [value_catchAllRule]
      cases hasOutcome route.action route.splits <;> rfl
    · rw [← value_matchRules_eq, routeRules]
      simp only [Reported.value_bind, Reported.value_pure, value_translatePath]
  · have hwarnings : (Notifications.mk (answers.flatMap Reported.notes)).count .warning ≤
        (Notifications.mk (routeRules route c source).notes).count .warning :=
      Notifications.count_le_of_sublist hnotes.sublist .warning
    have hidle : (route.branches.zipIdx.countP fun m => isIdle m.1) = route.branches.countP isIdle := by
      conv_rhs => rw [← List.zipIdx_map_fst 0 route.branches, List.countP_map]
      rfl
    have hdropped := countP_isNone_le heach
    omega

/-- A match without an action and without splits, before the action of its route. The match has no rule, and
there is no notification at all. -/
theorem dropped_in_silence :
    let passTea : Action := ⟨some "tea", none, none, none⟩
    let m : Match := ⟨[⟨some "x-env", none, none, none, "test"⟩], none, []⟩
    let route : Route := ⟨"/tea", none, some passTea, [], [m], [], [], ""⟩
    let source : ObjectRef := ⟨"VirtualServer", none, some "shop", "cafe"⟩
    let c := (Catalog.build [Conversion.simpleUpstream "tea" "tea-svc" none none] "shop" source).value
    (matchRules route (Matching.readPath route.path) c source).value = [] ∧
      (routeRules route c source).value.length = 1 ∧ (routeRules route c source).notes = [] := by
  decide

end IngressGateway.Routing
