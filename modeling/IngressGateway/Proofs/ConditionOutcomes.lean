import IngressGateway.Proofs.Literals
import IngressGateway.Proofs.Severities

/-!
What becomes of each condition. A condition that asks for one thing which requests carry, and for a value of it,
has one predicate. Any other condition has none, and its owner is told so once: in passing if the condition is
about a variable of the proxy, and with a warning if it is not written as conditions have to be.
-/

set_option autoImplicit false

namespace IngressGateway.Matching

open Ingress (Condition Criterion Subject Wanted)

def membersSet (c : Condition) : Nat :=
  [c.header, c.argument, c.cookie, c.internal].countP Text.isPresent

/-- Whether a condition asks for one thing that requests carry, and for a value of it. -/
def asksOfRequests (c : Condition) : Bool :=
  membersSet c = 1 && !Text.isPresent c.internal && !c.value.isEmpty

def asksOfProxy (c : Condition) : Bool := membersSet c = 1 && Text.isPresent c.internal

def isRejected (c : Condition) : Bool := !asksOfRequests c && !asksOfProxy c

def Predicates.size (p : Predicates) : Nat := p.headers.length + p.queryParams.length

/-- That a condition has one predicate, or else one notification that tells why it has none. -/
structure AccountsFor (c : Condition) (r : Reported Predicates) : Prop where
  kept : asksOfRequests c = true → r.value.size = 1 ∧ ∀ n ∈ r.notes, n.severity = .info
  dropped : asksOfRequests c = false → r.value.size = 0 ∧
    r.notes.map Notification.severity = [if asksOfProxy c then .info else .warning]

structure IsAdditive (translate : List Condition → Reported Predicates) : Prop where
  headers : ∀ cs ds, (translate (cs ++ ds)).value.headers =
    (translate cs).value.headers ++ (translate ds).value.headers
  queryParams : ∀ cs ds, (translate (cs ++ ds)).value.queryParams =
    (translate cs).value.queryParams ++ (translate ds).value.queryParams
  notes : ∀ cs ds, (translate (cs ++ ds)).notes = (translate cs).notes ++ (translate ds).notes

/-- That no condition is lost, whatever others there are: each is accounted for by itself, and all together have
as many predicates as there are conditions asking for one, and as many warnings as there are rejected ones. -/
structure AccountsForAll (translate : List Condition → Reported Predicates) : Prop
    extends IsAdditive translate where
  each : ∀ c, AccountsFor c (translate [c])
  predicates : ∀ cs, (translate cs).value.size = cs.countP asksOfRequests
  warnings : ∀ cs, (Notifications.mk (translate cs).notes).count .warning = cs.countP isRejected

/-! ### The subject of a condition -/

theorem length_candidates (c : Condition) : c.candidates.length = membersSet c := by
  rw [Condition.candidates, List.length_filterMap_eq_countP, membersSet]
  simp only [List.countP_cons, List.countP_nil, Text.isPresent_eq_isSome, id_eq, Option.isSome_map]

theorem any_isInternal_candidates (c : Condition) :
    (c.candidates.any fun candidate => candidate.2.isInternal) = Text.isPresent c.internal := by
  rw [Condition.candidates, List.any_filterMap, Text.isPresent_eq_isSome]
  cases Text.present? c.header <;> cases Text.present? c.argument <;> cases Text.present? c.cookie <;>
    cases Text.present? c.internal <;> rfl

theorem criterion_cases (c : Condition) :
    (membersSet c = 1 ∧ ∃ s : Subject, c.criterion = .ok ⟨s, .ofText c.value⟩ ∧
      s.isInternal = Text.isPresent c.internal) ∨
    (membersSet c ≠ 1 ∧ ∃ e, c.criterion = .error e) := by
  rw [← length_candidates, ← any_isInternal_candidates, Condition.criterion]
  match c.candidates with
  | [] => exact .inr ⟨Nat.zero_ne_one, _, rfl⟩
  | [(_, s)] => exact .inl ⟨rfl, s, rfl, (Bool.or_false _).symm⟩
  | _ :: _ :: rest =>
    refine .inr ⟨?_, _, rfl⟩
    simp only [List.length_cons]
    omega

theorem asks_of_one {c : Condition} {s : Subject} (hone : membersSet c = 1)
    (hs : s.isInternal = Text.isPresent c.internal) :
    asksOfRequests c = (!s.isInternal && !c.value.isEmpty) ∧ asksOfProxy c = s.isInternal := by
  rw [asksOfRequests, asksOfProxy, decide_eq_true hone, hs]
  exact ⟨rfl, rfl⟩

theorem asks_of_ne_one {c : Condition} (hne : membersSet c ≠ 1) :
    asksOfRequests c = false ∧ asksOfProxy c = false := by
  rw [asksOfRequests, asksOfProxy, decide_eq_false hne]
  exact ⟨rfl, rfl⟩

theorem isBlank_ofText (raw : String) : (Wanted.ofText raw).isBlank = raw.isEmpty := by
  unfold Wanted.ofText Wanted.isBlank
  split
  case h_1 rest hraw =>
    -- Not even an exclamation mark by itself is blank: it asks for any value but the empty one.
    have hne : raw ≠ "" := by
      rintro rfl
      cases hraw
    simp [hne]
  case h_2 => simp

/-! ### One condition -/

theorem size_ofLiterals (ls : List Literal) : (Predicates.ofLiterals ls).size = ls.length := by
  induction ls with
  | nil => rfl
  | cons l ls ih =>
    rw [List.length_cons, ← ih]
    cases l with
    | header test => exact Nat.add_right_comm _ 1 _
    | queryParam test => rfl

theorem isSome_ofCriterion? (k : Criterion) :
    (Literal.ofCriterion? k).isSome = (!k.subject.isInternal && !k.wanted.isBlank) := by
  unfold Literal.ofCriterion?
  cases k.wanted.isBlank <;> cases k.subject <;> rfl

theorem translates_eq_asksOfRequests (c : Condition) : translates c = asksOfRequests c := by
  rw [translates, Literal.of?]
  rcases criterion_cases c with ⟨hone, s, hc, hs⟩ | ⟨hne, e, hc⟩
  · rw [hc, (asks_of_one hone hs).1, ← isBlank_ofText]
    exact isSome_ofCriterion? ⟨s, .ofText c.value⟩
  · rw [hc, (asks_of_ne_one hne).1]
    rfl

section

variable (source : ObjectRef)

/-- A variable comes first: whether it has a value does not matter. -/
theorem severities_translateCriterion (k : Criterion) :
    ∃ remarks, (translateCriterion k source).notes.map Notification.severity =
      if k.subject.isInternal then [.info]
      else if k.wanted.isBlank then [.warning]
      else List.replicate remarks .info := by
  unfold translateCriterion
  cases k.subject with
  | internal name => exact ⟨0, rfl⟩
  | header name | argument name =>
    -- There is a remark on negation; a cookie has one more, on how it is looked for in a header.
    refine ⟨k.wanted.negated.toNat, ?_⟩
    cases k.wanted.isBlank with
    | true => rfl
    | false => cases k.wanted.negated <;> rfl
  | cookie name =>
    refine ⟨k.wanted.negated.toNat + 1, ?_⟩
    cases k.wanted.isBlank with
    | true => rfl
    | false => cases k.wanted.negated <;> rfl

theorem notes_of_criterion {c : Condition} {k : Criterion} (h : c.criterion = .ok k) :
    (translateCondition c source).notes = (translateCriterion k source).notes := by
  rw [translateCondition, h]

theorem size_translateCondition (c : Condition) :
    (translateCondition c source).value.size = (asksOfRequests c).toNat := by
  rw [value_translateCondition, size_ofLiterals, ← translates_eq_asksOfRequests, translates]
  cases Literal.of? c <;> rfl

theorem severities_translateCondition (c : Condition) :
    ∃ remarks, (translateCondition c source).notes.map Notification.severity =
      if asksOfRequests c then List.replicate remarks .info
      else [if asksOfProxy c then .info else .warning] := by
  rcases criterion_cases c with ⟨hone, s, hc, hs⟩ | ⟨hne, e, hc⟩
  · obtain ⟨hrequests, hproxy⟩ := asks_of_one hone hs
    obtain ⟨remarks, h⟩ := severities_translateCriterion source ⟨s, .ofText c.value⟩
    refine ⟨remarks, ?_⟩
    rw [notes_of_criterion source hc, h, isBlank_ofText, hrequests, hproxy]
    cases s.isInternal <;> cases c.value.isEmpty <;> rfl
  · obtain ⟨hrequests, hproxy⟩ := asks_of_ne_one hne
    refine ⟨0, ?_⟩
    rw [translateCondition, hc, hrequests, hproxy]
    rfl

theorem accountsFor_translateCondition (c : Condition) : AccountsFor c (translateCondition c source) := by
  have hsize := size_translateCondition source c
  obtain ⟨remarks, hseverities⟩ := severities_translateCondition source c
  constructor
  · intro hkept
    rw [hkept] at hsize
    rw [hkept, if_pos rfl] at hseverities
    refine ⟨hsize, fun n hn => List.eq_of_mem_replicate (n := remarks) ?_⟩
    rw [← hseverities]
    exact List.mem_map_of_mem hn
  · intro hdropped
    rw [hdropped] at hsize
    rw [hdropped, if_neg Bool.false_ne_true] at hseverities
    exact ⟨hsize, hseverities⟩

end

/-! ### Several conditions -/

theorem AccountsFor.count_warning {c : Condition} {r : Reported Predicates} (h : AccountsFor c r) :
    (Notifications.mk r.notes).count .warning = (isRejected c).toNat := by
  rw [Notifications.count_eq_count_severity, isRejected]
  cases hc : asksOfRequests c with
  | true =>
    refine List.count_eq_zero.2 fun hmem => ?_
    obtain ⟨n, hn, hs⟩ := List.mem_map.1 hmem
    rw [(h.kept hc).2 n hn] at hs
    cases hs
  | false =>
    rw [(h.dropped hc).2]
    cases asksOfProxy c <;> rfl

theorem isAdditive_translateConditions (source : ObjectRef) :
    IsAdditive fun cs => translateConditions cs source where
  headers cs ds := by
    simp only [value_translateConditions, Predicates.ofLiterals, List.filterMap_append]
  queryParams cs ds := by
    simp only [value_translateConditions, Predicates.ofLiterals, List.filterMap_append]
  notes cs ds := by
    simp only [translateConditions, Reported.notes_map, Reported.notes_each, List.flatMap_append]

theorem translateConditions_singleton (c : Condition) (source : ObjectRef) :
    translateConditions [c] source = translateCondition c source := by
  have hvalue : Predicates.flatten [(translateCondition c source).value] =
      (translateCondition c source).value := by
    rw [Predicates.flatten, List.flatMap_singleton, List.flatMap_singleton]
  calc
    translateConditions [c] source =
        ⟨Predicates.flatten [(translateCondition c source).value],
          ((translateCondition c source).notes ++ []) ++ []⟩ := rfl
    _ = translateCondition c source := by rw [hvalue, List.append_nil, List.append_nil]

section

variable {translate : List Condition → Reported Predicates} (h : IsAdditive translate)
  (heach : ∀ c, AccountsFor c (translate [c]))

include h

theorem IsAdditive.size_cons (c : Condition) (cs : List Condition) :
    (translate (c :: cs)).value.size = (translate [c]).value.size + (translate cs).value.size := by
  have hheaders := h.headers [c] cs
  have hqueryParams := h.queryParams [c] cs
  rw [List.singleton_append] at hheaders hqueryParams
  simp only [Predicates.size, hheaders, hqueryParams, List.length_append]
  omega

theorem IsAdditive.nil : (translate []).value.size = 0 ∧ (translate []).notes = [] := by
  have hheaders : (translate []).value.headers = [] := List.self_eq_append_left.1 (h.headers [] [])
  have hqueryParams : (translate []).value.queryParams = [] :=
    List.self_eq_append_left.1 (h.queryParams [] [])
  have hnotes : (translate []).notes = [] := List.self_eq_append_left.1 (h.notes [] [])
  exact ⟨by rw [Predicates.size, hheaders, hqueryParams]; rfl, hnotes⟩

include heach

theorem size_of_accountsFor (cs : List Condition) :
    (translate cs).value.size = cs.countP asksOfRequests := by
  induction cs with
  | nil => exact h.nil.1
  | cons c cs ih =>
    rw [h.size_cons, ih, List.countP_cons, Nat.add_comm]
    cases hc : asksOfRequests c with
    | true => rw [((heach c).kept hc).1]; rfl
    | false => rw [((heach c).dropped hc).1]; rfl

theorem warnings_of_accountsFor (cs : List Condition) :
    (Notifications.mk (translate cs).notes).count .warning = cs.countP isRejected := by
  induction cs with
  | nil =>
    rw [h.nil.2]
    rfl
  | cons c cs ih =>
    have hnotes := h.notes [c] cs
    rw [List.singleton_append] at hnotes
    rw [hnotes, Notifications.count_append, ih, (heach c).count_warning, List.countP_cons, Nat.add_comm]
    cases isRejected c <;> rfl

end

/-- No condition is lost in translation: what asks for something becomes a predicate, and of the rest the owner is
told. -/
theorem accountsForAll_translateConditions (source : ObjectRef) :
    AccountsForAll fun cs => translateConditions cs source := by
  have hadditive := isAdditive_translateConditions source
  have heach : ∀ c, AccountsFor c (translateConditions [c] source) := by
    intro c
    rw [translateConditions_singleton]
    exact accountsFor_translateCondition source c
  exact ⟨hadditive, heach, size_of_accountsFor hadditive heach, warnings_of_accountsFor hadditive heach⟩

end IngressGateway.Matching
