import IngressGateway.Matching.Predicate
import Mathlib.Data.List.Basic

/-!
Conditions one by one. A condition leads to a single predicate, on a header or on a query parameter, or to
none at all; the predicates for a list of conditions are those of its members, those on headers and those on
query parameters apart.
-/

set_option autoImplicit false

namespace IngressGateway.Matching

open Gateway (ValueMatch)
open Ingress (Condition Criterion)

/-- A single predicate on a request. -/
inductive Literal where
  | header (test : ValueMatch)
  | queryParam (test : ValueMatch)
deriving DecidableEq, Repr

namespace Literal

def header? : Literal → Option ValueMatch
  | .header test => some test
  | .queryParam _ => none

def queryParam? : Literal → Option ValueMatch
  | .header _ => none
  | .queryParam test => some test

/-- The predicate of a condition with one subject. A variable of the proxy has none, and a blank value asks
for nothing. -/
def ofCriterion? (k : Criterion) : Option Literal :=
  if k.wanted.isBlank then none
  else match k.subject with
    | .header name => some (.header ⟨name, some .regularExpression, valuePattern k.wanted⟩)
    | .argument name => some (.queryParam ⟨name, some .regularExpression, valuePattern k.wanted⟩)
    | .cookie name =>
      some (.header ⟨cookieHeader, some .regularExpression, cookiePattern name k.wanted⟩)
    | .internal _ => none

/-- The predicate of a condition; one without exactly one subject has none. -/
def of? (c : Condition) : Option Literal := c.criterion.toOption.bind ofCriterion?

end Literal

/-- Whether a condition translates to a predicate. -/
def translates (c : Condition) : Bool := (Literal.of? c).isSome

/-- Whether a condition translates to a predicate on a header. -/
def translatesToHeader (c : Condition) : Bool := (Literal.of? c).any fun l => l.header?.isSome

namespace Predicates

def ofLiterals (ls : List Literal) : Predicates :=
  ⟨ls.filterMap Literal.header?, ls.filterMap Literal.queryParam?⟩

def literals (p : Predicates) : List Literal :=
  p.headers.map .header ++ p.queryParams.map .queryParam

theorem isEmpty_ofLiterals (ls : List Literal) : (ofLiterals ls).isEmpty = ls.isEmpty := by
  cases ls with
  | nil => rfl
  | cons l ls => cases l <;> simp [ofLiterals, isEmpty, Literal.header?, Literal.queryParam?]

/-- Parting the predicates by what they are on keeps each of them. -/
theorem all_literals_ofLiterals (v : Literal → Bool) (ls : List Literal) :
    (ofLiterals ls).literals.all v = ls.all v := by
  induction ls with
  | nil => rfl
  | cons l ls ih =>
    simp only [literals, ofLiterals, List.all_append] at ih
    cases l with
    | header test =>
      simp [literals, ofLiterals, Literal.header?, Literal.queryParam?, ← ih]
    | queryParam test =>
      simp [literals, ofLiterals, Literal.header?, Literal.queryParam?, ← ih, Bool.and_left_comm]

theorem literals_ofLiterals_eq_nil_iff (ls : List Literal) : (ofLiterals ls).literals = [] ↔ ls = [] := by
  cases ls with
  | nil => simp [literals, ofLiterals]
  | cons l ls => cases l <;> simp [literals, ofLiterals, Literal.header?, Literal.queryParam?]

theorem flatten_ofLiterals (lss : List (List Literal)) :
    flatten (lss.map ofLiterals) = ofLiterals lss.flatten := by
  simp only [flatten, ofLiterals, List.flatMap_map, List.filterMap_flatten]
  rfl

end Predicates

theorem value_translateCriterion (k : Criterion) (source : ObjectRef) :
    (translateCriterion k source).value = .ofLiterals (Literal.ofCriterion? k).toList := by
  unfold translateCriterion Literal.ofCriterion?
  cases k.wanted.isBlank with
  | true => cases k.subject <;> rfl
  | false =>
    -- A remark on negation comes first; it leaves the predicate as it is.
    cases hs : k.subject with
    | internal name => rfl
    | header name => cases k.wanted.negated <;> simp [predicate, hs] <;> rfl
    | argument name => cases k.wanted.negated <;> simp [predicate, hs] <;> rfl
    | cookie name => cases k.wanted.negated <;> simp [predicate, hs] <;> rfl

theorem value_translateCondition (c : Condition) (source : ObjectRef) :
    (translateCondition c source).value = .ofLiterals (Literal.of? c).toList := by
  unfold translateCondition Literal.of?
  cases c.criterion with
  | error e => rfl
  | ok k => exact value_translateCriterion k source

theorem value_translateConditions (cs : List Condition) (source : ObjectRef) :
    (translateConditions cs source).value = .ofLiterals (cs.filterMap Literal.of?) := by
  have hconditions : (cs.map fun c => (translateCondition c source).value) =
      (cs.map fun c => (Literal.of? c).toList).map .ofLiterals := by
    rw [List.map_map]
    exact List.map_congr_left fun c _ => value_translateCondition c source
  change Predicates.flatten (cs.map fun c => (translateCondition c source).value) = _
  rw [hconditions, Predicates.flatten_ofLiterals, List.filterMap_eq_flatMap_toList]
  rfl

end IngressGateway.Matching
