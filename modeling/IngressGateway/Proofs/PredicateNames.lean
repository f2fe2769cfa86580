import IngressGateway.Proofs.Literals
import IngressGateway.Text.Ascii
import Mathlib.Data.List.Nodup

/-!
The names of predicates. Of several predicates of a match on one header only the first counts, and so it is
with query parameters. Conditions with different subjects lead to predicates with different names, but all
cookies are in one header: two of them in a match share a name, and so do a cookie and that header itself.
-/

set_option autoImplicit false

namespace IngressGateway.Matching

open Gateway (ValueMatch)
open Ingress (Condition Criterion Subject)

def lowered : Subject → Subject
  | .header name => .header (Text.lower name)
  | .argument name => .argument (Text.lower name)
  | .cookie name => .cookie (Text.lower name)
  | .internal name => .internal (Text.lower name)

/-- The subjects of conditions, in order; a condition without exactly one subject has none. -/
def subjects (cs : List Condition) : List Subject :=
  cs.filterMap fun c => c.criterion.toOption.map Criterion.subject

/-- No two conditions ask for the same kind of thing by the same name. -/
def DistinctSubjects (cs : List Condition) : Prop := ((subjects cs).map lowered).Nodup

instance (cs : List Condition) : Decidable (DistinctSubjects cs) :=
  inferInstanceAs (Decidable (List.Nodup _))

def isCookieSubject : Subject → Bool
  | .header name => Text.sameIgnoringCase name cookieHeader
  | .argument _ => false
  | .cookie _ => true
  | .internal _ => false

/-- Whether a condition is about the header that carries all cookies. -/
def asksForCookies (c : Condition) : Bool :=
  c.criterion.toOption.any fun k => !k.wanted.isBlank && isCookieSubject k.subject

def loweredName (test : ValueMatch) : String := Text.lower test.name

def isOnCookies (test : ValueMatch) : Bool := Text.sameIgnoringCase test.name cookieHeader

/-- That the names of predicates are as different as the subjects of their conditions, except on the header
that carries all cookies. -/
structure IsApart (cs : List Condition) (p : Predicates) : Prop where
  headers : ((p.headers.filter fun test => !isOnCookies test).map loweredName).Nodup
  queryParams : (p.queryParams.map loweredName).Nodup
  cookies : (p.headers.filter isOnCookies).length = (cs.filter asksForCookies).length
  unique : (p.headers.map loweredName).Nodup ↔ (cs.filter asksForCookies).length ≤ 1

/-! ### The predicate of one condition -/

def headerOf? (c : Condition) : Option ValueMatch := (Literal.of? c).bind Literal.header?

def queryParamOf? (c : Condition) : Option ValueMatch := (Literal.of? c).bind Literal.queryParam?

theorem headers_translateConditions (cs : List Condition) (source : ObjectRef) :
    (translateConditions cs source).value.headers = cs.filterMap headerOf? := by
  rw [value_translateConditions]
  exact List.filterMap_filterMap

theorem queryParams_translateConditions (cs : List Condition) (source : ObjectRef) :
    (translateConditions cs source).value.queryParams = cs.filterMap queryParamOf? := by
  rw [value_translateConditions]
  exact List.filterMap_filterMap

/-- Whether a literal is on what a subject names, or else on the header that carries all cookies. -/
def IsNamedBy (s : Subject) : Literal → Prop
  | .header test => isOnCookies test = true ∨ lowered s = .header (loweredName test)
  | .queryParam test => lowered s = .argument (loweredName test)

theorem exists_criterion_of_literal {c : Condition} {l : Literal} (h : Literal.of? c = some l) :
    ∃ k, c.criterion.toOption = some k ∧ IsNamedBy k.subject l := by
  obtain ⟨k, hk, hl⟩ := Option.bind_eq_some_iff.1 h
  refine ⟨k, hk, ?_⟩
  unfold Literal.ofCriterion? at hl
  split at hl
  case isTrue => cases hl
  case isFalse =>
    cases hs : k.subject with
    | header name =>
      rw [hs] at hl
      cases hl
      exact .inr rfl
    | argument name =>
      rw [hs] at hl
      cases hl
      exact rfl
    | cookie name =>
      rw [hs] at hl
      cases hl
      exact .inl (Text.sameIgnoringCase_self cookieHeader)
    | internal name => simp [hs] at hl

theorem criterion_of_headerOf? {c : Condition} {test : ValueMatch} (h : headerOf? c = some test)
    (hcookies : isOnCookies test = false) :
    ∃ k, c.criterion.toOption = some k ∧ lowered k.subject = .header (loweredName test) := by
  obtain ⟨l, hl, htest⟩ := Option.bind_eq_some_iff.1 h
  obtain ⟨k, hk, hnamed⟩ := exists_criterion_of_literal hl
  cases l with
  | header test' =>
    cases htest
    rcases hnamed with hon | hnamed
    · exact absurd (hon.symm.trans hcookies) Bool.false_ne_true.symm
    · exact ⟨k, hk, hnamed⟩
  | queryParam test' => cases htest

theorem criterion_of_queryParamOf? {c : Condition} {test : ValueMatch}
    (h : queryParamOf? c = some test) :
    ∃ k, c.criterion.toOption = some k ∧ lowered k.subject = .argument (loweredName test) := by
  obtain ⟨l, hl, htest⟩ := Option.bind_eq_some_iff.1 h
  obtain ⟨k, hk, hnamed⟩ := exists_criterion_of_literal hl
  cases l with
  | header test' => cases htest
  | queryParam test' =>
    cases htest
    exact ⟨k, hk, hnamed⟩

theorem any_isOnCookies_headerOf? (c : Condition) :
    (headerOf? c).any isOnCookies = asksForCookies c := by
  unfold headerOf? Literal.of? asksForCookies
  cases c.criterion.toOption with
  | none => rfl
  | some k =>
    rw [Option.bind_some, Option.any_some, Literal.ofCriterion?]
    cases k.wanted.isBlank with
    | true => rfl
    | false =>
      cases k.subject with
      | header name => rfl
      | argument name => rfl
      | cookie name =>
        change isOnCookies ⟨cookieHeader, _, _⟩ = true
        exact Text.sameIgnoringCase_self cookieHeader
      | internal name => rfl

/-! ### The predicates of several conditions -/

section

variable (cs : List Condition) (kind : String → Subject) {test? : Condition → Option ValueMatch}
  (hkind : ∀ c test, test? c = some test →
    ∃ k, c.criterion.toOption = some k ∧ lowered k.subject = kind (loweredName test))

include hkind

/-- Each predicate has its name from a subject of its own. -/
theorem names_sublist_subjects :
    (((cs.filterMap test?).map loweredName).map kind).Sublist ((subjects cs).map lowered) := by
  induction cs with
  | nil => exact .slnil
  | cons c cs ih =>
    unfold subjects at ih ⊢
    rw [List.filterMap_cons, List.filterMap_cons]
    cases ht : test? c with
    | none =>
      cases c.criterion.toOption with
      | none => exact ih
      | some k => exact ih.cons _
    | some test =>
      obtain ⟨k, hk, hname⟩ := hkind c test ht
      rw [hk]
      change List.Sublist (kind (loweredName test) :: _) (lowered k.subject :: _)
      rw [hname]
      exact ih.cons_cons _

theorem nodup_loweredName (hd : DistinctSubjects cs) :
    ((cs.filterMap test?).map loweredName).Nodup := by
  have hsubjects := List.Nodup.sublist (names_sublist_subjects cs kind hkind) hd
  exact List.Nodup.of_map kind hsubjects

end

section

variable (cs : List Condition)

theorem length_filter_headers :
    ((cs.filterMap headerOf?).filter isOnCookies).length = (cs.filter asksForCookies).length := by
  rw [List.filter_filterMap, List.length_filterMap_eq_countP, ← List.countP_eq_length_filter]
  refine List.countP_congr fun c _ => ?_
  rw [← any_isOnCookies_headerOf?]
  cases headerOf? c with
  | none => rfl
  | some test => cases h : isOnCookies test <;> simp [h]

/-- All names on the header that carries all cookies are the same. -/
theorem nodup_names_onCookies_iff (tests : List ValueMatch) :
    ((tests.filter isOnCookies).map loweredName).Nodup ↔ (tests.filter isOnCookies).length ≤ 1 := by
  have hname : ∀ test ∈ tests.filter isOnCookies, loweredName test = Text.lower cookieHeader := by
    intro test htest
    exact of_decide_eq_true (List.mem_filter.1 htest).2
  rw [List.map_eq_replicate_iff.2 hname, List.nodup_replicate]

/-- No name on another header is that of the header that carries all cookies. -/
theorem nodup_names_iff {tests : List ValueMatch}
    (h : ((tests.filter fun test => !isOnCookies test).map loweredName).Nodup) :
    (tests.map loweredName).Nodup ↔ (tests.filter isOnCookies).length ≤ 1 := by
  have hperm := (List.filter_append_perm isOnCookies tests).map loweredName
  rw [← hperm.nodup_iff, List.map_append, List.nodup_append, nodup_names_onCookies_iff]
  constructor
  · intro hnodup
    exact hnodup.1
  · intro hone
    refine ⟨hone, h, ?_⟩
    intro name hname other hother heq
    obtain ⟨test, htest, rfl⟩ := List.mem_map.1 hname
    obtain ⟨test', htest', rfl⟩ := List.mem_map.1 hother
    have hon : loweredName test = Text.lower cookieHeader :=
      of_decide_eq_true (List.mem_filter.1 htest).2
    have hoff := (List.mem_filter.1 htest').2
    rw [Bool.not_eq_true', isOnCookies, Text.sameIgnoringCase, decide_eq_false_iff_not] at hoff
    exact hoff (heq.symm.trans hon)

end

/-- Two predicates of a match have the same name only if both are on the header that carries all cookies, and
each condition on cookies, or on that header itself, has a predicate there. -/
theorem isApart_translateConditions {cs : List Condition} (hd : DistinctSubjects cs)
    (source : ObjectRef) : IsApart cs (translateConditions cs source).value := by
  have hheaders := headers_translateConditions cs source
  have hqueryParams := queryParams_translateConditions cs source
  have hapart : (((cs.filterMap headerOf?).filter fun test => !isOnCookies test).map
      loweredName).Nodup := by
    rw [List.filter_filterMap]
    refine nodup_loweredName cs .header ?_ hd
    intro c test htest
    obtain ⟨hheader, hoff⟩ := Option.filter_eq_some_iff.1 htest
    exact criterion_of_headerOf? hheader (by simpa using hoff)
  refine ⟨?_, ?_, ?_, ?_⟩
  · rw [hheaders]
    exact hapart
  · rw [hqueryParams]
    exact nodup_loweredName cs .argument (fun c test htest => criterion_of_queryParamOf? htest) hd
  · rw [hheaders]
    exact length_filter_headers cs
  · rw [hheaders, ← length_filter_headers]
    exact nodup_names_iff hapart

def condition (s : Subject) (value : String) : Condition :=
  match s with
  | .header name => ⟨some name, none, none, none, value⟩
  | .argument name => ⟨none, none, some name, none, value⟩
  | .cookie name => ⟨none, some name, none, none, value⟩
  | .internal name => ⟨none, none, none, some name, value⟩

/-- A header and a query parameter of one name, and one cookie. -/
theorem isApart_header_argument_cookie :
    let cs := [condition (.header "X-Env") "test", condition (.argument "x-env") "test",
      condition (.cookie "x-env") "!test"]
    DistinctSubjects cs ∧ IsApart cs (translateConditions cs ⟨"VirtualServer", none, none, "cafe"⟩).value := by
  intro cs
  have hd : DistinctSubjects cs := by decide
  exact ⟨hd, isApart_translateConditions hd _⟩

/-- Two cookies of different names. Their predicates have one name. -/
theorem not_nodup_two_cookies :
    let cs := [condition (.cookie "session") "abc", condition (.cookie "user") "john"]
    let p := (translateConditions cs ⟨"VirtualServer", none, none, "cafe"⟩).value
    DistinctSubjects cs ∧ p.headers.map (fun test => test.name) = ["Cookie", "Cookie"] ∧
      ¬ (p.headers.map loweredName).Nodup := by
  decide

end IngressGateway.Matching
