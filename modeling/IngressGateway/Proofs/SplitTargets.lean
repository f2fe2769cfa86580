import IngressGateway.Proofs.RouteRules

/-!
Where the parts of split requests go. A part with a weight goes to the upstream that its action passes it to,
if the catalog has that upstream, and a redirected part to a target without a service. Of a part whose upstream
is missing the owner is warned. It is to go nowhere, but a proxy that changes requests or responses leaves a
target without a service behind.
-/

set_option autoImplicit false

namespace IngressGateway.Routing

open Backend (Catalog Target)
open Gateway (HttpFilter)
open Ingress (Action Match Proxy RequestHeaders ResponseHeaders Split Upstream)

/-! ### What an action asks for -/

/-- Whether an action passes requests on, to an upstream that is there or to one that is missing. -/
def passesOn (a : Action) : Bool :=
  match a.choice with
  | .ok (.pass _) => true
  | .ok (.proxy _) => true
  | _ => false

def isRedirect (a : Action) : Bool :=
  match a.choice with
  | .ok (.redirect _ _) => true
  | _ => false

/-- The filters that an action asks for, wherever its requests go. -/
def actionFilters (source : ObjectRef) (a : Action) : List HttpFilter :=
  match a.choice with
  | .ok (.redirect url code) => [(Filter.redirect url code source).value]
  | .ok (.proxy p) => (Filter.ofProxy p source).value
  | _ => []

/-- Whether a proxy changes the path or the headers of requests, or the headers of responses. -/
def changesAny (p : Proxy) : Bool :=
  (p.rewritePath.any fun path => !path.toList.contains '$') ||
    (p.requestHeaders.any fun h => !h.set.isEmpty) ||
    p.responseHeaders.any fun h => !(h.add.isEmpty && h.hide.isEmpty)

def isChangingProxy (a : Action) : Bool :=
  match a.choice with
  | .ok (.proxy p) => changesAny p
  | _ => false

/-! ### What a part of the requests asks for -/

/-- The upstream that a part of the requests is passed to. -/
def servedBy? (c : Catalog) (s : Split) : Option Upstream := (splitTo? s).bind c.get?

def redirects (s : Split) : Bool := 0 < s.weight.val && s.action.any isRedirect

/-- Whether a part of the requests is passed on to an upstream that is missing. -/
def dangles (c : Catalog) (s : Split) : Bool :=
  0 < s.weight.val && s.action.any passesOn && (servedBy? c s).isNone

/-- Whether a part of the requests goes to a target without a service. -/
def isUnserved (c : Catalog) (s : Split) : Bool :=
  redirects s || (dangles c s && s.action.any isChangingProxy)

def hasTarget (c : Catalog) (s : Split) : Bool := (servedBy? c s).isSome || isUnserved c s

/-- The warning about an upstream that is missing, or about a proxy that does not name any. -/
def missing (owner : ObjectRef) : Option String → Notification
  | some name => ⟨.warning, s!"Upstream '{name}' not found for route", owner⟩
  | none => ⟨.warning, "Proxy action missing upstream reference", owner⟩

/-- That a target is the one for a part of the requests: it has the service of the upstream that serves the
part, or else no service but filters. -/
structure IsTargetOf (c : Catalog) (s : Split) (t : Target) : Prop where
  weight : t.weight = some s.weight
  ns : t.ns = c.ns
  served : ∀ u ∈ servedBy? c s,
    t.upstream = u.name ∧ t.service = u.service ∧ t.port = some u.port ∧ t.grpc = u.isGrpc
  unserved : servedBy? c s = none →
    t.upstream = "" ∧ t.service = "" ∧ t.port = none ∧ t.grpc = false ∧ t.filters ≠ []

/-- That the parts of split requests have their targets, in order, and that the owner hears of each part whose
upstream is missing. -/
structure IsDistributed (c : Catalog) (owner : ObjectRef) (splits : List Split)
    (r : Reported (List Target)) : Prop where
  targets : List.Forall₂ (IsTargetOf c) (splits.filter (hasTarget c)) r.value
  warnings : ((splits.filter (dangles c)).map fun s => missing owner (splitTo? s)).Sublist r.notes

/-! ### Filters -/

section

variable (source : ObjectRef)

theorem isSome_rewrite (path : String) :
    (Filter.rewrite path source).value.isSome = !path.toList.contains '$' := by
  unfold Filter.rewrite
  cases path.toList.contains '$' with
  | true => rfl
  | false =>
    rw [if_neg Bool.false_ne_true]
    split
    · rfl
    · split <;> rfl

theorem isSome_requestHeaders (h : RequestHeaders) :
    (Filter.requestHeaders h source).value.isSome = !h.set.isEmpty := by
  unfold Filter.requestHeaders
  by_cases hpass : h.pass = some false
  · cases hset : h.set <;> simp [hpass]
  · cases hset : h.set <;> simp [hpass]

theorem isSome_responseHeaders (h : ResponseHeaders) :
    (Filter.responseHeaders h source).value.isSome = !(h.add.isEmpty && h.hide.isEmpty) := by
  unfold Filter.responseHeaders
  simp only [Reported.value_bind]
  cases h.add.isEmpty && h.hide.isEmpty <;> rfl

theorem value_optionally {α β : Type} (step : α → Reported (Option β)) (o : Option α) :
    (Filter.optionally step o).value = o.bind fun a => (step a).value := by
  cases o <;> rfl

theorem isEmpty_append {α : Type} (l l' : List α) : (l ++ l').isEmpty = (l.isEmpty && l'.isEmpty) := by
  cases l <;> rfl

theorem isEmpty_toList {α : Type} (o : Option α) : o.toList.isEmpty = !o.isSome := by
  cases o <;> rfl

/-- A proxy action has a filter if and only if it changes anything. -/
theorem isEmpty_ofProxy (p : Proxy) :
    (Filter.ofProxy p source).value.isEmpty = !changesAny p := by
  simp only [Filter.ofProxy, Reported.value_bind, Reported.value_pure, value_optionally,
    isEmpty_append, isEmpty_toList, Option.isSome_bind, isSome_rewrite, isSome_requestHeaders,
    isSome_responseHeaders, changesAny, Bool.not_or]

theorem filters_translateAction (c : Catalog) (a : Action) :
    (Backend.translateAction a c source).value.filters = actionFilters source a := by
  unfold Backend.translateAction actionFilters
  cases a.choice with
  | error e => rfl
  | ok choice => cases choice <;> rfl

theorem isEmpty_actionFilters (a : Action) :
    (actionFilters source a).isEmpty = !(isRedirect a || isChangingProxy a) := by
  unfold actionFilters isRedirect isChangingProxy
  cases a.choice with
  | error e => rfl
  | ok choice =>
    cases choice with
    | pass name => rfl
    | redirect url code => rfl
    | reply code body => rfl
    | proxy p => exact isEmpty_ofProxy source p

end

/-! ### The target of one part -/

section

variable {c : Catalog} {source : ObjectRef}

theorem servedBy?_of_weight {s : Split} {a : Action} (hw : 0 < s.weight.val) (ha : s.action = some a) :
    servedBy? c s = (passedTo? a).bind c.get? := by
  rw [servedBy?, splitTo?, if_pos hw, ha]
  rfl

theorem backend_of_weight {s : Split} {a : Action} (hw : 0 < s.weight.val) (ha : s.action = some a) :
    (Backend.translateAction a c source).value.backend = (servedBy? c s).map (Target.ofUpstream c.ns) := by
  rw [backend_translateAction, servedBy?_of_weight hw ha]
  cases passedTo? a <;> rfl

theorem passesOn_of_isChangingProxy {a : Action} (h : isChangingProxy a = true) : passesOn a = true := by
  unfold isChangingProxy at h
  split at h
  case h_1 p hp =>
    rw [passesOn, hp]
  case h_2 => cases h

theorem passedTo?_of_isRedirect {a : Action} (h : isRedirect a = true) : passedTo? a = none := by
  unfold isRedirect at h
  split at h
  case h_1 url code hchoice =>
    rw [passedTo?, hchoice]
  case h_2 => cases h

theorem servedBy?_of_isUnserved {s : Split} (h : isUnserved c s = true) : servedBy? c s = none := by
  rw [isUnserved, Bool.or_eq_true, redirects, Bool.and_eq_true, decide_eq_true_iff] at h
  rcases h with ⟨hw, hredirect⟩ | h
  · cases ha : s.action with
    | none =>
      rw [ha] at hredirect
      cases hredirect
    | some a =>
      rw [ha] at hredirect
      rw [servedBy?_of_weight hw ha, passedTo?_of_isRedirect hredirect]
      rfl
  · rw [dangles, Bool.and_eq_true, Bool.and_eq_true, Option.isNone_iff_eq_none] at h
    exact h.1.2

theorem isUnserved_of_weight {s : Split} {a : Action} (hw : 0 < s.weight.val) (ha : s.action = some a)
    (hs : servedBy? c s = none) : isUnserved c s = (isRedirect a || isChangingProxy a) := by
  have hpasses : (passesOn a && isChangingProxy a) = isChangingProxy a := by
    cases hc : isChangingProxy a with
    | false => rw [Bool.and_false]
    | true => rw [passesOn_of_isChangingProxy hc, Bool.and_true]
  rw [isUnserved, redirects, dangles, hs, ha, decide_eq_true hw]
  simp only [Option.any_some, Option.isNone_none, Bool.true_and, Bool.and_true, hpasses]

def partFilters (source : ObjectRef) (s : Split) : List HttpFilter :=
  s.action.elim [] (actionFilters source)

/-- What becomes of a part is told by its upstream; without one it is told by its filters. -/
theorem value_translateSplit_eq (s : Split) :
    (Backend.translateSplit s c source).value =
      match servedBy? c s with
      | some u => some ((Target.ofUpstream c.ns u).weighted s.weight (partFilters source s))
      | none =>
        if isUnserved c s then some (.ofFilters c.ns s.weight (partFilters source s)) else none := by
  rw [value_translateSplit]
  -- Without weight or without an action there is nothing to translate, and neither side has a target.
  by_cases hw : 0 < s.weight.val
  · rw [if_pos hw]
    cases ha : s.action with
    | none => simp [servedBy?, splitTo?, isUnserved, redirects, dangles, ha]
    | some a =>
      have hfilters : partFilters source s = actionFilters source a := by
        rw [partFilters, ha]
        rfl
      rw [Option.bind_some, Backend.splitTarget?, backend_of_weight hw ha, filters_translateAction, hfilters]
      cases hs : servedBy? c s with
      | some u => rfl
      | none =>
        rw [isUnserved_of_weight hw ha hs, Option.map_none, isEmpty_actionFilters]
        cases isRedirect a || isChangingProxy a <;> rfl
  · simp [hw, servedBy?, splitTo?, isUnserved, redirects, dangles]

theorem partFilters_ne_nil {s : Split} (hs : servedBy? c s = none) (hu : isUnserved c s = true) :
    partFilters source s ≠ [] := by
  by_cases hw : 0 < s.weight.val
  · cases ha : s.action with
    | none => simp [isUnserved, redirects, dangles, ha] at hu
    | some a =>
      rw [isUnserved_of_weight hw ha hs] at hu
      have hempty := isEmpty_actionFilters source a
      rw [hu, Bool.not_true, List.isEmpty_eq_false_iff] at hempty
      rw [partFilters, ha]
      exact hempty
  · simp [isUnserved, redirects, dangles, hw] at hu

theorem isTargetOf_of_translateSplit {s : Split} {t : Target}
    (h : (Backend.translateSplit s c source).value = some t) : IsTargetOf c s t := by
  rw [value_translateSplit_eq] at h
  cases hs : servedBy? c s with
  | some u =>
    rw [hs] at h
    cases h
    refine ⟨rfl, rfl, ?_, fun hnone => nomatch hs.symm.trans hnone⟩
    intro u' hu'
    cases hs.symm.trans hu'
    exact ⟨rfl, rfl, rfl, rfl⟩
  | none =>
    rw [hs] at h
    dsimp only at h
    split at h
    case isTrue hu =>
      cases h
      refine ⟨rfl, rfl, ?_, fun _ => ⟨rfl, rfl, rfl, rfl, partFilters_ne_nil hs hu⟩⟩
      intro u hu'
      cases hs.symm.trans hu'
    case isFalse => cases h

theorem filters_of_translateSplit {s : Split} {t : Target}
    (h : (Backend.translateSplit s c source).value = some t) : t.filters = partFilters source s := by
  rw [value_translateSplit_eq] at h
  split at h
  · cases h
    rfl
  · obtain ⟨-, h⟩ := Option.ite_none_right_eq_some.1 h
    cases h
    rfl

theorem isSome_translateSplit (s : Split) :
    (Backend.translateSplit s c source).value.isSome = hasTarget c s := by
  rw [value_translateSplit_eq, hasTarget]
  cases servedBy? c s with
  | some u => rfl
  | none => cases isUnserved c s <;> rfl

/-! ### The warning about one part -/

theorem missing_mem_lookUp {name : String} (h : c.get? name = none) :
    missing source (some name) ∈ (Backend.lookUp c name source).notes := by
  rw [Backend.lookUp, Catalog.target?, h]
  exact List.mem_singleton_self _

theorem missing_mem_translateAction {a : Action} (hpasses : passesOn a = true)
    (h : (passedTo? a).bind c.get? = none) :
    missing source (passedTo? a) ∈ (Backend.translateAction a c source).notes := by
  unfold passesOn at hpasses
  unfold passedTo? at h ⊢
  unfold Backend.translateAction
  cases hchoice : a.choice with
  | error e => simp [hchoice] at hpasses
  | ok choice =>
    rw [hchoice] at hpasses h
    cases choice with
    | pass name => exact List.mem_append_left _ (missing_mem_lookUp h)
    | redirect url code => cases hpasses
    | reply code body => cases hpasses
    | proxy p =>
      refine List.mem_append_left _ ?_
      dsimp only at h ⊢
      unfold Backend.proxyTarget
      cases hp : p.upstream.isEmpty with
      | true => exact List.mem_singleton_self _
      | false =>
        rw [hp] at h
        exact missing_mem_lookUp h

theorem missing_mem_translateSplit {s : Split} (h : dangles c s = true) :
    missing source (splitTo? s) ∈ (Backend.translateSplit s c source).notes := by
  rw [dangles, Bool.and_eq_true, Bool.and_eq_true, decide_eq_true_iff, Option.isNone_iff_eq_none] at h
  obtain ⟨⟨hw, hpasses⟩, hs⟩ := h
  cases ha : s.action with
  | none =>
    rw [ha] at hpasses
    cases hpasses
  | some a =>
    rw [ha] at hpasses
    rw [servedBy?_of_weight hw ha] at hs
    rw [Backend.translateSplit, if_pos hw, ha, splitTo?, if_pos hw, ha]
    change _ ∈ (_ <$> Backend.translateAction a c source).notes
    rw [Reported.notes_map]
    exact missing_mem_translateAction hpasses hs

end

/-! ### Rules -/

theorem filters_ruleFor (path : String) (c : Catalog) (source : ObjectRef) (m : Match) :
    (ruleFor path c source m).filters = m.action.elim [] (actionFilters source) := by
  unfold ruleFor draftRule translateOptional
  cases m.action with
  | none => rfl
  | some a => exact filters_translateAction source c a

/-! ### The targets of all parts -/

theorem forall₂_filterMap {α β : Type} {R : α → β → Prop} {p : α → Bool} {f : α → Option β}
    (hp : ∀ a, (f a).isSome = p a) (hR : ∀ a b, f a = some b → R a b) (l : List α) :
    List.Forall₂ R (l.filter p) (l.filterMap f) := by
  induction l with
  | nil => exact .nil
  | cons a l ih =>
    have ha := hp a
    cases hf : f a with
    | none =>
      rw [hf] at ha
      rw [List.filter_cons_of_neg (by rw [← ha]; exact Bool.false_ne_true),
        List.filterMap_cons_none hf]
      exact ih
    | some b =>
      rw [hf] at ha
      rw [List.filter_cons_of_pos ha.symm, List.filterMap_cons_some hf]
      exact .cons (hR a b hf) ih

theorem filter_map_sublist {α β : Type} {p : α → Bool} {f : α → β} {g : α → List β}
    (h : ∀ a, p a = true → f a ∈ g a) (l : List α) :
    ((l.filter p).map f).Sublist (l.flatMap g) := by
  induction l with
  | nil => exact .slnil
  | cons a l ih =>
    rw [List.flatMap_cons]
    cases ha : p a with
    | false =>
      rw [List.filter_cons_of_neg (by rw [ha]; exact Bool.false_ne_true)]
      exact ih.trans (List.sublist_append_right _ _)
    | true =>
      rw [List.filter_cons_of_pos ha, List.map_cons]
      exact (List.singleton_sublist.2 (h a ha)).append ih

/-- Each part of split requests that has an upstream or is redirected has its target, in order. A part whose
upstream is missing has one too if its action is a proxy that changes anything, and the owner is warned. -/
theorem isDistributed_translateSplits (splits : List Split) (c : Catalog) (owner : ObjectRef) :
    IsDistributed c owner splits (Backend.translateSplits splits c owner) where
  targets := by
    rw [value_translateSplits]
    exact forall₂_filterMap isSome_translateSplit (fun s t => isTargetOf_of_translateSplit) splits
  warnings := by
    have hnotes : (splits.flatMap fun s => (Backend.translateSplit s c owner).notes).Sublist
        (Backend.translateSplits splits c owner).notes := by
      unfold Backend.translateSplits
      cases splits with
      | nil => exact .slnil
      | cons s splits => exact List.sublist_append_left _ _
    exact (filter_map_sublist (fun s hs => missing_mem_translateSplit hs) splits).trans hnotes

/-- A proxy to an upstream that is missing. Its new path leaves a target without a service behind. -/
theorem not_dropped_changing_proxy :
    let source : ObjectRef := ⟨"VirtualServer", none, some "shop", "cafe"⟩
    let c := (Catalog.build [] "shop" source).value
    let proxy : Proxy := ⟨"gone", none, none, some "/new"⟩
    let s : Split := ⟨⟨50, by decide⟩, some ⟨none, none, none, some proxy⟩⟩
    dangles c s = true ∧
      (Backend.translateSplits [s] c source).value.map (fun t => (t.service, t.weight)) =
        [("", some s.weight)] := by
  decide

end IngressGateway.Routing
