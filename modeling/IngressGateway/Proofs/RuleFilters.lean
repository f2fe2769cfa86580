import IngressGateway.Proofs.OwnerNamespaces
import IngressGateway.Proofs.RedirectTargets
import IngressGateway.Proofs.SplitTargets

/-!
Which filters stand together. A rule and each of its backends have at most one filter of each kind, and never a
redirect beside a rewrite. A rule that redirects has no backends of its own; where splits stand beside the
redirect, it has theirs.
-/

set_option autoImplicit false

namespace IngressGateway

namespace Gateway

inductive FilterKind where
  | requestHeaders
  | responseHeaders
  | redirect
  | rewrite
deriving DecidableEq

def HttpFilter.kind : HttpFilter → FilterKind
  | .requestHeaders _ => .requestHeaders
  | .responseHeaders _ => .responseHeaders
  | .redirect _ => .redirect
  | .rewrite _ => .rewrite

def kinds (fs : List HttpFilter) : List FilterKind := fs.map HttpFilter.kind

/-- That filters may stand together. -/
structure IsLegal (fs : List HttpFilter) : Prop where
  single : (kinds fs).Nodup
  exclusive : ¬ (.redirect ∈ kinds fs ∧ .rewrite ∈ kinds fs)

/-- The kinds that a proxy can lead to, in the order in which it does. -/
def proxyKinds : List FilterKind := [.rewrite, .requestHeaders, .responseHeaders]

theorem isLegal_of_sublist {fs : List HttpFilter} (h : (kinds fs).Sublist proxyKinds) : IsLegal fs where
  single := h.nodup (by decide)
  exclusive both := absurd (h.subset both.1) (by decide)

theorem isLegal_nil : IsLegal [] := isLegal_of_sublist (List.nil_sublist _)

theorem isLegal_singleton (f : HttpFilter) : IsLegal [f] where
  single := List.nodup_singleton _
  exclusive both := by cases f <;> simp [kinds, HttpFilter.kind] at both

end Gateway

namespace Filter

open Gateway (FilterKind HttpFilter kinds proxyKinds)
open Ingress (Proxy RequestHeaders ResponseHeaders)

variable (source : ObjectRef)

theorem kind_rewrite (path : String) : ∀ f ∈ (rewrite path source).value, f.kind = .rewrite := by
  intro f hf
  unfold rewrite at hf
  split_ifs at hf <;> cases hf <;> rfl

theorem kind_requestHeaders (h : RequestHeaders) :
    ∀ f ∈ (requestHeaders h source).value, f.kind = .requestHeaders := by
  intro f hf
  unfold requestHeaders at hf
  split_ifs at hf <;> cases hf <;> rfl

theorem kind_responseHeaders (h : ResponseHeaders) :
    ∀ f ∈ (responseHeaders h source).value, f.kind = .responseHeaders := by
  intro f hf
  unfold responseHeaders at hf
  simp only [Reported.value_bind] at hf
  split_ifs at hf <;> cases hf <;> rfl

theorem kinds_optionally {α : Type} {step : α → Reported (Option HttpFilter)} {k : FilterKind}
    (h : ∀ a, ∀ f ∈ (step a).value, f.kind = k) (o : Option α) :
    (kinds (optionally step o).value.toList).Sublist [k] := by
  rw [Routing.value_optionally]
  cases ho : o.bind fun a => (step a).value with
  | none => simp [kinds]
  | some f =>
    obtain ⟨a, _, ha⟩ := Option.bind_eq_some_iff.1 ho
    simp [kinds, h a f ha]

theorem kinds_ofProxy (p : Proxy) : (kinds (ofProxy p source).value).Sublist proxyKinds := by
  have path := kinds_optionally (kind_rewrite source) p.rewritePath
  have request := kinds_optionally (kind_requestHeaders source) p.requestHeaders
  have response := kinds_optionally (kind_responseHeaders source) p.responseHeaders
  simpa [ofProxy, kinds, proxyKinds] using (path.append request).append response

end Filter

namespace Routing

open Backend (Catalog Target)
open Gateway (HttpBackend HttpFilter IsLegal isLegal_nil kinds proxyKinds)
open Ingress (Action Match)

/-- That backends are those for the parts of the requests of a match: one for each part that has a target, in
order. -/
def IsForParts (c : Catalog) (ns : String) (m : Match) (bs : List HttpBackend) : Prop :=
  List.Forall₂ (fun s b => ∃ t, IsTargetOf c s t ∧ b = ⟨backendRef t ns, t.filters⟩)
    (m.splits.filter (hasTarget c)) bs

section

variable (source : ObjectRef)

/-- An action leads to a redirect alone, or to what a proxy can lead to. -/
theorem kinds_actionFilters (a : Action) :
    if isRedirect a then kinds (actionFilters source a) = [.redirect]
    else (kinds (actionFilters source a)).Sublist proxyKinds := by
  unfold actionFilters isRedirect
  cases a.choice with
  | error e => exact List.nil_sublist _
  | ok choice =>
    cases choice with
    | pass name => exact List.nil_sublist _
    | redirect url code => simp [kinds, Filter.value_redirect, HttpFilter.kind]
    | reply code body => exact List.nil_sublist _
    | proxy p => exact Filter.kinds_ofProxy source p

theorem isLegal_actionFilters (a : Action) : IsLegal (actionFilters source a) := by
  have hkinds := kinds_actionFilters source a
  split_ifs at hkinds with ha
  · constructor
    · rw [hkinds]; decide
    · rw [hkinds]; decide
  · exact Gateway.isLegal_of_sublist hkinds

theorem redirect_mem_actionFilters (a : Action) :
    .redirect ∈ kinds (actionFilters source a) ↔ isRedirect a = true := by
  have hkinds := kinds_actionFilters source a
  split_ifs at hkinds with ha
  · simp [hkinds, ha]
  · refine iff_of_false (fun h => ?_) ha
    exact absurd (hkinds.subset h) (by decide)

end

section

variable (path : String) (c : Catalog) (source : ObjectRef) (m : Match)

theorem isLegal_ruleFor : IsLegal (ruleFor path c source m).filters := by
  rw [filters_ruleFor]
  cases m.action with
  | none => exact isLegal_nil
  | some a => exact isLegal_actionFilters source a

theorem redirect_mem_ruleFor :
    .redirect ∈ kinds (ruleFor path c source m).filters ↔ m.action.any isRedirect = true := by
  rw [filters_ruleFor]
  cases m.action with
  | none => simp [kinds]
  | some a => exact redirect_mem_actionFilters source a

theorem isLegal_of_mem_backends {t : Target} (h : t ∈ (ruleFor path c source m).backends) :
    IsLegal t.filters := by
  rw [backends_ruleFor, List.mem_append, Option.mem_toList, List.mem_filterMap] at h
  -- The target of the action itself has no filters: its filters are on the rule.
  rcases h with h | ⟨s, _, h⟩
  · obtain ⟨name, _, h⟩ := Option.bind_eq_some_iff.1 h
    obtain ⟨u, _, rfl⟩ := Option.map_eq_some_iff.1 h
    exact isLegal_nil
  · have part : IsLegal (partFilters source s) := by
      rw [partFilters]
      cases s.action with
      | none => exact isLegal_nil
      | some a => exact isLegal_actionFilters source a
    rw [value_translateSplit_eq] at h
    split at h
    · cases h
      exact part
    · split at h
      · cases h
        exact part
      · cases h

/-- Beside a redirect there are the backends of splits, and no others. -/
theorem backends_of_redirect (h : m.action.any isRedirect = true) :
    (ruleFor path c source m).backends =
      m.splits.filterMap fun s => (Backend.translateSplit s c source).value := by
  have unpassed : m.action.bind passedTo? = none := by
    cases ha : m.action with
    | none => rfl
    | some a =>
      rw [ha] at h
      exact passedTo?_of_isRedirect h
  rw [backends_ruleFor, unpassed]
  rfl

end

section

variable (own : Catalog) (rs : List ResolvedRoute) (source : ObjectRef) (o : Origin)

theorem backendRefs_httpRule (d : RuleDraft) (ns : String) :
    (httpRule d ns source).value.backendRefs = d.backends.map fun t => ⟨backendRef t ns, t.filters⟩ := by
  change d.backends.map _ = _
  refine List.map_congr_left fun t _ => ?_
  simp [value_translateTarget]

theorem isForParts_httpRule (h : o.clause.action.any isRedirect = true) :
    IsForParts (catalogOf own rs o.route) own.ns o.clause (o.httpRule own rs source).backendRefs := by
  rw [Origin.httpRule, backendRefs_httpRule, Origin.draft, backends_of_redirect _ _ _ _ h]
  have htargets : List.Forall₂ (IsTargetOf (catalogOf own rs o.route))
      (o.clause.splits.filter (hasTarget (catalogOf own rs o.route)))
      (o.clause.splits.filterMap fun s =>
        (Backend.translateSplit s (catalogOf own rs o.route) o.route.owner).value) :=
    forall₂_filterMap isSome_translateSplit (fun s t => isTargetOf_of_translateSplit) o.clause.splits
  exact List.forall₂_map_right_iff.2 (htargets.imp fun s t ht => ⟨t, ht, rfl⟩)

end

end Routing

namespace Conversion

open Gateway (HttpRule IsLegal kinds)
open Ingress (Action Split VirtualServer)
open Routing (IsForParts Origin isRedirect ownCatalog)

variable (input : Snapshot) (settings : Settings)

/-- That a rule is for a match with splits beside its redirect, and that its backends are those of the
splits. -/
def IsPartedRedirect (rule : HttpRule) : Prop :=
  ∃ vs ∈ eligibleServers input, ∃ o ∈ originsOf input vs, rule = httpRuleFrom input vs o ∧
    o.clause.action.any isRedirect = true ∧ o.clause.splits ≠ [] ∧
    IsForParts (Routing.catalogOf (ownCatalog vs) (routesOf input vs) o.route) vs.namespaceOf o.clause
      rule.backendRefs

structure HasLegalFilters (rule : HttpRule) : Prop where
  own : IsLegal rule.filters
  backends : ∀ x ∈ rule.backendRefs, IsLegal x.filters
  redirect : .redirect ∈ kinds rule.filters → rule.backendRefs = [] ∨ IsPartedRedirect input rule
  /-- Legal filters are not had by leaving redirects out. -/
  kept : ∀ vs o, rule = httpRuleFrom input vs o →
    (.redirect ∈ kinds rule.filters ↔ o.clause.action.any isRedirect = true)

def AreLegal (b : Bundle) : Prop :=
  ∀ r ∈ b.httpRoutes.values, ∀ rule ∈ r.spec.rules, HasLegalFilters input rule

theorem redirect_mem_httpRuleFrom {rule : HttpRule} {vs : VirtualServer} {o : Origin}
    (h : rule = httpRuleFrom input vs o) :
    .redirect ∈ kinds rule.filters ↔ o.clause.action.any isRedirect = true := by
  rw [h]
  exact Routing.redirect_mem_ruleFor o.route.route.path _ _ o.clause

theorem hasLegalFilters_toEncrypted (port : Unsigned16) (code : Option Unsigned16) :
    HasLegalFilters input ⟨[Routing.everyPath], [.redirect (Routing.toEncrypted port code)], []⟩ where
  own := Gateway.isLegal_singleton _
  backends _ hx := absurd hx List.not_mem_nil
  redirect _ := .inl rfl
  kept _ _ := redirect_mem_httpRuleFrom input

theorem hasLegalFilters_httpRuleFrom {vs : VirtualServer} (hvs : vs ∈ eligibleServers input) {o : Origin}
    (ho : o ∈ originsOf input vs) : HasLegalFilters input (httpRuleFrom input vs o) where
  own := Routing.isLegal_ruleFor o.route.route.path _ _ o.clause
  backends x hx := by
    rw [httpRuleFrom, Origin.httpRule, Routing.backendRefs_httpRule] at hx
    obtain ⟨t, ht, rfl⟩ := List.mem_map.1 hx
    exact Routing.isLegal_of_mem_backends _ _ _ _ ht
  redirect hredirect := by
    have haction := (redirect_mem_httpRuleFrom input rfl).1 hredirect
    have hparts := Routing.isForParts_httpRule (ownCatalog vs) (routesOf input vs) vs.source o haction
    cases hsplits : o.clause.splits with
    | nil =>
      rw [IsForParts, hsplits] at hparts
      exact .inl (List.forall₂_nil_left_iff.1 hparts)
    | cons s splits =>
      refine .inr ⟨vs, hvs, o, ho, rfl, haction, ?_, hparts⟩
      rw [hsplits]
      exact List.cons_ne_nil s splits
  kept _ _ := redirect_mem_httpRuleFrom input

/-- A rule and its backends never hold two filters of a kind, nor a redirect beside a rewrite. A rule that
redirects has no backends but those of splits that stand beside the redirect. -/
theorem areLegal_convert : AreLegal input (convert input settings).bundle := by
  intro r hr rule hrule
  rcases httpRoute_cases input settings hr with ⟨port, code, hrules⟩ | ⟨vs, hvs, _, hrules⟩
  · rw [hrules, List.mem_singleton] at hrule
    rw [hrule]
    exact hasLegalFilters_toEncrypted input port code
  · have horigins : Routing.httpRules (indexOf input) vs =
        ((originsOf input vs).filter fun o => !usesGrpc input vs o).map (httpRuleFrom input vs) :=
      Routing.map_httpRule_drafts (ownCatalog vs) (routesOf input vs) vs.source
    rw [hrules, horigins] at hrule
    obtain ⟨o, ho, rfl⟩ := List.mem_map.1 hrule
    exact hasLegalFilters_httpRuleFrom input hvs (List.mem_filter.1 ho).1

/-- Splits beside a redirect: the rule redirects and has a backend all the same. -/
theorem backend_beside_redirect :
    let redirected : Action := ⟨none, some ⟨"/new", none⟩, none, none⟩
    let half : Split := ⟨⟨50, by decide⟩, some ⟨some "app", none, none, none⟩⟩
    let vs := simpleServer "shop" "cafe" "cafe.example" none
    let parted : VirtualServer :=
      { vs with spec := { vs.spec with
          upstreams := [simpleUpstream "app" "app-svc" none none]
          routes := [⟨"/", none, some redirected, [half], [], [], [], ""⟩] } }
    ∃ r ∈ (convert ⟨[parted], [], [], none⟩ .usual).bundle.httpRoutes.values, ∃ rule ∈ r.spec.rules,
      .redirect ∈ kinds rule.filters ∧ rule.backendRefs.map (fun x => x.backend.name) = ["app-svc"] := by
  decide

end Conversion

end IngressGateway
