import IngressGateway.Proofs.CatalogReports
import IngressGateway.Proofs.ConnectionOutcomes
import IngressGateway.Proofs.LeftOutServers
import IngressGateway.Proofs.ReferenceExpansion

/-!
Where errors come from. Function by function, what is said of virtual servers, their routes and the shared gateways
is not an error; a virtual server is never given up, since every one that is converted has a reference with a
namespace. So the errors of a conversion are those about transport servers, one for each fault of theirs.
-/

set_option autoImplicit false

namespace IngressGateway

namespace Reported

variable {α β : Type}

def IsErrorFree (r : Reported α) : Prop := ∀ n ∈ r.notes, n.severity ≠ .error

@[simp] theorem isErrorFree_pure (a : α) : IsErrorFree (pure a) := fun _ hn => nomatch hn

@[simp] theorem isErrorFree_bind (r : Reported α) (f : α → Reported β) :
    IsErrorFree (r >>= f) ↔ IsErrorFree r ∧ IsErrorFree (f r.value) := by
  simp only [IsErrorFree, notes_bind, List.forall_mem_append]

@[simp] theorem isErrorFree_map (g : α → β) (r : Reported α) : IsErrorFree (g <$> r) ↔ IsErrorFree r := by
  simp only [IsErrorFree, notes_map]

@[simp] theorem isErrorFree_each (items : List α) (step : α → Reported β) :
    IsErrorFree (each items step) ↔ ∀ a ∈ items, IsErrorFree (step a) := by
  simp only [IsErrorFree, notes_each, List.mem_flatMap]
  exact ⟨fun h a ha n hn => h n ⟨a, ha, hn⟩, fun h n ⟨a, ha, hn⟩ => h a ha n hn⟩

@[simp] theorem isErrorFree_tell (severity : Severity) (source : ObjectRef) (message : String) :
    IsErrorFree (tell severity source message) ↔ severity ≠ .error := by
  simp [IsErrorFree]

@[simp] theorem isErrorFree_info (source : ObjectRef) (message : String) : IsErrorFree (info source message) := by
  simp [info]

@[simp] theorem isErrorFree_warning (source : ObjectRef) (message : String) :
    IsErrorFree (warning source message) := by
  simp [warning]

@[simp] theorem isErrorFree_tellEach_info (source : ObjectRef) (messages : List String) :
    IsErrorFree (tellEach .info source messages) := by
  simp [IsErrorFree, tellEach]

@[simp] theorem isErrorFree_tellEach_warning (source : ObjectRef) (messages : List String) :
    IsErrorFree (tellEach .warning source messages) := by
  simp [IsErrorFree, tellEach]

@[simp] theorem isErrorFree_ite {p : Prop} [Decidable p] {r r' : Reported α} :
    IsErrorFree (if p then r else r') ↔ (p → IsErrorFree r) ∧ (¬ p → IsErrorFree r') := by
  split <;> simp_all

end Reported

open Reported (IsErrorFree)

/-! ### Conditions, filters and backends -/

namespace Matching

variable (source : ObjectRef)

theorem isErrorFree_translatePath (path : String) : IsErrorFree (translatePath path source) := by
  simp [translatePath]

theorem isErrorFree_translateMethod (path : Option Gateway.PathMatch) :
    IsErrorFree (translateMethod path source) := by
  unfold translateMethod
  split <;> simp

theorem isErrorFree_translateCriterion (c : Ingress.Criterion) : IsErrorFree (translateCriterion c source) := by
  unfold translateCriterion
  split
  · simp
  · cases c.subject <;> simp

theorem isErrorFree_translateConditions (cs : List Ingress.Condition) :
    IsErrorFree (translateConditions cs source) := by
  unfold translateConditions translateCondition
  rw [Reported.isErrorFree_map, Reported.isErrorFree_each]
  intro c _
  split
  · simp
  · exact isErrorFree_translateCriterion source _

end Matching

namespace Filter

variable (source : ObjectRef)

theorem isErrorFree_redirect (raw : String) (code : Option Unsigned16) :
    IsErrorFree (redirect raw code source) := by
  unfold redirect
  split <;> simp

theorem isErrorFree_rewrite (path : String) : IsErrorFree (rewrite path source) := by
  simp [rewrite]

theorem isErrorFree_requestHeaders (headers : Ingress.RequestHeaders) :
    IsErrorFree (requestHeaders headers source) := by
  simp only [requestHeaders, Reported.isErrorFree_ite, Reported.isErrorFree_bind, Reported.isErrorFree_info,
    Reported.isErrorFree_warning, Reported.isErrorFree_pure, implies_true, and_self]

theorem isErrorFree_responseHeaders (headers : Ingress.ResponseHeaders) :
    IsErrorFree (responseHeaders headers source) := by
  simp [responseHeaders, warnOfList]

theorem isErrorFree_optionally {α β : Type} {step : α → Reported (Option β)} (h : ∀ a, IsErrorFree (step a))
    (a : Option α) : IsErrorFree (optionally step a) := by
  cases a with
  | none => exact Reported.isErrorFree_pure _
  | some a => exact h a

theorem isErrorFree_ofProxy (proxy : Ingress.Proxy) : IsErrorFree (ofProxy proxy source) := by
  simp only [ofProxy, Reported.isErrorFree_bind, Reported.isErrorFree_pure, and_true]
  exact ⟨isErrorFree_optionally (isErrorFree_rewrite source) _,
    isErrorFree_optionally (isErrorFree_requestHeaders source) _,
    isErrorFree_optionally (isErrorFree_responseHeaders source) _⟩

end Filter

namespace Backend

variable (c : Catalog) (source : ObjectRef)

theorem isErrorFree_build (us : List Ingress.Upstream) (ns : String) : IsErrorFree (Catalog.build us ns source) := by
  intro n hn herror
  have hpos := Notifications.count_pos_of_mem hn
  rw [herror, (isCatalogOf_build us source ns).errors] at hpos
  exact Nat.lt_irrefl 0 hpos

theorem isErrorFree_tlsPolicies (owner : String) (settings : Settings) :
    IsErrorFree (c.tlsPolicies owner settings) := by
  simp [Catalog.tlsPolicies]

theorem isErrorFree_lookUp (name : String) : IsErrorFree (lookUp c name source) := by
  unfold lookUp
  split <;> simp

theorem isErrorFree_translateAction (action : Ingress.Action) : IsErrorFree (translateAction action c source) := by
  unfold translateAction translateChoice
  split
  · simp
  · split
    · simp [isErrorFree_lookUp]
    · simp [Filter.isErrorFree_redirect]
    · simp
    · simp [proxyTarget, isErrorFree_lookUp, Filter.isErrorFree_ofProxy]

theorem isErrorFree_translateSplits (splits : List Ingress.Split) :
    IsErrorFree (translateSplits splits c source) := by
  have hsplit : ∀ split, IsErrorFree (translateSplit split c source) := by
    intro split
    unfold translateSplit
    cases split.action <;> simp [isErrorFree_translateAction]
  simp [translateSplits, hsplit]

end Backend

/-! ### Rules and routes -/

namespace Routing

open Backend (Catalog)

variable (source : ObjectRef)

theorem isErrorFree_draftRule (predicates : Gateway.HttpMatch) (action : Option Ingress.Action)
    (splits : List Ingress.Split) (c : Catalog) : IsErrorFree (draftRule predicates action splits c source) := by
  unfold draftRule translateOptional
  cases action <;> simp [Backend.isErrorFree_translateAction, Backend.isErrorFree_translateSplits]

theorem isErrorFree_matchRule (route : Ingress.Route) (path : Gateway.PathMatch) (c : Catalog) (i : Nat)
    (m : Ingress.Match) : IsErrorFree (matchRule route path c source i m) := by
  simp [matchRule, Matching.isErrorFree_translateConditions, isErrorFree_draftRule]

theorem isErrorFree_routeRules (route : Ingress.Route) (c : Catalog) :
    IsErrorFree (routeRules route c source) := by
  simp [routeRules, checkRoute, matchRules, catchAllRule, Matching.isErrorFree_translatePath,
    isErrorFree_matchRule, isErrorFree_draftRule]

theorem isErrorFree_expandRoute (index : RouteIndex) (ns : String) (route : Ingress.Route) :
    IsErrorFree (expandRoute index source ns route) := by
  rw [IsErrorFree, notes_expandRoute, List.forall_mem_append, List.forall_mem_map, List.forall_mem_map]
  constructor
  · intro obstacle _
    simp [severity_warning]
  · intro found _
    simp [severity_countRemark]

theorem isErrorFree_translateTarget (t : Backend.Target) (ns : String) :
    IsErrorFree (translateTarget t ns source) := by
  simp [translateTarget]

theorem isErrorFree_httpRule (d : RuleDraft) (ns : String) : IsErrorFree (httpRule d ns source) := by
  simp [httpRule, isErrorFree_translateTarget]

theorem isErrorFree_grpcFilters (fs : List Gateway.HttpFilter) : IsErrorFree (grpcFilters fs source) := by
  have hfilter : ∀ f, IsErrorFree (grpcFilter f source) := by
    intro f
    cases f <;> simp [grpcFilter]
  simp [grpcFilters, hfilter]

theorem isErrorFree_grpcRule (d : RuleDraft) (ns : String) : IsErrorFree (grpcRule d ns source) := by
  simp [grpcRule, Matching.isErrorFree_translateMethod, isErrorFree_grpcFilters, isErrorFree_translateTarget]

theorem isErrorFree_addOwners (ns : String) (m : OwnerCatalogs) (rs : List ResolvedRoute) :
    IsErrorFree (addOwners ns m rs) := by
  induction rs generalizing m with
  | nil => exact Reported.isErrorFree_pure m
  | cons r rs ih =>
    have howner : IsErrorFree (addOwner ns m r) := by
      unfold addOwner
      cases r.upstreams <;> simp [Backend.isErrorFree_build]
    simp [addOwners, howner, ih]

theorem isErrorFree_draftRules (own : Catalog) (others : OwnerCatalogs) (rs : List ResolvedRoute) :
    IsErrorFree (draftRules own others rs) := by
  have hrules : ∀ r, IsErrorFree (resolvedRules own others r) := by
    intro r
    unfold resolvedRules
    cases catalogFor? own others r <;> simp [isErrorFree_routeRules]
  simp [draftRules, hrules]

theorem isErrorFree_redirectRoute (vs : Ingress.VirtualServer) (sections : Listeners.Sections)
    (settings : Settings) : IsErrorFree (redirectRoute vs source sections settings) := by
  unfold redirectRoute
  split
  · simp only [Reported.isErrorFree_ite, Reported.isErrorFree_bind, Reported.isErrorFree_info,
      Reported.isErrorFree_pure, implies_true, and_self]
  · simp

theorem isErrorFree_assemble (vs : Ingress.VirtualServer) (rs : List ResolvedRoute) (own : Catalog)
    (sections : Listeners.Sections) (settings : Settings) :
    IsErrorFree (assemble vs source rs own sections settings) := by
  simp [assemble, httpRouteOf, grpcRouteOf, isErrorFree_addOwners, isErrorFree_draftRules, isErrorFree_httpRule,
    isErrorFree_grpcRule, isErrorFree_redirectRoute, Backend.isErrorFree_tlsPolicies]

end Routing

/-! ### The shared gateway -/

namespace Listeners

variable (ports : NamedPorts) (settings : Settings)

theorem isErrorFree_portsOf (vs : Ingress.VirtualServer) (source : ObjectRef) :
    IsErrorFree (portsOf vs ports settings source) := by
  have hport : ∀ name usual, IsErrorFree (portNamed name usual ports source) := by
    intro name usual
    unfold portNamed
    split
    · simp
    · split <;> simp
  simp [portsOf, hport]

theorem isErrorFree_synthesize (ns : String) (vss : List (ObjectRef × Ingress.VirtualServer))
    (tss : List (ObjectRef × Ingress.TransportServer)) : IsErrorFree (synthesize ns vss tss ports settings) := by
  have hwarning : Severity.warning ≠ .error := by decide
  have hconflict : ∀ all source l, ∀ n ∈ listenerNotes all source l, n.severity ≠ .error := by
    intro all source l n hn
    rw [eq_of_mem_listenerNotes hn]
    exact hwarning
  intro n hn
  rw [notes_synthesize, List.mem_append, List.mem_flatMap, List.mem_flatMap] at hn
  rcases hn with ⟨s, -, hn⟩ | ⟨s, -, hn⟩
  · simp only [siteNotes, List.mem_append, List.mem_flatMap] at hn
    rcases hn with ((hn | hn) | hn) | ⟨l, -, hn⟩
    · obtain ⟨name, chosen, rfl⟩ := exists_of_mem_classNotes hn
      exact hwarning
    · exact isErrorFree_portsOf ports settings s.2 s.1 n hn
    · have hcheck : IsErrorFree (checkTls s.2 s.1) := by simp [checkTls]
      exact hcheck n hn
    · exact hconflict _ _ _ n hn
  · obtain ⟨l, -, hn⟩ := List.mem_flatMap.1 hn
    exact hconflict _ _ _ n hn

end Listeners

/-! ### Servers -/

namespace Conversion

open Ingress (TransportServer VirtualServer)
open Listeners (ConnectionFault NamedPorts connectionListener)
open Routing (passedUpstream)

theorem isErrorFree_convertVirtualServer (vs : VirtualServer) {source : ObjectRef} {sourceNs : String}
    (h : source.ns = some sourceNs) (ns : String) (sections : Listeners.Sections) (index : Routing.RouteIndex)
    (settings : Settings) : IsErrorFree (convertVirtualServer vs source ns sections index settings) := by
  have hresolved : IsErrorFree
      (Routing.combined (vs.spec.routes.map (Routing.expandRoute index source sourceNs))) := by
    intro n hn
    obtain ⟨answer, hanswer, hn⟩ := List.mem_flatMap.1 hn
    obtain ⟨route, -, rfl⟩ := List.mem_map.1 hanswer
    exact Routing.isErrorFree_expandRoute source index sourceNs route n hn
  unfold convertVirtualServer
  rw [Routing.resolveRoutes_eq vs.spec.routes index h]
  simp [checkVirtualServer, Backend.isErrorFree_build, hresolved, Routing.isErrorFree_assemble]

variable (ports : NamedPorts)

/-- The error about a transport server, if there is one: its protocol is unknown, or the upstream that it passes its
connections to is unknown or incomplete. -/
def transportError? (ts : TransportServer) : Option Notification :=
  match connectionListener ts ports with
  | .error (.unsupportedProtocol server protocol) =>
    some ⟨.error, (ConnectionFault.unsupportedProtocol server protocol).message, ts.source⟩
  | .error _ => none
  | .ok _ =>
    match passedUpstream ts with
    | .error .noPass => none
    | .error fault => some (fault.note ts ts.source)
    | .ok _ => none

/-- That the errors of a conversion are about transport servers: each is about one of them, which has a name, and
there is one for each fault of theirs. No virtual server is given up because its routes cannot be resolved. -/
structure ErrsOnTransports (input : Snapshot) (settings : Settings) : Prop where
  sources : ∀ n ∈ (convert input settings).notifications.entries, n.severity = .error →
    n.source.kind = "TransportServer" ∧ ∃ ts ∈ input.transportServers, ts.hasName ∧ n.source = ts.source
  errors : (convert input settings).notifications.ofSeverity .error =
    (groups input).keys.flatMap fun ns => (transportServersIn input ns).filterMap fun s =>
      transportError? (contextOf input settings).ports s.2
  resolved : ∀ g ∈ (groups input).entries, ∀ s ∈ g.2.virtualServers,
    ∃ r, Routing.resolveRoutes s.2.spec.routes (contextOf input settings).index s.1 = .ok r
  assembled : ∀ g ∈ (groups input).entries,
    none ∉ (convertNamespace (contextOf input settings) g.1 g.2).value.routes

theorem ofSeverity_error_connectionBackends (ts : TransportServer) :
    (Notifications.mk (Routing.connectionBackends ts ts.namespaceOf ts.source).notes).ofSeverity .error =
      match passedUpstream ts with
      | .error .noPass => []
      | .error fault => [fault.note ts ts.source]
      | .ok _ => [] := by
  unfold Routing.connectionBackends
  cases passedUpstream ts with
  | error fault => cases fault <;> rfl
  | ok u =>
    have hremarks : IsErrorFree (Routing.checkTransportUpstream u ts.source) := by
      simp [Routing.checkTransportUpstream]
    simpa using Notifications.ofSeverity_eq_nil_iff.2 hremarks

theorem ofSeverity_error_connectionRouteOn (l : Listeners.ConnectionListener) (ts : TransportServer)
    (source : ObjectRef) (settings : Settings) :
    (Notifications.mk (Routing.connectionRouteOn l ts source settings).notes).ofSeverity .error =
      (Notifications.mk (Routing.connectionBackends ts ts.namespaceOf source).notes).ofSeverity .error := by
  have hcheck : IsErrorFree (Routing.checkTransportServer ts source) := by
    simp [Routing.checkTransportServer]
  have hinfo : ∀ message, (Notifications.mk (Reported.info source message).notes).ofSeverity .error = [] :=
    fun message => Notifications.ofSeverity_eq_nil_iff.2 (Reported.isErrorFree_info source message)
  unfold Routing.connectionRouteOn
  split
  all_goals
    simp only [Reported.notes_bind, Reported.notes_pure, Notifications.ofSeverity_append, hinfo,
      Notifications.ofSeverity_eq_nil_iff.2 hcheck, List.nil_append, List.append_nil]

theorem ofSeverity_error_connectionRoute (ts : TransportServer) (settings : Settings) :
    (Notifications.mk (Routing.connectionRoute ts ts.source ports settings).notes).ofSeverity .error =
      (transportError? ports ts).toList := by
  unfold Routing.connectionRoute transportError?
  cases connectionListener ts ports with
  | error fault => cases fault <;> rfl
  | ok l =>
    change (Notifications.mk (some <$> _ : Reported _).notes).ofSeverity .error = _
    rw [Reported.notes_map, ofSeverity_error_connectionRouteOn, ofSeverity_error_connectionBackends]
    cases passedUpstream ts with
    | error fault => cases fault <;> rfl
    | ok u => rfl

theorem source_of_transportError? {ts : TransportServer} {n : Notification} (h : transportError? ports ts = some n) :
    n.source = ts.source := by
  unfold transportError? at h
  split at h
  · cases h
    rfl
  · cases h
  · split at h <;> cases h
    rw [Routing.BackendFault.note_eq]

variable (input : Snapshot) (settings : Settings)

theorem isErrorFree_groupByNamespace : IsErrorFree (groupByNamespace input) := by
  have hwarning : Severity.warning ≠ .error := by decide
  intro n hn
  rw [notes_groups, List.mem_append] at hn
  rcases hn with hn | hn
  · obtain ⟨vs, -, hvs⟩ := List.mem_filterMap.1 hn
    have hseverity := severity_serverNotice? vs
    rw [hvs, Option.map_some] at hseverity
    split at hseverity
    · cases hseverity
    · exact Option.some.inj hseverity ▸ hwarning
  · obtain ⟨ts, -, rfl⟩ := List.mem_map.1 hn
    exact hwarning

variable {input} in
/-- The grouping fills in the namespace of a reference, so that its routes can be resolved. -/
theorem ns_of_mem_virtualServersIn {ns : String} {s : Sourced Ingress.VirtualServerSpec}
    (h : s ∈ virtualServersIn input ns) : s.1.ns = some s.2.namespaceOf := by
  obtain ⟨-, -, hsource⟩ := (mem_virtualServersIn input).1 h
  exact congrArg (fun s => s.1.ns) hsource

theorem ne_error_of_mem_siteNotesIn {ns : String} {n : Notification} (hn : n ∈ siteNotesIn input settings ns) :
    n.severity ≠ .error := by
  rcases List.mem_append.1 hn with hn | hn
  · exact Listeners.isErrorFree_synthesize _ settings ns _ _ n hn
  · obtain ⟨s, hs, hn⟩ := List.mem_flatMap.1 hn
    exact isErrorFree_convertVirtualServer s.2 (ns_of_mem_virtualServersIn hs) ns _ _ settings n hn

theorem ofSeverity_error_notesIn (ns : String) :
    (Notifications.mk (notesIn input settings ns)).ofSeverity .error =
      (transportServersIn input ns).filterMap fun s => transportError? (contextOf input settings).ports s.2 := by
  rw [notesIn, Notifications.ofSeverity_append,
    Notifications.ofSeverity_eq_nil_iff.2 fun _ => ne_error_of_mem_siteNotesIn input settings, List.nil_append,
    Notifications.ofSeverity_flatMap, List.filterMap_eq_flatMap_toList]
  refine List.flatMap_congr fun s hs => ?_
  obtain ⟨-, -, hsource⟩ := (mem_transportServersIn input).1 hs
  rw [routeNotes, congrArg Prod.fst hsource]
  exact ofSeverity_error_connectionRoute _ s.2 settings

theorem ofSeverity_error_convert :
    (convert input settings).notifications.ofSeverity .error =
      (groups input).keys.flatMap fun ns => (transportServersIn input ns).filterMap fun s =>
        transportError? (contextOf input settings).ports s.2 := by
  have hentries := notes_convert input settings
  rw [Notifications.ofSeverity, hentries]
  change (Notifications.mk (_ ++ _)).ofSeverity .error = _
  rw [Notifications.ofSeverity_append,
    Notifications.ofSeverity_eq_nil_iff.2 (isErrorFree_groupByNamespace input), List.nil_append,
    Notifications.ofSeverity_flatMap]
  exact List.flatMap_congr fun ns _ => ofSeverity_error_notesIn input settings ns

theorem errsOnTransports_convert : ErrsOnTransports input settings where
  sources n hn herror := by
    have hmem : n ∈ (convert input settings).notifications.ofSeverity .error :=
      List.mem_filter.2 ⟨hn, decide_eq_true herror⟩
    rw [ofSeverity_error_convert, List.mem_flatMap] at hmem
    obtain ⟨ns, -, hmem⟩ := hmem
    obtain ⟨s, hs, hn⟩ := List.mem_filterMap.1 hmem
    have hsource := source_of_transportError? _ hn
    obtain ⟨hnamed, -, -⟩ := (mem_transportServersIn input).1 hs
    obtain ⟨hts, hname⟩ := List.mem_filter.1 hnamed
    exact ⟨congrArg ObjectRef.kind hsource, s.2, hts, hname, hsource⟩
  errors := ofSeverity_error_convert input settings
  resolved g hg s hs := by
    rw [entries_groups] at hg
    obtain ⟨ns, -, rfl⟩ := List.mem_map.1 hg
    exact ⟨_, Routing.resolveRoutes_eq s.2.spec.routes _ (ns_of_mem_virtualServersIn hs)⟩
  assembled g hg := by
    rw [entries_groups] at hg
    obtain ⟨ns, -, rfl⟩ := List.mem_map.1 hg
    change none ∉ (resultIn input settings ns).routes
    rw [resultIn_eq]
    simp

end Conversion

end IngressGateway
