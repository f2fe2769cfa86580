import IngressGateway.Proofs.ServerRoutes

/-!
What becomes of a transport server. The shared gateway and the route look for its listener each on their own.
Without one, the gateway stays as it is, and a notification stands in for the route. With one, the gateway is asked
for the very listener that the route attaches to; the route has the backend that the server passes its connections
to, or none and the reason why.
-/

set_option autoImplicit false

namespace IngressGateway

namespace Listeners

open Gateway (Listener)
open Ingress (ListenerChoice TransportServer VirtualServer)

/-! ### Drafts of a gateway -/

/-- Every listener stands under its own name, and the name tells its protocol and its port. -/
def IsKeyed (m : SortedMap String Listener) : Prop :=
  ∀ name l, m.get? name = some l → l.name = name ∧ IsNamed l

namespace IsKeyed

variable {m : SortedMap String Listener} {l : Listener}

theorem empty : IsKeyed .empty := by
  intro name l h
  cases h

theorem insertIfNew (hm : IsKeyed m) (hl : IsNamed l) : IsKeyed (m.insertIfNew l.name l) := by
  intro name l' h
  rw [SortedMap.get?_insertIfNew] at h
  cases hpresent : m.get? name with
  | some present =>
    rw [hpresent] at h
    have hsame : present = l' := Option.some.inj h
    exact hm name l' (hsame ▸ hpresent)
  | none =>
    rw [hpresent] at h
    change (if name = l.name then some l else none) = some l' at h
    obtain ⟨hname, hsame⟩ := Option.ite_none_right_eq_some.1 h
    cases hsame
    exact ⟨hname.symm, hl⟩

theorem firstOfEach (hm : IsKeyed m) {ls : List Listener} (hls : ∀ l ∈ ls, IsNamed l) :
    IsKeyed (Listeners.firstOfEach m ls) := by
  induction ls generalizing m with
  | nil => exact hm
  | cons l ls ih =>
    refine ih (hm.insertIfNew (hls l List.mem_cons_self)) fun l' hl' => ?_
    exact hls l' (List.mem_cons_of_mem l hl')

/-- A listener that stays in the place of another one has the same port and the same protocol. -/
theorem exists_get?_insertIfNew (hm : IsKeyed m) (hl : IsNamed l) :
    ∃ l', (m.insertIfNew l.name l).get? l.name = some l' ∧ l'.port = l.port ∧
      l'.protocol = l.protocol := by
  rw [SortedMap.get?_insertIfNew]
  cases hpresent : m.get? l.name with
  | none => exact ⟨l, if_pos rfl, rfl, rfl⟩
  | some present =>
    obtain ⟨hname, hnamed⟩ := hm l.name present hpresent
    obtain ⟨hprotocol, hport⟩ := hl.agree hnamed hname
    exact ⟨present, rfl, hport, hprotocol⟩

end IsKeyed

theorem isNamed_listenerOf (l : ConnectionListener) : IsNamed (listenerOf l) := ⟨l.host, rfl⟩

namespace Draft

variable (ports : NamedPorts) (settings : Settings)

/-- The drafts that servers lead to, one after the other. -/
inductive Reachable : Draft → Prop
  | empty : Reachable .empty
  | virtualServer {d : Draft} (vs : VirtualServer) (source : ObjectRef) :
      Reachable d → Reachable (d.addVirtualServer vs ports settings source).value.1
  | transportServer {d : Draft} (ts : TransportServer) (source : ObjectRef) :
      Reachable d → Reachable (d.addTransportServer ts ports source).value

namespace Reachable

variable {ports settings} {d : Draft}

theorem addVirtualServers (h : Reachable ports settings d) (vss : List (ObjectRef × VirtualServer)) :
    Reachable ports settings (Draft.addVirtualServers ports settings d vss).value.1 := by
  induction vss generalizing d with
  | nil => exact h
  | cons s vss ih => exact ih (h.virtualServer s.2 s.1)

theorem addTransportServers (h : Reachable ports settings d)
    (tss : List (ObjectRef × TransportServer)) :
    Reachable ports settings (Draft.addTransportServers ports d tss).value := by
  induction tss generalizing d with
  | nil => exact h
  | cons s tss ih => exact ih (h.transportServer s.2 s.1)

theorem isKeyed (h : Reachable ports settings d) : IsKeyed d.listeners := by
  induction h with
  | empty => exact .empty
  | virtualServer vs source _ ih =>
    rw [listeners_addVirtualServer]
    exact ih.firstOfEach fun _ hl => isNamed_siteListeners ports settings hl
  | transportServer ts source _ ih =>
    rw [listeners_addTransportServer]
    refine ih.firstOfEach fun l hl => ?_
    obtain ⟨c, -, rfl⟩ := Option.map_eq_some_iff.1 (Option.mem_toList.1 hl)
    exact isNamed_listenerOf c

/-- The shared gateway of a namespace is finished from such a draft. -/
theorem of_servers (vss : List (ObjectRef × VirtualServer)) (tss : List (ObjectRef × TransportServer)) :
    Reachable ports settings (Draft.addTransportServers ports
      (Draft.addVirtualServers ports settings .empty vss).value.1 tss).value :=
  (empty.addVirtualServers vss).addTransportServers tss

end Reachable

end Draft

/-- A listener comes of the choice that a server makes; the choice gives its protocol, and a name for its port. -/
theorem exists_choice_of_connectionListener {ts : TransportServer} {ports : NamedPorts}
    {l : ConnectionListener} (h : connectionListener ts ports = .ok l) :
    ∃ choice named, ts.spec.listener = some choice ∧ ports.get? choice.name = some named ∧
      l.port = named.port ∧ l.protocol.label = choice.protocol := by
  unfold connectionListener at h
  split at h
  · cases h
  next choice hdeclared =>
    split at h
    · cases h
    next named hnamed =>
      split at h
      · cases h
      next protocol hprotocol =>
        cases h
        have hlabel := List.find?_some hprotocol
        exact ⟨choice, named, (Option.filter_eq_some_iff.1 hdeclared).1, hnamed, rfl,
          of_decide_eq_true hlabel⟩

/-- Why a server has no listener, in terms of its choice and of the named ports. -/
inductive Lacks (ts : TransportServer) (ports : NamedPorts) : ConnectionFault → Prop
  | choice (h : ∀ choice, ts.spec.listener = some choice → choice.name = "" ∨ choice.protocol = "") :
      Lacks ts ports (.missingListener ts.anyName)
  | port {choice : ListenerChoice} (hchoice : ts.spec.listener = some choice) (hname : choice.name ≠ "")
      (hprotocol : choice.protocol ≠ "") (h : ports.get? choice.name = none) :
      Lacks ts ports (.unknownListener ts.anyName choice.name)
  | protocol {choice : ListenerChoice} {named : NamedPort} (hchoice : ts.spec.listener = some choice)
      (hname : choice.name ≠ "") (hprotocol : choice.protocol ≠ "")
      (hnamed : ports.get? choice.name = some named)
      (h : choice.protocol ∉ ["TCP", "UDP", "TLS_PASSTHROUGH"]) :
      Lacks ts ports (.unsupportedProtocol ts.anyName choice.protocol)

theorem lacks_of_connectionListener {ts : TransportServer} {ports : NamedPorts} {fault : ConnectionFault}
    (h : connectionListener ts ports = .error fault) : Lacks ts ports fault := by
  unfold connectionListener at h
  split at h
  next hnone =>
    cases h
    refine .choice fun choice hchoice => ?_
    rw [declared?, hchoice, Option.filter_eq_none_iff] at hnone
    simpa [or_iff_not_imp_left] using hnone choice rfl
  next choice hdeclared =>
    obtain ⟨hchoice, hgiven⟩ := Option.filter_eq_some_iff.1 hdeclared
    have hgiven : choice.name ≠ "" ∧ choice.protocol ≠ "" := by simpa using hgiven
    split at h
    next hnone =>
      cases h
      exact .port hchoice hgiven.1 hgiven.2 hnone
    next named hnamed =>
      split at h
      next hunknown =>
        cases h
        have hlabels : ["TCP", "UDP", "TLS_PASSTHROUGH"] =
            ConnectionProtocol.all.map ConnectionProtocol.label := rfl
        refine .protocol hchoice hgiven.1 hgiven.2 hnamed fun hmem => ?_
        rw [hlabels] at hmem
        obtain ⟨p, hp, hlabel⟩ := List.mem_map.1 hmem
        exact List.find?_eq_none.1 hunknown p hp (decide_eq_true hlabel)
      · cases h

end Listeners

namespace Routing

open Gateway (BackendRef ConnectionRule ParentRef Protocol)
open Ingress (TransportAction TransportServer TransportUpstream)
open Listeners (ConnectionFault ConnectionListener Draft NamedPorts connectionListener listenerOf)

/-! ### The parts of a route -/

namespace ConnectionRoute

/-- The protocol that a transport server declares for a route of the kind. -/
def declaredProtocol : ConnectionRoute → String
  | tcp _ => "TCP"
  | tls _ => "TLS_PASSTHROUGH"
  | udp _ => "UDP"

def listenerProtocol : ConnectionRoute → Protocol
  | tcp _ => .tcp
  | tls _ => .tls
  | udp _ => .udp

def kind : ConnectionRoute → String
  | tcp _ => "TCPRoute"
  | tls _ => "TLSRoute"
  | udp _ => "UDPRoute"

def ending : ConnectionRoute → String
  | tcp _ => "-tcproute"
  | tls _ => "-tlsroute"
  | udp _ => "-udproute"

def metadata : ConnectionRoute → Metadata
  | tcp r => r.metadata
  | tls r => r.metadata
  | udp r => r.metadata

def parents : ConnectionRoute → List ParentRef
  | tcp r => r.spec.parentRefs
  | tls r => r.spec.parentRefs
  | udp r => r.spec.parentRefs

def rules : ConnectionRoute → List ConnectionRule
  | tcp r => r.spec.rules
  | tls r => r.spec.rules
  | udp r => r.spec.rules

end ConnectionRoute

/-- What the parts of a route come of: the kind of the listener decides the kind of the route. -/
structure IsRouteOn (l : ConnectionListener) (ts : TransportServer) (backends : List BackendRef)
    (r : ConnectionRoute) : Prop where
  declaredProtocol : r.declaredProtocol = l.protocol.label
  listenerProtocol : r.listenerProtocol = l.protocol.listenerProtocol
  kind : r.kind = routeKind l.protocol
  ending : r.ending = GeneratedName.connectionEnding l.protocol
  name : r.metadata.name = some (GeneratedName.connectionRoute ts.anyName l.protocol.listenerProtocol)
  parents : r.parents = [⟨none, none, none, ts.namespaceOf ++ "-gateway", some l.sectionName⟩]
  rules : r.rules = [⟨backends⟩]

theorem isRouteOn_connectionRouteFor (l : ConnectionListener) (ts : TransportServer) (settings : Settings)
    (backends : List BackendRef) : IsRouteOn l ts backends (connectionRouteFor l ts settings backends) := by
  obtain ⟨protocol, port, host⟩ := l
  cases protocol <;> exact ⟨rfl, rfl, rfl, rfl, rfl, rfl, rfl⟩

/-! ### The backend of a transport server -/

def IsFirstNamed (us : List TransportUpstream) (name : String) (u : TransportUpstream) : Prop :=
  u.name = name ∧ ∃ before after, us = before ++ u :: after ∧ ∀ v ∈ before, v.name ≠ name

theorem isFirstNamed_of_find? {us : List TransportUpstream} {name : String} {u : TransportUpstream}
    (h : us.find? (fun u => u.name = name) = some u) : IsFirstNamed us name u := by
  obtain ⟨hname, before, after, hus, hbefore⟩ := List.find?_eq_some_iff_append.1 h
  refine ⟨of_decide_eq_true hname, before, after, hus, fun v hv => ?_⟩
  simpa using hbefore v hv

def HasBackend (u : TransportUpstream) : Prop := u.service ≠ "" ∧ u.port.val ≠ 0

theorem not_hasBackend_iff (u : TransportUpstream) :
    ¬ HasBackend u ↔ (u.service.isEmpty || u.port.val = 0) = true := by
  rw [HasBackend, Bool.or_eq_true, String.isEmpty_iff, decide_eq_true_iff, not_and_or, not_not, not_not]

/-- What `passedUpstream` finds, in terms of the action and the upstreams of a server. -/
inductive Passes (ts : TransportServer) : Except BackendFault TransportUpstream → Prop
  | nothing (h : ∀ a, ts.spec.action = some a → a.pass = "") : Passes ts (.error .noPass)
  | unknown {a : TransportAction} (ha : ts.spec.action = some a) (hpass : a.pass ≠ "")
      (h : ∀ u ∈ ts.spec.upstreams, u.name ≠ a.pass) : Passes ts (.error (.unknownUpstream a.pass))
  | incomplete {a : TransportAction} {u : TransportUpstream} (ha : ts.spec.action = some a)
      (hpass : a.pass ≠ "") (hu : IsFirstNamed ts.spec.upstreams a.pass u) (h : ¬ HasBackend u) :
      Passes ts (.error (.incompleteUpstream a.pass))
  | complete {a : TransportAction} {u : TransportUpstream} (ha : ts.spec.action = some a)
      (hpass : a.pass ≠ "") (hu : IsFirstNamed ts.spec.upstreams a.pass u) (h : HasBackend u) :
      Passes ts (.ok u)

theorem passes_passedUpstream (ts : TransportServer) : Passes ts (passedUpstream ts) := by
  unfold passedUpstream
  split
  next hnone =>
    refine .nothing fun a ha => ?_
    rw [ha] at hnone
    simpa [Text.present?] using hnone
  next name hname =>
    obtain ⟨hmap, hne⟩ := Option.filter_eq_some_iff.1 hname
    obtain ⟨a, ha, rfl⟩ := Option.map_eq_some_iff.1 hmap
    have hpass : a.pass ≠ "" := by simpa using hne
    split
    next hnone =>
      refine .unknown ha hpass fun u hu => ?_
      simpa using List.find?_eq_none.1 hnone u hu
    next u hu =>
      have hfirst := isFirstNamed_of_find? hu
      split
      case isTrue h => exact .incomplete ha hpass hfirst ((not_hasBackend_iff u).2 h)
      case isFalse h => exact .complete ha hpass hfirst (not_not.1 (mt (not_hasBackend_iff u).1 h))

/-! ### The notifications of a route -/

/-- What is said about a missing backend. A server that passes its connections to nothing is warned; an upstream that
is not there or of no use is an error. -/
def BackendFault.note (fault : BackendFault) (ts : TransportServer) (source : ObjectRef) : Notification :=
  match fault with
  | .noPass => ⟨.warning, s!"TransportServer '{ts.anyName}' has no action.pass configured", source⟩
  | .unknownUpstream name =>
    ⟨.error, s!"Upstream '{name}' not found in TransportServer '{ts.anyName}'", source⟩
  | .incompleteUpstream name =>
    ⟨.error, s!"Upstream '{name}' in TransportServer '{ts.anyName}' has no service or port specified", source⟩

theorem BackendFault.note_eq (fault : BackendFault) (ts : TransportServer) (source : ObjectRef) :
    fault.note ts source = ⟨fault.severity, fault.message ts.anyName, source⟩ := by
  cases fault <;> rfl

/-- The last notification about a route, which tells its kind and its name. -/
def creationNote (r : ConnectionRoute) (ts : TransportServer) (source : ObjectRef) : Notification :=
  ⟨.info, s!"Created {r.kind} '{ts.anyName ++ r.ending}' for TransportServer '{ts.anyName}'", source⟩

/-- What neither is an error nor gives a reason for a missing backend. -/
def IsRemark (ts : TransportServer) (source : ObjectRef) (n : Notification) : Prop :=
  n.severity ≠ .error ∧ ∀ fault : BackendFault, n ≠ fault.note ts source

section

variable {ts : TransportServer} {source : ObjectRef}

theorem isRemark_of_info {n : Notification} (h : n.severity = .info) : IsRemark ts source n := by
  constructor
  · rw [h]
    decide
  · rintro fault rfl
    cases fault <;> cases h

/-- After the same first word, one goes on with another word and the other one with a quoted name. -/
theorem fieldMessage_ne_noPass (field server : String) :
    s!"TransportServer field '{field}' is not supported in Gateway API and was not converted" ≠
      BackendFault.noPass.message server := by
  unfold BackendFault.message
  intro h
  have hchars := congrArg String.toList h
  simp [toString] at hchars

theorem isRemark_of_mem_checkTransportServer {n : Notification}
    (h : n ∈ (checkTransportServer ts source).notes) : IsRemark ts source n := by
  obtain ⟨message, hmessage, rfl⟩ := List.mem_map.1 h
  obtain ⟨field, -, rfl⟩ := List.mem_map.1 hmessage
  have hwarning : Severity.warning ≠ .error := by decide
  refine ⟨hwarning, fun fault heq => ?_⟩
  cases fault with
  | noPass => exact fieldMessage_ne_noPass field _ (congrArg Notification.message heq)
  | unknownUpstream name => exact hwarning (congrArg Notification.severity heq)
  | incompleteUpstream name => exact hwarning (congrArg Notification.severity heq)

end

/-- That a reference is to the service of an upstream, in a namespace. -/
structure RefersTo (b : BackendRef) (u : TransportUpstream) (ns : String) : Prop where
  group : b.group = some ""
  kind : b.kind = some "Service"
  name : b.name = u.service
  ns : b.ns = some ns
  port : b.port = some u.port
  weight : b.weight = none

theorem refersTo_connectionBackend (u : TransportUpstream) (ns : String) :
    RefersTo (connectionBackend u ns) u ns :=
  ⟨rfl, rfl, rfl, rfl, rfl, rfl⟩

/-- The backends that a server leads to, and what is said before its route is created: there is one backend, the service
of the upstream, or there is none and the reason is given once. -/
inductive Backed (ts : TransportServer) (source : ObjectRef) : List BackendRef → List Notification → Prop
  | one {u : TransportUpstream} {b : BackendRef} {remarks : List Notification} (hu : Passes ts (.ok u))
      (hb : RefersTo b u ts.namespaceOf) (h : ∀ n ∈ remarks, IsRemark ts source n) :
      Backed ts source [b] remarks
  | none {fault : BackendFault} {remarks : List Notification} (hfault : Passes ts (.error fault))
      (h : ∀ n ∈ remarks, IsRemark ts source n) :
      Backed ts source [] (remarks ++ [fault.note ts source])

theorem Backed.append {ts : TransportServer} {source : ObjectRef} {backends : List BackendRef}
    {notes remarks : List Notification} (h : Backed ts source backends notes)
    (hremarks : ∀ n ∈ remarks, IsRemark ts source n) : Backed ts source backends (remarks ++ notes) := by
  cases h with
  | one hu hb h => exact .one hu hb (List.forall_mem_append.2 ⟨hremarks, h⟩)
  | none hfault h =>
    rw [← List.append_assoc]
    exact .none hfault (List.forall_mem_append.2 ⟨hremarks, h⟩)

section

variable (l : ConnectionListener) (ts : TransportServer) (source : ObjectRef) (settings : Settings)

theorem backed_connectionBackends :
    Backed ts source (connectionBackends ts ts.namespaceOf source).value
      (connectionBackends ts ts.namespaceOf source).notes := by
  have hpasses := passes_passedUpstream ts
  unfold connectionBackends
  cases hpassed : passedUpstream ts with
  | error fault =>
    rw [hpassed] at hpasses
    have hnone : Backed ts source [] ([] ++ [fault.note ts source]) := .none hpasses nofun
    rw [BackendFault.note_eq] at hnone
    exact hnone
  | ok u =>
    rw [hpassed] at hpasses
    refine .one hpasses (refersTo_connectionBackend u ts.namespaceOf) fun n hn => ?_
    simp only [Reported.notes_bind, Reported.notes_pure, List.append_nil] at hn
    obtain ⟨message, -, rfl⟩ := List.mem_map.1 hn
    exact isRemark_of_info rfl

theorem creationNote_connectionRouteFor (backends : List BackendRef) :
    creationNote (connectionRouteFor l ts settings backends) ts source =
      let name := GeneratedName.connectionRoute ts.anyName l.protocol.listenerProtocol
      ⟨.info, s!"Created {routeKind l.protocol} '{name}' for TransportServer '{ts.anyName}'", source⟩ := by
  have hr := isRouteOn_connectionRouteFor l ts settings backends
  rw [creationNote, hr.kind, hr.ending, ← GeneratedName.connectionRoute_eq]

theorem backed_connectionRouteOn :
    ∃ remarks, Backed ts source (connectionBackends ts ts.namespaceOf source).value remarks ∧
      (connectionRouteOn l ts source settings).notes = remarks ++
        [creationNote (connectionRouteFor l ts settings
          (connectionBackends ts ts.namespaceOf source).value) ts source] := by
  have hcheck : ∀ n ∈ (checkTransportServer ts source).notes, IsRemark ts source n :=
    fun _ => isRemark_of_mem_checkTransportServer
  have hinfo : ∀ message, ∀ n ∈ (Reported.info source message).notes, IsRemark ts source n := by
    intro message n hn
    obtain rfl := List.mem_singleton.1 hn
    exact isRemark_of_info rfl
  have hbacked := backed_connectionBackends ts source
  rw [creationNote_connectionRouteFor]
  unfold connectionRouteOn
  by_cases htls : l.protocol = .tcp ∧ endsTls ts
  · refine ⟨_, (hbacked.append (hinfo ?_)).append hcheck, ?_⟩
    rotate_left
    rw [if_pos htls, List.append_assoc, List.append_assoc]
    rfl
  · refine ⟨_, hbacked.append hcheck, ?_⟩
    rw [if_neg htls, List.append_assoc]
    rfl

end

/-! ### Outcomes -/

inductive Outcome where
  | skipped (fault : ConnectionFault)
  | served (l : ConnectionListener) (r : ConnectionRoute)

section

variable (ts : TransportServer) (ports : NamedPorts) (settings : Settings) (source : ObjectRef)
  (d : Draft)

structure IsSkipped (fault : ConnectionFault) : Prop where
  listener : connectionListener ts ports = .error fault
  reason : Listeners.Lacks ts ports fault
  result : (connectionRoute ts source ports settings).value = none
  notes : (connectionRoute ts source ports settings).notes = [⟨fault.severity, fault.message, source⟩]
  drafted : d.addTransportServer ts ports source = pure d

structure IsServed (l : ConnectionListener) (r : ConnectionRoute) : Prop where
  listener : connectionListener ts ports = .ok l
  choice : ∃ choice named, ts.spec.listener = some choice ∧ ports.get? choice.name = some named ∧
    l.port = named.port ∧ r.declaredProtocol = choice.protocol
  drafted : ∃ asked, d.addTransportServer ts ports source = d.addListener asked source ∧
    asked.name = l.sectionName ∧ asked.port = l.port ∧ asked.protocol = r.listenerProtocol
  held : d.Reachable ports settings → ∃ present,
    (d.addTransportServer ts ports source).value.listeners.get? l.sectionName = some present ∧
    present.port = l.port ∧ present.protocol = r.listenerProtocol
  result : (connectionRoute ts source ports settings).value = some r
  name : r.metadata.name = some (ts.anyName ++ r.ending)
  parents : r.parents = [⟨none, none, none, ts.namespaceOf ++ "-gateway", some l.sectionName⟩]
  rules : ∃ backends remarks, Backed ts source backends remarks ∧ r.rules = [⟨backends⟩] ∧
    (connectionRoute ts source ports settings).notes = remarks ++ [creationNote r ts source]

/-- What an outcome stands for, in the gateway, in the route and in the notifications. -/
def HasOutcome : Outcome → Prop
  | .skipped fault => IsSkipped ts ports settings source d fault
  | .served l r => IsServed ts ports settings source d l r

variable {ts ports}

theorem isSkipped_of_connectionListener {fault : ConnectionFault}
    (h : connectionListener ts ports = .error fault) : IsSkipped ts ports settings source d fault := by
  have hroute : connectionRoute ts source ports settings =
      ⟨none, [⟨fault.severity, fault.message, source⟩]⟩ := by
    unfold connectionRoute
    rw [h]
    rfl
  refine ⟨h, Listeners.lacks_of_connectionListener h, ?_, ?_, ?_⟩
  · rw [hroute]
  · rw [hroute]
  · unfold Draft.addTransportServer
    rw [h]

theorem isServed_of_connectionListener {l : ConnectionListener}
    (h : connectionListener ts ports = .ok l) :
    IsServed ts ports settings source d l
      (connectionRouteFor l ts settings (connectionBackends ts ts.namespaceOf source).value) := by
  have hroute : connectionRoute ts source ports settings =
      some <$> connectionRouteOn l ts source settings := by
    unfold connectionRoute
    rw [h]
  have hdraft : d.addTransportServer ts ports source = d.addListener (listenerOf l) source := by
    unfold Draft.addTransportServer
    rw [h]
  have hr := isRouteOn_connectionRouteFor l ts settings (connectionBackends ts ts.namespaceOf source).value
  obtain ⟨remarks, hbacked, hnotes⟩ := backed_connectionRouteOn l ts source settings
  exact {
    listener := h
    choice := by
      rw [hr.declaredProtocol]
      exact Listeners.exists_choice_of_connectionListener h
    drafted := by
      rw [hr.listenerProtocol]
      exact ⟨listenerOf l, hdraft, rfl, rfl, rfl⟩
    held := fun hd => by
      rw [hdraft, Draft.listeners_addListener, hr.listenerProtocol]
      exact hd.isKeyed.exists_get?_insertIfNew (Listeners.isNamed_listenerOf l)
    result := by rw [hroute, Reported.value_map, value_connectionRouteOn]
    name := by rw [hr.name, hr.ending, GeneratedName.connectionRoute_eq]
    parents := hr.parents
    rules := by
      refine ⟨_, remarks, hbacked, hr.rules, ?_⟩
      rw [hroute, Reported.notes_map, hnotes] }

variable (ts ports)

theorem existsUnique_outcome : ∃! o, HasOutcome ts ports settings source d o := by
  cases h : connectionListener ts ports with
  | error fault =>
    refine ⟨.skipped fault, isSkipped_of_connectionListener settings source d h, fun o ho => ?_⟩
    cases o with
    | skipped fault' =>
      cases h.symm.trans ho.listener
      rfl
    | served l r => cases h.symm.trans ho.listener
  | ok l =>
    have hserved := isServed_of_connectionListener settings source d h
    refine ⟨.served l _, hserved, fun o ho => ?_⟩
    cases o with
    | skipped fault => cases h.symm.trans ho.listener
    | served l' r =>
      cases h.symm.trans ho.listener
      cases hserved.result.symm.trans ho.result
      rfl

end

end Routing

end IngressGateway
