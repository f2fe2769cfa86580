import IngressGateway.Proofs.Contention
import IngressGateway.Proofs.Contributions
import IngressGateway.Proofs.OrderIndependence
import Mathlib.Data.List.Flatten

/-!
Servers that are left out. A server without a name, a virtual server without a host and a transport server
without a listener lead to one notification and to nothing else. They are dropped at different stages, after
they have been sorted together with the others, so a conversion is compared with that of the other servers
stage by stage: the groups, the gateway of a namespace, the routes, and the notifications of each.
-/

set_option autoImplicit false

namespace IngressGateway

open Ingress (TransportServer TransportServerSpec VirtualServer VirtualServerSpec)
open Listeners (ConnectionProtocol NamedPorts connectionListener)

/-! ### What is left out, and what is said about it -/

namespace Conversion

def serverNotice? (vs : VirtualServer) : Option Notification :=
  if !vs.hasName then
    some ⟨.warning, "VirtualServer has no name, skipping",
      Resource.refTo VirtualServerSpec vs.metadata.ns unnamed⟩
  else if vs.spec.host.isEmpty then
    some ⟨.warning, "VirtualServer has no host specified, skipping", vs.source⟩
  else none

variable (ports : NamedPorts)

def faultNotice? (ts : TransportServer) : Option Notification :=
  match connectionListener ts ports with
  | .error fault => some ⟨fault.severity, fault.message, ts.source⟩
  | .ok _ => none

def namelessNotice (ts : TransportServer) : Notification :=
  ⟨.warning, "TransportServer has no name, skipping",
    Resource.refTo TransportServerSpec ts.metadata.ns unnamed⟩

def transportNotice? (ts : TransportServer) : Option Notification :=
  if ts.hasName then faultNotice? ports ts else some (namelessNotice ts)

def hasListener (ts : TransportServer) : Bool := (connectionListener ts ports).isOk

/-- A transport server names a listener that is known, but a protocol that is not. -/
def isUnsupported (ts : TransportServer) : Bool :=
  (Listeners.declared? ts).any fun choice =>
    (ports.get? choice.name).isSome && (ConnectionProtocol.ofLabel? choice.protocol).isNone

theorem severity_serverNotice? (vs : VirtualServer) :
    (serverNotice? vs).map Notification.severity = if isEligible vs then none else some .warning := by
  unfold serverNotice? isEligible
  cases vs.hasName <;> cases vs.spec.host.isEmpty <;> rfl

theorem serverNotice?_of_isEligible {vs : VirtualServer} (h : isEligible vs = true) :
    serverNotice? vs = none :=
  Option.map_eq_none_iff.1 ((severity_serverNotice? vs).trans (if_pos h))

theorem severity_of_fault {ts : TransportServer} {fault : Listeners.ConnectionFault}
    (h : connectionListener ts ports = .error fault) :
    fault.severity = if isUnsupported ports ts then .error else .warning := by
  unfold connectionListener at h
  unfold isUnsupported
  split at h
  case h_1 hdeclared =>
    cases h
    rw [hdeclared]
    rfl
  case h_2 choice hdeclared =>
    rw [hdeclared, Option.any_some]
    -- The protocol is looked at only if the listener is known.
    split at h
    case h_1 hport =>
      cases h
      rw [hport]
      rfl
    case h_2 named hport =>
      rw [hport]
      split at h
      case h_1 hlabel =>
        cases h
        rw [hlabel]
        rfl
      case h_2 => cases h

theorem severity_faultNotice? (ts : TransportServer) :
    (faultNotice? ports ts).map Notification.severity =
      if hasListener ports ts then none
      else some (if isUnsupported ports ts then .error else .warning) := by
  unfold faultNotice? hasListener
  cases h : connectionListener ts ports with
  | ok l => rfl
  | error fault => exact congrArg some (severity_of_fault ports h)

theorem faultNotice?_of_hasListener {ts : TransportServer} (h : hasListener ports ts = true) :
    faultNotice? ports ts = none :=
  Option.map_eq_none_iff.1 ((severity_faultNotice? ports ts).trans (if_pos h))

theorem severity_transportNotice? (ts : TransportServer) :
    (transportNotice? ports ts).map Notification.severity =
      if ts.hasName && hasListener ports ts then none
      else some (if ts.hasName && isUnsupported ports ts then .error else .warning) := by
  unfold transportNotice?
  cases ts.hasName with
  | false => rfl
  | true => exact severity_faultNotice? ports ts

def isConnected (input : Snapshot) (ts : TransportServer) : Bool :=
  hasListener (Listeners.namedPorts input.globalConfiguration) ts

end Conversion

/-- The snapshot without the servers that lead to nothing. -/
def Snapshot.reduced (input : Snapshot) : Snapshot :=
  { input with
    virtualServers := input.virtualServers.filter Conversion.isEligible
    transportServers := input.transportServers.filter fun ts =>
      ts.hasName && Conversion.isConnected input ts }

namespace Conversion

def leftOutNotices (input : Snapshot) : List Notification :=
  input.virtualServers.filterMap serverNotice? ++
    input.transportServers.filterMap
      (transportNotice? (Listeners.namedPorts input.globalConfiguration))

/-- A conversion leads to what that of the other servers leads to, and in between its notifications has one
about each server that is left out. -/
structure OnlyReportsLeftOut (input : Snapshot) (settings : Settings) : Prop where
  bundle : (convert input.reduced settings).bundle = (convert input settings).bundle
  sublist : (convert input.reduced settings).notifications.entries.Sublist
    (convert input settings).notifications.entries
  perm : (convert input settings).notifications.entries.Perm
    ((convert input.reduced settings).notifications.entries ++ leftOutNotices input)
  servers : ∀ vs, (serverNotice? vs).map Notification.severity =
    if isEligible vs then none else some .warning
  transports : ∀ ports ts, (transportNotice? ports ts).map Notification.severity =
    if ts.hasName && hasListener ports ts then none
    else some (if ts.hasName && isUnsupported ports ts then .error else .warning)

/-! ### Namespaces that nothing is left in -/

variable (input : Snapshot) (settings : Settings)

theorem eligibleServers_reduced : eligibleServers input.reduced = eligibleServers input := by
  change (input.virtualServers.filter isEligible).filter isEligible = _
  rw [List.filter_filter]
  simp only [Bool.and_self]
  rfl

theorem namedTransports_reduced :
    namedTransports input.reduced = (namedTransports input).filter (isConnected input) := by
  change (input.transportServers.filter _).filter _ = (input.transportServers.filter _).filter _
  rw [List.filter_filter, List.filter_filter]
  refine List.filter_congr fun ts _ => ?_
  cases ts.hasName with
  | false => exact (Bool.and_false _).symm
  | true => exact (Bool.and_true _).symm

theorem contextOf_reduced : contextOf input.reduced settings = contextOf input settings := rfl

theorem virtualServersIn_reduced (ns : String) :
    virtualServersIn input.reduced ns = virtualServersIn input ns := by
  rw [virtualServersIn, eligibleServers_reduced]
  rfl

theorem transportServersIn_reduced (ns : String) :
    transportServersIn input.reduced ns =
      (transportServersIn input ns).filter fun s => isConnected input s.2 := by
  rw [transportServersIn, transportServersIn, filter_serversIn, List.filter_map,
    namedTransports_reduced]
  rfl

theorem mem_keys_groups_of_reduced {ns : String} (h : ns ∈ (groups input.reduced).keys) :
    ns ∈ (groups input).keys := by
  rw [mem_keys_groups, eligibleServers_reduced, namedTransports_reduced] at h
  rw [mem_keys_groups]
  refine h.imp_right ?_
  rintro ⟨ts, hts, hns⟩
  exact ⟨ts, List.mem_of_mem_filter hts, hns⟩

theorem servers_of_not_mem_keys {ns : String} (h : ns ∉ (groups input).keys) :
    virtualServersIn input ns = [] ∧ transportServersIn input ns = [] := by
  rw [mem_keys_groups, not_or] at h
  rw [List.eq_nil_iff_forall_not_mem, List.eq_nil_iff_forall_not_mem]
  constructor
  · intro s hs
    obtain ⟨hvs, hns, _⟩ := (mem_virtualServersIn input).1 hs
    exact h.1 ⟨s.2, hvs, hns⟩
  · intro s hs
    obtain ⟨hts, hns, _⟩ := (mem_transportServersIn input).1 hs
    exact h.2 ⟨s.2, hts, hns⟩

/-! ### The objects of a namespace -/

section

variable (ns : String)

theorem connectionListener?_of_not {ts : TransportServer} (h : isConnected input ts = false) :
    Listeners.connectionListener? (contextOf input settings).ports ts = none := by
  rw [← Option.isNone_iff_eq_none, ← Option.isSome_eq_false_iff, Listeners.isSome_connectionListener?]
  exact h

theorem requestsIn_reduced : requestsIn input.reduced settings ns = requestsIn input settings ns := by
  rw [requestsIn, requestsIn, virtualServersIn_reduced, transportServersIn_reduced]
  refine congrArg (List.append _) (filterMap_filter_of_none fun s _ hs => ?_)
  exact connectionListener?_of_not input settings hs

theorem sharedGateway_reduced (h : requestsIn input settings ns ≠ []) :
    sharedGateway input.reduced settings ns = sharedGateway input settings ns := by
  -- The label of the gateway asks for transport servers only if there are no virtual ones; then one of
  -- them has a listener, or there were no gateway.
  have hempty : virtualServersIn input ns = [] →
      (transportServersIn input.reduced ns).isEmpty = (transportServersIn input ns).isEmpty := by
    intro hnone
    obtain ⟨l, hl⟩ := List.exists_mem_of_ne_nil _ h
    rw [requestsIn, Listeners.requests, hnone, List.flatMap_nil, List.nil_append] at hl
    obtain ⟨s, hs, hlistener⟩ := List.mem_filterMap.1 hl
    have hsome : isConnected input s.2 = true := by
      change (connectionListener s.2 (contextOf input settings).ports).isOk = true
      rw [← Listeners.isSome_connectionListener?, hlistener]
      rfl
    have hs' : s ∈ transportServersIn input.reduced ns := by
      rw [transportServersIn_reduced]
      exact List.mem_filter.2 ⟨hs, hsome⟩
    rw [List.isEmpty_eq_false_iff.2 (List.ne_nil_of_mem hs'),
      List.isEmpty_eq_false_iff.2 (List.ne_nil_of_mem hs)]
  rw [sharedGateway, sharedGateway, requestsIn_reduced, virtualServersIn_reduced, Listeners.gatewayOf,
    Listeners.gatewayOf]
  cases hv : virtualServersIn input ns with
  | nil => rw [hempty hv]
  | cons s ss => rfl

theorem gateway_reduced :
    (resultIn input.reduced settings ns).gateway = (resultIn input settings ns).gateway := by
  rw [gateway_resultIn, gateway_resultIn, requestsIn_reduced]
  split
  · rfl
  · rw [sharedGateway_reduced input settings ns ‹_›]

theorem routes_reduced :
    (resultIn input.reduced settings ns).routes = (resultIn input settings ns).routes := by
  rw [resultIn_eq, resultIn_eq, virtualServersIn_reduced]
  rfl

theorem connections_reduced :
    (resultIn input.reduced settings ns).connections.filterMap id =
      (resultIn input settings ns).connections.filterMap id := by
  rw [connections_resultIn, connections_resultIn, transportServersIn_reduced]
  refine filterMap_filter_of_none fun s _ hs => ?_
  rw [ownConnection?, Routing.transportRoute?_eq, Option.map_eq_none_iff]
  exact Option.map_eq_none_iff.1 (connectionListener?_of_not input settings hs)

theorem storeNamespace_reduced (b : Bundle) :
    storeNamespace b ns (resultIn input.reduced settings ns) =
      storeNamespace b ns (resultIn input settings ns) := by
  unfold storeNamespace
  rw [gateway_reduced, routes_reduced, connections_reduced]

theorem storeNamespace_of_not_mem_keys (b : Bundle) (h : ns ∉ (groups input).keys) :
    storeNamespace b ns (resultIn input settings ns) = b := by
  obtain ⟨hv, ht⟩ := servers_of_not_mem_keys input h
  rw [resultIn_eq, hv, ht]
  rfl

end

theorem bundle_reduced :
    (convert input.reduced settings).bundle = (convert input settings).bundle := by
  have hkeys := SortedMap.keys_eq_filter fun ns => mem_keys_groups_of_reduced input
  rw [bundle_convert, bundle_convert, storeAll, storeAll, results_eq, results_eq, List.foldl_map,
    List.foldl_map, hkeys, List.foldl_filter]
  congr 1
  funext b ns
  split
  case isTrue => exact storeNamespace_reduced input settings ns b
  case isFalse h =>
    rw [← storeNamespace_reduced]
    exact (storeNamespace_of_not_mem_keys input.reduced settings ns b fun hk =>
      h (decide_eq_true hk)).symm

/-! ### The notifications of a namespace -/

def siteNotesIn (ns : String) : List Notification :=
  (Listeners.synthesize ns (virtualServersIn input ns) (transportServersIn input ns)
      (contextOf input settings).ports settings).notes ++
    (virtualServersIn input ns).flatMap fun s =>
      (convertVirtualServer s.2 s.1 ns
        (foundSections (contextOf input settings) (virtualServersIn input ns) s.2)
        (contextOf input settings).index settings).notes

def routeNotes (s : Sourced TransportServerSpec) : List Notification :=
  (Routing.connectionRoute s.2 s.1 (contextOf input settings).ports settings).notes

def notesIn (ns : String) : List Notification :=
  siteNotesIn input settings ns ++ (transportServersIn input ns).flatMap (routeNotes input settings)

theorem notes_convert :
    (convert input settings).notifications.entries =
      (groupByNamespace input).notes ++ (groups input).keys.flatMap (notesIn input settings) := by
  have hnotes := notes_convertAll input settings
  change _ = _ ++ (groups input).entries.flatMap _ at hnotes
  rw [entries_groups, List.flatMap_map] at hnotes
  refine hnotes.trans (congrArg (List.append _) (List.flatMap_congr fun ns _ => ?_))
  unfold convertNamespace notesIn siteNotesIn
  simp only [Reported.notes_bind, Reported.notes_each, Reported.notes_pure, List.append_nil,
    Listeners.sections_synthesize, List.append_assoc]
  rfl

theorem siteNotesIn_reduced (ns : String) :
    siteNotesIn input.reduced settings ns = siteNotesIn input settings ns := by
  have hnotes : ((transportServersIn input ns).filter fun s => isConnected input s.2).flatMap
        (Listeners.connectionNotes (contextOf input settings).ports (requestsIn input settings ns)) =
      (transportServersIn input ns).flatMap
        (Listeners.connectionNotes (contextOf input settings).ports
          (requestsIn input settings ns)) := by
    refine flatMap_filter_of_nil fun s _ hs => ?_
    rw [Listeners.connectionNotes, connectionListener?_of_not input settings hs]
    rfl
  have hrequests := requestsIn_reduced input settings ns
  rw [requestsIn, virtualServersIn_reduced, transportServersIn_reduced] at hrequests
  rw [siteNotesIn, siteNotesIn, virtualServersIn_reduced, Listeners.notes_synthesize,
    Listeners.notes_synthesize, transportServersIn_reduced, contextOf_reduced]
  change Listeners.requests (contextOf input settings).ports settings _ _ = _ at hrequests
  rw [hrequests, hnotes]
  rfl

theorem notesIn_reduced (ns : String) :
    notesIn input.reduced settings ns = siteNotesIn input settings ns ++
      ((transportServersIn input ns).filter fun s => isConnected input s.2).flatMap
        (routeNotes input settings) := by
  rw [notesIn, siteNotesIn_reduced, transportServersIn_reduced]
  rfl

theorem routeNotes_of_not {ns : String} {s : Sourced TransportServerSpec}
    (h : s ∈ transportServersIn input ns) (hs : isConnected input s.2 = false) :
    routeNotes input settings s =
      (faultNotice? (contextOf input settings).ports s.2).toList := by
  obtain ⟨_, _, hsource⟩ := (mem_transportServersIn input).1 h
  rw [routeNotes, hsource]
  change (connectionListener s.2 (contextOf input settings).ports).isOk = false at hs
  unfold Routing.connectionRoute faultNotice?
  cases hc : connectionListener s.2 (contextOf input settings).ports with
  | ok l =>
    rw [hc] at hs
    cases hs
  | error fault =>
    change connectionListener (sourced s.2).2 _ = _ at hc
    rw [hc]
    rfl

theorem notesIn_sublist (ns : String) :
    (notesIn input.reduced settings ns).Sublist (notesIn input settings ns) := by
  rw [notesIn_reduced, notesIn]
  exact List.Sublist.append_left (List.filter_sublist.flatMap _) _

/-- A transport server without a listener is told why, and nothing else is said about it. -/
theorem notesIn_perm (ns : String) :
    (notesIn input settings ns).Perm (notesIn input.reduced settings ns ++
      (transportServersIn input ns).filterMap fun s =>
        faultNotice? (contextOf input settings).ports s.2) := by
  let ok := fun s : Sourced TransportServerSpec => isConnected input s.2
  have hfaults : ((transportServersIn input ns).filter fun s => !ok s).flatMap
      (routeNotes input settings) = (transportServersIn input ns).filterMap fun s =>
        faultNotice? (contextOf input settings).ports s.2 := by
    have hok : ∀ s ∈ transportServersIn input ns, (!ok s) = false →
        faultNotice? (contextOf input settings).ports s.2 = none := by
      intro s _ hs
      rw [Bool.not_eq_false'] at hs
      exact faultNotice?_of_hasListener _ hs
    rw [← filterMap_filter_of_none hok, List.filterMap_eq_flatMap_toList]
    refine List.flatMap_congr fun s hs => ?_
    obtain ⟨hmem, hnot⟩ := List.mem_filter.1 hs
    rw [Bool.not_eq_true'] at hnot
    exact routeNotes_of_not input settings hmem hnot
  have hp := (List.filter_append_perm ok (transportServersIn input ns)).flatMap_right
    (routeNotes input settings)
  rw [List.flatMap_append, hfaults] at hp
  rw [notesIn_reduced, notesIn, List.append_assoc]
  exact List.Perm.append_left _ hp.symm

/-! ### The notifications of a conversion -/

theorem notes_admitVirtualServer (vs : VirtualServer) :
    (admitVirtualServer vs).notes = (serverNotice? vs).toList := by
  unfold admitVirtualServer serverNotice?
  rw [sourceOf?_eq]
  cases vs.hasName with
  | false => rfl
  | true => cases vs.spec.host.isEmpty <;> rfl

theorem notes_admitTransportServer (ts : TransportServer) :
    (admitTransportServer ts).notes = if ts.hasName then [] else [namelessNotice ts] := by
  unfold admitTransportServer namelessNotice
  rw [sourceOf?_eq]
  cases ts.hasName <;> rfl

theorem notes_groups :
    (groupByNamespace input).notes = input.virtualServers.filterMap serverNotice? ++
      (input.transportServers.filter fun ts => !ts.hasName).map namelessNotice := by
  rw [notes_groupByNamespace, List.filterMap_eq_flatMap_toList, ← flatMap_if]
  congr 1
  · exact List.flatMap_congr fun vs _ => notes_admitVirtualServer vs
  · refine List.flatMap_congr fun ts _ => ?_
    rw [notes_admitTransportServer]
    cases ts.hasName <;> rfl

theorem notes_groups_reduced : (groupByNamespace input.reduced).notes = [] := by
  rw [notes_groups, List.append_eq_nil_iff]
  constructor
  · exact List.filterMap_eq_nil_iff.2 fun vs hvs =>
      serverNotice?_of_isEligible (List.mem_filter.1 hvs).2
  · rw [List.map_eq_nil_iff, List.filter_eq_nil_iff]
    intro ts hts
    rw [(Bool.and_eq_true_iff.1 (List.mem_filter.1 hts).2).1]
    exact Bool.false_ne_true

/-- Those without a name are told first, those without a listener when their turn comes. -/
theorem transportNotices_perm (ports : NamedPorts) (tss : List TransportServer) :
    ((tss.filter fun ts => !ts.hasName).map namelessNotice ++
      (tss.filter Resource.hasName).filterMap (faultNotice? ports)).Perm
        (tss.filterMap (transportNotice? ports)) := by
  have hnamed : (tss.filter Resource.hasName).filterMap (transportNotice? ports) =
      (tss.filter Resource.hasName).filterMap (faultNotice? ports) :=
    List.filterMap_congr fun ts hts => if_pos (List.mem_filter.1 hts).2
  have hnameless : (tss.filter fun ts => !ts.hasName).filterMap (transportNotice? ports) =
      (tss.filter fun ts => !ts.hasName).map namelessNotice := by
    rw [← List.filterMap_eq_map]
    refine List.filterMap_congr fun ts hts => ?_
    have hname := (List.mem_filter.1 hts).2
    rw [Bool.not_eq_true'] at hname
    rw [transportNotice?, hname]
    rfl
  have hp := (List.filter_append_perm Resource.hasName tss).filterMap (transportNotice? ports)
  rw [List.filterMap_append, hnamed, hnameless] at hp
  exact List.perm_append_comm.trans hp

theorem keys_flatMap_reduced :
    (groups input.reduced).keys.flatMap (notesIn input.reduced settings) =
      (groups input).keys.flatMap (notesIn input.reduced settings) := by
  rw [SortedMap.keys_eq_filter fun ns => mem_keys_groups_of_reduced input]
  refine flatMap_filter_of_nil fun ns _ hns => ?_
  obtain ⟨hv, ht⟩ := servers_of_not_mem_keys input.reduced (of_decide_eq_false hns)
  rw [notesIn, siteNotesIn, hv, ht]
  rfl

theorem notes_sublist :
    (convert input.reduced settings).notifications.entries.Sublist
      (convert input settings).notifications.entries := by
  rw [notes_convert, notes_convert, notes_groups_reduced, List.nil_append, keys_flatMap_reduced]
  exact (List.Sublist.flatMap_right _ fun ns _ => notesIn_sublist input settings ns).trans
    (List.sublist_append_right _ _)

theorem notes_perm :
    (convert input settings).notifications.entries.Perm
      ((convert input.reduced settings).notifications.entries ++ leftOutNotices input) := by
  let ports := (contextOf input settings).ports
  have hfaults : ((groups input).keys.flatMap fun ns => (transportServersIn input ns).filterMap
      fun s => faultNotice? ports s.2).Perm ((namedTransports input).filterMap (faultNotice? ports)) := by
    have h := (transportServersIn_perm input).filterMap fun s => faultNotice? ports s.2
    rwa [List.filterMap_flatMap, List.filterMap_map] at h
  have hin : ((groups input).keys.flatMap (notesIn input settings)).Perm
      ((groups input).keys.flatMap (notesIn input.reduced settings) ++
        (namedTransports input).filterMap (faultNotice? ports)) := by
    refine (List.Perm.flatMap_left _ fun ns _ => notesIn_perm input settings ns).trans ?_
    exact (List.flatMap_append_perm _ _ _).symm.trans (hfaults.append_left _)
  rw [notes_convert, notes_convert, notes_groups_reduced, List.nil_append, keys_flatMap_reduced,
    notes_groups, leftOutNotices]
  refine (hin.append_left _).trans ((List.perm_append_comm_assoc _ _ _).trans ?_)
  rw [List.append_assoc]
  exact ((transportNotices_perm ports input.transportServers).append_left _).append_left _

/-- Servers that are left out do not change what becomes of the others. -/
theorem onlyReportsLeftOut_convert : OnlyReportsLeftOut input settings where
  bundle := bundle_reduced input settings
  sublist := notes_sublist input settings
  perm := notes_perm input settings
  servers := severity_serverNotice?
  transports := severity_transportNotice?

end Conversion

end IngressGateway
