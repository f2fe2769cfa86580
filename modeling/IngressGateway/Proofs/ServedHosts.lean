import IngressGateway.Proofs.Contention
import IngressGateway.Proofs.ListenerOverlap
import IngressGateway.Proofs.OrderIndependence

/-!
Which hosts a conversion serves. Hosts that are written the same in the name of a listener contend for it,
and the first virtual server in order has it. Every other one finds a listener of its name, its port and its
protocol, but perhaps with another host; in that case it is told. Hosts that are written differently never
get in each other's way.
-/

set_option autoImplicit false

namespace IngressGateway.Conversion

open Gateway (Listener)
open Ingress (VirtualServer)
open KeyOrder (before)
open Listeners (NamedPorts listenerConflict siteListeners)

variable (input : Snapshot) (settings : Settings)

/-- A listener of the gateway has the host, up to the case of its letters. -/
def Serves (g : Gateway.Gateway) (host : String) : Prop :=
  ∃ l ∈ g.spec.listeners, ∃ h ∈ l.hostname, Text.sameIgnoringCase h host = true

instance (g : Gateway.Gateway) (host : String) : Decidable (Serves g host) :=
  inferInstanceAs (Decidable (∃ _ ∈ _, _))

/-- A virtual server that comes no later wants a listener of the same name, so its host is written the
same. -/
structure Precedes (other vs : VirtualServer) : Prop where
  eligible : other ∈ eligibleServers input
  sameNamespace : other.namespaceOf = vs.namespaceOf
  notLater : before vs.source other.source = false
  contends : ∃ l' ∈ siteListeners (contextOf input settings).ports settings other,
    ∃ l ∈ siteListeners (contextOf input settings).ports settings vs, l'.name = l.name
  sameSlug : GeneratedName.hostSlug other.spec.host = GeneratedName.hostSlug vs.spec.host

/-- A listener of the gateway has the name, the port and the protocol that were asked for and the host of a
server that precedes; if that is another host, the notifications say so. -/
def IsMet (g : Gateway.Gateway) (notes : List Notification) (vs : VirtualServer) (l : Listener) :
    Prop :=
  ∃ l' ∈ g.spec.listeners, ∃ other, Precedes input settings other vs ∧ l'.name = l.name ∧
    l'.port = l.port ∧ l'.protocol = l.protocol ∧ l'.hostname = some other.spec.host ∧
    (Text.sameIgnoringCase other.spec.host vs.spec.host = true ∨ listenerConflict vs.source l ∈ notes)

/-- The gateway of its namespace meets every request of a virtual server, of which there is at least one, and
serves its host unless a server that precedes has another host. -/
structure IsHosted (c : Converted) (vs : VirtualServer) (g : Gateway.Gateway) : Prop where
  found : c.bundle.gateways.get? ⟨vs.namespaceOf, vs.namespaceOf ++ "-gateway"⟩ = some g
  asks : siteListeners (contextOf input settings).ports settings vs ≠ []
  met : ∀ l ∈ siteListeners (contextOf input settings).ports settings vs,
    IsMet input settings g c.notifications.entries vs l
  served : (∀ other, Precedes input settings other vs →
    Text.sameIgnoringCase other.spec.host vs.spec.host = true) → Serves g vs.spec.host

structure HostsAll (c : Converted) : Prop where
  hosted : ∀ vs ∈ eligibleServers input, ∃ g, IsHosted input settings c vs g

/-- What is found in a list of lists comes no later than anything that would do. -/
theorem mem_of_find?_flatMap {α β : Type} {f : α → List β} {p : β → Bool} {xs ys : List α} {a : α}
    {rest : List β} {b b' : β} (h : ((xs ++ a :: ys).flatMap f ++ rest).find? p = some b')
    (hb : b ∈ f a) (hp : p b = true) :
    ∃ a', (a' ∈ xs ∨ a' = a) ∧ b' ∈ f a' := by
  have hsplit : (xs ++ a :: ys).flatMap f ++ rest =
      (xs ++ [a]).flatMap f ++ (ys.flatMap f ++ rest) := by simp
  have hmem : b ∈ (xs ++ [a]).flatMap f :=
    List.mem_flatMap.2 ⟨a, List.mem_append_right _ List.mem_cons_self, hb⟩
  rw [hsplit, List.find?_append] at h
  cases hf : ((xs ++ [a]).flatMap f).find? p with
  | none => exact absurd hp (List.find?_eq_none.1 hf b hmem)
  | some c =>
    rw [hf] at h
    obtain rfl : c = b' := Option.some_inj.1 h
    obtain ⟨a', ha', hc⟩ := List.mem_flatMap.1 (List.mem_of_find?_eq_some hf)
    exact ⟨a', by simpa using ha', hc⟩

variable {input settings}

theorem hostPart_of_eligible {vs : VirtualServer} (h : vs ∈ eligibleServers input) :
    GeneratedName.hostPart (some vs.spec.host) = some (GeneratedName.hostSlug vs.spec.host) := by
  have heligible := (List.mem_filter.1 h).2
  have hhost : (!vs.spec.host.isEmpty) = true := (Bool.and_eq_true _ _ ▸ heligible).2
  rw [GeneratedName.hostPart, Text.present?, Option.filter_some, if_pos hhost]
  rfl

theorem agree_of_name {ports : NamedPorts} {vs other : VirtualServer} {l l' : Listener}
    (ho : other ∈ eligibleServers input) (hvs : vs ∈ eligibleServers input)
    (hl' : l' ∈ siteListeners ports settings other) (hl : l ∈ siteListeners ports settings vs)
    (hname : l'.name = l.name) :
    l'.protocol = l.protocol ∧ l'.port = l.port ∧
      GeneratedName.hostSlug other.spec.host = GeneratedName.hostSlug vs.spec.host := by
  rw [Listeners.namesItsHost_siteListeners ports settings hl,
    Listeners.namesItsHost_siteListeners ports settings hl',
    Listeners.hostname_siteListeners ports settings hl,
    Listeners.hostname_siteListeners ports settings hl', GeneratedName.listener_inj,
    hostPart_of_eligible ho, hostPart_of_eligible hvs] at hname
  exact ⟨hname.1, hname.2.1, Option.some_inj.1 hname.2.2⟩

section

variable {vs : VirtualServer} (hvs : vs ∈ eligibleServers input) {l : Listener}
  (hl : l ∈ siteListeners (contextOf input settings).ports settings vs)
include hvs hl

/-- Of the virtual servers that ask for one name, the first one in order has it. -/
theorem exists_precedes {l' : Listener}
    (hfind : (requestsIn input settings vs.namespaceOf).find? (fun l' => l'.name = l.name) =
      some l') :
    ∃ other, Precedes input settings other vs ∧
      l' ∈ siteListeners (contextOf input settings).ports settings other := by
  -- Cut the sorted servers at this one: what is found is its own or stands in front of the cut.
  obtain ⟨xs, ys, hsplit⟩ := List.append_of_mem (sourced_mem_virtualServersIn hvs)
  have horder : InOrder (xs ++ sourced vs :: ys) := hsplit ▸ inOrder_sortServers _
  have hname := Listeners.name_of_find? hfind
  rw [requestsIn, Listeners.requests, hsplit] at hfind
  obtain ⟨s, hs, hl'⟩ := mem_of_find?_flatMap hfind hl (decide_eq_true rfl)
  have hmem : s ∈ virtualServersIn input vs.namespaceOf := by
    rw [hsplit]
    rcases hs with hs | rfl
    · exact List.mem_append_left _ hs
    · exact List.mem_append_right _ List.mem_cons_self
  have hbefore : before vs.source s.1 = false := by
    rcases hs with hs | rfl
    · exact (List.pairwise_append.1 horder).2.2 s hs (sourced vs) List.mem_cons_self
    · exact KeyOrder.irrefl _
  obtain ⟨heligible, hns, hsource⟩ := (mem_virtualServersIn input).1 hmem
  rw [hsource] at hbefore
  obtain ⟨_, _, hslug⟩ := agree_of_name heligible hvs hl' hl hname
  exact ⟨s.2, ⟨heligible, hns, hbefore, ⟨l', hl', l, hl, hname⟩, hslug⟩, hl'⟩

theorem listenerConflict_mem_notifications
    (hlost : Listeners.isBeaten (requestsIn input settings vs.namespaceOf) l = true) :
    listenerConflict vs.source l ∈ (convert input settings).notifications.entries := by
  have hgroup : (vs.namespaceOf, (⟨virtualServersIn input vs.namespaceOf,
      transportServersIn input vs.namespaceOf⟩ : NamespaceServers)) ∈ (groups input).entries := by
    rw [entries_groups]
    exact List.mem_map.2 ⟨_, (mem_keys_groups input).2 (.inl ⟨vs, hvs, rfl⟩), rfl⟩
  have hnote : listenerConflict vs.source l ∈ Listeners.listenerNotes
      (requestsIn input settings vs.namespaceOf) vs.source l := by
    rw [Listeners.listenerNotes, if_pos hlost]
    exact List.mem_cons_self
  have hsite : listenerConflict vs.source l ∈
      (Listeners.synthesize vs.namespaceOf (virtualServersIn input vs.namespaceOf)
        (transportServersIn input vs.namespaceOf) (contextOf input settings).ports settings).notes := by
    rw [Listeners.notes_synthesize]
    refine List.mem_append_left _ (List.mem_flatMap.2
      ⟨_, sourced_mem_virtualServersIn hvs, List.mem_append_right _ ?_⟩)
    exact List.mem_flatMap.2 ⟨l, hl, hnote⟩
  change _ ∈ (convertAll input settings).notes
  rw [notes_convertAll]
  refine List.mem_append_right _ (List.mem_flatMap.2 ⟨_, hgroup, ?_⟩)
  rw [convertNamespace, Reported.notes_bind]
  exact List.mem_append_left _ hsite

theorem isMet_of_site :
    IsMet input settings (sharedGateway input settings vs.namespaceOf)
      (convert input settings).notifications.entries vs l := by
  obtain ⟨l', hfind⟩ := Listeners.exists_find?_name (mem_requestsIn_of_site hvs hl)
  have hname := Listeners.name_of_find? hfind
  obtain ⟨other, hother, hl'⟩ := exists_precedes hvs hl hfind
  obtain ⟨hprotocol, hport, _⟩ := agree_of_name hother.eligible hvs hl' hl hname
  have hhost := Listeners.hostname_siteListeners _ _ hl'
  have hkept : l' ∈ (sharedGateway input settings vs.namespaceOf).spec.listeners :=
    Listeners.mem_values_firstOfEach.2 (by rw [hname]; exact hfind)
  refine ⟨l', hkept, other, hother, hname, hport, hprotocol, hhost, ?_⟩
  by_cases hlost : l' = l
  · have hsame : other.spec.host = vs.spec.host := by
      rw [hlost, Listeners.hostname_siteListeners _ _ hl] at hhost
      exact (Option.some_inj.1 hhost).symm
    exact .inl (hsame ▸ Text.sameIgnoringCase_self _)
  · refine .inr (listenerConflict_mem_notifications hvs hl (decide_eq_true ?_))
    rw [hfind]
    exact fun h => hlost (Option.some_inj.1 h)

end

variable (input settings)

/-- Every virtual server gets the listeners that it asks for. It shares them with the servers whose hosts are
written like its own, and is told if the host on a listener is not its own. -/
theorem hostsAll_convert : HostsAll input settings (convert input settings) := by
  refine ⟨fun vs hvs => ?_⟩
  obtain ⟨l, hl, _⟩ :=
    Listeners.exists_listener_of_primary (contextOf input settings).ports settings vs
  have hreq := mem_requestsIn_of_site hvs hl
  refine ⟨sharedGateway input settings vs.namespaceOf, ?_, List.ne_nil_of_mem hl,
    fun l hl => isMet_of_site hvs hl, fun hsame => ?_⟩
  · exact (get?_gateways_eq_some_iff input settings).2 ⟨_, List.ne_nil_of_mem hreq, rfl, rfl⟩
  · obtain ⟨l', hl', other, hother, _, _, _, hhost, _⟩ := isMet_of_site hvs hl
    exact ⟨l', hl', other.spec.host, hhost, hsame other hother⟩

/-- Two virtual servers whose hosts differ in a dot and a dash. -/
theorem not_serves_dashed :
    let dotted := simpleServer "shop" "a" "cafe.example.com" none
    let dashed := simpleServer "shop" "b" "cafe-example.com" none
    isEligible dashed = true ∧
      ∀ g ∈ (convert ⟨[dotted, dashed], [], [], none⟩ .usual).bundle.gateways.values,
        ¬ Serves g dashed.spec.host := by
  decide

end IngressGateway.Conversion
