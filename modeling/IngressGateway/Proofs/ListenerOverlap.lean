import IngressGateway.Proofs.Contributions

/-!
Which listeners of a gateway a connection can tell apart. Two listeners of one gateway never have the same
name, and the name is made of the protocol, the port and a host. An HTTP, HTTPS or TLS listener serves the
very host in its name, so no other one serves it on that port. TCP and UDP connections name no host; their
listeners serve none, although the transport servers that declare hosts get listeners with names of their
own.
-/

set_option autoImplicit false

namespace IngressGateway

open Gateway (Listener Protocol)
open Ingress (TransportServer VirtualServer)

namespace Listeners

variable (ports : NamedPorts) (settings : Settings)

/-- Two listeners agree on everything that connections are told apart by. -/
def Overlap (l l' : Listener) : Prop :=
  l.port = l'.port ∧ l.protocol = l'.protocol ∧ l.hostname = l'.hostname

instance (l l' : Listener) : Decidable (Overlap l l') := inferInstanceAs (Decidable (_ ∧ _ ∧ _))

/-- The protocols whose connections name no host. -/
def IsRaw (p : Protocol) : Prop := p = .tcp ∨ p = .udp

/-- The host in the name of the listener is the one that it serves. -/
def NamesItsHost (l : Listener) : Prop :=
  l.name = GeneratedName.listener l.protocol l.port l.hostname

/-! ### The two kinds of listeners -/

theorem namesItsHost_siteListeners {vs : VirtualServer} {l : Listener}
    (h : l ∈ siteListeners ports settings vs) : NamesItsHost l := by
  rcases eq_of_mem_siteListeners ports settings h with ⟨secret, rfl⟩ | rfl <;> rfl

theorem hostname_siteListeners {vs : VirtualServer} {l : Listener}
    (h : l ∈ siteListeners ports settings vs) : l.hostname = some vs.spec.host := by
  rcases eq_of_mem_siteListeners ports settings h with ⟨secret, rfl⟩ | rfl <;> rfl

theorem not_isRaw_siteListeners {vs : VirtualServer} {l : Listener}
    (h : l ∈ siteListeners ports settings vs) : ¬ IsRaw l.protocol := by
  have hp := protocol_siteListeners ports settings vs h
  rintro (hraw | hraw) <;> simp [hraw] at hp

theorem hostname_listenerOf {c : ConnectionListener} (h : IsRaw c.protocol.listenerProtocol) :
    (listenerOf c).hostname = none := by
  refine if_neg fun hp => ?_
  rw [hp] at h
  exact h.elim nofun nofun

theorem namesItsHost_listenerOf {c : ConnectionListener}
    (h : ¬ IsRaw c.protocol.listenerProtocol) : NamesItsHost (listenerOf c) := by
  have hp : c.protocol = .tlsPassthrough := by
    cases hc : c.protocol with
    | tcp => exact absurd (.inl (by rw [hc]; rfl)) h
    | udp => exact absurd (.inr (by rw [hc]; rfl)) h
    | tlsPassthrough => rfl
  have hhost : (listenerOf c).hostname = c.host := if_pos hp
  rw [NamesItsHost, hhost]
  rfl

theorem host_of_connectionListener {ts : TransportServer} {c : ConnectionListener}
    (h : connectionListener ts ports = .ok c) : c.host = Text.present? ts.spec.host := by
  unfold connectionListener at h
  split at h
  · cases h
  · split at h
    · cases h
    · split at h
      · cases h
      · cases h
        rfl

/-- A listener either serves the host in its name, or it is for the raw connections of a transport server. -/
theorem namesItsHost_or_isRaw {vss : List (ObjectRef × VirtualServer)}
    {tss : List (ObjectRef × TransportServer)} {l : Listener}
    (h : l ∈ requests ports settings vss tss) :
    (NamesItsHost l ∧ ¬ IsRaw l.protocol) ∨
      ∃ s ∈ tss, ∃ c, connectionListener s.2 ports = .ok c ∧
        IsRaw c.protocol.listenerProtocol ∧ l = listenerOf c := by
  rcases List.mem_append.1 h with h | h
  · obtain ⟨s, _, hl⟩ := List.mem_flatMap.1 h
    exact .inl ⟨namesItsHost_siteListeners ports settings hl,
      not_isRaw_siteListeners ports settings hl⟩
  · obtain ⟨s, hs, hl⟩ := List.mem_filterMap.1 h
    obtain ⟨c, hc, rfl⟩ := Option.map_eq_some_iff.1 hl
    by_cases hraw : IsRaw c.protocol.listenerProtocol
    · refine .inr ⟨s, hs, c, ?_, hraw, rfl⟩
      revert hc
      cases connectionListener s.2 ports <;> simp [Except.toOption]
    · exact .inl ⟨namesItsHost_listenerOf hraw, hraw⟩

theorem namesItsHost_of_not_isRaw {vss : List (ObjectRef × VirtualServer)}
    {tss : List (ObjectRef × TransportServer)} {l : Listener}
    (h : l ∈ requests ports settings vss tss) (hnot : ¬ IsRaw l.protocol) : NamesItsHost l := by
  rcases namesItsHost_or_isRaw ports settings h with ⟨hl, _⟩ | ⟨_, _, _, _, hraw, rfl⟩
  · exact hl
  · exact absurd hraw hnot

theorem name_inj_of_mem_values {ls : List Listener} {l l' : Listener}
    (h : l ∈ (firstOfEach .empty ls).values) (h' : l' ∈ (firstOfEach .empty ls).values)
    (hname : l.name = l'.name) : l = l' := by
  have hl := mem_values_firstOfEach.1 h
  rw [hname, mem_values_firstOfEach.1 h'] at hl
  exact (Option.some_inj.1 hl).symm

end Listeners

open Listeners (IsRaw Overlap connectionListener connectionListener?)

namespace Conversion

variable (input : Snapshot) (settings : Settings)

/-- The transport servers of a namespace whose connections a listener is for. -/
def IsListenerOf (ns : String) (l : Listener) (ts : TransportServer) : Prop :=
  ts ∈ namedTransports input ∧ ts.namespaceOf = ns ∧
    connectionListener? (contextOf input settings).ports ts = some l

/-- Listeners of one gateway overlap only where connections name no host. Then the names of the listeners
tell apart what the transport servers declare. -/
structure OverlapsOnlyRaw (b : Bundle) : Prop where
  overlap_iff : ∀ key g, b.gateways.get? key = some g →
    ∀ l ∈ g.spec.listeners, ∀ l' ∈ g.spec.listeners, l ≠ l' →
      (Overlap l l' ↔ l.port = l'.port ∧ l.protocol = l'.protocol ∧ IsRaw l.protocol)
  hosts : ∀ key g, b.gateways.get? key = some g →
    ∀ l ∈ g.spec.listeners, ∀ l' ∈ g.spec.listeners, l ≠ l' → Overlap l l' →
      ∃ ts ts', IsListenerOf input settings key.ns l ts ∧ IsListenerOf input settings key.ns l' ts' ∧
        GeneratedName.hostPart ts.spec.host ≠ GeneratedName.hostPart ts'.spec.host

theorem listeners_of_gateway {key : ObjectKey} {g : Gateway.Gateway}
    (h : (convert input settings).bundle.gateways.get? key = some g) :
    g.spec.listeners = (Listeners.firstOfEach .empty (requestsIn input settings key.ns)).values := by
  obtain ⟨ns, _, rfl, rfl⟩ := (get?_gateways_eq_some_iff input settings).1 h
  rfl

variable {input settings} in
theorem exists_isListenerOf {ns : String} {l : Listener} (h : l ∈ requestsIn input settings ns)
    (hraw : IsRaw l.protocol) :
    ∃ ts, IsListenerOf input settings ns l ts ∧ l.hostname = none ∧
      l.name = GeneratedName.listener l.protocol l.port ts.spec.host := by
  rcases Listeners.namesItsHost_or_isRaw _ _ h with ⟨_, hnot⟩ | ⟨s, hs, c, hc, hraw, rfl⟩
  · exact absurd hraw hnot
  · obtain ⟨hts, hns, _⟩ := (mem_transportServersIn input).1 hs
    refine ⟨s.2, ⟨hts, hns, ?_⟩, Listeners.hostname_listenerOf hraw, ?_⟩
    · rw [connectionListener?, hc]
      rfl
    · refine GeneratedName.listener_inj.2 ⟨rfl, rfl, ?_⟩
      rw [Listeners.host_of_connectionListener _ hc, GeneratedName.hostPart_present?]

section

variable {input settings} {ns : String} {l l' : Listener} (h : l ∈ requestsIn input settings ns)
  (h' : l' ∈ requestsIn input settings ns) (hname : l.name ≠ l'.name)
include h h' hname

theorem isRaw_of_overlap (ho : Overlap l l') : IsRaw l.protocol := by
  obtain ⟨hport, hprotocol, hhost⟩ := ho
  by_contra hnot
  have hl := Listeners.namesItsHost_of_not_isRaw _ _ h hnot
  have hl' := Listeners.namesItsHost_of_not_isRaw _ _ h' (hprotocol ▸ hnot)
  exact hname (by rw [hl, hl', hport, hprotocol, hhost])

theorem overlap_iff_isRaw :
    Overlap l l' ↔ l.port = l'.port ∧ l.protocol = l'.protocol ∧ IsRaw l.protocol := by
  constructor
  · intro ho
    exact ⟨ho.1, ho.2.1, isRaw_of_overlap h h' hname ho⟩
  · rintro ⟨hport, hprotocol, hraw⟩
    obtain ⟨_, _, hnone, _⟩ := exists_isListenerOf h hraw
    obtain ⟨_, _, hnone', _⟩ := exists_isListenerOf h' (hprotocol ▸ hraw)
    exact ⟨hport, hprotocol, hnone.trans hnone'.symm⟩

/-- What is missing in the listeners is in their names. -/
theorem hosts_of_overlap (ho : Overlap l l') :
    ∃ ts ts', IsListenerOf input settings ns l ts ∧ IsListenerOf input settings ns l' ts' ∧
      GeneratedName.hostPart ts.spec.host ≠ GeneratedName.hostPart ts'.spec.host := by
  have hraw := isRaw_of_overlap h h' hname ho
  obtain ⟨hport, hprotocol, _⟩ := ho
  obtain ⟨ts, hts, _, hl⟩ := exists_isListenerOf h hraw
  obtain ⟨ts', hts', _, hl'⟩ := exists_isListenerOf h' (hprotocol ▸ hraw)
  refine ⟨ts, ts', hts, hts', fun hpart => hname ?_⟩
  rw [hl, hl']
  exact GeneratedName.listener_inj.2 ⟨hprotocol, hport, hpart⟩

end

/-- HTTP, HTTPS and TLS listeners of one gateway never overlap; TCP and UDP listeners overlap as soon as
they share their port. -/
theorem overlapsOnlyRaw_convert : OverlapsOnlyRaw input settings (convert input settings).bundle := by
  have hrequests : ∀ key g, (convert input settings).bundle.gateways.get? key = some g →
      ∀ l ∈ g.spec.listeners, ∀ l' ∈ g.spec.listeners, l ≠ l' →
        l ∈ requestsIn input settings key.ns ∧ l' ∈ requestsIn input settings key.ns ∧
          l.name ≠ l'.name := by
    intro key g hg l hl l' hl' hne
    rw [listeners_of_gateway input settings hg] at hl hl'
    exact ⟨List.mem_of_find?_eq_some (Listeners.mem_values_firstOfEach.1 hl),
      List.mem_of_find?_eq_some (Listeners.mem_values_firstOfEach.1 hl'),
      fun hname => hne (Listeners.name_inj_of_mem_values hl hl' hname)⟩
  constructor
  case overlap_iff =>
    intro key g hg l hl l' hl' hne
    obtain ⟨h, h', hname⟩ := hrequests key g hg l hl l' hl' hne
    exact overlap_iff_isRaw h h' hname
  case hosts =>
    intro key g hg l hl l' hl' hne ho
    obtain ⟨h, h', hname⟩ := hrequests key g hg l hl l' hl' hne
    exact hosts_of_overlap h h' hname ho

/-- Two transport servers on one TCP port that declare different hosts. -/
theorem overlap_of_declared_hosts :
    let named : Ingress.GlobalConfiguration :=
      ⟨⟨some "ports", some "shop", none, none, none⟩,
        ⟨[⟨"db", ⟨5432, by decide⟩, "TCP", none, none, false⟩]⟩⟩
    let hosted (name host : String) : TransportServer :=
      let t := simpleTransport "shop" name "db" "TCP"
      { t with spec := { t.spec with host := some host } }
    let input : Snapshot :=
      ⟨[], [], [hosted "a" "a.example", hosted "b" "b.example"], some named⟩
    ∃ g ∈ (convert input .usual).bundle.gateways.values,
      ∃ l ∈ g.spec.listeners, ∃ l' ∈ g.spec.listeners, l ≠ l' ∧ Overlap l l' := by
  decide

end Conversion

end IngressGateway
