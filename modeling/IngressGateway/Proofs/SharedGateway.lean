import IngressGateway.Listeners.Synthesis
import IngressGateway.Proofs.Lookup
import IngressGateway.Proofs.Naming

/-!
The shared gateway of a namespace, read off the listeners that its servers ask for. The requests form one
list; the gateway has the first request of each name, and the sections of a virtual server are the names of
its own requests. A request that is not the first one of its name still finds a listener of its protocol,
since the name tells the protocol.
-/

set_option autoImplicit false

namespace IngressGateway.Listeners

open Gateway (Gateway Listener Protocol)
open Ingress (ListenerNames Tls TlsRedirect TransportServer VirtualServer VirtualServerSpec)

variable (ports : NamedPorts) (settings : Settings)

/-- The port that a virtual server gets for the listener that it names. -/
def portFor (name : Option String) (usual : Unsigned16) : Unsigned16 :=
  match (Text.present? name).bind ports.get? with
  | none => usual
  | some named => if Text.sameIgnoringCase named.protocol "HTTP" then named.port else usual

def httpPort (vs : VirtualServer) : Unsigned16 :=
  portFor ports (vs.spec.listener.bind ListenerNames.http) settings.httpPort

def httpsPort (vs : VirtualServer) : Unsigned16 :=
  portFor ports (vs.spec.listener.bind ListenerNames.https) settings.httpsPort

def siteListeners (vs : VirtualServer) : List Listener :=
  (httpsListener? vs (httpsPort ports settings vs)).toList ++
    (httpListener? vs (httpPort ports settings vs)).toList

def siteSections (vs : VirtualServer) : Sections :=
  ⟨(httpListener? vs (httpPort ports settings vs)).map Listener.name,
    (httpsListener? vs (httpsPort ports settings vs)).map Listener.name,
    httpsPort ports settings vs⟩

def connectionListener? (ts : TransportServer) : Option Listener :=
  (connectionListener ts ports).toOption.map listenerOf

theorem isSome_connectionListener? (ts : TransportServer) :
    (connectionListener? ports ts).isSome = (connectionListener ts ports).isOk := by
  unfold connectionListener?
  cases connectionListener ts ports <;> rfl

/-! ### What a server asks for -/

/-- That a listener serves a host on a port without encryption. -/
structure IsPlain (host : String) (port : Unsigned16) (l : Listener) : Prop where
  name : l.name = GeneratedName.listener .http port (some host)
  hostname : l.hostname = some host
  port : l.port = port
  protocol : l.protocol = .http
  tls : l.tls = none

/-- That a listener serves a host on a port and ends the encryption with the certificate of a secret. -/
structure IsEncrypted (host secret : String) (port : Unsigned16) (l : Listener) : Prop where
  name : l.name = GeneratedName.listener .https port (some host)
  hostname : l.hostname = some host
  port : l.port = port
  protocol : l.protocol = .https
  tls : l.tls = some ⟨some .terminate, [⟨none, none, secret, none⟩]⟩

/-- The listeners that a virtual server asks for: a plain one if it names no secret, an encrypted one if it does, and
both if its redirect is switched on as well. -/
inductive Wants (http https : Unsigned16) (vs : VirtualServer) : List Listener → Prop
  | plain {l : Listener} (hsecret : ∀ tls, vs.spec.tls = some tls → tls.secret = none ∨ tls.secret = some "")
      (hl : IsPlain vs.spec.host http l) : Wants http https vs [l]
  | encrypted {tls : Tls} {secret : String} {l : Listener} (htls : vs.spec.tls = some tls)
      (hsecret : tls.secret = some secret) (hne : secret ≠ "")
      (hredirect : ∀ r, tls.redirect = some r → r.enable = false)
      (hl : IsEncrypted vs.spec.host secret https l) : Wants http https vs [l]
  | both {tls : Tls} {secret : String} {r : TlsRedirect} {l l' : Listener} (htls : vs.spec.tls = some tls)
      (hsecret : tls.secret = some secret) (hne : secret ≠ "") (hr : tls.redirect = some r)
      (henable : r.enable = true) (hl : IsEncrypted vs.spec.host secret https l)
      (hl' : IsPlain vs.spec.host http l') : Wants http https vs [l, l']

theorem isPlain_httpListener (port : Unsigned16) (host : String) : IsPlain host port (httpListener port host) :=
  ⟨rfl, rfl, rfl, rfl, rfl⟩

theorem isEncrypted_httpsListener (port : Unsigned16) (host secret : String) :
    IsEncrypted host secret port (httpsListener port host secret) :=
  ⟨rfl, rfl, rfl, rfl, rfl⟩

theorem siteListeners_of_none {vs : VirtualServer} (h : vs.spec.tlsSecret? = none) :
    siteListeners ports settings vs = [httpListener (httpPort ports settings vs) vs.spec.host] := by
  rw [siteListeners, httpsListener?, httpListener?, h]
  rfl

theorem siteListeners_of_some {vs : VirtualServer} {secret : String} (h : vs.spec.tlsSecret? = some secret) :
    siteListeners ports settings vs = httpsListener (httpsPort ports settings vs) vs.spec.host secret ::
      if vs.spec.tlsRedirect?.isSome then [httpListener (httpPort ports settings vs) vs.spec.host] else [] := by
  rw [siteListeners, httpsListener?, httpListener?, redirects, h]
  cases vs.spec.tlsRedirect? <;> rfl

theorem wants_siteListeners (vs : VirtualServer) :
    Wants (httpPort ports settings vs) (httpsPort ports settings vs) vs (siteListeners ports settings vs) := by
  have hplain := isPlain_httpListener (httpPort ports settings vs) vs.spec.host
  cases hs : vs.spec.tlsSecret? with
  | none =>
    rw [siteListeners_of_none ports settings hs]
    refine .plain (fun tls htls => ?_) hplain
    rw [VirtualServerSpec.tlsSecret?, htls] at hs
    exact Text.present?_eq_none_iff.1 hs
  | some secret =>
    have hencrypted := isEncrypted_httpsListener (httpsPort ports settings vs) vs.spec.host secret
    obtain ⟨hbind, hne⟩ := Text.present?_eq_some_iff.1 hs
    obtain ⟨tls, htls, hsecret⟩ := Option.bind_eq_some_iff.1 hbind
    rw [siteListeners_of_some ports settings hs]
    cases hr : vs.spec.tlsRedirect? with
    | none =>
      refine .encrypted htls hsecret hne (fun r hr' => ?_) hencrypted
      rw [VirtualServerSpec.tlsRedirect?, htls, Option.bind_some, hr'] at hr
      simpa using Option.filter_eq_none_iff.1 hr r rfl
    | some r =>
      obtain ⟨hr', henable⟩ := Option.filter_eq_some_iff.1 hr
      rw [htls, Option.bind_some] at hr'
      exact .both htls hsecret hne hr' henable hencrypted hplain

/-- That a listener is the one for the connections of a transport server. It has a host only where the encryption is left
alone. -/
structure IsForConnections (c : ConnectionListener) (l : Listener) : Prop where
  name : l.name = c.sectionName
  port : l.port = c.port
  protocol : l.protocol = c.protocol.listenerProtocol
  passthrough : c.protocol = .tlsPassthrough → l.hostname = c.host ∧ l.tls = some ⟨some .passthrough, []⟩
  raw : c.protocol ≠ .tlsPassthrough → l.hostname = none ∧ l.tls = none

/-- The listener that a transport server asks for: one if it finds its listener, and none otherwise. -/
inductive WantsConnection (ts : TransportServer) : Option Listener → Prop
  | none {fault : ConnectionFault} (h : connectionListener ts ports = .error fault) : WantsConnection ts none
  | some {c : ConnectionListener} {l : Listener} (h : connectionListener ts ports = .ok c)
      (hl : IsForConnections c l) : WantsConnection ts (some l)

theorem isForConnections_listenerOf (c : ConnectionListener) : IsForConnections c (listenerOf c) where
  name := rfl
  port := rfl
  protocol := rfl
  passthrough h := ⟨if_pos h, if_pos h⟩
  raw h := ⟨if_neg h, if_neg h⟩

theorem wantsConnection_connectionListener? (ts : TransportServer) :
    WantsConnection ports ts (connectionListener? ports ts) := by
  unfold connectionListener?
  cases h : connectionListener ts ports with
  | error fault => exact .none h
  | ok c => exact .some h (isForConnections_listenerOf c)

/-! ### What all servers ask for -/

/-- All listeners that the servers of a namespace ask for, in order. -/
def requests (vss : List (ObjectRef × VirtualServer)) (tss : List (ObjectRef × TransportServer)) :
    List Listener :=
  (vss.flatMap fun s => siteListeners ports settings s.2) ++
    tss.filterMap fun s => connectionListener? ports s.2

def firstClass? (vss : List (ObjectRef × VirtualServer)) : Option String :=
  vss.findSome? fun s => Text.present? s.2.spec.ingressClassName

def classChoice? (vs : VirtualServer) : Option ChosenClass :=
  (Text.present? vs.spec.ingressClassName).map fun name => ⟨name, vs.anyName⟩

/-- The class that counts, with the virtual server that names it. -/
def firstChoice? (vss : List (ObjectRef × VirtualServer)) : Option ChosenClass :=
  vss.findSome? fun s => classChoice? s.2

theorem firstChoice?_cons (s : ObjectRef × VirtualServer) (vss : List (ObjectRef × VirtualServer)) :
    firstChoice? (s :: vss) = (classChoice? s.2 <|> firstChoice? vss) := by
  rw [firstChoice?, firstChoice?, List.findSome?_cons]
  cases classChoice? s.2 <;> rfl

theorem map_name_firstChoice? (vss : List (ObjectRef × VirtualServer)) :
    (firstChoice? vss).map ChosenClass.name = firstClass? vss := by
  rw [firstChoice?, firstClass?, List.map_findSome?]
  congr 1
  funext s
  rw [Function.comp_apply, classChoice?, Option.map_map]
  exact Option.map_id'

/-- Listeners by name, each the first one of its name. -/
def firstOfEach (m : SortedMap String Listener) (ls : List Listener) : SortedMap String Listener :=
  ls.foldl (fun m l => m.insertIfNew l.name l) m

theorem firstOfEach_append (m : SortedMap String Listener) (ls ls' : List Listener) :
    firstOfEach m (ls ++ ls') = firstOfEach (firstOfEach m ls) ls' := List.foldl_append

theorem get?_firstOfEach (ls : List Listener) (name : String) :
    (firstOfEach .empty ls).get? name = ls.find? fun l => l.name = name := by
  refine (SortedMap.get?_foldl_insertIfNew Listener.name id ls .empty name).trans ?_
  simp

/-! ### What the draft of a gateway comes to -/

theorem value_portNamed (name : Option String) (usual : Unsigned16) (source : ObjectRef) :
    (portNamed name usual ports source).value = portFor ports name usual := by
  unfold portNamed portFor
  cases Text.present? name with
  | none => rfl
  | some n =>
    simp only [Option.bind_some]
    cases ports.get? n with
    | none => rfl
    | some named => cases h : Text.sameIgnoringCase named.protocol "HTTP" <;> simp [h]

theorem value_portsOf (vs : VirtualServer) (source : ObjectRef) :
    (portsOf vs ports settings source).value =
      (httpPort ports settings vs, httpsPort ports settings vs) := by
  rw [httpPort, httpsPort, ← value_portNamed ports _ _ source, ← value_portNamed ports _ _ source]
  rfl

namespace Draft

theorem listeners_addListener (d : Draft) (l : Listener) (source : ObjectRef) :
    (d.addListener l source).value.listeners = d.listeners.insertIfNew l.name l := by
  unfold addListener SortedMap.insertIfNew SortedMap.contains
  cases d.listeners.get? l.name with
  | none => rfl
  | some present =>
    by_cases h : present = l
    · simp [h]
    · simp [h]

theorem listeners_addListeners (d : Draft) (ls : List Listener) (source : ObjectRef) :
    (d.addListeners ls source).value.listeners = firstOfEach d.listeners ls := by
  induction ls generalizing d with
  | nil => rfl
  | cons l ls ih =>
    change ((d.addListener l source).value.addListeners ls source).value.listeners = _
    rw [ih, listeners_addListener]
    rfl

theorem listeners_observeClass (d : Draft) (vs : VirtualServer) (source : ObjectRef) :
    (d.observeClass vs source).value.listeners = d.listeners := by
  unfold observeClass
  cases Text.present? vs.spec.ingressClassName with
  | none => rfl
  | some name =>
    cases d.chosen with
    | none => rfl
    | some chosen => by_cases h : chosen.name = name <;> simp [h]

theorem chosen_addListener (d : Draft) (l : Listener) (source : ObjectRef) :
    (d.addListener l source).value.chosen = d.chosen := by
  unfold addListener
  cases d.listeners.get? l.name with
  | none => rfl
  | some present => by_cases h : present = l <;> simp [h]

theorem chosen_addListeners (d : Draft) (ls : List Listener) (source : ObjectRef) :
    (d.addListeners ls source).value.chosen = d.chosen := by
  induction ls generalizing d with
  | nil => rfl
  | cons l ls ih => exact (ih (d.addListener l source).value).trans (chosen_addListener d l source)

theorem chosen_observeClass (d : Draft) (vs : VirtualServer) (source : ObjectRef) :
    (d.observeClass vs source).value.chosen = (d.chosen <|> classChoice? vs) := by
  unfold observeClass classChoice?
  cases Text.present? vs.spec.ingressClassName with
  | none => cases d.chosen <;> rfl
  | some name =>
    cases hc : d.chosen with
    | none => rfl
    | some chosen => by_cases h : chosen.name = name <;> simp [h, hc]

theorem value_addVirtualServer (d : Draft) (vs : VirtualServer) (source : ObjectRef) :
    (d.addVirtualServer vs ports settings source).value =
      (((d.observeClass vs source).value.addListeners (siteListeners ports settings vs) source).value,
        siteSections ports settings vs) := by
  unfold addVirtualServer
  simp only [Reported.value_bind, value_portsOf, Reported.value_pure]
  rfl

theorem listeners_addVirtualServer (d : Draft) (vs : VirtualServer) (source : ObjectRef) :
    (d.addVirtualServer vs ports settings source).value.1.listeners =
      firstOfEach d.listeners (siteListeners ports settings vs) := by
  rw [value_addVirtualServer, listeners_addListeners, listeners_observeClass]

theorem listeners_addVirtualServers (d : Draft) (vss : List (ObjectRef × VirtualServer)) :
    (addVirtualServers ports settings d vss).value.1.listeners =
      firstOfEach d.listeners (vss.flatMap fun s => siteListeners ports settings s.2) := by
  induction vss generalizing d with
  | nil => rfl
  | cons s vss ih =>
    change (addVirtualServers ports settings (d.addVirtualServer s.2 ports settings s.1).value.1
      vss).value.1.listeners = _
    rw [ih, listeners_addVirtualServer, List.flatMap_cons, firstOfEach_append]

theorem chosen_addVirtualServer (d : Draft) (vs : VirtualServer) (source : ObjectRef) :
    (d.addVirtualServer vs ports settings source).value.1.chosen =
      (d.chosen <|> classChoice? vs) := by
  rw [value_addVirtualServer, chosen_addListeners, chosen_observeClass]

theorem chosen_addVirtualServers (d : Draft) (vss : List (ObjectRef × VirtualServer)) :
    (addVirtualServers ports settings d vss).value.1.chosen =
      (d.chosen <|> firstChoice? vss) := by
  induction vss generalizing d with
  | nil =>
    change d.chosen = _
    cases d.chosen <;> rfl
  | cons s vss ih =>
    change (addVirtualServers ports settings (d.addVirtualServer s.2 ports settings s.1).value.1
      vss).value.1.chosen = _
    rw [ih, chosen_addVirtualServer, firstChoice?_cons]
    cases d.chosen <;> rfl

theorem sections_addVirtualServers (d : Draft) (vss : List (ObjectRef × VirtualServer)) :
    (addVirtualServers ports settings d vss).value.2 =
      vss.map fun s => (s.2.anyName, siteSections ports settings s.2) := by
  induction vss generalizing d with
  | nil => rfl
  | cons s vss ih =>
    have hs := congrArg Prod.snd (value_addVirtualServer ports settings d s.2 s.1)
    change (s.2.anyName, (d.addVirtualServer s.2 ports settings s.1).value.2) ::
      (addVirtualServers ports settings (d.addVirtualServer s.2 ports settings s.1).value.1
        vss).value.2 = _
    rw [ih, hs, List.map_cons]

theorem listeners_addTransportServer (d : Draft) (ts : TransportServer) (source : ObjectRef) :
    (d.addTransportServer ts ports source).value.listeners =
      firstOfEach d.listeners (connectionListener? ports ts).toList := by
  unfold addTransportServer connectionListener?
  cases connectionListener ts ports with
  | error fault => rfl
  | ok l => exact listeners_addListener d (listenerOf l) source

theorem listeners_addTransportServers (d : Draft) (tss : List (ObjectRef × TransportServer)) :
    (addTransportServers ports d tss).value.listeners =
      firstOfEach d.listeners (tss.filterMap fun s => connectionListener? ports s.2) := by
  induction tss generalizing d with
  | nil => rfl
  | cons s tss ih =>
    change (addTransportServers ports (d.addTransportServer s.2 ports s.1).value
      tss).value.listeners = _
    rw [ih, listeners_addTransportServer, List.filterMap_cons, ← firstOfEach_append]
    cases connectionListener? ports s.2 <;> rfl

theorem chosen_addTransportServers (d : Draft) (tss : List (ObjectRef × TransportServer)) :
    (addTransportServers ports d tss).value.chosen = d.chosen := by
  induction tss generalizing d with
  | nil => rfl
  | cons s tss ih =>
    refine (ih (d.addTransportServer s.2 ports s.1).value).trans ?_
    unfold addTransportServer
    cases connectionListener s.2 ports with
    | error fault => rfl
    | ok l => exact chosen_addListener d (listenerOf l) s.1

end Draft

/-! ### What a synthesis comes to -/

variable (ns : String) (vss : List (ObjectRef × VirtualServer))
  (tss : List (ObjectRef × TransportServer))

theorem sections_synthesize :
    (synthesize ns vss tss ports settings).value.sections =
      .ofList (vss.map fun s => (s.2.anyName, siteSections ports settings s.2)) := by
  rw [← Draft.sections_addVirtualServers ports settings .empty vss]
  rfl

theorem firstOfEach_isEmpty_iff (ls : List Listener) :
    (firstOfEach .empty ls).isEmpty = true ↔ ls = [] := by
  rw [SortedMap.isEmpty_iff]
  constructor
  · intro h
    rw [List.eq_nil_iff_forall_not_mem]
    intro l hl
    have hn := h l.name
    rw [get?_firstOfEach, List.find?_eq_none] at hn
    exact hn l hl (decide_eq_true rfl)
  · rintro rfl k
    rfl

def gatewayOf (ls : List Listener) : Gateway where
  metadata := .labelled ns (GeneratedName.gateway ns) <| settings.baseLabels <|
    if vss.isEmpty && !tss.isEmpty then fromTransportServer else fromVirtualServer
  spec := ⟨(firstClass? vss).getD settings.gatewayClass, (firstOfEach .empty ls).values⟩

theorem gateway_synthesize :
    (synthesize ns vss tss ports settings).value.gateway =
      if requests ports settings vss tss = [] then none
      else some (gatewayOf settings ns vss tss (requests ports settings vss tss)) := by
  let d := (Draft.addTransportServers ports
    (Draft.addVirtualServers ports settings .empty vss).value.1 tss).value
  have hl : d.listeners = firstOfEach .empty (requests ports settings vss tss) := by
    rw [requests, firstOfEach_append, Draft.listeners_addTransportServers,
      Draft.listeners_addVirtualServers]
    rfl
  have hc : d.chosen.map ChosenClass.name = firstClass? vss := by
    rw [Draft.chosen_addTransportServers, Draft.chosen_addVirtualServers]
    exact map_name_firstChoice? vss
  change d.finish ns settings _ = _
  unfold Draft.finish
  rw [hl, hc]
  by_cases h : requests ports settings vss tss = []
  · rw [if_pos ((firstOfEach_isEmpty_iff _).2 h), if_pos h]
  · rw [if_neg (fun he => h ((firstOfEach_isEmpty_iff _).1 he)), if_neg h]
    rfl

/-! ### Finding a listener by its name -/

/-- The name of a listener is made of its protocol, its port and a host. -/
def IsNamed (l : Listener) : Prop :=
  ∃ host, l.name = GeneratedName.listener l.protocol l.port host

theorem IsNamed.agree {l l' : Listener} (h : IsNamed l) (h' : IsNamed l') (hname : l'.name = l.name) :
    l'.protocol = l.protocol ∧ l'.port = l.port := by
  obtain ⟨host, hl⟩ := h
  obtain ⟨host', hl'⟩ := h'
  rw [hl, hl'] at hname
  obtain ⟨hprotocol, hport, _⟩ := GeneratedName.listener_inj.1 hname
  exact ⟨hprotocol, hport⟩

theorem eq_of_mem_siteListeners {vs : VirtualServer} {l : Listener}
    (h : l ∈ siteListeners ports settings vs) :
    (∃ secret, l = httpsListener (httpsPort ports settings vs) vs.spec.host secret) ∨
      l = httpListener (httpPort ports settings vs) vs.spec.host := by
  rw [siteListeners, List.mem_append, Option.mem_toList, Option.mem_toList] at h
  rcases h with h | h
  · obtain ⟨secret, _, rfl⟩ := Option.map_eq_some_iff.1 h
    exact .inl ⟨secret, rfl⟩
  · unfold httpListener? at h
    split at h
    · exact .inr (Option.some_inj.1 h).symm
    · cases h

theorem isNamed_siteListeners {vs : VirtualServer} {l : Listener}
    (h : l ∈ siteListeners ports settings vs) : IsNamed l := by
  refine ⟨some vs.spec.host, ?_⟩
  rcases eq_of_mem_siteListeners ports settings h with ⟨secret, rfl⟩ | rfl <;> rfl

theorem isNamed_requests {l : Listener} (h : l ∈ requests ports settings vss tss) : IsNamed l := by
  rcases List.mem_append.1 h with h | h
  · obtain ⟨s, _, hs⟩ := List.mem_flatMap.1 h
    exact isNamed_siteListeners ports settings hs
  · obtain ⟨s, _, hs⟩ := List.mem_filterMap.1 h
    obtain ⟨c, _, rfl⟩ := Option.map_eq_some_iff.1 hs
    exact ⟨c.host, rfl⟩

theorem name_of_find? {ls : List Listener} {name : String} {l : Listener}
    (h : ls.find? (fun l' => l'.name = name) = some l) : l.name = name := by
  have hname := List.find?_some h
  simpa using hname

theorem exists_find?_name {ls : List Listener} {l : Listener} (h : l ∈ ls) :
    ∃ l', ls.find? (fun l' => l'.name = l.name) = some l' := by
  rw [← Option.isSome_iff_exists, List.find?_isSome]
  exact ⟨l, h, decide_eq_true rfl⟩

theorem mem_values_firstOfEach {ls : List Listener} {l : Listener} :
    l ∈ (firstOfEach .empty ls).values ↔ ls.find? (fun l' => l'.name = l.name) = some l := by
  rw [SortedMap.mem_values_iff]
  constructor
  · rintro ⟨k, hk⟩
    rw [get?_firstOfEach] at hk
    rwa [name_of_find? hk]
  · intro h
    exact ⟨l.name, by rw [get?_firstOfEach, h]⟩

/-- Whatever is asked for is there under its name and speaks the protocol that was asked for. -/
theorem exists_listener_of_request {l : Listener} (h : l ∈ requests ports settings vss tss) :
    ∃ l' ∈ (firstOfEach .empty (requests ports settings vss tss)).values,
      l'.name = l.name ∧ l'.protocol = l.protocol := by
  -- The first request of this name is the one that is kept; it may be another server's.
  obtain ⟨l', hf⟩ := exists_find?_name h
  have hname := name_of_find? hf
  have hnamed := isNamed_requests ports settings vss tss h
  have hnamed' := isNamed_requests ports settings vss tss (List.mem_of_find?_eq_some hf)
  refine ⟨l', mem_values_firstOfEach.2 (by rw [hname, hf]), hname, ?_⟩
  exact (hnamed.agree hnamed' hname).1

/-! ### The sections of a virtual server -/

variable (vs : VirtualServer)

theorem protocol_siteListeners {l : Listener} (h : l ∈ siteListeners ports settings vs) :
    l.protocol ∈ [Protocol.http, Protocol.https] := by
  rcases eq_of_mem_siteListeners ports settings h with ⟨secret, rfl⟩ | rfl
  · exact .tail _ (.head _)
  · exact .head _

theorem exists_listener_of_http {name : String}
    (h : (siteSections ports settings vs).http = some name) :
    ∃ l ∈ siteListeners ports settings vs, l.name = name := by
  obtain ⟨l, hl, hname⟩ := Option.map_eq_some_iff.1 h
  exact ⟨l, List.mem_append_right _ (Option.mem_toList.2 hl), hname⟩

/-- A virtual server without a certificate has a plain listener, one with a certificate an encrypted
one. -/
theorem exists_listener_of_primary :
    ∃ l ∈ siteListeners ports settings vs,
      (siteSections ports settings vs).primary? = some l.name := by
  cases hs : vs.spec.tlsSecret? with
  | some secret =>
    rw [siteListeners_of_some ports settings hs, siteSections, httpsListener?, hs]
    exact ⟨_, List.mem_cons_self, rfl⟩
  | none =>
    rw [siteListeners_of_none ports settings hs, siteSections, httpsListener?, httpListener?, hs]
    exact ⟨_, List.mem_cons_self, rfl⟩

end IngressGateway.Listeners
