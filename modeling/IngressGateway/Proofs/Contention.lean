import IngressGateway.Proofs.SharedGateway

/-!
Contention for the shared gateway. The gateway has the first request of each listener name, and the first
class that a virtual server names. A server that asks for anything else under the same name, or for another
class, is told so, and no other server is.
-/

set_option autoImplicit false

namespace IngressGateway.Listeners

open Gateway (Gateway Listener)
open Ingress (TransportServer VirtualServer)

variable (ports : NamedPorts) (settings : Settings)

/-! ### The warnings of a synthesis -/

def listenerConflict (source : ObjectRef) (l : Listener) : Notification :=
  ⟨.warning, s!"Listener '{l.name}' is already defined with different settings, "
    ++ "keeping the first definition", source⟩

def classConflict (source : ObjectRef) (name : String) (chosen : ChosenClass) : Notification :=
  ⟨.warning, s!"Ingress class '{name}' differs from '{chosen.name}' chosen from VirtualServer "
    ++ s!"'{chosen.chooser}'; the shared Gateway uses '{chosen.name}'", source⟩

/-- A request that differs from the first one of its name, where `all` are the requests of all servers. -/
def isBeaten (all : List Listener) (l : Listener) : Bool :=
  all.find? (fun l' => l'.name = l.name) ≠ some l

/-- A virtual server names a class, and it is another one than that of the gateway. -/
def wantsOther (className : String) (vs : VirtualServer) : Bool :=
  (Text.present? vs.spec.ingressClassName).any fun name => name ≠ className

def listenerNotes (all : List Listener) (source : ObjectRef) (l : Listener) : List Notification :=
  if isBeaten all l then [listenerConflict source l] else []

/-- What a virtual server is told about its class if one is chosen. -/
def classNotes (chosen : Option ChosenClass) (source : ObjectRef) (vs : VirtualServer) :
    List Notification :=
  match Text.present? vs.spec.ingressClassName, chosen with
  | some name, some c => if c.name = name then [] else [classConflict source name c]
  | _, _ => []

def siteNotes (all : List Listener) (chosen : Option ChosenClass) (s : ObjectRef × VirtualServer) :
    List Notification :=
  classNotes chosen s.1 s.2 ++ (portsOf s.2 ports settings s.1).notes ++ (checkTls s.2 s.1).notes ++
    (siteListeners ports settings s.2).flatMap (listenerNotes all s.1)

def connectionNotes (all : List Listener) (s : ObjectRef × TransportServer) : List Notification :=
  (connectionListener? ports s.2).toList.flatMap (listenerNotes all s.1)

theorem eq_of_mem_listenerNotes {all : List Listener} {source : ObjectRef} {l : Listener}
    {n : Notification} (h : n ∈ listenerNotes all source l) : n = listenerConflict source l := by
  unfold listenerNotes at h
  split at h
  · exact List.mem_singleton.1 h
  · cases h

theorem exists_of_mem_classNotes {chosen : Option ChosenClass} {source : ObjectRef}
    {vs : VirtualServer} {n : Notification} (h : n ∈ classNotes chosen source vs) :
    ∃ name c, n = classConflict source name c := by
  unfold classNotes at h
  split at h
  · split at h
    · cases h
    · exact ⟨_, _, List.mem_singleton.1 h⟩
  · cases h

/-- Once a class is chosen it stays, so a virtual server is told the same before and after. -/
theorem classNotes_eq_of_first (chosen later : Option ChosenClass) (source : ObjectRef)
    (vs : VirtualServer) :
    classNotes (chosen <|> classChoice? vs <|> later) source vs = classNotes chosen source vs := by
  unfold classNotes classChoice?
  cases Text.present? vs.spec.ingressClassName with
  | none => rfl
  | some name => cases chosen <;> simp

namespace Draft

theorem notes_observeClass (d : Draft) (vs : VirtualServer) (source : ObjectRef) :
    (d.observeClass vs source).notes = classNotes d.chosen source vs := by
  unfold observeClass classNotes
  cases Text.present? vs.spec.ingressClassName with
  | none => rfl
  | some name =>
    cases d.chosen with
    | none => rfl
    | some chosen => by_cases h : chosen.name = name <;> simp [h, Reported.warning, classConflict]

section

variable {d : Draft} {before : List Listener} (hd : d.listeners = firstOfEach .empty before)
include hd

/-- The draft knows the requests so far; those that come later make no difference to this one. -/
theorem notes_addListener (l : Listener) (later : List Listener) (source : ObjectRef) :
    (d.addListener l source).notes = listenerNotes (before ++ l :: later) source l := by
  have hfind : (before ++ l :: later).find? (fun l' => l'.name = l.name) =
      (d.listeners.get? l.name).or (some l) := by
    rw [hd, get?_firstOfEach, List.find?_append, List.find?_cons_of_pos (by simp)]
  unfold addListener listenerNotes isBeaten
  rw [hfind]
  cases d.listeners.get? l.name with
  | none => simp
  | some present => by_cases h : present = l <;> simp [h, Reported.warning, listenerConflict]

theorem notes_addListeners (ls later : List Listener) (source : ObjectRef) :
    (d.addListeners ls source).notes =
      ls.flatMap (listenerNotes (before ++ ls ++ later) source) := by
  induction ls generalizing d before with
  | nil => rfl
  | cons l ls ih =>
    have hd' : (d.addListener l source).value.listeners = firstOfEach .empty (before ++ [l]) := by
      rw [listeners_addListener, hd, firstOfEach_append]
      rfl
    change (d.addListener l source).notes ++
      ((d.addListener l source).value.addListeners ls source).notes = _
    rw [ih hd', notes_addListener hd l (ls ++ later) source, List.flatMap_cons]
    simp only [List.append_assoc, List.cons_append, List.nil_append]

theorem notes_addVirtualServer (vs : VirtualServer) (later : List Listener) (source : ObjectRef) :
    (d.addVirtualServer vs ports settings source).notes =
      siteNotes ports settings (before ++ siteListeners ports settings vs ++ later) d.chosen
        (source, vs) := by
  have hd' : (d.observeClass vs source).value.listeners = firstOfEach .empty before := by
    rw [listeners_observeClass, hd]
  rw [siteNotes, ← notes_addListeners hd', ← notes_observeClass]
  unfold addVirtualServer
  simp only [Reported.notes_bind, Reported.notes_pure, value_portsOf, List.append_nil,
    List.append_assoc]
  rfl

/-- Each virtual server is told what it would be told if all requests and the choice of the class were
known beforehand. -/
theorem notes_addVirtualServers (vss : List (ObjectRef × VirtualServer)) (later : List Listener) :
    (addVirtualServers ports settings d vss).notes =
      vss.flatMap (siteNotes ports settings
        (before ++ (vss.flatMap fun s => siteListeners ports settings s.2) ++ later)
        (d.chosen <|> firstChoice? vss)) := by
  induction vss generalizing d before with
  | nil => rfl
  | cons s vss ih =>
    -- The rest is told about a draft that knows the requests of `s`; what is chosen by then stays chosen.
    let d' := (d.addVirtualServer s.2 ports settings s.1).value.1
    have hd' : d'.listeners = firstOfEach .empty (before ++ siteListeners ports settings s.2) := by
      rw [listeners_addVirtualServer, hd, firstOfEach_append]
    have hchosen : (d.chosen <|> firstChoice? (s :: vss)) = (d'.chosen <|> firstChoice? vss) := by
      rw [chosen_addVirtualServer, firstChoice?_cons]
      cases d.chosen <;> rfl
    change (d.addVirtualServer s.2 ports settings s.1).notes ++
      ((addVirtualServers ports settings d' vss).notes ++ []) = _
    rw [ih hd', notes_addVirtualServer ports settings hd s.2
      ((vss.flatMap fun s => siteListeners ports settings s.2) ++ later), List.flatMap_cons,
      List.flatMap_cons, List.append_nil, ← hchosen, firstChoice?_cons]
    unfold siteNotes
    simp only [classNotes_eq_of_first, List.append_assoc]

theorem notes_addTransportServer (ts : TransportServer) (later : List Listener)
    (source : ObjectRef) :
    (d.addTransportServer ts ports source).notes =
      connectionNotes ports (before ++ (connectionListener? ports ts).toList ++ later)
        (source, ts) := by
  unfold addTransportServer connectionNotes connectionListener?
  cases connectionListener ts ports with
  | error fault => rfl
  | ok l =>
    rw [List.append_assoc]
    exact (notes_addListener hd (listenerOf l) later source).trans (List.append_nil _).symm

theorem notes_addTransportServers (tss : List (ObjectRef × TransportServer)) (later : List Listener) :
    (addTransportServers ports d tss).notes =
      tss.flatMap (connectionNotes ports
        (before ++ (tss.filterMap fun s => connectionListener? ports s.2) ++ later)) := by
  induction tss generalizing d before with
  | nil => rfl
  | cons s tss ih =>
    let d' := (d.addTransportServer s.2 ports s.1).value
    have hd' : d'.listeners =
        firstOfEach .empty (before ++ (connectionListener? ports s.2).toList) := by
      rw [listeners_addTransportServer, hd, firstOfEach_append]
    have hcons : ((s :: tss).filterMap fun s => connectionListener? ports s.2) =
        (connectionListener? ports s.2).toList ++
          tss.filterMap fun s => connectionListener? ports s.2 := by
      rw [List.filterMap_cons]
      cases connectionListener? ports s.2 <;> rfl
    change (d.addTransportServer s.2 ports s.1).notes ++ (addTransportServers ports d' tss).notes = _
    rw [ih hd', notes_addTransportServer ports hd s.2
      ((tss.filterMap fun s => connectionListener? ports s.2) ++ later), List.flatMap_cons, hcons]
    simp only [List.append_assoc]

end

end Draft

variable (ns : String) (vss : List (ObjectRef × VirtualServer))
  (tss : List (ObjectRef × TransportServer))

theorem notes_synthesize :
    (synthesize ns vss tss ports settings).notes =
      vss.flatMap (siteNotes ports settings (requests ports settings vss tss) (firstChoice? vss)) ++
        tss.flatMap (connectionNotes ports (requests ports settings vss tss)) := by
  let d := (Draft.addVirtualServers ports settings .empty vss).value.1
  have hd : d.listeners =
      firstOfEach .empty (vss.flatMap fun s => siteListeners ports settings s.2) :=
    Draft.listeners_addVirtualServers ports settings .empty vss
  have hempty : Draft.empty.listeners = firstOfEach .empty [] := rfl
  have hvss := Draft.notes_addVirtualServers ports settings hempty vss
    (tss.filterMap fun s => connectionListener? ports s.2)
  have htss := Draft.notes_addTransportServers ports hd tss []
  rw [List.append_nil] at htss
  change (Draft.addVirtualServers ports settings .empty vss).notes ++
    ((Draft.addTransportServers ports d tss).notes ++ []) = _
  rw [hvss, htss, List.append_nil]
  rfl

/-! ### Telling the warnings apart -/

def isListenerConflict (n : Notification) : Bool :=
  "keeping the first definition".toList.isSuffixOf n.message.toList

def isClassConflict (n : Notification) : Bool :=
  "Ingress class ".toList.isPrefixOf n.message.toList

/-- A message that ends in another letter is not the one about a listener. -/
theorem isListenerConflict_of_end {n : Notification} {s t : String} {c : Char}
    (hm : n.message = s ++ t) (ht : t.toList.getLast? = some c) (hc : c ≠ 'n') :
    isListenerConflict n = false := by
  by_contra h
  obtain ⟨front, hfront⟩ := List.isSuffixOf_iff_suffix.1 (Bool.not_eq_false _ ▸ h)
  have hlast : n.message.toList.getLast? = some 'n' := by
    rw [← hfront, List.getLast?_append]
    rfl
  rw [hm, String.toList_append, List.getLast?_append, ht] at hlast
  exact hc (Option.some_inj.1 hlast)

/-- A message that starts with another letter is not the one about a class. -/
theorem isClassConflict_of_start {n : Notification} {c : Char}
    (hm : n.message.toList.head? = some c) (hc : c ≠ 'I') : isClassConflict n = false := by
  by_contra h
  obtain ⟨rest, hrest⟩ := List.isPrefixOf_iff_prefix.1 (Bool.not_eq_false _ ▸ h)
  rw [← hrest] at hm
  exact hc (Option.some_inj.1 hm).symm

@[simp] theorem isListenerConflict_listenerConflict (source : ObjectRef) (l : Listener) :
    isListenerConflict (listenerConflict source l) = true := by
  refine List.isSuffixOf_iff_suffix.2
    ⟨(s!"Listener '{l.name}' is already defined with different settings, ").toList, ?_⟩
  simp [listenerConflict]

@[simp] theorem isClassConflict_classConflict (source : ObjectRef) (name : String)
    (c : ChosenClass) : isClassConflict (classConflict source name c) = true := by
  refine List.isPrefixOf_iff_prefix.2 ?_
  simp [classConflict, toString]

@[simp] theorem isClassConflict_listenerConflict (source : ObjectRef) (l : Listener) :
    isClassConflict (listenerConflict source l) = false :=
  isClassConflict_of_start (by simp [listenerConflict, toString]) (by decide : 'L' ≠ 'I')

@[simp] theorem isListenerConflict_classConflict (source : ObjectRef) (name : String)
    (c : ChosenClass) : isListenerConflict (classConflict source name c) = false := by
  refine isListenerConflict_of_end rfl ?_ (by decide : '\'' ≠ 'n')
  simp only [String.toList_append, List.getLast?_append]
  rfl

theorem exists_getLast?_port (n : Unsigned16) :
    ∃ c, (toString n.val).toList.getLast? = some c ∧ c ≠ 'n' := by
  have hne : Nat.toDigits 10 n.val.toNat ≠ [] := Nat.toDigits_ne_nil
  refine ⟨(Nat.toDigits 10 n.val.toNat).getLast hne, ?_, fun h => ?_⟩
  · rw [GeneratedName.toList_port, List.getLast?_eq_some_getLast hne]
  · have hdigit := Nat.isDigit_of_mem_toDigits (by decide) (by decide) (List.getLast_mem hne)
    rw [h] at hdigit
    exact absurd hdigit (by decide)

/-- Neither of the two warnings. -/
def IsOther (n : Notification) : Prop := isListenerConflict n = false ∧ isClassConflict n = false

theorem isOther_of_mem_portNamed {name : Option String} {usual : Unsigned16} {source : ObjectRef}
    {n : Notification} (h : n ∈ (portNamed name usual ports source).notes) : IsOther n := by
  obtain ⟨c, hlast, hc⟩ := exists_getLast?_port usual
  have hL : 'L' ≠ 'I' := by decide
  unfold portNamed at h
  split at h
  · cases h
  · split at h
    · obtain rfl := List.mem_singleton.1 h
      exact ⟨isListenerConflict_of_end rfl hlast hc, isClassConflict_of_start (by simp [toString]) hL⟩
    · split at h
      · cases h
      · obtain rfl := List.mem_singleton.1 h
        refine ⟨isListenerConflict_of_end rfl (c := c) ?_ hc,
          isClassConflict_of_start (by simp [toString]) hL⟩
        rw [String.toList_append, List.getLast?_append, hlast]
        rfl

theorem isOther_of_mem_portsOf {vs : VirtualServer} {source : ObjectRef} {n : Notification}
    (h : n ∈ (portsOf vs ports settings source).notes) : IsOther n := by
  unfold portsOf at h
  simp only [Reported.notes_bind, Reported.notes_pure, List.append_nil, List.mem_append] at h
  exact h.elim (isOther_of_mem_portNamed ports) (isOther_of_mem_portNamed ports)

theorem isOther_of_mem_checkTls {vs : VirtualServer} {source : ObjectRef} {n : Notification}
    (h : n ∈ (checkTls vs source).notes) : IsOther n := by
  have hn : n.message = "TLS is configured without a secret; the host is served over plain HTTP" ∨
      n.message = "TLS redirect is enabled without a TLS secret and was not converted" := by
    unfold checkTls at h
    split at h <;> split at h
    · rcases List.mem_cons.1 h with rfl | h
      · exact .inl rfl
      · exact .inr (congrArg Notification.message (List.mem_singleton.1 h))
    · exact .inr (congrArg Notification.message (List.mem_singleton.1 h))
    · exact .inl (congrArg Notification.message (List.mem_singleton.1 h))
    · cases h
  unfold IsOther isListenerConflict isClassConflict
  rcases hn with hn | hn
  · rw [hn]
    exact ⟨rfl, rfl⟩
  · rw [hn]
    exact ⟨rfl, rfl⟩

/-! ### Who is told what -/

/-- All requests with the servers that make them. -/
def sourcedRequests : List (ObjectRef × Listener) :=
  (vss.flatMap fun s => (siteListeners ports settings s.2).map fun l => (s.1, l)) ++
    tss.filterMap fun s => (connectionListener? ports s.2).map fun l => (s.1, l)

theorem map_snd_sourcedRequests :
    (sourcedRequests ports settings vss tss).map Prod.snd = requests ports settings vss tss := by
  simp [sourcedRequests, requests, List.map_flatMap, List.map_filterMap, Function.comp_def]

section

variable (all : List Listener) (chosen : Option ChosenClass) (source : ObjectRef)

theorem filter_isListenerConflict_listenerNotes (ls : List Listener) :
    (ls.flatMap (listenerNotes all source)).filter isListenerConflict =
      ls.flatMap (listenerNotes all source) := by
  refine List.filter_eq_self.2 fun n hn => ?_
  obtain ⟨l, _, hn⟩ := List.mem_flatMap.1 hn
  rw [eq_of_mem_listenerNotes hn]
  exact isListenerConflict_listenerConflict source l

theorem filter_isClassConflict_listenerNotes (ls : List Listener) :
    (ls.flatMap (listenerNotes all source)).filter isClassConflict = [] := by
  refine List.filter_eq_nil_iff.2 fun n hn => ?_
  obtain ⟨l, _, hn⟩ := List.mem_flatMap.1 hn
  simp [eq_of_mem_listenerNotes hn]

theorem filter_isListenerConflict_classNotes (vs : VirtualServer) :
    (classNotes chosen source vs).filter isListenerConflict = [] := by
  refine List.filter_eq_nil_iff.2 fun n hn => ?_
  obtain ⟨name, c, rfl⟩ := exists_of_mem_classNotes hn
  simp

theorem filter_isClassConflict_classNotes (vs : VirtualServer) :
    (classNotes chosen source vs).filter isClassConflict = classNotes chosen source vs := by
  refine List.filter_eq_self.2 fun n hn => ?_
  obtain ⟨name, c, rfl⟩ := exists_of_mem_classNotes hn
  exact isClassConflict_classConflict source name c

/-- Ports and certificates lead to other warnings only. -/
theorem filter_siteNotes {p : Notification → Bool} (hp : ∀ n, IsOther n → p n = false)
    (s : ObjectRef × VirtualServer) :
    (siteNotes ports settings all chosen s).filter p =
      (classNotes chosen s.1 s.2).filter p ++
        ((siteListeners ports settings s.2).flatMap (listenerNotes all s.1)).filter p := by
  have hports : (portsOf s.2 ports settings s.1).notes.filter p = [] :=
    List.filter_eq_nil_iff.2 fun n hn => by simp [hp n (isOther_of_mem_portsOf ports settings hn)]
  have htls : (checkTls s.2 s.1).notes.filter p = [] :=
    List.filter_eq_nil_iff.2 fun n hn => by simp [hp n (isOther_of_mem_checkTls hn)]
  rw [siteNotes, List.filter_append, List.filter_append, List.filter_append, hports, htls,
    List.append_nil, List.append_nil]

end

/-- A synthesis serves whoever comes first and tells exactly those who come too late. -/
structure IsFirstCome (r : Reported Synthesized) : Prop where
  sites : ∀ s ∈ vss, Wants (httpPort ports settings s.2) (httpsPort ports settings s.2) s.2
    (siteListeners ports settings s.2)
  connections : ∀ s ∈ tss, WantsConnection ports s.2 (connectionListener? ports s.2)
  gateway_eq_none_iff : r.value.gateway = none ↔ requests ports settings vss tss = []
  ascending : ∀ g, r.value.gateway = some g →
    (g.spec.listeners.map Listener.name).Pairwise fun a b => KeyOrder.before a b = true
  mem_names_iff : ∀ g, r.value.gateway = some g → ∀ name,
    name ∈ g.spec.listeners.map Listener.name ↔
      name ∈ (requests ports settings vss tss).map Listener.name
  first : ∀ g, r.value.gateway = some g → ∀ l ∈ g.spec.listeners,
    (requests ports settings vss tss).find? (fun l' => l'.name = l.name) = some l
  listenerConflicts : r.notes.filter isListenerConflict =
    ((sourcedRequests ports settings vss tss).filter fun q =>
      isBeaten (requests ports settings vss tss) q.2).map fun q => listenerConflict q.1 q.2
  countConflicts : (r.notes.filter isListenerConflict).length =
    ((requests ports settings vss tss).filter (isBeaten (requests ports settings vss tss))).length
  className : ∀ g, r.value.gateway = some g →
    g.spec.gatewayClassName = (firstClass? vss).getD settings.gatewayClass
  classConflicts : ∀ g, r.value.gateway = some g →
    ((r.notes.filter isClassConflict).map fun n => (n.severity, n.source)) =
      (vss.filter fun s => wantsOther g.spec.gatewayClassName s.2).map fun s =>
        (Severity.warning, s.1)

theorem filter_isListenerConflict_synthesize :
    (synthesize ns vss tss ports settings).notes.filter isListenerConflict =
      (sourcedRequests ports settings vss tss).flatMap fun q =>
        listenerNotes (requests ports settings vss tss) q.1 q.2 := by
  rw [notes_synthesize, List.filter_append, List.filter_flatMap, List.filter_flatMap]
  simp only [filter_siteNotes ports settings _ _ fun _ h => h.1, connectionNotes,
    filter_isListenerConflict_classNotes, filter_isListenerConflict_listenerNotes, List.nil_append]
  rw [sourcedRequests, List.flatMap_append, List.flatMap_assoc, List.filterMap_eq_flatMap_toList,
    List.flatMap_assoc]
  simp only [Option.toList_map, List.flatMap_map]

theorem filter_isClassConflict_synthesize :
    (synthesize ns vss tss ports settings).notes.filter isClassConflict =
      vss.flatMap fun s => classNotes (firstChoice? vss) s.1 s.2 := by
  rw [notes_synthesize, List.filter_append, List.filter_flatMap, List.filter_flatMap]
  simp only [filter_siteNotes ports settings _ _ fun _ h => h.2, connectionNotes,
    filter_isClassConflict_classNotes, filter_isClassConflict_listenerNotes, List.append_nil]
  rw [List.flatMap_eq_nil_iff.2 fun _ _ => rfl, List.append_nil]

/-- If a virtual server names a class, some class is chosen. -/
theorem exists_firstChoice? {s : ObjectRef × VirtualServer} (h : s ∈ vss) {name : String}
    (hname : Text.present? s.2.spec.ingressClassName = some name) :
    ∃ c, firstChoice? vss = some c := by
  rw [← Option.isSome_iff_exists, firstChoice?, List.findSome?_isSome_iff]
  exact ⟨s, h, by rw [classChoice?, hname]; rfl⟩

theorem map_classNotes {s : ObjectRef × VirtualServer} (h : s ∈ vss) (usual : String) :
    (classNotes (firstChoice? vss) s.1 s.2).map (fun n => (n.severity, n.source)) =
      if wantsOther ((firstClass? vss).getD usual) s.2 then [(Severity.warning, s.1)] else [] := by
  unfold classNotes wantsOther
  cases hname : Text.present? s.2.spec.ingressClassName with
  | none => rfl
  | some name =>
    obtain ⟨c, hc⟩ := exists_firstChoice? vss h hname
    have hfirst : firstClass? vss = some c.name := by rw [← map_name_firstChoice?, hc]; rfl
    rw [hc, hfirst]
    by_cases hcn : c.name = name
    · simp [hcn]
    · simp [hcn, Ne.symm hcn, classConflict]

theorem map_name_firstOfEach (ls : List Listener) :
    (firstOfEach .empty ls).values.map Listener.name = (firstOfEach .empty ls).keys := by
  rw [SortedMap.values, List.map_map]
  refine List.map_congr_left fun e he => ?_
  have hget := SortedMap.get?_eq_some_iff.2 he
  rw [get?_firstOfEach] at hget
  exact name_of_find? hget

theorem mem_keys_firstOfEach {ls : List Listener} {name : String} :
    name ∈ (firstOfEach .empty ls).keys ↔ name ∈ ls.map Listener.name := by
  rw [SortedMap.mem_keys_iff, ← Option.isSome_iff_exists, get?_firstOfEach, List.find?_isSome,
    List.mem_map]
  simp

theorem isFirstCome_synthesize :
    IsFirstCome ports settings vss tss (synthesize ns vss tss ports settings) := by
  have hgateway := gateway_synthesize ports settings ns vss tss
  -- The gateway, if there is one, is made of the first requests.
  have hof : ∀ g, (synthesize ns vss tss ports settings).value.gateway = some g →
      g.spec = ⟨(firstClass? vss).getD settings.gatewayClass,
        (firstOfEach .empty (requests ports settings vss tss)).values⟩ := by
    intro g hg
    rw [hgateway] at hg
    split at hg
    · cases hg
    · cases hg
      rfl
  have hconflicts : (synthesize ns vss tss ports settings).notes.filter isListenerConflict =
      ((sourcedRequests ports settings vss tss).filter fun q =>
        isBeaten (requests ports settings vss tss) q.2).map fun q => listenerConflict q.1 q.2 := by
    rw [filter_isListenerConflict_synthesize]
    exact flatMap_if _ _ _
  constructor
  case sites => exact fun s _ => wants_siteListeners ports settings s.2
  case connections => exact fun s _ => wantsConnection_connectionListener? ports s.2
  case gateway_eq_none_iff =>
    rw [hgateway]
    split <;> simp_all
  case ascending =>
    intro g hg
    rw [hof g hg, map_name_firstOfEach, SortedMap.keys, List.pairwise_map]
    exact SortedMap.ascending _
  case mem_names_iff =>
    intro g hg name
    rw [hof g hg, map_name_firstOfEach, mem_keys_firstOfEach]
  case first =>
    intro g hg l hl
    rw [hof g hg] at hl
    exact mem_values_firstOfEach.1 hl
  case listenerConflicts => exact hconflicts
  case countConflicts =>
    rw [hconflicts, ← map_snd_sourcedRequests, List.filter_map, List.length_map, List.length_map]
    rfl
  case className =>
    intro g hg
    rw [hof g hg]
  case classConflicts =>
    intro g hg
    rw [filter_isClassConflict_synthesize, hof g hg, List.map_flatMap,
      List.flatMap_congr fun s hs => map_classNotes vss hs settings.gatewayClass]
    exact flatMap_if _ _ _

end IngressGateway.Listeners
