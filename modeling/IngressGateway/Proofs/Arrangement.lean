import IngressGateway.Conversion
import IngressGateway.Proofs.Lookup

/-!
How the servers of a snapshot are arranged before they are converted. The servers that are admitted are
parted by namespace and sorted by their references. Nothing is lost on the way, and if no two servers share
a reference, the arrangement does not depend on the order in which the snapshot lists them.
-/

set_option autoImplicit false

namespace IngressGateway

namespace Resource

variable {σ : Type}

/-- Whether the resource has a name of its own; an empty one counts as none. -/
def hasName (r : Resource σ) : Bool := Text.isPresent r.metadata.name

/-- The reference to the resource in a conversion, where no namespace is missing. -/
def source [ResourceKind σ] (r : Resource σ) : ObjectRef := refTo σ (some r.namespaceOf) r.anyName

/-- No two resources share their namespace and their name. -/
def DistinctKeys (rs : List (Resource σ)) : Prop := (rs.map key).Nodup

instance (rs : List (Resource σ)) : Decidable (DistinctKeys rs) :=
  inferInstanceAs (Decidable (List.Nodup _))

theorem DistinctKeys.perm {rs rs' : List (Resource σ)} (h : DistinctKeys rs) (hp : rs.Perm rs') :
    DistinctKeys rs' := (hp.map key).nodup_iff.1 h

theorem DistinctKeys.sublist {rs rs' : List (Resource σ)} (h : DistinctKeys rs)
    (hs : rs'.Sublist rs) : DistinctKeys rs' := List.Nodup.sublist (hs.map key) h

theorem DistinctKeys.nodup {rs : List (Resource σ)} (h : DistinctKeys rs) : rs.Nodup :=
  List.Nodup.of_map key h

theorem key_eq_iff {r s : Resource σ} :
    r.key = s.key ↔ r.namespaceOf = s.namespaceOf ∧ r.anyName = s.anyName := by
  simp only [key, keyIn, namespaceOf, ObjectKey.mk.injEq]

theorem source_eq_iff [ResourceKind σ] {r s : Resource σ} : r.source = s.source ↔ r.key = s.key := by
  simp only [source, refTo, key_eq_iff, ObjectRef.mk.injEq, Option.some.injEq, true_and]

end Resource

namespace Conversion

open Ingress (TransportServer TransportServerSpec Upstream UpstreamTls VirtualServer
  VirtualServerSpec)
open KeyOrder (before)

variable {σ : Type}

theorem sourceOf?_eq [ResourceKind σ] (r : Resource σ) :
    sourceOf? r = if r.hasName then some r.source else none := by
  unfold sourceOf? Resource.ref? Resource.hasName Text.isPresent
  cases h : r.metadata.name with
  | none => rfl
  | some name =>
    cases hn : name.isEmpty with
    | true => simp [hn]
    | false => simp [hn, Resource.source, Resource.refTo, Resource.anyName, Metadata.anyName, h]

/-- Whether a virtual server is converted: it needs a name and a host. -/
def isEligible (vs : VirtualServer) : Bool := vs.hasName && !vs.spec.host.isEmpty

def eligibleServers (input : Snapshot) : List VirtualServer :=
  input.virtualServers.filter isEligible

def namedTransports (input : Snapshot) : List TransportServer :=
  input.transportServers.filter Resource.hasName

/-- A virtual server with one route, which passes everything on to the upstream `app`. With a certificate,
its plain requests are redirected. -/
def simpleServer (ns name host : String) (secret : Option String) : VirtualServer where
  metadata := ⟨some name, some ns, none, none, none⟩
  spec :=
    { ingressClassName := none
      host := host
      listener := none
      tls := secret.map fun s => ⟨some s, some ⟨true, none, none⟩, none⟩
      gunzip := false
      externalDns := none
      dos := ""
      policies := []
      upstreams := []
      routes := [⟨"/", none, some ⟨some "app", none, none, none⟩, [], [], [], [], ""⟩]
      httpSnippets := ""
      serverSnippets := ""
      internalRoute := false }

/-- An upstream on port 80 with the usual settings for all else. -/
def simpleUpstream (name service : String) (protocol : Option String)
    (tls : Option UpstreamTls) : Upstream where
  name := name
  service := service
  port := Settings.usualHttpPort
  protocol := protocol
  subselector := .empty
  useClusterIp := false
  lbMethod := none
  failTimeout := none
  maxFails := none
  maxConns := none
  keepalive := none
  connectTimeout := none
  readTimeout := none
  sendTimeout := none
  nextUpstream := none
  nextUpstreamTimeout := none
  nextUpstreamTries := none
  clientMaxBodySize := none
  tls := tls
  healthCheck := none
  slowStart := none
  queue := none
  buffering := none
  buffers := none
  bufferSize := none
  ntlm := false
  backup := none
  backupPort := none
  sessionCookie := none

def simpleTransport (ns name listener protocol : String) : TransportServer where
  metadata := ⟨some name, some ns, none, none, none⟩
  spec :=
    { ingressClassName := none
      tls := none
      listener := some ⟨listener, protocol⟩
      host := none
      upstreams := []
      upstreamParameters := none
      sessionParameters := none
      serverSnippets := ""
      streamSnippets := ""
      action := none }

def sourced [ResourceKind σ] (r : Resource σ) : Sourced σ := (r.source, r)

theorem value_admitVirtualServer (vs : VirtualServer) :
    (admitVirtualServer vs).value = if isEligible vs then some (sourced vs) else none := by
  unfold admitVirtualServer isEligible
  rw [sourceOf?_eq]
  cases hn : vs.hasName with
  | false => rfl
  | true => cases vs.spec.host.isEmpty <;> simp [sourced]

theorem value_admitTransportServer (ts : TransportServer) :
    (admitTransportServer ts).value = if ts.hasName then some (sourced ts) else none := by
  unfold admitTransportServer
  rw [sourceOf?_eq]
  cases hn : ts.hasName <;> rfl

theorem value_groupByNamespace (input : Snapshot) :
    (groupByNamespace input).value =
      groupServers ((eligibleServers input).map sourced) ((namedTransports input).map sourced) := by
  have hvs : (input.virtualServers.map fun vs => (admitVirtualServer vs).value).filterMap id =
      (eligibleServers input).map sourced := by
    rw [List.filterMap_map, eligibleServers, ← filterMap_if]
    exact List.filterMap_congr fun vs _ => value_admitVirtualServer vs
  have hts : (input.transportServers.map fun ts => (admitTransportServer ts).value).filterMap id =
      (namedTransports input).map sourced := by
    rw [List.filterMap_map, namedTransports, ← filterMap_if]
    exact List.filterMap_congr fun ts _ => value_admitTransportServer ts
  rw [← hvs, ← hts]
  rfl

/-! ### Sorting -/

theorem place_perm (s : Sourced σ) (ss : List (Sourced σ)) : (place s ss).Perm (s :: ss) := by
  induction ss with
  | nil => exact .refl _
  | cons t rest ih =>
    rw [place]
    split
    · exact .refl _
    · exact (ih.cons t).trans (.swap s t rest)

theorem foldl_place_perm (ss acc : List (Sourced σ)) :
    (ss.foldl (fun sorted s => place s sorted) acc).Perm (ss ++ acc) := by
  induction ss generalizing acc with
  | nil => exact .refl _
  | cons s ss ih =>
    have hp : (ss ++ place s acc).Perm (ss ++ s :: acc) := (place_perm s acc).append_left ss
    exact (ih (place s acc)).trans (hp.trans List.perm_middle)

theorem sortServers_perm (ss : List (Sourced σ)) : (sortServers ss).Perm ss := by
  have h := foldl_place_perm ss []
  rwa [List.append_nil] at h

/-- No reference comes before one that stands in front of it. -/
def InOrder (ss : List (Sourced σ)) : Prop := ss.Pairwise fun s t => before t.1 s.1 = false

theorem inOrder_place (s : Sourced σ) {ss : List (Sourced σ)} (h : InOrder ss) :
    InOrder (place s ss) := by
  induction ss with
  | nil => exact List.pairwise_singleton _ _
  | cons t rest ih =>
    obtain ⟨ht, hr⟩ := List.pairwise_cons.1 h
    rw [place]
    split
    case isTrue hst =>
      refine List.pairwise_cons.2 ⟨fun u hu => ?_, h⟩
      rcases List.mem_cons.1 hu with rfl | hu
      · exact KeyOrder.asymm _ _ hst
      · cases hus : before u.1 s.1 with
        | false => rfl
        | true =>
          have hut := KeyOrder.trans _ _ _ hus hst
          rw [ht u hu] at hut
          cases hut
    case isFalse hst =>
      refine List.pairwise_cons.2 ⟨fun u hu => ?_, ih hr⟩
      rcases List.mem_cons.1 ((place_perm s rest).subset hu) with rfl | hu
      · exact Bool.eq_false_iff.2 hst
      · exact ht u hu

theorem inOrder_sortServers (ss : List (Sourced σ)) : InOrder (sortServers ss) := by
  have h : ∀ acc : List (Sourced σ), InOrder acc →
      InOrder (ss.foldl (fun sorted s => place s sorted) acc) := by
    induction ss with
    | nil => exact fun _ hacc => hacc
    | cons s ss ih => exact fun acc hacc => ih _ (inOrder_place s hacc)
  exact h [] List.Pairwise.nil

theorem place_eq_cons {s : Sourced σ} {ss : List (Sourced σ)}
    (h : ∀ t ∈ ss, before s.1 t.1 = true) : place s ss = s :: ss := by
  cases ss with
  | nil => rfl
  | cons t rest => rw [place, if_pos (h t List.mem_cons_self)]

theorem before_of_inOrder {s t : Sourced σ} {rest : List (Sourced σ)} (h : InOrder (t :: rest))
    (hst : before s.1 t.1 = true) :
    ∀ u ∈ t :: rest, before s.1 u.1 = true := by
  intro u hu
  rcases List.mem_cons.1 hu with rfl | hu
  · exact hst
  · have hut := (List.pairwise_cons.1 h).1 u hu
    cases hsu : before s.1 u.1 with
    | true => rfl
    | false =>
      have htrue : before u.1 t.1 = true := by
        cases hus : before u.1 s.1 with
        | true => exact KeyOrder.trans _ _ _ hus hst
        | false => rwa [KeyOrder.eq_of_neither _ _ hus hsu]
      rw [hut] at htrue
      cases htrue

theorem filter_place (p : Sourced σ → Bool) (s : Sourced σ) {ss : List (Sourced σ)}
    (h : InOrder ss) :
    (place s ss).filter p = if p s then place s (ss.filter p) else ss.filter p := by
  induction ss with
  | nil => cases hs : p s <;> simp [place, hs]
  | cons t rest ih =>
    have hrest := ih (List.pairwise_cons.1 h).2
    rw [place]
    split
    case isTrue hst =>
      have hbefore : ∀ u ∈ (t :: rest).filter p, before s.1 u.1 = true := fun u hu =>
        before_of_inOrder h hst u (List.mem_of_mem_filter hu)
      rw [List.filter_cons, place_eq_cons hbefore]
    case isFalse hst =>
      rw [List.filter_cons, hrest, List.filter_cons]
      cases ht : p t with
      | true =>
        cases p s with
        | true => simp [place, hst]
        | false => rfl
      | false => rfl

theorem filter_sortServers (p : Sourced σ → Bool) (ss : List (Sourced σ)) :
    (sortServers ss).filter p = sortServers (ss.filter p) := by
  have hacc : ∀ acc : List (Sourced σ), InOrder acc →
      (ss.foldl (fun sorted s => place s sorted) acc).filter p =
        (ss.filter p).foldl (fun sorted s => place s sorted) (acc.filter p) := by
    induction ss with
    | nil => exact fun _ _ => rfl
    | cons s ss ih =>
      intro acc h
      rw [List.foldl_cons, ih _ (inOrder_place s h), filter_place p s h, List.filter_cons]
      cases p s <;> rfl
  exact hacc [] List.Pairwise.nil

theorem sortServers_eq_of_perm {ss ss' : List (Sourced σ)} (hp : ss.Perm ss')
    (hn : (ss.map Prod.fst).Nodup) : sortServers ss = sortServers ss' := by
  have hps : (sortServers ss).Perm (sortServers ss') :=
    (sortServers_perm ss).trans (hp.trans (sortServers_perm ss').symm)
  refine List.Perm.eq_of_pairwise (fun s t hs ht hst hts => ?_) (inOrder_sortServers ss)
    (inOrder_sortServers ss') hps
  have hmem : s ∈ ss := (sortServers_perm ss).subset hs
  have hmem' : t ∈ ss := hp.symm.subset ((sortServers_perm ss').subset ht)
  exact List.inj_on_of_nodup_map hn hmem hmem' (KeyOrder.eq_of_neither _ _ hts hst)

/-! ### Parting by namespace -/

theorem serversIn_perm (ns : String) (ss : List (Sourced σ)) :
    (serversIn ns ss).Perm (ss.filter fun s => s.2.namespaceOf = ns) := sortServers_perm _

theorem mem_serversIn {ns : String} {ss : List (Sourced σ)} {s : Sourced σ} :
    s ∈ serversIn ns ss ↔ s ∈ ss ∧ s.2.namespaceOf = ns := by
  rw [(serversIn_perm ns ss).mem_iff, List.mem_filter, decide_eq_true_eq]

theorem filter_serversIn (ns : String) (p : Sourced σ → Bool) (ss : List (Sourced σ)) :
    (serversIn ns ss).filter p = serversIn ns (ss.filter p) := by
  rw [serversIn, serversIn, filter_sortServers, List.filter_filter, List.filter_filter]
  simp only [Bool.and_comm]

theorem serversIn_eq_of_perm (ns : String) {ss ss' : List (Sourced σ)} (hp : ss.Perm ss')
    (hn : (ss.map Prod.fst).Nodup) : serversIn ns ss = serversIn ns ss' :=
  sortServers_eq_of_perm (hp.filter _) (hn.sublist (List.filter_sublist.map Prod.fst))

variable (vss : List (Sourced VirtualServerSpec)) (tss : List (Sourced TransportServerSpec))

def namespacesOf : List String := vss.map (·.2.namespaceOf) ++ tss.map (·.2.namespaceOf)

theorem get?_groupServers (ns : String) :
    (groupServers vss tss).get? ns =
      if ns ∈ namespacesOf vss tss then some ⟨serversIn ns vss, serversIn ns tss⟩ else none :=
  SortedMap.get?_ofList_map (fun ns => (⟨serversIn ns vss, serversIn ns tss⟩ : NamespaceServers))
    (namespacesOf vss tss) ns

theorem mem_entries_groupServers {g : String × NamespaceServers} :
    g ∈ (groupServers vss tss).entries ↔
      g.1 ∈ namespacesOf vss tss ∧ g.2 = ⟨serversIn g.1 vss, serversIn g.1 tss⟩ := by
  have h : g ∈ (groupServers vss tss).entries ↔ (groupServers vss tss).get? g.1 = some g.2 :=
    SortedMap.get?_eq_some_iff.symm
  rw [h, get?_groupServers]
  split
  case isTrue hns => simp [hns, eq_comm]
  case isFalse hns => simp [hns]

theorem mem_keys_groupServers {ns : String} :
    ns ∈ (groupServers vss tss).keys ↔ ns ∈ namespacesOf vss tss := by
  rw [SortedMap.mem_keys_iff, get?_groupServers]
  split <;> simp_all

/-- Parting a list by distinct keys that cover it and joining the parts only moves its items. -/
theorem flatMap_filter_perm {α : Type} (f : α → String) {ks : List String} (hn : ks.Nodup)
    (l : List α) (hl : ∀ a ∈ l, f a ∈ ks) :
    (ks.flatMap fun k => l.filter fun a => f a = k).Perm l := by
  induction ks generalizing l with
  | nil =>
    rw [List.eq_nil_iff_forall_not_mem.2 fun a ha => List.not_mem_nil (hl a ha)]
    exact .refl _
  | cons k ks ih =>
    obtain ⟨hk, hn⟩ := List.nodup_cons.1 hn
    -- The items of the other keys are all that the induction sees.
    let others := l.filter fun a => !decide (f a = k)
    have hothers : ∀ a ∈ others, f a ∈ ks := by
      intro a ha
      obtain ⟨hal, hne⟩ := List.mem_filter.1 ha
      rcases List.mem_cons.1 (hl a hal) with h | h
      · simp [h] at hne
      · exact h
    have hsame : (ks.flatMap fun k' => l.filter fun a => f a = k') =
        ks.flatMap fun k' => others.filter fun a => f a = k' := by
      refine List.flatMap_congr fun k' hk' => ?_
      rw [List.filter_filter]
      refine List.filter_congr fun a _ => ?_
      by_cases h : f a = k'
      · have hne : f a ≠ k := by
          rintro rfl
          exact hk (h ▸ hk')
        simp [h, h ▸ hne]
      · simp [h]
    rw [List.flatMap_cons, hsame]
    exact ((ih hn others hothers).append_left _).trans (List.filter_append_perm _ l)

theorem entries_groupServers :
    (groupServers vss tss).entries =
      (groupServers vss tss).keys.map fun ns => (ns, ⟨serversIn ns vss, serversIn ns tss⟩) := by
  rw [SortedMap.keys, List.map_map]
  conv_lhs => rw [← List.map_id (groupServers vss tss).entries]
  refine List.map_congr_left fun g hg => ?_
  exact Prod.ext rfl ((mem_entries_groupServers vss tss).1 hg).2

theorem virtualServers_groupServers_perm :
    ((groupServers vss tss).entries.flatMap fun g => g.2.virtualServers).Perm vss := by
  rw [entries_groupServers, List.flatMap_map]
  refine (List.Perm.flatMap_left _ fun ns _ => serversIn_perm ns vss).trans ?_
  refine flatMap_filter_perm _ (SortedMap.keys_nodup _) vss fun s hs => ?_
  rw [mem_keys_groupServers]
  exact List.mem_append_left _ (List.mem_map.2 ⟨s, hs, rfl⟩)

theorem transportServers_groupServers_perm :
    ((groupServers vss tss).entries.flatMap fun g => g.2.transportServers).Perm tss := by
  rw [entries_groupServers, List.flatMap_map]
  refine (List.Perm.flatMap_left _ fun ns _ => serversIn_perm ns tss).trans ?_
  refine flatMap_filter_perm _ (SortedMap.keys_nodup _) tss fun s hs => ?_
  rw [mem_keys_groupServers]
  exact List.mem_append_right _ (List.mem_map.2 ⟨s, hs, rfl⟩)

theorem groupServers_eq_of_perm {vss vss' : List (Sourced VirtualServerSpec)}
    {tss tss' : List (Sourced TransportServerSpec)} (hv : vss.Perm vss') (ht : tss.Perm tss')
    (nv : (vss.map Prod.fst).Nodup) (nt : (tss.map Prod.fst).Nodup) :
    groupServers vss tss = groupServers vss' tss' := by
  apply SortedMap.ext_get?
  intro ns
  have hns : ns ∈ namespacesOf vss tss ↔ ns ∈ namespacesOf vss' tss' :=
    ((hv.map _).append (ht.map _)).mem_iff
  rw [get?_groupServers, get?_groupServers, serversIn_eq_of_perm ns hv nv,
    serversIn_eq_of_perm ns ht nt]
  simp only [hns]

end Conversion

end IngressGateway
