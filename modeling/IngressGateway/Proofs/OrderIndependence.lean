import IngressGateway.Proofs.Arrangement

/-!
The order of the resources in a snapshot. Everything that a conversion looks up is looked up by name, and
the servers are sorted before they are converted; so if names are unambiguous, the order in which the
snapshot lists its resources shows in nothing but the warnings about the servers that are left out, which
come first.
-/

set_option autoImplicit false

namespace IngressGateway.Conversion

open Ingress (NamedListener VirtualServerRoute)

def globalListeners (input : Snapshot) : List NamedListener :=
  input.globalConfiguration.elim [] fun g => g.spec.listeners

/-- Two snapshots list the same resources, each list in an order of its own. -/
structure Reordered (input input' : Snapshot) : Prop where
  virtualServers : input.virtualServers.Perm input'.virtualServers
  virtualServerRoutes : input.virtualServerRoutes.Perm input'.virtualServerRoutes
  transportServers : input.transportServers.Perm input'.transportServers
  listeners : (globalListeners input).Perm (globalListeners input')

/-- No two named resources of one kind share their namespace and name, and no two listeners their name. -/
structure Unambiguous (input : Snapshot) : Prop where
  virtualServers : Resource.DistinctKeys (input.virtualServers.filter Resource.hasName)
  virtualServerRoutes : Resource.DistinctKeys (input.virtualServerRoutes.filter Resource.hasName)
  transportServers : Resource.DistinctKeys (input.transportServers.filter Resource.hasName)
  listeners : ((globalListeners input).map NamedListener.name).Nodup

theorem namedPortsOf_perm {ls ls' : List NamedListener} (hp : ls.Perm ls')
    (hn : (ls.map NamedListener.name).Nodup) :
    Listeners.namedPortsOf ls = Listeners.namedPortsOf ls' := by
  let entry := fun l : NamedListener => (l.name, (⟨l.port, l.protocol⟩ : Listeners.NamedPort))
  have hkeys : ((ls.map entry).map Prod.fst).Nodup := by
    rw [List.map_map]
    exact hn
  exact SortedMap.insertMany_perm
    (SortedMap.empty.insert Listeners.builtinName Listeners.builtinPort) (hp.map entry) hkeys

theorem map_fst_indexEntry? (r : VirtualServerRoute) :
    (Routing.indexEntry? r).map Prod.fst = if r.hasName then some r.key else none := by
  unfold Routing.indexEntry? Resource.ref? Resource.hasName Text.isPresent
  cases r.metadata.name with
  | none => rfl
  | some name => cases h : name.isEmpty <;> simp [h]

theorem indexRoutes_perm {rs rs' : List VirtualServerRoute} (hp : rs.Perm rs')
    (hd : Resource.DistinctKeys (rs.filter Resource.hasName)) :
    Routing.indexRoutes rs = Routing.indexRoutes rs' := by
  have hkeys : (rs.filterMap Routing.indexEntry?).map Prod.fst =
      (rs.filter Resource.hasName).map Resource.key := by
    rw [List.map_filterMap, ← filterMap_if]
    exact List.filterMap_congr fun r _ => map_fst_indexEntry? r
  refine SortedMap.insertMany_perm .empty (hp.filterMap Routing.indexEntry?) ?_
  rw [hkeys]
  exact hd

variable {input input' : Snapshot}

theorem contextOf_eq_of_reordered (settings : Settings) (h : Reordered input input')
    (hu : Unambiguous input) : contextOf input settings = contextOf input' settings := by
  have hports : Listeners.namedPorts input.globalConfiguration =
      Listeners.namedPorts input'.globalConfiguration := namedPortsOf_perm h.listeners hu.listeners
  have hindex := indexRoutes_perm h.virtualServerRoutes hu.virtualServerRoutes
  rw [contextOf, contextOf, hports, hindex]

theorem references_nodup {σ : Type} [ResourceKind σ] {rs : List (Resource σ)}
    (hd : Resource.DistinctKeys rs) : ((rs.map sourced).map Prod.fst).Nodup := by
  rw [List.map_map]
  refine List.Nodup.map_on (fun r hr s hs h => ?_) hd.nodup
  exact List.inj_on_of_nodup_map hd hr hs (Resource.source_eq_iff.1 h)

theorem isEligible_sublist (input : Snapshot) :
    (eligibleServers input).Sublist (input.virtualServers.filter Resource.hasName) := by
  refine List.monotone_filter_right _ fun vs hvs => ?_
  exact (Bool.and_eq_true _ _ ▸ hvs).1

theorem groups_eq_of_reordered (h : Reordered input input') (hu : Unambiguous input) :
    (groupByNamespace input).value = (groupByNamespace input').value := by
  have hv : (eligibleServers input).Perm (eligibleServers input') := h.virtualServers.filter _
  have ht : (namedTransports input).Perm (namedTransports input') := h.transportServers.filter _
  have hdv : Resource.DistinctKeys (eligibleServers input) :=
    hu.virtualServers.sublist (isEligible_sublist input)
  rw [value_groupByNamespace, value_groupByNamespace]
  exact groupServers_eq_of_perm (hv.map sourced) (ht.map sourced) (references_nodup hdv)
    (references_nodup hu.transportServers)

/-- Each server that is left out gives its own warning. -/
theorem notes_groupByNamespace (input : Snapshot) :
    (groupByNamespace input).notes =
      (input.virtualServers.flatMap fun vs => (admitVirtualServer vs).notes) ++
        input.transportServers.flatMap fun ts => (admitTransportServer ts).notes := by
  simp only [groupByNamespace, Reported.notes_bind, Reported.notes_each, Reported.notes_pure,
    List.append_nil]

theorem notes_convertAll (input : Snapshot) (settings : Settings) :
    (convertAll input settings).notes =
      (groupByNamespace input).notes ++ (groupByNamespace input).value.entries.flatMap fun g =>
        (convertNamespace (contextOf input settings) g.1 g.2).notes := by
  simp only [convertAll, Reported.notes_bind, Reported.notes_each, Reported.notes_pure,
    List.append_nil]

/-- Snapshots that list the same resources in different orders lead to the same objects and to the same
notifications after the warnings about the servers that are left out. -/
theorem convert_reordered (settings : Settings) (h : Reordered input input')
    (hu : Unambiguous input) :
    (convert input settings).bundle = (convert input' settings).bundle ∧
      ∃ rest,
        (convert input settings).notifications.entries = (groupByNamespace input).notes ++ rest ∧
        (convert input' settings).notifications.entries = (groupByNamespace input').notes ++ rest ∧
        (groupByNamespace input).notes.Perm (groupByNamespace input').notes := by
  have hc := contextOf_eq_of_reordered settings h hu
  have hg := groups_eq_of_reordered h hu
  have hbundle : (convert input settings).bundle = (convert input' settings).bundle := by
    simp only [convert, convertAll, Reported.value_bind, Reported.value_each, Reported.value_pure]
    rw [hg, hc]
  have hskips : (groupByNamespace input).notes.Perm (groupByNamespace input').notes := by
    rw [notes_groupByNamespace, notes_groupByNamespace]
    exact (h.virtualServers.flatMap_right _).append (h.transportServers.flatMap_right _)
  refine ⟨hbundle, _, notes_convertAll input settings, ?_, hskips⟩
  rw [hg, hc]
  exact notes_convertAll input' settings

/-- Two servers that contend for one host, behind a nameless one and before it. -/
theorem convert_reordered_contending :
    let a := simpleServer "shop" "a" "shop.example" none
    let b := simpleServer "shop" "b" "shop.example" (some "cert")
    let nameless := simpleServer "shop" "" "shop.example" none
    let input : Snapshot := ⟨[nameless, a, b], [], [], none⟩
    let input' : Snapshot := ⟨[b, a, nameless], [], [], none⟩
    Reordered input input' ∧ Unambiguous input ∧
      (convert input .usual).bundle = (convert input' .usual).bundle := by
  intro a b nameless input input'
  have hr : Reordered input input' :=
    ⟨(List.reverse_perm [nameless, a, b]).symm, .refl _, .refl _, .refl _⟩
  have hu : Unambiguous input := ⟨by decide, by decide, by decide, by decide⟩
  exact ⟨hr, hu, (convert_reordered .usual hr hu).1⟩

end IngressGateway.Conversion
