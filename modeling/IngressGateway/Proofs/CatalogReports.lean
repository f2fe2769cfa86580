import IngressGateway.Proofs.Catalogs
import IngressGateway.Proofs.Severities
import Mathlib.Algebra.BigOperators.Group.List.Basic
import Mathlib.Data.List.Induction

/-!
What the owner of upstreams is told while they become a catalog. Each upstream is either kept or warned of, once:
it is broken, or an earlier one has taken its name. The settings of an upstream are remarked on if it is kept, so
a broken upstream stands in nobody's way and one that is left out says nothing about its settings.
-/

set_option autoImplicit false

namespace IngressGateway.Backend

open Ingress (Upstream)

/-! ### One upstream behind others -/

/-- Whether an upstream is kept if these stand before it. -/
def isKept (earlier : List Upstream) (u : Upstream) : Bool :=
  isUsable u && (firstUsable? earlier u.name).isNone

/-- The upstreams that are kept, in the order in which they are given. -/
def kept (us : List Upstream) : List Upstream :=
  (us.zipIdx.filter fun e => isKept (us.take e.2) e.1).map Prod.fst

def brokenWarning (owner : ObjectRef) (u : Upstream) : Notification :=
  ⟨.warning, if u.service.isEmpty then s!"Upstream '{u.name}' has no service specified"
    else s!"Upstream '{u.name}' has no port specified", owner⟩

def repeatedWarning (owner : ObjectRef) (u : Upstream) : Notification :=
  ⟨.warning, s!"Upstream '{u.name}' is defined more than once, keeping the first definition", owner⟩

def settingRemark (owner : ObjectRef) (u : Upstream) (field : String) : Notification :=
  ⟨.info, s!"Upstream '{u.name}': {field} field is not currently converted to Gateway API", owner⟩

def entryNotes (owner : ObjectRef) (earlier : List Upstream) (u : Upstream) : List Notification :=
  if isUsable u then
    if (firstUsable? earlier u.name).isSome then [repeatedWarning owner u]
    else (unsupportedFields u).map (settingRemark owner u)
  else [brokenWarning owner u]

/-- That a catalog has the first usable upstream of each name, and that its owner is told once of every other
upstream, once of every setting that is lost, and nothing else. -/
structure IsCatalogOf (us : List Upstream) (owner : ObjectRef) (r : Reported Catalog) : Prop where
  first : ∀ name, r.value.get? name = firstUsable? us name
  ascending : (r.value.toList.map Upstream.name).Pairwise fun a b => KeyOrder.before a b = true
  members : r.value.toList.Perm (kept us)
  notes : r.notes = us.zipIdx.flatMap fun e => entryNotes owner (us.take e.2) e.1
  warnings : (Notifications.mk r.notes).count .warning + r.value.toList.length = us.length
  remarks : (Notifications.mk r.notes).count .info =
    (r.value.toList.map fun u => (unsupportedFields u).length).sum
  errors : (Notifications.mk r.notes).count .error = 0

variable (us : List Upstream) (owner : ObjectRef)

/-! ### What is kept -/

theorem firstUsable?_concat (u : Upstream) (name : String) :
    firstUsable? (us ++ [u]) name =
      (firstUsable? us name).or (if isUsable u = true ∧ u.name = name then some u else none) := by
  rw [firstUsable?, List.find?_append, List.find?_singleton]
  simp only [Bool.and_eq_true, decide_eq_true_eq]
  rfl

theorem kept_concat (u : Upstream) :
    kept (us ++ [u]) = kept us ++ if isKept us u then [u] else [] := by
  have hearlier : (us.zipIdx.filter fun e => isKept ((us ++ [u]).take e.2) e.1) =
      us.zipIdx.filter fun e => isKept (us.take e.2) e.1 := by
    refine List.filter_congr fun e he => ?_
    have hlt := List.snd_lt_of_mem_zipIdx he
    rw [List.take_append_of_le_length (by omega)]
  rw [kept, List.zipIdx_append, List.filter_append, List.map_append, hearlier]
  simp only [List.zipIdx_singleton, List.filter_singleton, List.take_left', Nat.zero_add]
  cases isKept us u <;> rfl

theorem mem_kept_iff (u : Upstream) : u ∈ kept us ↔ firstUsable? us u.name = some u := by
  induction us using List.reverseRecOn with
  | nil => simp [kept, firstUsable?]
  | append_singleton us v ih =>
    rw [kept_concat, List.mem_append, ih, firstUsable?_concat]
    cases hfirst : firstUsable? us u.name with
    | some w =>
      -- The name is taken, so the last upstream is not kept under it.
      have hnot : u ∉ (if isKept us v then [v] else []) := by
        intro hu
        split at hu
        case isTrue hv =>
          obtain rfl := List.mem_singleton.1 hu
          simp [isKept, hfirst] at hv
        case isFalse => cases hu
      simp [hnot]
    | none =>
      simp only [Option.none_or, reduceCtorEq, false_or, Option.ite_none_right_eq_some, Option.some.injEq]
      constructor
      · intro hu
        split at hu
        case isTrue hv =>
          obtain rfl := List.mem_singleton.1 hu
          exact ⟨⟨(Bool.and_eq_true_iff.1 hv).1, rfl⟩, rfl⟩
        case isFalse => cases hu
      · rintro ⟨⟨husable, -⟩, rfl⟩
        simp [isKept, husable, hfirst]

theorem names_kept_nodup : ((kept us).map Upstream.name).Nodup := by
  induction us using List.reverseRecOn with
  | nil => exact List.nodup_nil
  | append_singleton us u ih =>
    rw [kept_concat]
    cases hu : isKept us u with
    | false => simpa using ih
    | true =>
      have hnew : ∀ v ∈ kept us, v.name ≠ u.name := by
        intro v hv hname
        rw [mem_kept_iff, hname] at hv
        simp [isKept, hv] at hu
      rw [if_pos rfl, List.map_append, List.nodup_append]
      refine ⟨ih, List.nodup_singleton _, ?_⟩
      intro name hname name' hname'
      obtain ⟨v, hv, rfl⟩ := List.mem_map.1 hname
      obtain rfl := List.mem_singleton.1 hname'
      exact hnew v hv

theorem keys_kept_nodup : (((kept us).map fun u => (u.name, u)).map Prod.fst).Nodup := by
  rw [List.map_map]
  exact names_kept_nodup us

namespace Catalog

theorem upstreams_build (ns : String) :
    (build us ns owner).value.upstreams = .ofList ((kept us).map fun u => (u.name, u)) := by
  apply SortedMap.ext_get?
  intro name
  apply Option.ext
  intro u
  rw [SortedMap.get?_eq_some_iff (m := .ofList _), (SortedMap.entries_ofList_perm (keys_kept_nodup us)).mem_iff,
    List.mem_map]
  change (build us ns owner).value.get? name = some u ↔ _
  rw [get?_build]
  constructor
  · intro hfirst
    have hname := name_of_firstUsable? hfirst
    subst hname
    exact ⟨u, (mem_kept_iff us u).2 hfirst, rfl⟩
  · rintro ⟨v, hv, he⟩
    cases he
    exact (mem_kept_iff us u).1 hv

theorem toList_build_perm (ns : String) : (build us ns owner).value.toList.Perm (kept us) := by
  have hperm := (SortedMap.entries_ofList_perm (keys_kept_nodup us)).map Prod.snd
  rw [List.map_map] at hperm
  rw [toList, upstreams_build, SortedMap.values]
  exact hperm.trans (.of_eq (List.map_id _))

theorem ascending_toList_build (ns : String) :
    ((build us ns owner).value.toList.map Upstream.name).Pairwise fun a b => KeyOrder.before a b = true := by
  have hkeys : (build us ns owner).value.toList.map Upstream.name = (build us ns owner).value.upstreams.keys := by
    rw [toList, SortedMap.values, SortedMap.keys, List.map_map]
    refine List.map_congr_left fun e he => ?_
    have hget : (build us ns owner).value.get? e.1 = some e.2 := SortedMap.get?_eq_some_iff.2 he
    rw [get?_build] at hget
    exact name_of_firstUsable? hget
  rw [hkeys, SortedMap.keys, List.pairwise_map]
  exact SortedMap.ascending _

/-! ### What the owner is told -/

theorem notes_checkUpstream (u : Upstream) :
    (checkUpstream u owner).notes = if isUsable u then [] else [brokenWarning owner u] := by
  unfold checkUpstream faultOf? isUsable brokenWarning
  cases u.service.isEmpty with
  | true => rfl
  | false => by_cases h : u.port.val = 0 <;> simp [h, Reported.warning, UpstreamFault.message]

/-- The map knows the upstreams so far by the names that they have taken. -/
theorem notes_add {before : List Upstream} {m : SortedMap String Upstream}
    (h : ∀ name, m.get? name = firstUsable? before name) (u : Upstream) :
    (add owner m u).notes = entryNotes owner before u := by
  unfold add entryNotes
  rw [Reported.notes_bind, notes_checkUpstream, value_checkUpstream, SortedMap.contains, h]
  cases isUsable u with
  | false => rfl
  | true =>
    cases (firstUsable? before u.name).isSome with
    | true => rfl
    | false => simp [Reported.tellEach, settingRemark]

theorem get?_add {before : List Upstream} {m : SortedMap String Upstream}
    (h : ∀ name, m.get? name = firstUsable? before name) (u : Upstream) (name : String) :
    (add owner m u).value.get? name = firstUsable? (before ++ [u]) name := by
  rw [value_add, firstUsable?_concat, ← h]
  cases husable : isUsable u with
  | false => simp
  | true =>
    rw [if_pos rfl, SortedMap.insertIfNew, SortedMap.contains]
    by_cases hname : u.name = name
    · subst hname
      cases hget : m.get? u.name <;> simp [hget]
    · have hother := m.get?_insert_of_ne u (Ne.symm hname)
      cases (m.get? u.name).isSome <;> simp [hname, hother]

theorem notes_addAll {before : List Upstream} {m : SortedMap String Upstream}
    (h : ∀ name, m.get? name = firstUsable? before name) :
    (addAll owner m us).notes = (us.zipIdx before.length).flatMap fun e =>
      entryNotes owner ((before ++ us).take e.2) e.1 := by
  induction us generalizing before m with
  | nil => rfl
  | cons u us ih =>
    have hrest := ih (get?_add owner h u)
    rw [List.length_append, List.length_singleton, List.append_assoc, List.singleton_append] at hrest
    change (add owner m u).notes ++ (addAll owner (add owner m u).value us).notes = _
    rw [notes_add owner h, hrest, List.zipIdx_cons, List.flatMap_cons, List.take_left']
    rfl

theorem notes_build (ns : String) :
    (build us ns owner).notes = us.zipIdx.flatMap fun e => entryNotes owner (us.take e.2) e.1 := by
  have hempty : ∀ name, SortedMap.empty.get? name = firstUsable? [] name := fun _ => rfl
  rw [build, Reported.notes_map]
  exact notes_addAll us owner hempty

end Catalog

/-! ### How much the owner is told -/

/-- The number of notifications of each severity about an upstream behind others. -/
def entryCount (earlier : List Upstream) (u : Upstream) : Severity → Nat
  | .info => if isKept earlier u then (unsupportedFields u).length else 0
  | .warning => if isKept earlier u then 0 else 1
  | .error => 0

theorem count_entryNotes (earlier : List Upstream) (u : Upstream) (s : Severity) :
    (Notifications.mk (entryNotes owner earlier u)).count s = entryCount earlier u s := by
  unfold entryNotes entryCount isKept
  cases isUsable u with
  | false => cases s <;> rfl
  | true =>
    cases firstUsable? earlier u.name with
    | some v => cases s <;> rfl
    | none =>
      have hremarks := Notifications.ofSeverity_map (unsupportedFields u) (f := settingRemark owner u)
        (fun _ => rfl) s
      change ((Notifications.mk _).ofSeverity s).length = _
      cases s <;> simp [hremarks]

theorem count_build (ns : String) (s : Severity) :
    (Notifications.mk (Catalog.build us ns owner).notes).count s =
      (us.zipIdx.map fun e => entryCount (us.take e.2) e.1 s).sum := by
  rw [Catalog.notes_build, Notifications.count_flatMap]
  simp only [count_entryNotes]

/-- A catalog keeps the first usable upstream of each name; every other upstream costs one warning, and every
setting of a kept one that is lost costs one remark. -/
theorem isCatalogOf_build (ns : String) : IsCatalogOf us owner (Catalog.build us ns owner) := by
  have hperm := Catalog.toList_build_perm us owner ns
  constructor
  case first => exact Catalog.get?_build us owner ns
  case ascending => exact Catalog.ascending_toList_build us owner ns
  case members => exact hperm
  case notes => exact Catalog.notes_build us owner ns
  case warnings =>
    have hsplit := List.length_eq_length_filter_add (l := us.zipIdx) fun e => isKept (us.take e.2) e.1
    have hsum : (us.zipIdx.map fun e => entryCount (us.take e.2) e.1 .warning).sum =
        (us.zipIdx.filter fun e => !isKept (us.take e.2) e.1).length := by
      simp only [entryCount, List.sum_map_ite, List.map_const', List.sum_replicate_nat, Nat.mul_zero,
        Nat.mul_one, Nat.zero_add, Bool.not_eq_true, Bool.decide_eq_false]
    rw [List.length_zipIdx] at hsplit
    rw [count_build, hsum, hperm.length_eq, kept, List.length_map]
    omega
  case remarks =>
    rw [count_build, (hperm.map _).sum_eq, kept, List.map_map]
    simp [entryCount, List.sum_map_ite, Function.comp_def]
  case errors =>
    rw [count_build]
    exact List.sum_eq_zero fun n hn => by
      obtain ⟨e, -, rfl⟩ := List.mem_map.1 hn
      rfl

end IngressGateway.Backend
