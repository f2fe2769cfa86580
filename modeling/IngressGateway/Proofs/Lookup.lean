import IngressGateway.SortedMap
import Mathlib.Data.List.Nodup
import Mathlib.Data.List.Perm.Basic

/-!
Looking up keys. A map is determined by what its keys lead to; a map that is filled from a list leads to
what the list says, and if the keys of the list are distinct, its order does not count.
-/

set_option autoImplicit false

namespace IngressGateway

theorem filterMap_if {α β : Type} (p : α → Bool) (f : α → β) (l : List α) :
    (l.filterMap fun a => if p a then some (f a) else none) = (l.filter p).map f := by
  rw [← List.filterMap_eq_map, List.filterMap_filter]
  rfl

theorem flatMap_if {α β : Type} (p : α → Bool) (f : α → β) (l : List α) :
    (l.flatMap fun a => if p a then [f a] else []) = (l.filter p).map f := by
  rw [← filterMap_if, List.filterMap_eq_flatMap_toList]
  refine List.flatMap_congr fun a _ => ?_
  cases p a <;> rfl

theorem flatMap_filter_of_nil {α β : Type} {p : α → Bool} {f : α → List β} {l : List α}
    (h : ∀ a ∈ l, p a = false → f a = []) : (l.filter p).flatMap f = l.flatMap f := by
  induction l with
  | nil => rfl
  | cons a l ih =>
    have hl := ih fun b hb => h b (List.mem_cons_of_mem _ hb)
    rw [List.filter_cons, List.flatMap_cons, ← hl]
    cases ha : p a with
    | true => rfl
    | false =>
      rw [h a List.mem_cons_self ha]
      rfl

theorem filterMap_filter_of_none {α β : Type} {p : α → Bool} {f : α → Option β} {l : List α}
    (h : ∀ a ∈ l, p a = false → f a = none) : (l.filter p).filterMap f = l.filterMap f := by
  rw [List.filterMap_filter]
  refine List.filterMap_congr fun a ha => ?_
  cases hp : p a with
  | true => rfl
  | false => exact (h a ha hp).symm

namespace KeyOrder

variable {κ : Type} [KeyOrder κ]

theorem neither_iff {a b : κ} : (!before a b && !before b a) = true ↔ a = b := by
  constructor
  · intro h
    simp only [Bool.and_eq_true, Bool.not_eq_true'] at h
    exact eq_of_neither a b h.1 h.2
  · rintro rfl
    simp [irrefl]

theorem ne_of_before {a b : κ} (h : before a b = true) : a ≠ b := by
  rintro rfl
  rw [irrefl] at h
  cases h

end KeyOrder

namespace SortedMap

open KeyOrder (before)

variable {κ α : Type} [KeyOrder κ]

theorem keys_nodup (m : SortedMap κ α) : m.keys.Nodup := by
  have h := m.ascending
  unfold Ascending at h
  rw [keys, List.Nodup, List.pairwise_map]
  exact h.imp fun hab => KeyOrder.ne_of_before hab

theorem get?_eq_some_iff {m : SortedMap κ α} {k : κ} {a : α} :
    m.get? k = some a ↔ (k, a) ∈ m.entries := by
  constructor
  · intro h
    obtain ⟨e, he, rfl⟩ := Option.map_eq_some_iff.1 h
    have hb := List.find?_some he
    have hk : e.1 = k := KeyOrder.neither_iff.1 hb
    have hm : e ∈ m.entries := List.mem_of_find?_eq_some he
    rw [← hk]
    exact hm
  · intro h
    rw [get?, Option.map_eq_some_iff]
    cases hf : m.entries.find? fun e => !before e.1 k && !before k e.1 with
    | none => exact absurd (KeyOrder.neither_iff.2 rfl) (List.find?_eq_none.1 hf _ h)
    | some e =>
      have hb := List.find?_some hf
      have hk : e.1 = k := KeyOrder.neither_iff.1 hb
      have he : e = (k, a) :=
        List.inj_on_of_nodup_map m.keys_nodup (List.mem_of_find?_eq_some hf) h hk
      exact ⟨e, rfl, by rw [he]⟩

theorem map_find?_entries [DecidableEq κ] (m : SortedMap κ α) (k : κ) :
    (m.entries.find? fun e => e.1 = k).map Prod.snd = m.get? k := by
  have hkey : (fun e : κ × α => decide (e.1 = k)) =
      fun e => !before e.1 k && !before k e.1 := by
    funext e
    rw [Bool.eq_iff_iff, decide_eq_true_iff, KeyOrder.neither_iff]
  rw [hkey, get?]

theorem mem_keys_iff {m : SortedMap κ α} {k : κ} : k ∈ m.keys ↔ ∃ a, m.get? k = some a := by
  simp only [get?_eq_some_iff, keys, List.mem_map]
  constructor
  · rintro ⟨e, he, rfl⟩
    exact ⟨e.2, he⟩
  · rintro ⟨a, ha⟩
    exact ⟨(k, a), ha, rfl⟩

theorem mem_values_iff {m : SortedMap κ α} {a : α} : a ∈ m.values ↔ ∃ k, m.get? k = some a := by
  simp only [get?_eq_some_iff, values, List.mem_map]
  constructor
  · rintro ⟨e, he, rfl⟩
    exact ⟨e.1, he⟩
  · rintro ⟨k, ha⟩
    exact ⟨(k, a), ha, rfl⟩

theorem isEmpty_iff {m : SortedMap κ α} : m.isEmpty = true ↔ ∀ k, m.get? k = none := by
  rw [isEmpty, List.isEmpty_iff]
  constructor
  · intro h k
    rw [get?, h]
    rfl
  · intro h
    rw [List.eq_nil_iff_forall_not_mem]
    intro e he
    have hs : m.get? e.1 = some e.2 := get?_eq_some_iff.2 he
    rw [h] at hs
    cases hs

theorem ext_get? {m n : SortedMap κ α} (h : ∀ k, m.get? k = n.get? k) : m = n := by
  have hm : m.entries.Nodup := List.Nodup.of_map Prod.fst m.keys_nodup
  have hn : n.entries.Nodup := List.Nodup.of_map Prod.fst n.keys_nodup
  have hp : m.entries.Perm n.entries := by
    rw [List.perm_ext_iff_of_nodup hm hn]
    intro e
    rw [← get?_eq_some_iff, h, get?_eq_some_iff]
  -- Ascending lists with the same members are the same list.
  apply ext
  refine List.Perm.eq_of_pairwise (fun a b _ _ hab hba => ?_) m.ascending n.ascending hp
  rw [KeyOrder.asymm _ _ hab] at hba
  cases hba

theorem keys_eq_filter [DecidableEq κ] {β : Type} {m : SortedMap κ α} {n : SortedMap κ β}
    (h : ∀ k ∈ m.keys, k ∈ n.keys) :
    m.keys = n.keys.filter fun k => k ∈ m.keys := by
  have hm : m.keys.Pairwise fun a b => before a b = true := List.pairwise_map.2 m.ascending
  have hn : n.keys.Pairwise fun a b => before a b = true := List.pairwise_map.2 n.ascending
  have hp : m.keys.Perm (n.keys.filter fun k => k ∈ m.keys) := by
    rw [List.perm_ext_iff_of_nodup m.keys_nodup (n.keys_nodup.filter _)]
    intro k
    rw [List.mem_filter, decide_eq_true_eq]
    exact ⟨fun hk => ⟨h k hk, hk⟩, And.right⟩
  refine List.Perm.eq_of_pairwise (fun a b _ _ hab hba => ?_) hm (hn.filter _) hp
  rw [KeyOrder.asymm _ _ hab] at hba
  cases hba

theorem mem_insertEntry_iff {k : κ} {a : α} {x : κ × α} {l : List (κ × α)} (hl : Ascending l) :
    x ∈ insertEntry k a l ↔ x = (k, a) ∨ x.1 ≠ k ∧ x ∈ l := by
  induction l with
  | nil => simp [insertEntry]
  | cons e rest ih =>
    obtain ⟨he, hr⟩ := List.pairwise_cons.1 hl
    simp only [insertEntry]
    split
    case isTrue hk =>
      have hne : ∀ y ∈ e :: rest, y.1 ≠ k := by
        intro y hy
        rcases List.mem_cons.1 hy with rfl | hy
        · exact (KeyOrder.ne_of_before hk).symm
        · exact (KeyOrder.ne_of_before (KeyOrder.trans _ _ _ hk (he y hy))).symm
      rw [List.mem_cons]
      exact or_congr_right ⟨fun h => ⟨hne x h, h⟩, And.right⟩
    case isFalse hk =>
      split
      case isTrue hk' =>
        have hek : e.1 ≠ k := KeyOrder.ne_of_before hk'
        rw [List.mem_cons, ih hr, List.mem_cons]
        constructor
        · rintro (rfl | h | ⟨hx, h⟩)
          · exact .inr ⟨hek, .inl rfl⟩
          · exact .inl h
          · exact .inr ⟨hx, .inr h⟩
        · rintro (h | ⟨hx, rfl | h⟩)
          · exact .inr (.inl h)
          · exact .inl rfl
          · exact .inr (.inr ⟨hx, h⟩)
      case isFalse hk' =>
        have hek : e.1 = k := KeyOrder.eq_of_neither _ _ (by simpa using hk') (by simpa using hk)
        have hne : ∀ y ∈ rest, y.1 ≠ k := by
          intro y hy
          rw [← hek]
          exact (KeyOrder.ne_of_before (he y hy)).symm
        rw [List.mem_cons, List.mem_cons]
        constructor
        · rintro (h | h)
          · exact .inl h
          · exact .inr ⟨hne x h, .inr h⟩
        · rintro (h | ⟨hx, rfl | h⟩)
          · exact .inl h
          · exact absurd hek hx
          · exact .inr h

@[simp] theorem get?_insert_self (m : SortedMap κ α) (k : κ) (a : α) :
    (m.insert k a).get? k = some a := by
  rw [get?_eq_some_iff]
  exact (mem_insertEntry_iff m.ascending).2 (.inl rfl)

theorem get?_insert_of_ne (m : SortedMap κ α) {k k' : κ} (a : α) (h : k' ≠ k) :
    (m.insert k a).get? k' = m.get? k' := by
  apply Option.ext
  intro b
  rw [get?_eq_some_iff, get?_eq_some_iff]
  refine (mem_insertEntry_iff m.ascending).trans ?_
  simp [h]

theorem mem_keys_insert {m : SortedMap κ α} {k k' : κ} {a : α} :
    k' ∈ (m.insert k a).keys ↔ k' = k ∨ k' ∈ m.keys := by
  by_cases h : k' = k
  · subst h
    simp [mem_keys_iff]
  · simp [mem_keys_iff, get?_insert_of_ne m a h, h]

/-! ### Filling a map from a list -/

/-- The map with several more entries; the last entry of a key counts. -/
def insertMany (m : SortedMap κ α) (l : List (κ × α)) : SortedMap κ α :=
  l.foldl (fun m e => m.insert e.1 e.2) m

theorem ofList_eq_insertMany (l : List (κ × α)) : ofList l = empty.insertMany l := rfl

theorem insertMany_append (m : SortedMap κ α) (l l' : List (κ × α)) :
    m.insertMany (l ++ l') = (m.insertMany l).insertMany l' := List.foldl_append

theorem mem_of_get?_insertMany {m : SortedMap κ α} {l : List (κ × α)} {k : κ} {a : α}
    (h : (m.insertMany l).get? k = some a) : (k, a) ∈ l ∨ m.get? k = some a := by
  induction l generalizing m with
  | nil => exact .inr h
  | cons e l ih =>
    rcases ih h with hl | hm
    · exact .inl (List.mem_cons_of_mem _ hl)
    · by_cases hk : k = e.1
      · subst hk
        rw [get?_insert_self] at hm
        cases hm
        exact .inl List.mem_cons_self
      · rw [get?_insert_of_ne m e.2 hk] at hm
        exact .inr hm

theorem mem_of_get?_ofList {l : List (κ × α)} {k : κ} {a : α} (h : (ofList l).get? k = some a) :
    (k, a) ∈ l := by
  rcases mem_of_get?_insertMany h with hl | hm
  · exact hl
  · cases hm

theorem mem_keys_insertMany {m : SortedMap κ α} {l : List (κ × α)} {k : κ} :
    k ∈ (m.insertMany l).keys ↔ k ∈ l.map Prod.fst ∨ k ∈ m.keys := by
  induction l generalizing m with
  | nil => simp [insertMany]
  | cons e l ih =>
    change k ∈ ((m.insert e.1 e.2).insertMany l).keys ↔ _
    rw [ih, mem_keys_insert, List.map_cons, List.mem_cons]
    tauto

theorem mem_keys_ofList {l : List (κ × α)} {k : κ} : k ∈ (ofList l).keys ↔ k ∈ l.map Prod.fst := by
  rw [ofList_eq_insertMany, mem_keys_insertMany]
  simp [keys]

theorem get?_insertMany_of_not_mem {m : SortedMap κ α} {l : List (κ × α)} {k : κ}
    (h : k ∉ l.map Prod.fst) : (m.insertMany l).get? k = m.get? k := by
  induction l generalizing m with
  | nil => rfl
  | cons e l ih =>
    rw [List.map_cons, List.mem_cons, not_or] at h
    change ((m.insert e.1 e.2).insertMany l).get? k = _
    rw [ih h.2, get?_insert_of_ne m e.2 h.1]

theorem get?_insertMany_of_mem {m : SortedMap κ α} {l : List (κ × α)} {k : κ} {a : α}
    (h : (k, a) ∈ l) (hl : ∀ b, (k, b) ∈ l → b = a) : (m.insertMany l).get? k = some a := by
  have hk : k ∈ (m.insertMany l).keys :=
    mem_keys_insertMany.2 (.inl (List.mem_map.2 ⟨(k, a), h, rfl⟩))
  induction l generalizing m with
  | nil => cases h
  | cons e l ih =>
    -- Only the last entry of a key counts, so look for the key behind the head first.
    by_cases hmem : k ∈ l.map Prod.fst
    · obtain ⟨⟨k', b⟩, hb, rfl⟩ := List.mem_map.1 hmem
      have hba : b = a := hl b (List.mem_cons_of_mem _ hb)
      subst hba
      exact ih hb (fun c hc => hl c (List.mem_cons_of_mem _ hc)) hk
    · change ((m.insert e.1 e.2).insertMany l).get? k = _
      rw [get?_insertMany_of_not_mem hmem]
      rcases List.mem_cons.1 h with rfl | h
      · exact get?_insert_self m k a
      · exact absurd (List.mem_map.2 ⟨(k, a), h, rfl⟩) hmem

theorem get?_insertMany_of_nodup {m : SortedMap κ α} {l : List (κ × α)} {k : κ} {a : α}
    (hn : (l.map Prod.fst).Nodup) (h : (k, a) ∈ l) : (m.insertMany l).get? k = some a := by
  refine get?_insertMany_of_mem h fun b hb => ?_
  have he : (k, b) = (k, a) := List.inj_on_of_nodup_map hn hb h rfl
  exact (Prod.mk.inj he).2

/-- With distinct keys the order of the entries does not count. -/
theorem insertMany_perm (m : SortedMap κ α) {l l' : List (κ × α)} (hp : l.Perm l')
    (hn : (l.map Prod.fst).Nodup) : m.insertMany l = m.insertMany l' := by
  have hn' : (l'.map Prod.fst).Nodup := (hp.map Prod.fst).nodup_iff.1 hn
  apply ext_get?
  intro k
  by_cases hk : k ∈ l.map Prod.fst
  · obtain ⟨⟨k', a⟩, ha, rfl⟩ := List.mem_map.1 hk
    rw [get?_insertMany_of_nodup hn ha, get?_insertMany_of_nodup hn' (hp.subset ha)]
  · have hk' : k ∉ l'.map Prod.fst := fun h => hk ((hp.map Prod.fst).symm.subset h)
    rw [get?_insertMany_of_not_mem hk, get?_insertMany_of_not_mem hk']

theorem entries_ofList_perm {l : List (κ × α)} (hn : (l.map Prod.fst).Nodup) :
    (ofList l).entries.Perm l := by
  have hm : (ofList l).entries.Nodup := List.Nodup.of_map Prod.fst (ofList l).keys_nodup
  rw [List.perm_ext_iff_of_nodup hm (List.Nodup.of_map Prod.fst hn)]
  intro e
  rw [← get?_eq_some_iff]
  exact ⟨mem_of_get?_ofList, get?_insertMany_of_nodup hn⟩

theorem ofList_entries (m : SortedMap κ α) : ofList m.entries = m := by
  apply ext_get?
  intro k
  apply Option.ext
  intro a
  rw [get?_eq_some_iff, (entries_ofList_perm m.keys_nodup).mem_iff,
    get?_eq_some_iff]

theorem get?_ofList_map [DecidableEq κ] (f : κ → α) (ks : List κ) (k : κ) :
    (ofList (ks.map fun k => (k, f k))).get? k = if k ∈ ks then some (f k) else none := by
  have hfst : (ks.map fun k => (k, f k)).map Prod.fst = ks := by
    rw [List.map_map]
    exact List.map_id ks
  split
  case isTrue h =>
    refine get?_insertMany_of_mem (List.mem_map.2 ⟨k, h, rfl⟩) fun b hb => ?_
    obtain ⟨k', _, he⟩ := List.mem_map.1 hb
    cases he
    rfl
  case isFalse h =>
    rw [ofList_eq_insertMany, get?_insertMany_of_not_mem (by rwa [hfst])]
    rfl

/-- A map that is filled with other values under the same keys leads to these. -/
theorem get?_insertMany_map {β : Type} (f : α → β) {m : SortedMap κ α} {m' : SortedMap κ β}
    (h : ∀ k, m'.get? k = (m.get? k).map f) (l : List (κ × α)) (k : κ) :
    (m'.insertMany (l.map fun e => (e.1, f e.2))).get? k = ((m.insertMany l).get? k).map f := by
  induction l generalizing m m' with
  | nil => exact h k
  | cons e l ih =>
    have hinsert : ∀ k', (m'.insert e.1 (f e.2)).get? k' = ((m.insert e.1 e.2).get? k').map f := by
      intro k'
      by_cases hk : k' = e.1
      · subst hk
        simp
      · rw [get?_insert_of_ne m' _ hk, get?_insert_of_ne m _ hk, h]
    exact ih hinsert

/-! ### Disjoint unions -/

/-- Every key leads to what one of two maps has for it, and no key is in both. -/
structure IsDisjointUnion (m a b : SortedMap κ α) : Prop where
  disjoint : ∀ k, a.get? k = none ∨ b.get? k = none
  get?_eq : ∀ k, m.get? k = (a.get? k <|> b.get? k)

theorem isDisjointUnion_of_perm {m a b : SortedMap κ α}
    (hp : m.entries.Perm (a.entries ++ b.entries)) : m.IsDisjointUnion a b := by
  have hn : (a.keys ++ b.keys).Nodup := by
    have hkeys := (hp.map Prod.fst).nodup_iff.1 m.keys_nodup
    rwa [List.map_append] at hkeys
  have hdisjoint : ∀ k, a.get? k = none ∨ b.get? k = none := by
    intro k
    cases ha : a.get? k with
    | none => exact .inl rfl
    | some x =>
      cases hb : b.get? k with
      | none => exact .inr rfl
      | some y =>
        exact absurd (mem_keys_iff.2 ⟨y, hb⟩)
          (List.disjoint_of_nodup_append hn (mem_keys_iff.2 ⟨x, ha⟩))
  refine ⟨hdisjoint, fun k => Option.ext fun x => ?_⟩
  have hmem : m.get? k = some x ↔ a.get? k = some x ∨ b.get? k = some x := by
    rw [get?_eq_some_iff, get?_eq_some_iff, get?_eq_some_iff, hp.mem_iff, List.mem_append]
  rw [hmem]
  rcases hdisjoint k with h | h
  · simp [h]
  · cases ha : a.get? k <;> simp [h]

/-! ### Keeping the first entry of each key -/

theorem get?_insertIfNew [DecidableEq κ] (m : SortedMap κ α) (k k' : κ) (a : α) :
    (m.insertIfNew k a).get? k' = (m.get? k' <|> if k' = k then some a else none) := by
  unfold insertIfNew contains
  by_cases h : k' = k
  · subst h
    cases hm : m.get? k' with
    | none => simp
    | some b => simp [hm]
  · cases hm : m.get? k with
    | none => simp [get?_insert_of_ne m a h, h]
    | some b => simp [h]

theorem get?_foldl_insertIfNew [DecidableEq κ] {β : Type} (key : β → κ) (val : β → α)
    (l : List β) (m : SortedMap κ α) (k : κ) :
    (l.foldl (fun m b => m.insertIfNew (key b) (val b)) m).get? k =
      (m.get? k <|> (l.find? fun b => key b = k).map val) := by
  induction l generalizing m with
  | nil => simp
  | cons b l ih =>
    rw [List.foldl_cons, ih, get?_insertIfNew]
    by_cases h : key b = k
    · subst h
      cases m.get? (key b) <;> simp
    · have h' : k ≠ key b := Ne.symm h
      simp [h, h']

end SortedMap

end IngressGateway
