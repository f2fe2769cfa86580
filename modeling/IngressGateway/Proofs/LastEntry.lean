import IngressGateway.Proofs.Lookup
import Mathlib.Data.List.Induction

/-!
The last entry of each key. Entries are put into a map one after another; an entry that holds nothing takes its
key out. What a key leads to in the end is what the last entry of that key holds.
-/

set_option autoImplicit false

namespace IngressGateway

/-- No later one in the list has the key of this one. -/
def IsLast {κ β : Type} (key : β → κ) (l : List β) (b : β) : Prop :=
  ∃ front back, l = front ++ b :: back ∧ ∀ b' ∈ back, key b' ≠ key b

section

variable {κ β : Type} {key : β → κ} {l : List β} {b c : β}

theorem IsLast.mem (h : IsLast key l b) : b ∈ l := by
  obtain ⟨front, back, rfl, _⟩ := h
  exact List.mem_append_right _ List.mem_cons_self

theorem isLast_append_singleton :
    IsLast key (l ++ [c]) b ↔ b = c ∨ key c ≠ key b ∧ IsLast key l b := by
  constructor
  · rintro ⟨front, back, he, hback⟩
    cases back using List.reverseRecOn with
    | nil =>
      have hsingle : [c] = [b] := List.append_inj_right' he rfl
      exact .inl (List.singleton_inj.1 hsingle).symm
    | append_singleton back c' =>
      rw [← List.cons_append, ← List.append_assoc] at he
      obtain ⟨rfl, hc⟩ := List.append_inj' he rfl
      cases List.singleton_inj.1 hc
      refine .inr ⟨hback c (List.mem_append_right _ (List.mem_singleton_self c)), front, back, rfl,
        fun b' hb' => hback b' (List.mem_append_left _ hb')⟩
  · rintro (rfl | ⟨hc, front, back, rfl, hback⟩)
    · exact ⟨l, [], rfl, nofun⟩
    · refine ⟨front, back ++ [c], by rw [List.append_assoc, List.cons_append], fun b' hb' => ?_⟩
      rcases List.mem_append.1 hb' with hb' | hb'
      · exact hback b' hb'
      · rwa [List.mem_singleton.1 hb']

theorem exists_isLast (key : β → κ) (h : b ∈ l) : ∃ b', IsLast key l b' ∧ key b' = key b := by
  induction l using List.reverseRecOn with
  | nil => cases h
  | append_singleton l c ih =>
    by_cases hc : key c = key b
    · exact ⟨c, isLast_append_singleton.2 (.inl rfl), hc⟩
    · rcases List.mem_append.1 h with hb | hb
      · obtain ⟨b', hlast, hkey⟩ := ih hb
        exact ⟨b', isLast_append_singleton.2 (.inr ⟨hkey ▸ hc, hlast⟩), hkey⟩
      · exact absurd (congrArg key (List.mem_singleton.1 hb).symm) hc

end

namespace SortedMap

variable {κ α β : Type} [KeyOrder κ] (m : SortedMap κ α) {k k' : κ}

theorem get?_erase_self (k : κ) : (m.erase k).get? k = none := by
  rw [Option.eq_none_iff_forall_ne_some]
  intro a h
  obtain ⟨_, hk⟩ := List.mem_filter.1 (get?_eq_some_iff.1 h)
  simp [KeyOrder.irrefl] at hk

theorem get?_erase_of_ne (h : k' ≠ k) : (m.erase k).get? k' = m.get? k' := by
  apply Option.ext
  intro a
  rw [get?_eq_some_iff, get?_eq_some_iff]
  refine List.mem_filter.trans (and_iff_left_of_imp fun _ => ?_)
  by_contra hneither
  exact h (KeyOrder.neither_iff.1 (by simpa using hneither))

/-- The map with `k` leading to what is given, or nowhere if that is nothing. -/
def put (k : κ) : Option α → SortedMap κ α
  | some a => m.insert k a
  | none => m.erase k

theorem get?_put_self (k : κ) (a? : Option α) : (m.put k a?).get? k = a? := by
  cases a? with
  | none => exact m.get?_erase_self k
  | some a => exact m.get?_insert_self k a

theorem get?_put_of_ne (a? : Option α) (h : k' ≠ k) : (m.put k a?).get? k' = m.get? k' := by
  cases a? with
  | none => exact m.get?_erase_of_ne h
  | some a => exact m.get?_insert_of_ne a h

variable (key : β → κ) (val : β → Option α)

/-- The map with several more entries, one after another. -/
def putMany (l : List β) : SortedMap κ α := l.foldl (fun m b => m.put (key b) (val b)) m

theorem get?_putMany_eq_some_iff {l : List β} {a : α} :
    (empty.putMany key val l).get? k = some a ↔
      ∃ b, IsLast key l b ∧ key b = k ∧ val b = some a := by
  induction l using List.reverseRecOn with
  | nil =>
    refine iff_of_false nofun ?_
    rintro ⟨b, hb, _⟩
    exact absurd hb.mem List.not_mem_nil
  | append_singleton l c ih =>
    have hput : empty.putMany key val (l ++ [c]) = (empty.putMany key val l).put (key c) (val c) :=
      List.foldl_append
    rw [hput]
    by_cases hk : k = key c
    · subst hk
      rw [get?_put_self]
      constructor
      · exact fun hval => ⟨c, isLast_append_singleton.2 (.inl rfl), rfl, hval⟩
      · rintro ⟨b, hb, hkey, hval⟩
        rcases isLast_append_singleton.1 hb with rfl | ⟨hne, _⟩
        · exact hval
        · exact absurd hkey.symm hne
    · rw [get?_put_of_ne _ _ hk, ih]
      refine exists_congr fun b => ⟨?_, ?_⟩
      · rintro ⟨hb, rfl, hval⟩
        exact ⟨isLast_append_singleton.2 (.inr ⟨Ne.symm hk, hb⟩), rfl, hval⟩
      · rintro ⟨hb, rfl, hval⟩
        rcases isLast_append_singleton.1 hb with rfl | ⟨_, hb⟩
        · exact absurd rfl hk
        · exact ⟨hb, rfl, hval⟩

theorem get?_ofList_map_eq_some_iff (val : β → α) {l : List β} {a : α} :
    (ofList (l.map fun b => (key b, val b))).get? k = some a ↔
      ∃ b, IsLast key l b ∧ key b = k ∧ val b = a := by
  have hputs : ofList (l.map fun b => (key b, val b)) =
      empty.putMany key (fun b => some (val b)) l := List.foldl_map
  rw [hputs, get?_putMany_eq_some_iff]
  simp only [Option.some.injEq]

end SortedMap

end IngressGateway
