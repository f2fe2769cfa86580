import IngressGateway.Routing.Reference
import Mathlib.Logic.Basic

/-!
The syntax of references. What is written `name` or `namespace/name`, with parts that are not empty and have no
slash, is read as what it says, and nothing else is read. The two ways to write a reference exclude each other, so
what is read was written in one way only.
-/

set_option autoImplicit false

namespace IngressGateway.Routing

/-- A part of a reference: it is not empty, and no slash parts it any further. -/
def IsWord (s : String) : Prop := s ≠ "" ∧ '/' ∉ s.toList

/-- That a reader takes what is written `name` or `namespace/name`, as what it says, and nothing else. -/
structure IsFaithful (read : String → String → Option ObjectKey) : Prop where
  accepts : ∀ r ownerNs, (read r ownerNs).isSome = true ↔
    r.toList.count '/' ≤ 1 ∧ ∀ part ∈ r.toList.splitOn '/', part ≠ []
  displayed : ∀ key ownerNs, IsWord key.ns → IsWord key.name → read key.display ownerNs = some key
  named : ∀ name ownerNs, IsWord name → read name ownerNs = some ⟨ownerNs, name⟩
  reading : ∀ r ownerNs key, read r ownerNs = some key →
    Xor (r = key.display) (r = key.name ∧ key.ns = ownerNs)

variable {r ownerNs : String} {key : ObjectKey}

theorem isWord_ofList {p : List Char} : IsWord (String.ofList p) ↔ p ≠ [] ∧ '/' ∉ p := by
  simp [IsWord]

theorem slash_mem_display (key : ObjectKey) : '/' ∈ key.display.toList := by
  simp [ObjectKey.display]

theorem pieces_display (hns : IsWord key.ns) (hname : IsWord key.name) :
    Text.pieces '/' key.display.toList = [key.ns.toList, key.name.toList] := by
  refine Text.pieces_eq_iff.2 ⟨List.cons_ne_nil _ _, ?_, ?_⟩
  · simpa using ⟨hns.2, hname.2⟩
  · simp [ObjectKey.display]

theorem pieces_of_isWord {s : String} (h : IsWord s) : Text.pieces '/' s.toList = [s.toList] :=
  Text.pieces_eq_iff.2 ⟨List.cons_ne_nil _ _, by simpa using h.2, by simp⟩

theorem readReference?_eq_some_iff :
    readReference? r ownerNs = some key ↔ IsWord key.name ∧
      (r = key.name ∧ key.ns = ownerNs ∨ r = key.display ∧ IsWord key.ns) := by
  constructor
  · intro h
    unfold readReference? at h
    split at h
    next name hpieces =>
      obtain ⟨hne, h⟩ := Option.ite_none_left_eq_some.1 h
      cases h
      obtain ⟨-, hsep, hr⟩ := Text.pieces_eq_iff.1 hpieces
      refine ⟨isWord_ofList.2 ⟨hne, hsep name (by simp)⟩, .inl ⟨?_, rfl⟩⟩
      rw [← String.toList_inj, hr]
      simp
    next ns name hpieces =>
      obtain ⟨hne, h⟩ := Option.ite_none_left_eq_some.1 h
      cases h
      obtain ⟨hns, hname⟩ := not_or.1 hne
      obtain ⟨-, hsep, hr⟩ := Text.pieces_eq_iff.1 hpieces
      refine ⟨isWord_ofList.2 ⟨hname, hsep name (by simp)⟩,
        .inr ⟨?_, isWord_ofList.2 ⟨hns, hsep ns (by simp)⟩⟩⟩
      rw [← String.toList_inj, hr]
      simp [ObjectKey.display]
    next => cases h
  · rintro ⟨hname, ⟨rfl, rfl⟩ | ⟨rfl, hns⟩⟩
    · rw [readReference?, pieces_of_isWord hname]
      simp [hname.1]
    · rw [readReference?, pieces_display hns hname]
      simp [hname.1, hns.1]

theorem isSome_readReference?_iff (r ownerNs : String) :
    (readReference? r ownerNs).isSome = true ↔
      r.toList.count '/' ≤ 1 ∧ ∀ part ∈ r.toList.splitOn '/', part ≠ [] := by
  have hlength := Text.length_pieces '/' r.toList
  rw [← Text.pieces_eq_splitOn, readReference?]
  generalize Text.pieces '/' r.toList = parts at hlength ⊢
  rcases parts with _ | ⟨a, _ | ⟨b, _ | ⟨c, rest⟩⟩⟩
  · cases hlength
  · have hnone : r.toList.count '/' = 0 := by simpa using hlength.symm
    by_cases ha : a = [] <;> simp [ha, hnone]
  · have hone : r.toList.count '/' = 1 := by simpa using hlength.symm
    by_cases ha : a = [] <;> by_cases hb : b = [] <;> simp [ha, hb, hone]
  · have hmany : ¬ r.toList.count '/' ≤ 1 := by
      simp only [List.length_cons] at hlength
      omega
    simp [hmany]

/-- A reference is read as `name` or as `namespace/name`, and only in one of these ways. -/
theorem isFaithful_readReference? : IsFaithful readReference? where
  accepts := isSome_readReference?_iff
  displayed key ownerNs hns hname := readReference?_eq_some_iff.2 ⟨hname, .inr ⟨rfl, hns⟩⟩
  named name ownerNs hname := readReference?_eq_some_iff.2 ⟨hname, .inl ⟨rfl, rfl⟩⟩
  reading r ownerNs key h := by
    obtain ⟨hname, ⟨hr, hns⟩ | ⟨hr, -⟩⟩ := readReference?_eq_some_iff.1 h
    · refine .inr ⟨⟨hr, hns⟩, fun hdisplay => hname.2 ?_⟩
      rw [← hr, hdisplay]
      exact slash_mem_display key
    · refine .inl ⟨hr, fun ⟨hbare, _⟩ => hname.2 ?_⟩
      rw [← hbare, hr]
      exact slash_mem_display key

end IngressGateway.Routing
