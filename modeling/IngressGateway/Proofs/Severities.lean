import IngressGateway.Notification.Basic
import Mathlib.Algebra.Ring.Nat
import Mathlib.Data.List.Basic

/-!
Notifications by severity. What is picked out of a collection by severity is picked out of its parts, in order.
-/

set_option autoImplicit false

namespace IngressGateway.Notifications

variable {α : Type}

theorem ofSeverity_append (l l' : List Notification) (s : Severity) :
    (mk (l ++ l')).ofSeverity s = (mk l).ofSeverity s ++ (mk l').ofSeverity s :=
  List.filter_append l l'

theorem ofSeverity_flatMap (l : List α) (f : α → List Notification) (s : Severity) :
    (mk (l.flatMap f)).ofSeverity s = l.flatMap fun a => (mk (f a)).ofSeverity s :=
  List.filter_flatMap

theorem ofSeverity_eq_nil_iff {l : List Notification} {s : Severity} :
    (mk l).ofSeverity s = [] ↔ ∀ n ∈ l, n.severity ≠ s := by
  simp only [ofSeverity, List.filter_eq_nil_iff, decide_eq_true_iff, ne_eq]

theorem ofSeverity_map (l : List α) {f : α → Notification} {s : Severity}
    (h : ∀ a, (f a).severity = s) (s' : Severity) :
    (mk (l.map f)).ofSeverity s' = if s' = s then l.map f else [] := by
  unfold ofSeverity
  split
  case isTrue hs =>
    refine List.filter_eq_self.2 fun n hn => ?_
    obtain ⟨a, -, rfl⟩ := List.mem_map.1 hn
    rw [h, hs, decide_eq_true rfl]
  case isFalse hs =>
    refine List.filter_eq_nil_iff.2 fun n hn => ?_
    obtain ⟨a, -, rfl⟩ := List.mem_map.1 hn
    rw [h, decide_eq_true_iff]
    exact Ne.symm hs

theorem count_eq_count_severity (l : List Notification) (s : Severity) :
    (mk l).count s = (l.map Notification.severity).count s := by
  rw [count, ofSeverity, ← List.countP_eq_length_filter, List.count, List.countP_map]
  exact List.countP_congr fun n _ => by simp

theorem count_append (l l' : List Notification) (s : Severity) :
    (mk (l ++ l')).count s = (mk l).count s + (mk l').count s := by
  rw [count, ofSeverity_append, List.length_append]
  rfl

theorem count_flatMap (l : List α) (f : α → List Notification) (s : Severity) :
    (mk (l.flatMap f)).count s = (l.map fun a => (mk (f a)).count s).sum := by
  rw [count, ofSeverity_flatMap, List.length_flatMap]
  rfl

theorem count_pos_of_mem {l : List Notification} {n : Notification} (h : n ∈ l) :
    0 < (mk l).count n.severity :=
  List.length_pos_of_mem (List.mem_filter.2 ⟨h, decide_eq_true rfl⟩)

theorem count_le_of_sublist {l l' : List Notification} (h : l.Sublist l') (s : Severity) :
    (mk l).count s ≤ (mk l').count s := (h.filter _).length_le

end IngressGateway.Notifications
