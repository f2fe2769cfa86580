import IngressGateway.CommandLine.Run
import IngressGateway.Proofs.Severities
import Mathlib.Data.List.Induction

/-!
How a collection of notifications comes about. Notifications are added one by one, or those of another collection
are, which has come about in the same way. What a collection holds, counts and picks out is determined by what has
been added, and so is whether a threshold is reached.
-/

set_option autoImplicit false

namespace IngressGateway

namespace Notifications

/-- What can be done to a collection. One that is added to it has come about in the same way. -/
inductive Operation where
  | push (severity : Severity) (source : ObjectRef) (message : String)
  | info (source : ObjectRef) (message : String)
  | warning (source : ObjectRef) (message : String)
  | error (source : ObjectRef) (message : String)
  | extend (operations : List Operation)

mutual

def perform (c : Notifications) : Operation → Notifications
  | .push severity source message => c.push severity source message
  | .info source message => c.info source message
  | .warning source message => c.warning source message
  | .error source message => c.error source message
  | .extend ops => c.extend (performAll .empty ops)

def performAll (c : Notifications) : List Operation → Notifications
  | [] => c
  | op :: ops => performAll (c.perform op) ops

end

mutual

/-- The notifications that an operation adds, those of other collections in the place where these are added. -/
def Operation.pushed : Operation → List Notification
  | .push severity source message => [⟨severity, message, source⟩]
  | .info source message => [⟨.info, message, source⟩]
  | .warning source message => [⟨.warning, message, source⟩]
  | .error source message => [⟨.error, message, source⟩]
  | .extend ops => pushedBy ops

def pushedBy : List Operation → List Notification
  | [] => []
  | op :: ops => op.pushed ++ pushedBy ops

end

mutual

theorem entries_perform (c : Notifications) (op : Operation) :
    (c.perform op).entries = c.entries ++ op.pushed := by
  cases op with
  | push => rfl
  | info => rfl
  | warning => rfl
  | error => rfl
  | extend ops =>
    rw [perform, extend, entries_performAll, Operation.pushed]
    rfl

theorem entries_performAll (c : Notifications) (ops : List Operation) :
    (c.performAll ops).entries = c.entries ++ pushedBy ops := by
  cases ops with
  | nil => exact (List.append_nil _).symm
  | cons op ops =>
    rw [performAll, entries_performAll, entries_perform, pushedBy, List.append_assoc]

end

/-! ### Severities -/

/-- That some notifications are those of a severity in a list: in order, and each one as often as it is there. -/
structure IsPick (s : Severity) (l picked : List Notification) : Prop where
  inOrder : picked.Sublist l
  each : ∀ n, picked.count n = if n.severity = s then l.count n else 0

/-- That a collection tells what has been done to it, and when it reaches a threshold. -/
structure IsRecordOf (ops : List Operation) (c : Notifications) : Prop where
  entries : c.entries = pushedBy ops
  counts : c.count .info + c.count .warning + c.count .error = c.size
  picks : ∀ s, IsPick s c.entries (c.ofSeverity s)
  warning : Threshold.warning.isReached c.maxSeverity? = true ↔
    ∃ n ∈ c.entries, n.severity = .warning ∨ n.severity = .error
  error : Threshold.error.isReached c.maxSeverity? = true ↔ ∃ n ∈ c.entries, n.severity = .error
  never : Threshold.never.isReached c.maxSeverity? = false
  stays : ∀ (t : Threshold) more, t.isReached c.maxSeverity? = true →
    t.isReached (c.performAll more).maxSeverity? = true
  joins : ∀ (t : Threshold) d, t.isReached (c.extend d).maxSeverity? =
    (t.isReached c.maxSeverity? || t.isReached d.maxSeverity?)

theorem isPick_ofSeverity (c : Notifications) (s : Severity) : IsPick s c.entries (c.ofSeverity s) where
  inOrder := List.filter_sublist
  each n := by
    unfold ofSeverity
    split
    case isTrue h => exact List.count_filter (decide_eq_true h)
    case isFalse h => exact List.count_eq_zero.2 fun hn => h (of_decide_eq_true (List.mem_filter.1 hn).2)

theorem count_add_count_add_count (c : Notifications) :
    c.count .info + c.count .warning + c.count .error = c.size := by
  obtain ⟨l⟩ := c
  induction l with
  | nil => rfl
  | cons n l ih =>
    change (mk ([n] ++ l)).count .info + (mk ([n] ++ l)).count .warning + (mk ([n] ++ l)).count .error =
      l.length + 1
    change _ = l.length at ih
    have hone : (mk [n]).count .info + (mk [n]).count .warning + (mk [n]).count .error = 1 := by
      cases hn : n.severity <;> simp [count, ofSeverity, hn]
    simp only [count_append]
    omega

/-! ### Thresholds -/

theorem isReached_maxSeverity?_concat (t : Threshold) (l : List Notification) (n : Notification) :
    t.isReached (mk (l ++ [n])).maxSeverity? =
      (t.isReached (mk l).maxSeverity? || t.isReached (some n.severity)) := by
  have hmax : (mk (l ++ [n])).maxSeverity? =
      some ((mk l).maxSeverity?.elim n.severity fun s => s.worse n.severity) := by
    simp only [maxSeverity?, List.foldl_append, List.foldl_cons, List.foldl_nil]
    cases List.foldl _ none l <;> rfl
  rw [hmax]
  cases (mk l).maxSeverity? with
  | none => cases t <;> cases n.severity <;> rfl
  | some s => cases t <;> cases s <;> cases n.severity <;> rfl

theorem isReached_maxSeverity? (t : Threshold) (c : Notifications) :
    t.isReached c.maxSeverity? = c.entries.any fun n => t.isReached (some n.severity) := by
  obtain ⟨l⟩ := c
  induction l using List.reverseRecOn with
  | nil => cases t <;> rfl
  | append_singleton l n ih =>
    rw [isReached_maxSeverity?_concat, ih, List.any_append, List.any_cons, List.any_nil, Bool.or_false]

theorem isReached_warning_iff (s : Severity) :
    Threshold.warning.isReached (some s) = true ↔ s = .warning ∨ s = .error := by
  cases s <;> decide

theorem isReached_error_iff (s : Severity) : Threshold.error.isReached (some s) = true ↔ s = .error := by
  cases s <;> decide

theorem isReached_append (t : Threshold) (l l' : List Notification) :
    t.isReached (mk (l ++ l')).maxSeverity? =
      (t.isReached (mk l).maxSeverity? || t.isReached (mk l').maxSeverity?) := by
  simp only [isReached_maxSeverity?, List.any_append]

theorem isRecordOf_performAll (ops : List Operation) : IsRecordOf ops (performAll .empty ops) where
  entries := entries_performAll .empty ops
  counts := count_add_count_add_count _
  picks := isPick_ofSeverity _
  warning := by simp only [isReached_maxSeverity?, List.any_eq_true, isReached_warning_iff]
  error := by simp only [isReached_maxSeverity?, List.any_eq_true, isReached_error_iff]
  never := rfl
  stays t more h := by
    have hentries := entries_performAll (performAll .empty ops) more
    change t.isReached (mk (Notifications.entries _)).maxSeverity? = true
    rw [hentries, isReached_append]
    exact Bool.or_eq_true_iff.2 (.inl h)
  joins t d := isReached_append t _ _

end Notifications

namespace CommandLine

open Manifest (SourceFile)

/-- A run of the command fails if and only if its conversion has something to say that is grave enough. -/
theorem failed_run_iff {files : List SourceFile} {output : OutputFormat} {failOn : Threshold}
    {settings : Settings} {r : RunResult} (h : run files output failOn settings = .ok r) :
    ∃ snapshot, Manifest.collect files = .ok snapshot ∧ (r.failed = true ↔
      ∃ n ∈ (convert snapshot settings).notifications.entries, failOn.isReached (some n.severity) = true) := by
  unfold run at h
  split at h
  case h_1 => cases h
  case h_2 snapshot hcollected =>
    cases h
    refine ⟨snapshot, hcollected, ?_⟩
    rw [resultOf, Notifications.isReached_maxSeverity?, List.any_eq_true]

end CommandLine

end IngressGateway
