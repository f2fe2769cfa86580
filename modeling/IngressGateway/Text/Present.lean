/-!
Texts that may be missing. An empty text counts as missing.
-/

set_option autoImplicit false

namespace IngressGateway.Text

/-- A text that is there and not empty. -/
def present? (s : Option String) : Option String := s.filter fun t => !t.isEmpty

/-- Whether a text is there and not empty. -/
def isPresent (s : Option String) : Bool := s.any fun t => !t.isEmpty

theorem isPresent_eq_isSome (s : Option String) : isPresent s = (present? s).isSome := by
  cases s with
  | none => rfl
  | some t => cases h : t.isEmpty <;> simp [isPresent, present?, Option.filter, h]

theorem present?_eq_some_iff {s : Option String} {t : String} : present? s = some t ↔ s = some t ∧ t ≠ "" := by
  rw [present?, Option.filter_eq_some_iff]
  simp

theorem present?_eq_none_iff {s : Option String} : present? s = none ↔ s = none ∨ s = some "" := by
  cases s with
  | none => simp [present?]
  | some t => simp [present?, Option.filter_eq_none_iff]

end IngressGateway.Text
