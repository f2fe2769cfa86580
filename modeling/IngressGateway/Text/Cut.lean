/-!
Cutting text at a separator character.
-/

set_option autoImplicit false

namespace IngressGateway.Text

/-- The stretches between the separators, in order; there is one more of them than separators. -/
def pieces (sep : Char) : List Char → List (List Char)
  | [] => [[]]
  | c :: rest =>
    if c = sep then [] :: pieces sep rest
    else match pieces sep rest with
      | [] => [[c]]
      | p :: ps => (c :: p) :: ps

/-- What stands before and after the first separator. -/
def cutFirst? (sep : Char) : List Char → Option (List Char × List Char)
  | [] => none
  | c :: rest =>
    if c = sep then some ([], rest)
    else (cutFirst? sep rest).map fun p => (c :: p.1, p.2)

/-- What stands before and after the last separator. -/
def cutLast? (sep : Char) : List Char → Option (List Char × List Char)
  | [] => none
  | c :: rest =>
    match cutLast? sep rest with
    | some p => some (c :: p.1, p.2)
    | none => if c = sep then some ([], rest) else none

/-- The text without the separators at its start. -/
def dropStart (sep : Char) (s : List Char) : List Char := s.dropWhile (· = sep)

/-- The text without the separators at its end. -/
def dropEnd (sep : Char) : List Char → List Char
  | [] => []
  | c :: rest =>
    match dropEnd sep rest with
    | [] => if c = sep then [] else [c]
    | kept => c :: kept

/-- The text without the separators at both ends. -/
def trim (sep : Char) (s : List Char) : List Char := dropEnd sep (dropStart sep s)

/-- The rest of a text that starts with `start`. -/
def stripStart? : (start : List Char) → List Char → Option (List Char)
  | [], s => some s
  | _ :: _, [] => none
  | c :: start, d :: s => if c = d then stripStart? start s else none

/-- What follows the first place where `mark` stands. -/
def after? (mark : List Char) : List Char → Option (List Char)
  | [] => stripStart? mark []
  | c :: rest =>
    match stripStart? mark (c :: rest) with
    | some s => some s
    | none => after? mark rest

theorem pieces_ne_nil (sep : Char) (s : List Char) : pieces sep s ≠ [] := by
  cases s with
  | nil => simp [pieces]
  | cons c rest =>
    simp only [pieces]
    split
    · simp
    · split <;> simp

theorem pieces_eq_splitOn (sep : Char) (s : List Char) : pieces sep s = s.splitOn sep := by
  induction s with
  | nil => rfl
  | cons c rest ih =>
    obtain ⟨p, ps, hp⟩ := List.exists_cons_of_ne_nil (pieces_ne_nil sep rest)
    rw [pieces, List.splitOn_cons_eq_if_modifyHead, ← ih, hp]
    by_cases h : c = sep <;> simp [h]

theorem length_pieces (sep : Char) (s : List Char) : (pieces sep s).length = s.count sep + 1 := by
  induction s with
  | nil => rfl
  | cons c rest ih =>
    obtain ⟨p, ps, hp⟩ := List.exists_cons_of_ne_nil (pieces_ne_nil sep rest)
    rw [hp] at ih
    rw [pieces, List.count_cons, hp]
    by_cases h : c = sep <;> simp_all

theorem not_mem_of_mem_pieces {sep : Char} {s p : List Char} (h : p ∈ pieces sep s) : sep ∉ p := by
  induction s generalizing p with
  | nil =>
    obtain rfl := List.mem_singleton.1 h
    exact List.not_mem_nil
  | cons c rest ih =>
    obtain ⟨q, qs, hq⟩ := List.exists_cons_of_ne_nil (pieces_ne_nil sep rest)
    rw [hq] at ih
    rw [pieces, hq] at h
    split at h
    · rcases List.mem_cons.1 h with rfl | h
      · exact List.not_mem_nil
      · exact ih h
    next hc =>
      rcases List.mem_cons.1 h with rfl | h
      · intro hsep
        rcases List.mem_cons.1 hsep with rfl | hsep
        · exact hc rfl
        · exact ih List.mem_cons_self hsep
      · exact ih (List.mem_cons_of_mem q h)

/-- Pieces are told by having no separator and by making up the text with separators in between. -/
theorem pieces_eq_iff {sep : Char} {s : List Char} {ps : List (List Char)} :
    pieces sep s = ps ↔ ps ≠ [] ∧ (∀ p ∈ ps, sep ∉ p) ∧ s = [sep].intercalate ps := by
  constructor
  · rintro rfl
    refine ⟨pieces_ne_nil sep s, fun p => not_mem_of_mem_pieces, ?_⟩
    rw [pieces_eq_splitOn, List.intercalate_splitOn]
  · rintro ⟨hne, hsep, rfl⟩
    rw [pieces_eq_splitOn, List.splitOn_intercalate sep hsep hne]

theorem cutLast?_eq_none_iff {sep : Char} {s : List Char} : cutLast? sep s = none ↔ sep ∉ s := by
  induction s with
  | nil => simp [cutLast?]
  | cons c rest ih =>
    rw [cutLast?, List.mem_cons, not_or]
    cases hs : cutLast? sep rest with
    | none => simp [ih.1 hs, eq_comm]
    | some p => simp [← ih, hs]

theorem eq_of_cutLast? {sep : Char} {s before after : List Char} (h : cutLast? sep s = some (before, after)) :
    s = before ++ sep :: after ∧ sep ∉ after := by
  induction s generalizing before after with
  | nil => cases h
  | cons c rest ih =>
    rw [cutLast?] at h
    cases hs : cutLast? sep rest with
    | none =>
      rw [hs] at h
      obtain ⟨rfl, hcut⟩ := Option.ite_none_right_eq_some.1 h
      cases hcut
      exact ⟨rfl, cutLast?_eq_none_iff.1 hs⟩
    | some p =>
      rw [hs] at h
      cases h
      obtain ⟨hrest, hsep⟩ := ih hs
      exact ⟨congrArg (List.cons c) hrest, hsep⟩

theorem dropEnd_concat (sep : Char) (s : List Char) (c : Char) :
    dropEnd sep (s ++ [c]) = if c = sep then dropEnd sep s else s ++ [c] := by
  induction s with
  | nil => rfl
  | cons d s ih =>
    rw [List.cons_append, dropEnd, ih]
    by_cases hc : c = sep
    · rw [if_pos hc, if_pos hc, dropEnd]
    · rw [if_neg hc, if_neg hc]
      cases s <;> rfl

end IngressGateway.Text
