import IngressGateway.KeyOrder

/-!
Finite maps as lists of entries in strictly ascending key order. The order is part of the type, so two
maps with the same entries are equal, and every listing of a map is in key order.
-/

set_option autoImplicit false

namespace IngressGateway

open KeyOrder (before)

variable {κ α β : Type} [KeyOrder κ]

/-- Keys stand in strictly ascending order. -/
def Ascending (entries : List (κ × α)) : Prop :=
  entries.Pairwise fun a b => before a.1 b.1 = true

/-- A finite map from `κ` to `α`. -/
structure SortedMap (κ α : Type) [KeyOrder κ] where
  entries : List (κ × α)
  ascending : Ascending entries

namespace SortedMap

@[ext] theorem ext {m n : SortedMap κ α} (h : m.entries = n.entries) : m = n := by
  cases m; cases n; cases h; rfl

instance [DecidableEq κ] [DecidableEq α] : DecidableEq (SortedMap κ α) := fun m n =>
  if h : m.entries = n.entries then isTrue (ext h) else isFalse fun e => h (e ▸ rfl)

/-- The map without entries. -/
def empty : SortedMap κ α := ⟨[], List.Pairwise.nil⟩

instance : Inhabited (SortedMap κ α) := ⟨empty⟩

/-- Puts an entry in its place; an entry with the same key gives way to it. -/
def insertEntry (k : κ) (a : α) : List (κ × α) → List (κ × α)
  | [] => [(k, a)]
  | e :: rest =>
    if before k e.1 then (k, a) :: e :: rest
    else if before e.1 k then e :: insertEntry k a rest
    else (k, a) :: rest

theorem mem_insertEntry {k : κ} {a : α} {x : κ × α} {entries : List (κ × α)}
    (h : x ∈ insertEntry k a entries) : x = (k, a) ∨ x ∈ entries := by
  induction entries with
  | nil => simpa [insertEntry] using h
  | cons e rest ih =>
    simp only [insertEntry] at h
    split at h
    · simpa using h
    · split at h
      · rcases List.mem_cons.1 h with rfl | h
        · simp
        · rcases ih h with h | h
          · exact .inl h
          · exact .inr (List.mem_cons_of_mem _ h)
      · rcases List.mem_cons.1 h with rfl | h
        · simp
        · exact .inr (List.mem_cons_of_mem _ h)

theorem ascending_insertEntry (k : κ) (a : α) {entries : List (κ × α)} (h : Ascending entries) :
    Ascending (insertEntry k a entries) := by
  induction entries with
  | nil => simp [insertEntry, Ascending]
  | cons e rest ih =>
    obtain ⟨he, hr⟩ := List.pairwise_cons.1 h
    simp only [insertEntry]
    split
    case isTrue hk =>
      refine List.pairwise_cons.2 ⟨fun x hx => ?_, h⟩
      rcases List.mem_cons.1 hx with rfl | hx
      · exact hk
      · exact KeyOrder.trans _ _ _ hk (he x hx)
    case isFalse hk =>
      split
      case isTrue hk' =>
        refine List.pairwise_cons.2 ⟨fun x hx => ?_, ih hr⟩
        rcases mem_insertEntry hx with rfl | hx
        · exact hk'
        · exact he x hx
      case isFalse hk' =>
        have hkey : k = e.1 := KeyOrder.eq_of_neither _ _ (by simpa using hk) (by simpa using hk')
        exact List.pairwise_cons.2 ⟨fun x hx => by rw [hkey]; exact he x hx, hr⟩

/-- The map with `k` leading to `a`. -/
def insert (m : SortedMap κ α) (k : κ) (a : α) : SortedMap κ α :=
  ⟨insertEntry k a m.entries, ascending_insertEntry k a m.ascending⟩

/-- What `k` leads to. -/
def get? (m : SortedMap κ α) (k : κ) : Option α :=
  (m.entries.find? fun e => !before e.1 k && !before k e.1).map Prod.snd

/-- Whether `k` leads anywhere. -/
def contains (m : SortedMap κ α) (k : κ) : Bool := (m.get? k).isSome

/-- The map without `k`. -/
def erase (m : SortedMap κ α) (k : κ) : SortedMap κ α :=
  ⟨m.entries.filter fun e => before e.1 k || before k e.1, m.ascending.filter _⟩

/-- The map with `k` leading to `a`, unless `k` leads somewhere already. -/
def insertIfNew (m : SortedMap κ α) (k : κ) (a : α) : SortedMap κ α :=
  if m.contains k then m else m.insert k a

/-- The map of a list of entries; the last entry of a key counts. -/
def ofList (entries : List (κ × α)) : SortedMap κ α :=
  entries.foldl (fun m e => m.insert e.1 e.2) empty

/-- Keys in order. -/
def keys (m : SortedMap κ α) : List κ := m.entries.map Prod.fst

/-- Values in the order of their keys. -/
def values (m : SortedMap κ α) : List α := m.entries.map Prod.snd

def size (m : SortedMap κ α) : Nat := m.entries.length

/-- Whether the map has no entries. -/
def isEmpty (m : SortedMap κ α) : Bool := m.entries.isEmpty

def mapValues (f : α → β) (m : SortedMap κ α) : SortedMap κ β :=
  ⟨m.entries.map fun e => (e.1, f e.2), by
    have h := m.ascending
    unfold Ascending at *
    rw [List.pairwise_map]
    exact h⟩

@[simp] theorem entries_empty : (empty : SortedMap κ α).entries = [] := rfl

@[simp] theorem get?_empty (k : κ) : (empty : SortedMap κ α).get? k = none := rfl

end SortedMap

end IngressGateway
