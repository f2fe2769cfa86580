import IngressGateway.Json.Value
import IngressGateway.Proofs.Lookup

/-!
Members of objects, in the order in which they are written and in the order of their names. As long as no
two members of an object share a name, a member is found in either order.
-/

set_option autoImplicit false

namespace IngressGateway.Json

variable {name : String} {ms ms' : List (String × Json)}

/-! ### Looking up a member -/

theorem find?_append :
    find? name (ms ++ ms') = (find? name ms <|> find? name ms') := by
  induction ms with
  | nil => rfl
  | cons m ms ih =>
    rw [List.cons_append, find?, find?]
    split
    · rfl
    · exact ih

theorem find?_eq_none (h : ∀ m ∈ ms, m.1 ≠ name) : find? name ms = none := by
  induction ms with
  | nil => rfl
  | cons m ms ih =>
    rw [find?, if_neg (h m List.mem_cons_self)]
    exact ih fun m' hm' => h m' (List.mem_cons_of_mem _ hm')

theorem find?_append_left (h : ∀ m ∈ ms', m.1 ≠ name) : find? name (ms ++ ms') = find? name ms := by
  rw [find?_append, find?_eq_none h]
  cases find? name ms <;> rfl

theorem find?_append_right (h : ∀ m ∈ ms, m.1 ≠ name) : find? name (ms ++ ms') = find? name ms' := by
  rw [find?_append, find?_eq_none h]
  rfl

theorem mem_of_find? {j : Json} (h : find? name ms = some j) : (name, j) ∈ ms := by
  induction ms with
  | nil => cases h
  | cons m ms ih =>
    obtain ⟨n, v⟩ := m
    rw [find?] at h
    split at h
    case isTrue hn =>
      cases h
      exact hn ▸ List.mem_cons_self
    case isFalse => exact List.mem_cons_of_mem _ (ih h)

theorem find?_eq_some_iff (hn : (ms.map Prod.fst).Nodup) {j : Json} :
    find? name ms = some j ↔ (name, j) ∈ ms := by
  refine ⟨mem_of_find?, fun hj => ?_⟩
  cases hf : find? name ms with
  | none =>
    exfalso
    obtain ⟨before, after, rfl⟩ := List.append_of_mem hj
    rw [find?_append, find?, if_pos rfl] at hf
    cases hb : find? name before <;> simp [hb] at hf
  | some j' =>
    have he : (name, j') = (name, j) := List.inj_on_of_nodup_map hn (mem_of_find? hf) hj rfl
    rw [(Prod.mk.inj he).2]

theorem find?_perm (hp : ms.Perm ms') (hn : (ms.map Prod.fst).Nodup) :
    find? name ms = find? name ms' := by
  have hn' : (ms'.map Prod.fst).Nodup := (hp.map Prod.fst).nodup_iff.1 hn
  apply Option.ext
  intro j
  rw [find?_eq_some_iff hn, find?_eq_some_iff hn', hp.mem_iff]

theorem find?_map (f : Json → Json) :
    find? name (ms.map fun m => (m.1, f m.2)) = (find? name ms).map f := by
  induction ms with
  | nil => rfl
  | cons m ms ih =>
    rw [List.map_cons, find?, find?]
    split
    · rfl
    · exact ih

/-! ### Orders of members -/

theorem sortedItems_eq_map (js : List Json) : sortedItems js = js.map sorted := by
  induction js with
  | nil => rfl
  | cons j js ih => rw [sortedItems, List.map_cons, ih]

theorem sortedMembers_eq_map (ms : List (String × Json)) :
    sortedMembers ms = ms.map fun m => (m.1, m.2.sorted) := by
  induction ms with
  | nil => rfl
  | cons m ms ih => rw [sortedMembers, List.map_cons, ih, sortedMember]

/-- The orders in which the members of objects may stand. -/
inductive Layout where
  | written
  | byName

namespace Layout

/-- The value with the members of every object in that order. -/
def apply : Layout → Json → Json
  | .written, j => j
  | .byName, j => j.sorted

def applyMembers (l : Layout) (ms : List (String × Json)) : List (String × Json) :=
  match l with
  | .written => ms
  | .byName => (SortedMap.ofList (ms.map fun m => (m.1, m.2.sorted))).entries

variable (l : Layout)

theorem apply_arr (js : List Json) : l.apply (.arr js) = .arr (js.map l.apply) := by
  cases l with
  | written =>
    have hid : apply .written = id := rfl
    rw [hid, List.map_id]
    rfl
  | byName => exact congrArg Json.arr (sortedItems_eq_map js)

theorem apply_obj (ms : List (String × Json)) : l.apply (.obj ms) = .obj (l.applyMembers ms) := by
  cases l with
  | written => rfl
  | byName =>
    change Json.obj (SortedMap.ofList (sortedMembers ms)).entries = _
    rw [sortedMembers_eq_map]
    rfl

theorem apply_str (s : String) : l.apply (.str s) = .str s := by cases l <;> rfl

theorem apply_bool (b : Bool) : l.apply (.bool b) = .bool b := by cases l <;> rfl

theorem apply_int (n : Int) : l.apply (.int n) = .int n := by cases l <;> rfl

theorem apply_ne_null {j : Json} (h : j ≠ .null) : l.apply j ≠ .null := by
  cases l with
  | written => exact h
  | byName =>
    cases j with
    | null => exact absurd rfl h
    | bool | int | decimal | str | arr | obj => exact Json.noConfusion

theorem find?_applyMembers (hn : (ms.map Prod.fst).Nodup) :
    find? name (l.applyMembers ms) = (find? name ms).map l.apply := by
  cases l with
  | written =>
    change find? name ms = (find? name ms).map id
    rw [Option.map_id, id]
  | byName =>
    have hnames : ((ms.map fun m => (m.1, m.2.sorted)).map Prod.fst).Nodup := by
      rwa [List.map_map]
    rw [← find?_map]
    exact (find?_perm (SortedMap.entries_ofList_perm hnames).symm hnames).symm

/-- The members of a map stand in the order of their names already. -/
theorem applyMembers_entries (m : SortedMap String Json) :
    l.applyMembers m.entries = m.entries.map fun e => (e.1, l.apply e.2) := by
  cases l with
  | written => exact (List.map_id m.entries).symm
  | byName => exact congrArg SortedMap.entries (SortedMap.ofList_entries (m.mapValues sorted))

end Layout

end IngressGateway.Json
