import IngressGateway.Json.Codec
import IngressGateway.Proofs.MemberOrder

/-!
Values that are written and read back. Each member of a record has a name of its own and looks at that name
only, so the members of a record do not get in each other's way: if every member finds its value again, the
record does, in whatever order its members stand. An optional member takes null for nothing, so its values
must not be written as null.
-/

set_option autoImplicit false

namespace IngressGateway

open Json (Layout)

/-! ### Codecs -/

namespace Codec

variable {α β : Type}

/-- The value is read back from what it is written as, with the members of objects in that order. -/
def Restores (c : Codec α) (l : Layout) (a : α) : Prop :=
  ∀ rule, c.read rule (l.apply (c.write a)) = some a

class Lossless (c : Codec α) : Prop where
  restores : ∀ l a, c.Restores l a

class NonNull (c : Codec α) : Prop where
  ne_null : ∀ a, c.write a ≠ .null

def Yields (c : Codec α) (p : α → Prop) : Prop := ∀ rule j a, c.read rule j = some a → p a

theorem restores_any (j : Json) : any.Restores .written j := fun _ => rfl

instance : text.Lossless where
  restores l s rule := by
    change (l.apply (.str s)).text? = some s
    rw [Layout.apply_str]
    rfl

instance : text.NonNull := ⟨nofun⟩

instance : flag.Lossless where
  restores l b rule := by
    change flag.read rule (l.apply (.bool b)) = some b
    rw [Layout.apply_bool]
    rfl

instance : flag.NonNull := ⟨nofun⟩

instance (lo hi : Int) : (bounded lo hi).Lossless where
  restores l n rule := by
    change (bounded lo hi).read rule (l.apply (.int n.val)) = some n
    rw [Layout.apply_int]
    exact dif_pos n.property

instance (lo hi : Int) : (bounded lo hi).NonNull := ⟨nofun⟩

instance : unsigned16.Lossless := inferInstanceAs (bounded _ _).Lossless

instance : unsigned16.NonNull := inferInstanceAs (bounded _ _).NonNull

instance : signed32.Lossless := inferInstanceAs (bounded _ _).Lossless

instance : signed32.NonNull := inferInstanceAs (bounded _ _).NonNull

instance : signed64.Lossless := inferInstanceAs (bounded _ _).Lossless

instance : signed64.NonNull := inferInstanceAs (bounded _ _).NonNull

theorem lossless_named {name : α → String} {values : List α}
    (h : ∀ a, (values.find? fun b => name b = name a) = some a) : (named name values).Lossless where
  restores l a rule := by
    change (named name values).read rule (l.apply (.str (name a))) = some a
    rw [Layout.apply_str]
    exact h a

instance (name : α → String) (values : List α) : (named name values).NonNull := ⟨nofun⟩

theorem mapM_map_eq {f : β → Option α} {g : α → β} (h : ∀ a, f (g a) = some a) (as : List α) :
    (as.map g).mapM f = some as := by
  induction as with
  | nil => rfl
  | cons a as ih =>
    rw [List.map_cons, List.mapM_cons, h, ih]
    rfl

instance (c : Codec α) [c.Lossless] : c.list.Lossless where
  restores l as rule := by
    change c.list.read rule (l.apply (.arr (as.map c.write))) = some as
    rw [Layout.apply_arr, List.map_map]
    exact mapM_map_eq (fun a => Lossless.restores l a rule) as

instance (c : Codec α) : c.list.NonNull := ⟨nofun⟩

instance (c : Codec α) [c.Lossless] : c.map.Lossless where
  restores l m rule := by
    have hentries : (m.entries.map fun e => (e.1, l.apply (c.write e.2))).mapM
        (fun e => (c.read rule e.2).map fun a => (e.1, a)) = some m.entries :=
      mapM_map_eq (fun e => by rw [Lossless.restores l e.2 rule]; rfl) m.entries
    change c.map.read rule (l.apply (.obj (m.mapValues c.write).entries)) = some m
    rw [Layout.apply_obj, Layout.applyMembers_entries, SortedMap.mapValues, List.map_map]
    change Option.map SortedMap.ofList (List.mapM _ (m.entries.map _)) = some m
    rw [Function.comp_def, hentries, Option.map_some, SortedMap.ofList_entries]

instance (c : Codec α) : c.map.NonNull := ⟨nofun⟩

end Codec

/-! ### Records -/

namespace Record

variable {σ τ α β : Type}

/-- A part of a record finds the value `a` again in what is written for `x`, laid out in that order. It writes
and reads members of the given names only; if these are distinct, no other part gets in its way. -/
class Restores (r : Record σ α) (l : Layout) (x : σ) (names : outParam (List String))
    (a : outParam α) : Prop where
  named : ((r.write x).map Prod.fst).Sublist names
  restored : names.Nodup → ∀ rule ms,
    (∀ n ∈ names, Json.find? n ms = (Json.find? n (r.write x)).map l.apply) →
    r.read rule ms = some a

section

variable {l : Layout} {x : σ}

theorem Restores.mem_names {r : Record σ α} {ns : List String} {a : α} (h : r.Restores l x ns a) :
    ∀ m ∈ r.write x, m.1 ∈ ns :=
  fun _ hm => h.named.subset (List.mem_map_of_mem hm)

instance {r : Record σ α} {ns : List String} {a : α} (f : α → β) [h : r.Restores l x ns a] :
    (f <$> r).Restores l x ns (f a) where
  named := h.named
  restored hn rule ms hms := congrArg (Option.map f) (h.restored hn rule ms hms)

instance {r : Record σ (α → β)} {s : Record σ α} {ns ns' : List String} {f : α → β} {a : α}
    [h : r.Restores l x ns f] [h' : s.Restores l x ns' a] :
    (r <*> s).Restores l x (ns ++ ns') (f a) where
  named := by
    change ((r.write x ++ s.write x).map Prod.fst).Sublist _
    rw [List.map_append]
    exact h.named.append h'.named
  restored hn rule ms hms := by
    obtain ⟨hns, hns', hdisjoint⟩ := List.nodup_append.1 hn
    have hr : r.read rule ms = some f := by
      refine h.restored hns rule ms fun n hn => ?_
      have hother : ∀ m ∈ s.write x, m.1 ≠ n := fun m hm he =>
        hdisjoint n hn m.1 (h'.mem_names m hm) he.symm
      rw [hms n (List.mem_append_left _ hn)]
      exact congrArg (Option.map l.apply) (Json.find?_append_left hother)
    have hs : s.read rule ms = some a := by
      refine h'.restored hns' rule ms fun n hn => ?_
      have hother : ∀ m ∈ r.write x, m.1 ≠ n := fun m hm he =>
        hdisjoint m.1 (h.mem_names m hm) n hn he
      rw [hms n (List.mem_append_right _ hn)]
      exact congrArg (Option.map l.apply) (Json.find?_append_right hother)
    change ((r.read rule ms).bind fun f => (s.read rule ms).map f) = _
    rw [hr, hs]
    rfl

instance {r : Record σ α} {get : τ → σ} {y : τ} {ns : List String} {a : α}
    [h : r.Restores l (get y) ns a] : (r.within get).Restores l y ns a :=
  ⟨h.named, h.restored⟩

/-! ### Single members -/

variable {name : String} {c : Codec α}

theorem restores_member {write : σ → List (String × Json)} {read : NullRule → Option Json → Option α}
    {a : α} (hnamed : ((write x).map Prod.fst).Sublist [name])
    (hrestored : ∀ rule, read rule ((Json.find? name (write x)).map l.apply) = some a) :
    (member name write read).Restores l x [name] a where
  named := hnamed
  restored _ rule ms hms := by
    change read rule (Json.find? name ms) = some a
    rw [hms name (List.mem_singleton_self name)]
    exact hrestored rule

theorem find?_singleton (j : Json) : Json.find? name [(name, j)] = some j := if_pos rfl

theorem restores_required {get : σ → α} (h : c.Restores l (get x)) :
    (required name c get).Restores l x [name] (get x) := by
  refine restores_member (List.Sublist.refl [name]) fun rule => ?_
  rw [find?_singleton]
  exact h rule

instance {get : σ → α} [c.Lossless] : (required name c get).Restores l x [name] (get x) :=
  restores_required (Codec.Lossless.restores l (get x))

instance {get : σ → α} {fallback : α} [c.Lossless] :
    (defaulted name c fallback get).Restores l x [name] (get x) := by
  refine restores_member (List.Sublist.refl [name]) fun rule => ?_
  rw [find?_singleton]
  exact Codec.Lossless.restores l (get x) rule

instance {get : σ → String} : (textOrEmpty name get).Restores l x [name] (get x) :=
  inferInstanceAs ((defaulted name Codec.text "" get).Restores l x [name] (get x))

instance {get : σ → Bool} : (flagOrOff name get).Restores l x [name] (get x) :=
  inferInstanceAs ((defaulted name Codec.flag false get).Restores l x [name] (get x))

theorem restores_omitted [c.Lossless] {fallback : α} {isFallback : α → Bool} {get : σ → α}
    (h : isFallback (get x) = true → get x = fallback) :
    (omitted name c fallback isFallback get).Restores l x [name] (get x) := by
  by_cases hf : isFallback (get x) = true
  · refine restores_member ?_ fun rule => ?_
    · rw [if_pos hf]
      exact List.nil_sublist [name]
    · rw [if_pos hf, h hf]
      rfl
  · refine restores_member ?_ fun rule => ?_
    · rw [if_neg hf]
      exact List.Sublist.refl [name]
    · rw [if_neg hf, find?_singleton]
      exact Codec.Lossless.restores l (get x) rule

instance {get : σ → List α} [c.Lossless] : (items name c get).Restores l x [name] (get x) :=
  restores_omitted List.isEmpty_iff.1

instance {get : σ → String} : (textIfAny name get).Restores l x [name] (get x) :=
  restores_omitted String.isEmpty_iff.1

instance {get : σ → SortedMap String α} [c.Lossless] :
    (omitted name c.map .empty SortedMap.isEmpty get).Restores l x [name] (get x) :=
  restores_omitted fun h => SortedMap.ext (List.isEmpty_iff.1 h)

/-- A member that may be missing can have any value that is not written as null. -/
theorem restores_optional {get : σ → Option α} (h : ∀ a, get x = some a → c.Restores l a)
    (hnull : ∀ a, get x = some a → c.write a ≠ .null) :
    (optional name c get).Restores l x [name] (get x) := by
  cases hget : get x with
  | none =>
    refine restores_member ?_ fun rule => ?_
    · rw [hget]
      exact List.nil_sublist [name]
    · rw [hget]
      rfl
  | some a =>
    refine restores_member ?_ fun rule => ?_
    · rw [hget]
      exact List.Sublist.refl [name]
    · have hread := h a hget rule
      have hne := l.apply_ne_null (hnull a hget)
      rw [hget, Option.map_some, Option.toList_some, find?_singleton, Option.map_some]
      revert hread hne
      cases l.apply (c.write a) <;> simp +contextual

instance {get : σ → Option α} [c.Lossless] [c.NonNull] :
    (optional name c get).Restores l x [name] (get x) :=
  restores_optional (fun a _ => Codec.Lossless.restores l a) fun a _ => Codec.NonNull.ne_null a

end

/-! ### Whole records -/

section

variable {r : Record σ σ} {names : List String}

theorem read_applyMembers {l : Layout} {x : σ} [h : r.Restores l x names x] (hn : names.Nodup)
    (rule : NullRule) : r.read rule (l.applyMembers (r.write x)) = some x :=
  h.restored hn rule _ fun _ _ => l.find?_applyMembers (hn.sublist h.named)

theorem restores_codec {l : Layout} {x : σ} [r.Restores l x names x] (hn : names.Nodup) :
    r.codec.Restores l x := by
  intro rule
  change r.readValue rule (l.apply (.obj (r.write x))) = some x
  rw [Layout.apply_obj]
  exact read_applyMembers hn rule

theorem restores_namedCodec {l : Layout} {x : σ} [r.Restores l x names x] (hn : names.Nodup) :
    r.namedCodec.Restores l x := by
  intro rule
  change r.readNamed rule (l.apply (.obj (r.write x))) = some x
  rw [Layout.apply_obj]
  exact read_applyMembers hn rule

instance : r.codec.NonNull := ⟨nofun⟩

instance : r.namedCodec.NonNull := ⟨nofun⟩

theorem lossless_codec [∀ l x, r.Restores l x names x] (hn : names.Nodup) : r.codec.Lossless :=
  ⟨fun _ _ => restores_codec hn⟩

theorem lossless_namedCodec [∀ l x, r.Restores l x names x] (hn : names.Nodup) :
    r.namedCodec.Lossless :=
  ⟨fun _ _ => restores_namedCodec hn⟩

end

/-! ### What is read -/

/-- Whatever is read from members or from items has the property. -/
structure Yields (r : Record σ α) (p : α → Prop) : Prop where
  read : ∀ rule ms a, r.read rule ms = some a → p a
  take : ∀ rule items a rest, r.take rule items = some (a, rest) → p a

theorem yields_of_forall {r : Record σ α} {p : α → Prop} (h : ∀ a, p a) : r.Yields p :=
  ⟨fun _ _ a _ => h a, fun _ _ a _ _ => h a⟩

theorem Yields.map {r : Record σ α} {p : β → Prop} {f : α → β} (h : r.Yields fun a => p (f a)) :
    (f <$> r).Yields p where
  read rule ms b hb := by
    obtain ⟨a, ha, rfl⟩ := Option.map_eq_some_iff.1 hb
    exact h.read rule ms a ha
  take rule items b rest hb := by
    obtain ⟨⟨a, _⟩, ha, he⟩ := Option.map_eq_some_iff.1 hb
    cases he
    exact h.take rule items a _ ha

theorem Yields.seq {r : Record σ (α → β)} {s : Record σ α} {p : β → Prop} {q : α → Prop}
    (h : r.Yields fun f => ∀ a, q a → p (f a)) (h' : s.Yields q) : (r <*> s).Yields p where
  read rule ms b hb := by
    obtain ⟨f, hf, hb⟩ := Option.bind_eq_some_iff.1 hb
    obtain ⟨a, ha, rfl⟩ := Option.map_eq_some_iff.1 hb
    exact h.read rule ms f hf a (h'.read rule ms a ha)
  take rule items b rest hb := by
    obtain ⟨⟨f, _⟩, hf, hb⟩ := Option.bind_eq_some_iff.1 hb
    obtain ⟨⟨a, _⟩, ha, he⟩ := Option.map_eq_some_iff.1 hb
    cases he
    exact h.take rule items f _ hf a (h'.take rule _ a _ ha)

theorem Yields.skip {r : Record σ (α → β)} {s : Record σ α} {p : β → Prop}
    (h : r.Yields fun f => ∀ a, p (f a)) : (r <*> s).Yields p :=
  .seq ⟨fun rule ms f hf a _ => h.read rule ms f hf a,
    fun rule items f rest hf a _ => h.take rule items f rest hf a⟩
    (yields_of_forall fun _ => trivial : s.Yields fun _ => True)

section

variable {name : String} {c : Codec α} {p : α → Prop}

theorem yields_member {write : σ → List (String × Json)} {read : NullRule → Option Json → Option α}
    (h : ∀ rule j? a, read rule j? = some a → p a) : (member name write read).Yields p where
  read rule ms a ha := h rule _ a ha
  take rule items a rest ha := by
    obtain ⟨a', ha', he⟩ := Option.map_eq_some_iff.1 ha
    cases he
    exact h rule _ a ha'

theorem yields_required {get : σ → α} (h : c.Yields p) : (required name c get).Yields p :=
  yields_member fun rule _ a ha => by
    obtain ⟨j, _, hj⟩ := Option.bind_eq_some_iff.1 ha
    exact h rule j a hj

theorem yields_optional {get : σ → Option α} (h : c.Yields p) :
    (optional name c get).Yields fun a? => ∀ a, a? = some a → p a :=
  yields_member fun rule j? a? ha a hget => by
    subst hget
    split at ha
    · cases ha
    · cases ha
    · obtain ⟨a', hread, he⟩ := Option.map_eq_some_iff.1 ha
      cases he
      exact h rule _ a hread

theorem yields_optional_any {get : σ → Option Json} :
    (optional name .any get).Yields fun j? => ∀ j, j? = some j → j ≠ .null :=
  yields_member fun rule j? a? ha j hget => by
    subst hget
    split at ha
    case h_1 => cases ha
    case h_2 => cases ha
    case h_3 j' hne =>
      cases ha
      rintro rfl
      exact hne rfl

end

theorem Yields.codec {r : Record σ σ} {p : σ → Prop} (h : r.Yields p) : r.codec.Yields p := by
  intro rule j a ha
  change r.readValue rule j = some a at ha
  unfold readValue at ha
  split at ha
  case h_1 items =>
    split at ha
    · cases ha
      exact h.take rule items a [] ‹_›
    · cases ha
  case h_2 =>
    obtain ⟨ms, _, hms⟩ := Option.bind_eq_some_iff.1 ha
    exact h.read rule ms a hms

end Record

/-! ### Round trips -/

namespace Codec

variable {α : Type} (c : Codec α)

/-- A JSON value as it comes out when it is read and written again. -/
def rewrite? (rule : NullRule) (j : Json) : Option Json := (c.read rule j).map c.write

/-- Whatever is read is read again from what it is written as, so writing it a second time changes nothing. -/
structure RoundTrips : Prop where
  restores : ∀ rule j a, c.read rule j = some a → ∀ rule', c.read rule' (c.write a) = some a
  stable : ∀ rule j k, c.rewrite? rule j = some k → ∀ rule', c.rewrite? rule' k = some k

variable {c}

theorem roundTrips_of_yields (h : c.Yields (c.Restores .written)) : c.RoundTrips where
  restores := h
  stable rule j k hk rule' := by
    obtain ⟨a, ha, rfl⟩ := Option.map_eq_some_iff.1 hk
    exact congrArg (Option.map c.write) (h rule j a ha rule')

theorem roundTrips_of_lossless [c.Lossless] : c.RoundTrips :=
  roundTrips_of_yields fun _ _ a _ => Lossless.restores .written a

/-- Every value is read again from what it is written as, in whatever order members stand, so no two values
are written alike. -/
structure Inverts (c : Codec α) : Prop where
  restores : ∀ l a, c.Restores l a
  injective : ∀ l : Layout, Function.Injective fun a => l.apply (c.write a)

theorem inverts_of_lossless [c.Lossless] : c.Inverts where
  restores := Lossless.restores
  injective l a b hab := by
    have ha := Lossless.restores (c := c) l a .refused
    have hb := Lossless.restores (c := c) l b .refused
    change l.apply (c.write a) = l.apply (c.write b) at hab
    rw [hab, hb] at ha
    exact (Option.some.inj ha).symm

end Codec

end IngressGateway
