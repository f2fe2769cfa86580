import IngressGateway.Proofs.LastEntry
import IngressGateway.Proofs.Shelves
import IngressGateway.Render

/-!
Histories of bundles. A bundle has eight parts, and each change to it touches one of them: it puts something
under a key there or takes a key out. So each part holds under a key what the last change to that key has put
there, whatever has been done to the other parts in between.
-/

set_option autoImplicit false

namespace IngressGateway

open Backend (Extension)
open KeyOrder (before)

/-! ### Changes -/

inductive BundlePart where
  | gateways
  | httpRoutes
  | grpcRoutes
  | tcpRoutes
  | tlsRoutes
  | udpRoutes
  | policies
  | extensions
deriving DecidableEq, Repr

/-- Where the objects of a part stand in a listing. -/
def BundlePart.place : BundlePart → Nat
  | .gateways => 0
  | .httpRoutes => 1
  | .grpcRoutes => 2
  | .tcpRoutes => 3
  | .tlsRoutes => 4
  | .udpRoutes => 5
  | .policies => 6
  | .extensions => 7

namespace GeneratedObject

def part : GeneratedObject → BundlePart
  | .gateway _ => .gateways
  | .httpRoute _ => .httpRoutes
  | .grpcRoute _ => .grpcRoutes
  | .tcpRoute _ => .tcpRoutes
  | .tlsRoute _ => .tlsRoutes
  | .udpRoute _ => .udpRoutes
  | .policy _ => .policies

def key : GeneratedObject → ObjectKey
  | .gateway o => o.key
  | .httpRoute o => o.key
  | .grpcRoute o => o.key
  | .tcpRoute o => o.key
  | .tlsRoute o => o.key
  | .udpRoute o => o.key
  | .policy o => o.key

end GeneratedObject

/-- What can be done to a bundle. -/
inductive Change where
  | insert (object : GeneratedObject)
  | removeHttpRoute (key : ObjectKey)
  | insertExtension (key : ObjectKey) (extension : Extension)

def Change.part : Change → BundlePart
  | .insert o => o.part
  | .removeHttpRoute _ => .httpRoutes
  | .insertExtension _ _ => .extensions

namespace Bundle

def change (b : Bundle) : Change → Bundle
  | .insert o => b.insert o
  | .removeHttpRoute key => b.removeHttpRoute key
  | .insertExtension key e => b.insertExtension key e

/-- The bundle that some changes lead to, from the empty one. -/
def ofChanges (cs : List Change) : Bundle := cs.foldl change empty

def AgreesOn (b b' : Bundle) : BundlePart → Prop
  | .gateways => b.gateways = b'.gateways
  | .httpRoutes => b.httpRoutes = b'.httpRoutes
  | .grpcRoutes => b.grpcRoutes = b'.grpcRoutes
  | .tcpRoutes => b.tcpRoutes = b'.tcpRoutes
  | .tlsRoutes => b.tlsRoutes = b'.tlsRoutes
  | .udpRoutes => b.udpRoutes = b'.udpRoutes
  | .policies => b.policies = b'.policies
  | .extensions => b.extensions = b'.extensions

def Holds (b : Bundle) : GeneratedObject → Prop
  | .gateway o => b.gateways.get? o.key = some o
  | .httpRoute o => b.httpRoutes.get? o.key = some o
  | .grpcRoute o => b.grpcRoutes.get? o.key = some o
  | .tcpRoute o => b.tcpRoutes.get? o.key = some o
  | .tlsRoute o => b.tlsRoutes.get? o.key = some o
  | .udpRoute o => b.udpRoutes.get? o.key = some o
  | .policy o => b.policies.get? o.key = some o

theorem insertExtension_of_isEmpty (b : Bundle) (key : ObjectKey) {e : Extension}
    (h : e.isEmpty = true) : b.insertExtension key e = b := if_pos h

theorem agreesOn_change (b : Bundle) {c : Change} {p : BundlePart} (h : p ≠ c.part) :
    (b.change c).AgreesOn b p := by
  cases c with
  | insert o => cases o <;> cases p <;> first | rfl | exact absurd rfl h
  | removeHttpRoute key => cases p <;> first | rfl | exact absurd rfl h
  | insertExtension key e =>
    change (b.insertExtension key e).AgreesOn b p
    unfold insertExtension
    split
    · cases p <;> rfl
    · cases p <;> first | rfl | exact absurd rfl h

end Bundle

/-! ### One part of a bundle -/

/-- A part of a bundle, and what a change does to it: what it puts under which key, where nothing stands for
taking the key out. -/
structure Compartment (α : Type) where
  store : Bundle → Store α
  effect? : Change → Option (ObjectKey × Option α)
  store_empty : store .empty = .empty
  store_change : ∀ b c,
    store (b.change c) = (effect? c).elim (store b) fun e => (store b).put e.1 e.2

namespace Compartment

variable {α σ : Type}

/-- A shelf from which nothing can be taken out. -/
def ofShelf (s : Shelf σ) (h : ∀ b key, s.store (b.removeHttpRoute key) = s.store b) :
    Compartment (Resource σ) where
  store := s.store
  effect?
    | .insert o => (s.pick? o).map fun r => (r.key, some r)
    | _ => none
  store_empty := s.store_empty
  store_change b
    | .insert o => by
      change s.store (b.insert o) = ((s.pick? o).map fun r => (r.key, some r)).elim _ _
      rw [s.store_insert]
      cases s.pick? o <;> rfl
    | .removeHttpRoute key => h b key
    | .insertExtension key e => s.store_insertExtension b key e

def httpRoutes : Compartment Gateway.HttpRoute where
  store := Bundle.httpRoutes
  effect?
    | .insert (.httpRoute r) => some (r.key, some r)
    | .removeHttpRoute key => some (key, none)
    | _ => none
  store_empty := rfl
  store_change b
    | .insert o => by cases o <;> rfl
    | .removeHttpRoute _ => rfl
    | .insertExtension key e => Shelf.httpRoutes.store_insertExtension b key e

/-- Settings are recorded only if there are any. -/
def extensions : Compartment Extension where
  store := Bundle.extensions
  effect?
    | .insertExtension key e => if e.isEmpty then none else some (key, some e)
    | _ => none
  store_empty := rfl
  store_change b
    | .insert o => by cases o <;> rfl
    | .removeHttpRoute _ => rfl
    | .insertExtension key e => by
      change (b.insertExtension key e).extensions = Option.elim (if e.isEmpty then none else _) _ _
      unfold Bundle.insertExtension
      split <;> rfl

variable (d : Compartment α)

theorem store_foldl_change (cs : List Change) (b : Bundle) :
    d.store (cs.foldl Bundle.change b) =
      (d.store b).putMany Prod.fst Prod.snd (cs.filterMap d.effect?) := by
  induction cs generalizing b with
  | nil => rfl
  | cons c cs ih =>
    rw [List.foldl_cons, ih, d.store_change, List.filterMap_cons]
    cases d.effect? c <;> rfl

/-- What a part of a bundle holds after some changes: under each key what the last change to it has put there. -/
structure HoldsLast (cs : List Change) : Prop where
  nodup : (d.store (.ofChanges cs)).keys.Nodup
  ascending : (d.store (.ofChanges cs)).keys.Pairwise fun k k' => before k k' = true
  get?_eq_some_iff : ∀ key a, (d.store (.ofChanges cs)).get? key = some a ↔
    IsLast Prod.fst (cs.filterMap d.effect?) (key, some a)

theorem holdsLast (cs : List Change) : d.HoldsLast cs where
  nodup := SortedMap.keys_nodup _
  ascending := List.pairwise_map.2 (d.store (.ofChanges cs)).ascending
  get?_eq_some_iff key a := by
    rw [Bundle.ofChanges, store_foldl_change, d.store_empty, SortedMap.get?_putMany_eq_some_iff]
    constructor
    · rintro ⟨⟨_, _⟩, he, rfl, rfl⟩
      exact he
    · exact fun h => ⟨_, h, rfl, rfl⟩

/-- Everything in a store of objects stands under its own namespace, or the usual one, and its name. -/
def Keyed (s : Store (Resource σ)) : Prop :=
  ∀ key r, s.get? key = some r → key.ns = r.metadata.ns.getD "default" ∧ key.name = r.anyName

theorem Keyed.key_eq {s : Store (Resource σ)} (h : Keyed s) {e : ObjectKey × Resource σ}
    (he : e ∈ s.entries) : e.1 = e.2.key := by
  obtain ⟨hns, hname⟩ := h e.1 e.2 (SortedMap.get?_eq_some_iff.2 he)
  exact congr (congrArg ObjectKey.mk hns) hname

theorem Keyed.mem_values_iff {s : Store (Resource σ)} (h : Keyed s) {r : Resource σ} :
    r ∈ s.values ↔ s.get? r.key = some r := by
  rw [SortedMap.mem_values_iff]
  refine ⟨?_, fun hr => ⟨_, hr⟩⟩
  rintro ⟨key, hr⟩
  rwa [← h.key_eq (SortedMap.get?_eq_some_iff.1 hr)]

/-- A part that holds objects. -/
structure HoldsObjects (d : Compartment (Resource σ)) (cs : List Change) : Prop extends
    d.HoldsLast cs where
  keyed : Keyed (d.store (.ofChanges cs))

theorem holdsObjects {d : Compartment (Resource σ)}
    (h : ∀ c key r, d.effect? c = some (key, some r) → key = r.key) (cs : List Change) :
    d.HoldsObjects cs where
  toHoldsLast := d.holdsLast cs
  keyed key r hr := by
    obtain ⟨c, _, hc⟩ := List.mem_filterMap.1 (((d.holdsLast cs).get?_eq_some_iff key r).1 hr).mem
    rw [h c key r hc]
    exact ⟨rfl, rfl⟩

theorem holdsObjects_ofShelf (s : Shelf σ) (h : ∀ b key, s.store (b.removeHttpRoute key) = s.store b)
    (cs : List Change) : (ofShelf s h).HoldsObjects cs := by
  refine holdsObjects (fun c key r hc => ?_) cs
  cases c with
  | insert o =>
    obtain ⟨r', _, he⟩ := Option.map_eq_some_iff.1 hc
    cases he
    rfl
  | removeHttpRoute => cases hc
  | insertExtension => cases hc

theorem holdsObjects_httpRoutes (cs : List Change) : httpRoutes.HoldsObjects cs := by
  refine holdsObjects (fun c key r hc => ?_) cs
  cases c with
  | insert o =>
    cases o <;> cases hc
    rfl
  | removeHttpRoute => cases hc
  | insertExtension => cases hc

end Compartment

/-! ### Listings -/

namespace GeneratedObject

/-- Objects are listed part by part, and those of one part in the order of their keys. -/
def Precedes (o o' : GeneratedObject) : Prop :=
  o.part.place < o'.part.place ∨ o.part = o'.part ∧ before o.key o'.key = true

/-- A listing of objects of the first few parts. -/
structure IsListedBelow (n : Nat) (os : List GeneratedObject) : Prop where
  ordered : os.Pairwise Precedes
  below : ∀ o ∈ os, o.part.place < n

theorem IsListedBelow.append_values {σ : Type} {p : BundlePart} {os : List GeneratedObject}
    (h : IsListedBelow p.place os) {s : Store (Resource σ)} (hs : Compartment.Keyed s)
    (make : Resource σ → GeneratedObject) (hpart : ∀ r, (make r).part = p)
    (hkey : ∀ r, (make r).key = r.key) : IsListedBelow (p.place + 1) (os ++ s.values.map make) where
  ordered := by
    refine List.pairwise_append.2 ⟨h.ordered, ?_, fun o ho o' ho' => .inl ?_⟩
    · rw [SortedMap.values, List.map_map, List.pairwise_map]
      refine s.ascending.imp_of_mem fun {e e'} he he' hbefore => .inr ⟨?_, ?_⟩
      · rw [Function.comp_apply, Function.comp_apply, hpart, hpart]
      · rw [Function.comp_apply, Function.comp_apply, hkey, hkey, ← hs.key_eq he, ← hs.key_eq he']
        exact hbefore
    · obtain ⟨r, _, rfl⟩ := List.mem_map.1 ho'
      rw [hpart]
      exact h.below o ho
  below o ho := by
    rcases List.mem_append.1 ho with ho | ho
    · exact Nat.lt_succ_of_lt (h.below o ho)
    · obtain ⟨r, _, rfl⟩ := List.mem_map.1 ho
      rw [hpart]
      exact Nat.lt_succ_self _

end GeneratedObject

namespace Bundle

open Compartment (Keyed holdsObjects_httpRoutes holdsObjects_ofShelf ofShelf)
open GeneratedObject (IsListedBelow Precedes)

/-- The objects of a bundle in order, every one that it holds and no other. -/
structure Lists (b : Bundle) (os : List GeneratedObject) : Prop where
  ordered : os.Pairwise Precedes
  mem_iff : ∀ o, o ∈ os ↔ b.Holds o

section

variable {b : Bundle} (hgateways : Keyed b.gateways) (hhttp : Keyed b.httpRoutes)
  (hgrpc : Keyed b.grpcRoutes) (htcp : Keyed b.tcpRoutes) (htls : Keyed b.tlsRoutes)
  (hudp : Keyed b.udpRoutes) (hpolicies : Keyed b.policies)
include hgateways hhttp hgrpc htcp htls hudp hpolicies

theorem lists_objects : b.Lists b.objects where
  ordered := by
    have hnone : IsListedBelow BundlePart.gateways.place [] := ⟨.nil, nofun⟩
    have hgateway : IsListedBelow BundlePart.httpRoutes.place _ :=
      hnone.append_values hgateways .gateway (fun _ => rfl) fun _ => rfl
    have hhttpRoute : IsListedBelow BundlePart.grpcRoutes.place _ :=
      hgateway.append_values hhttp .httpRoute (fun _ => rfl) fun _ => rfl
    have hgrpcRoute : IsListedBelow BundlePart.tcpRoutes.place _ :=
      hhttpRoute.append_values hgrpc .grpcRoute (fun _ => rfl) fun _ => rfl
    have htcpRoute : IsListedBelow BundlePart.tlsRoutes.place _ :=
      hgrpcRoute.append_values htcp .tcpRoute (fun _ => rfl) fun _ => rfl
    have htlsRoute : IsListedBelow BundlePart.udpRoutes.place _ :=
      htcpRoute.append_values htls .tlsRoute (fun _ => rfl) fun _ => rfl
    have hudpRoute : IsListedBelow BundlePart.policies.place _ :=
      htlsRoute.append_values hudp .udpRoute (fun _ => rfl) fun _ => rfl
    exact (hudpRoute.append_values hpolicies .policy (fun _ => rfl) fun _ => rfl).ordered
  mem_iff o := by
    cases o with
    | gateway r => simpa [objects, Holds] using hgateways.mem_values_iff
    | httpRoute r => simpa [objects, Holds] using hhttp.mem_values_iff
    | grpcRoute r => simpa [objects, Holds] using hgrpc.mem_values_iff
    | tcpRoute r => simpa [objects, Holds] using htcp.mem_values_iff
    | tlsRoute r => simpa [objects, Holds] using htls.mem_values_iff
    | udpRoute r => simpa [objects, Holds] using hudp.mem_values_iff
    | policy r => simpa [objects, Holds] using hpolicies.mem_values_iff

end

theorem length_collected (b : Bundle) : b.collected.length = b.objectCount := by
  simp [collected, objects, objectCount, SortedMap.values, SortedMap.size, Nat.add_assoc]

/-- What some changes make of a bundle: each of its parts remembers its own last changes, and the objects are
listed in one order. -/
structure Remembers (cs : List Change) : Prop where
  gateways : (ofShelf .gateways fun _ _ => rfl).HoldsObjects cs
  httpRoutes : Compartment.httpRoutes.HoldsObjects cs
  grpcRoutes : (ofShelf .grpcRoutes fun _ _ => rfl).HoldsObjects cs
  tcpRoutes : (ofShelf .tcpRoutes fun _ _ => rfl).HoldsObjects cs
  tlsRoutes : (ofShelf .tlsRoutes fun _ _ => rfl).HoldsObjects cs
  udpRoutes : (ofShelf .udpRoutes fun _ _ => rfl).HoldsObjects cs
  policies : (ofShelf .policies fun _ _ => rfl).HoldsObjects cs
  extensions : Compartment.extensions.HoldsLast cs
  /-- A change leaves the other parts as they are, and empty settings leave the whole bundle as it is. -/
  agrees : ∀ (b : Bundle) (c : Change) (p : BundlePart), p ≠ c.part → (b.change c).AgreesOn b p
  unrecorded : ∀ (b : Bundle) (key : ObjectKey) (e : Extension), e.isEmpty = true →
    b.change (.insertExtension key e) = b
  listed : (ofChanges cs).Lists (ofChanges cs).objects
  count : (ofChanges cs).collected.length = (ofChanges cs).objectCount

theorem remembers_ofChanges (cs : List Change) : Remembers cs where
  gateways := holdsObjects_ofShelf _ _ cs
  httpRoutes := holdsObjects_httpRoutes cs
  grpcRoutes := holdsObjects_ofShelf _ _ cs
  tcpRoutes := holdsObjects_ofShelf _ _ cs
  tlsRoutes := holdsObjects_ofShelf _ _ cs
  udpRoutes := holdsObjects_ofShelf _ _ cs
  policies := holdsObjects_ofShelf _ _ cs
  extensions := Compartment.extensions.holdsLast cs
  agrees b _ _ h := agreesOn_change b h
  unrecorded b key _ h := insertExtension_of_isEmpty b key h
  listed := lists_objects (holdsObjects_ofShelf .gateways (fun _ _ => rfl) cs).keyed
    (holdsObjects_httpRoutes cs).keyed (holdsObjects_ofShelf .grpcRoutes (fun _ _ => rfl) cs).keyed
    (holdsObjects_ofShelf .tcpRoutes (fun _ _ => rfl) cs).keyed
    (holdsObjects_ofShelf .tlsRoutes (fun _ _ => rfl) cs).keyed
    (holdsObjects_ofShelf .udpRoutes (fun _ _ => rfl) cs).keyed
    (holdsObjects_ofShelf .policies (fun _ _ => rfl) cs).keyed
  count := length_collected _

end Bundle

end IngressGateway
