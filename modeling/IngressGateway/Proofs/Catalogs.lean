import IngressGateway.Backend.Catalog
import IngressGateway.Proofs.Lookup

/-!
Looking up upstreams. An upstream counts if it names a service and a port; a catalog leads from a name to the
first upstream of that name that counts.
-/

set_option autoImplicit false

namespace IngressGateway.Backend

open Ingress (Upstream)

/-- Whether an upstream names a service and a port. -/
def isUsable (u : Upstream) : Bool := !u.service.isEmpty && u.port.val != 0

/-- The upstream that a name means among those of one owner: the first usable one of that name. -/
def firstUsable? (us : List Upstream) (name : String) : Option Upstream :=
  us.find? fun u => isUsable u && u.name = name

theorem name_of_firstUsable? {us : List Upstream} {name : String} {u : Upstream}
    (h : firstUsable? us name = some u) : u.name = name := by
  have hfound := List.find?_some h
  exact of_decide_eq_true (Bool.and_eq_true_iff.1 hfound).2

variable (u : Upstream) (us : List Upstream) (owner : ObjectRef)

theorem value_checkUpstream : (checkUpstream u owner).value = isUsable u := by
  unfold checkUpstream faultOf? isUsable
  cases u.service.isEmpty with
  | true => rfl
  | false => by_cases h : u.port.val = 0 <;> simp [h]

namespace Catalog

theorem value_add (m : SortedMap String Upstream) :
    (add owner m u).value = if isUsable u then m.insertIfNew u.name u else m := by
  unfold add SortedMap.insertIfNew
  rw [Reported.value_bind, value_checkUpstream]
  cases isUsable u with
  | false => rfl
  | true => cases m.contains u.name <;> rfl

theorem value_addAll (m : SortedMap String Upstream) :
    (addAll owner m us).value =
      (us.filter isUsable).foldl (fun m u => m.insertIfNew u.name u) m := by
  induction us generalizing m with
  | nil => rfl
  | cons u us ih =>
    change (addAll owner (add owner m u).value us).value = _
    rw [ih, value_add, List.filter_cons]
    cases isUsable u <;> rfl

theorem get?_build (ns name : String) :
    (build us ns owner).value.get? name = firstUsable? us name := by
  change (addAll owner .empty us).value.get? name = _
  rw [value_addAll]
  refine (SortedMap.get?_foldl_insertIfNew Upstream.name id _ .empty name).trans ?_
  simp [firstUsable?, List.find?_filter]

end Catalog

end IngressGateway.Backend
