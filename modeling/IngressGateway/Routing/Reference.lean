import IngressGateway.ObjectRef
import IngressGateway.Text.Cut

/-!
References to objects, written `name` or `namespace/name`.
-/

set_option autoImplicit false

namespace IngressGateway.Routing

/-- The key that a reference means; without a namespace, the namespace of the owner is meant. -/
def readReference? (reference ownerNs : String) : Option ObjectKey :=
  match Text.pieces '/' reference.toList with
  | [name] => if name = [] then none else some ⟨ownerNs, String.ofList name⟩
  | [ns, name] =>
    if ns = [] ∨ name = [] then none else some ⟨String.ofList ns, String.ofList name⟩
  | _ => none

end IngressGateway.Routing
