/-!
ASCII letter case. Letters beyond ASCII keep their case, so the results never change in length.
-/

set_option autoImplicit false

namespace IngressGateway.Text

def lower (s : String) : String := String.ofList (s.toList.map Char.toLower)

def sameIgnoringCase (s t : String) : Bool := lower s = lower t

theorem sameIgnoringCase_self (s : String) : sameIgnoringCase s s = true := by
  simp [sameIgnoringCase]

end IngressGateway.Text
