/-!
White space in the sense of the Unicode property `White_Space`, and text without it at the start.
-/

set_option autoImplicit false

namespace IngressGateway.Text

/-- The first and last code points of each run of `White_Space` characters. -/
def blankRanges : List (Nat × Nat) :=
  [(0x09, 0x0D), (0x20, 0x20), (0x85, 0x85), (0xA0, 0xA0), (0x1680, 0x1680), (0x2000, 0x200A),
   (0x2028, 0x2029), (0x202F, 0x202F), (0x205F, 0x205F), (0x3000, 0x3000)]

/-- Whether a character has the property `White_Space`. -/
def isBlank (c : Char) : Bool :=
  blankRanges.any fun r => r.1 ≤ c.toNat && c.toNat ≤ r.2

/-- The text from its first character on that is no white space. -/
def trimStart (s : String) : String := String.ofList (s.toList.dropWhile isBlank)

example : (blankRanges.map fun r => r.2 + 1 - r.1).sum = 25 := by decide

end IngressGateway.Text
