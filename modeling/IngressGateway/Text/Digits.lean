/-!
Digits and the numbers they write, in decimal and in the other bases up to sixteen.
-/

set_option autoImplicit false

namespace IngressGateway.Text

/-- The value of a hexadecimal digit, in either case of its letter. -/
def hexDigit? (c : Char) : Option Nat :=
  if '0' ≤ c ∧ c ≤ '9' then some (c.toNat - '0'.toNat)
  else if 'a' ≤ c ∧ c ≤ 'f' then some (c.toNat - 'a'.toNat + 10)
  else if 'A' ≤ c ∧ c ≤ 'F' then some (c.toNat - 'A'.toNat + 10)
  else none

def smallHexDigits : List Char := "0123456789abcdef".toList

def capitalHexDigits : List Char := "0123456789ABCDEF".toList

/-- The last `width` digits of a number written with the given hexadecimal digits. -/
def hexOf (digits : List Char) : (width : Nat) → Nat → List Char
  | 0, _ => []
  | width + 1, n => hexOf digits width (n / 16) ++ [digits.getD (n % 16) '0']

def numberIn (base : Nat) (digits : List Nat) : Nat := digits.foldl (fun n d => n * base + d) 0

/-- The number that a text writes in a base; every character has to be a digit of the base. -/
def readIn? (base : Nat) (s : List Char) : Option Nat :=
  (s.mapM fun c => (hexDigit? c).filter fun d => d < base).map (numberIn base)

def natOfDigits (digits : List Char) : Nat :=
  numberIn 10 (digits.map fun c => c.toNat - '0'.toNat)

end IngressGateway.Text
