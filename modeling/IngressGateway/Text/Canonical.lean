import IngressGateway.Text.Canonical.Table

/-!
The composed form of a text. Texts that the Unicode standard holds equal, such as a letter with an accent
written as one character or as two, have the same composed form: each character is taken apart, combining
marks are put in the order of their classes, and what can be joined is joined again.
-/

set_option autoImplicit false

namespace IngressGateway.Text.Canonical

/-- The class of a combining mark, zero for any other character. -/
def markClass (c : Char) : Nat :=
  if c.toNat < 0x300 then 0
  else ((classes.find? fun e => CodePoints.mem e.2 c).map Prod.fst).getD 0

/-! ### Korean syllables

A syllable is a leading consonant, a vowel, and possibly a trailing consonant, all of them numbered. -/

def syllableParts? (n : Nat) : Option (List Char) :=
  if 0xAC00 ≤ n ∧ n < 0xAC00 + 19 * 588 then
    let k := n - 0xAC00
    let body := [Char.ofNat (0x1100 + k / 588), Char.ofNat (0x1161 + k % 588 / 28)]
    some (if k % 28 = 0 then body else body ++ [Char.ofNat (0x11A7 + k % 28)])
  else none

def syllable? (a b : Nat) : Option Char :=
  if 0x1100 ≤ a ∧ a < 0x1100 + 19 ∧ 0x1161 ≤ b ∧ b < 0x1161 + 21 then
    some (Char.ofNat (0xAC00 + ((a - 0x1100) * 21 + (b - 0x1161)) * 28))
  else if 0xAC00 ≤ a ∧ a < 0xAC00 + 19 * 588 ∧ (a - 0xAC00) % 28 = 0 ∧ 0x11A7 < b ∧ b < 0x11A7 + 28 then
    some (Char.ofNat (a + (b - 0x11A7)))
  else none

/-! ### Taking apart -/

/-- What a character stands for, if not for itself. -/
def parts? (c : Char) : Option (List Char) :=
  if c.toNat < 0xC0 then none
  else syllableParts? c.toNat <|> CodePoints.image? pairs c <|> CodePoints.image? replaced c
    <|> CodePoints.image? parted c

/-- A character taken apart, and its parts in turn, up to some depth. -/
def apart : (depth : Nat) → Char → List Char
  | 0, c => [c]
  | depth + 1, c =>
    match parts? c with
    | some parts => parts.flatMap (apart depth)
    | none => [c]

/-- No chain of characters that stand for others is longer than this. -/
def maxDepth : Nat := 4

/-! ### Ordering marks -/

/-- A character put at the end of a text, given from its end, but before the marks of higher classes that
stand there. -/
def settle (c : Char) : List Char → List Char
  | [] => [c]
  | d :: rest =>
    if 0 < markClass c ∧ markClass c < markClass d then d :: settle c rest else c :: d :: rest

/-- The text with the marks after each character in the order of their classes. -/
def ordered (s : List Char) : List Char := (s.foldl (fun done c => settle c done) []).reverse

/-! ### Joining -/

def joined? (a b : Char) : Option Char :=
  syllable? a.toNat b.toNat <|>
    ((pairs.find? fun e => e.image = [a.toNat, b.toNat]).map fun e => Char.ofNat e.first)

/-- The text joined. `c` is the character that others may be joined with, `held` the marks after it that
could not be, from the last one on; a mark is out of reach behind one of its own class or a higher one. -/
def joinFrom (c : Char) (held : List Char) : List Char → List Char
  | [] => c :: held.reverse
  | d :: rest =>
    match if held.all fun m => markClass m < markClass d then joined? c d else none with
    | some e => joinFrom e held rest
    | none =>
      if markClass d = 0 then c :: (held.reverse ++ joinFrom d [] rest)
      else joinFrom c (d :: held) rest

def compose (s : List Char) : List Char :=
  match ordered (s.flatMap (apart maxDepth)) with
  | [] => []
  | c :: rest => joinFrom c [] rest

end IngressGateway.Text.Canonical
