import IngressGateway.Text.Cut
import IngressGateway.Text.Digits

/-!
Tables of code points, written as text. An entry is a code point (`00AD`), a run of them (`0300-036F`), or
every so manieth of a run (`0100-0136/2`); what its first code point stands for may follow
(`0041-005A>0061`, `00BC>0031.2044.0034`). The entries of a table stand apart by blanks and line ends.
-/

set_option autoImplicit false

namespace IngressGateway.Text

/-- An entry of a table: the code points `first`, `first + step`, … up to `last`. -/
structure CodePoints where
  first : Nat
  last : Nat
  step : Nat
  image : List Nat
deriving DecidableEq, Repr

namespace CodePoints

def covers (e : CodePoints) (n : Nat) : Bool :=
  e.first ≤ n && n ≤ e.last && (n - e.first) % e.step = 0

/-- What a code point of the entry stands for: the image of the first one, moved on by as much as the
code point is. -/
def imageOf (e : CodePoints) (n : Nat) : List Char :=
  e.image.map fun m => Char.ofNat (m + (n - e.first))

/-- The run that an entry is about, as its first and last code point and its step. -/
def readRun? (s : List Char) : Option (Nat × Nat × Nat) :=
  match pieces '-' s with
  | [first] => (readIn? 16 first).map fun n => (n, n, 1)
  | [first, rest] => do
    let a ← readIn? 16 first
    match pieces '/' rest with
    | [last] => return (a, ← readIn? 16 last, 1)
    | [last, step] => return (a, ← readIn? 16 last, ← readIn? 16 step)
    | _ => none
  | _ => none

def read? (s : List Char) : Option CodePoints :=
  match pieces '>' s with
  | [run] => (readRun? run).map fun (a, b, k) => ⟨a, b, k, []⟩
  | [run, image] => do
    let (a, b, k) ← readRun? run
    return ⟨a, b, k, ← (pieces '.' image).mapM (readIn? 16)⟩
  | _ => none

/-- The entries of a table; a word that writes none is left out. -/
def table (s : String) : List CodePoints :=
  (pieces ' ' (s.toList.map fun c => if c = '\n' then ' ' else c)).filterMap fun word =>
    if word.isEmpty then none else read? word

def mem (t : List CodePoints) (c : Char) : Bool := t.any (·.covers c.toNat)

def image? (t : List CodePoints) (c : Char) : Option (List Char) :=
  (t.find? (·.covers c.toNat)).map (·.imageOf c.toNat)

example : table "0041-005A>0061" = [⟨0x41, 0x5A, 1, [0x61]⟩] := by cbv

example : table "00AD 0100-0136/2>0101\n 00BC>0031.2044.0034" =
    [⟨0xAD, 0xAD, 1, []⟩, ⟨0x100, 0x136, 2, [0x101]⟩, ⟨0xBC, 0xBC, 1, [0x31, 0x2044, 0x34]⟩] := by
  cbv

example : image? [⟨0x41, 0x5A, 1, [0x61]⟩] 'K' = some ['k'] := by decide

end CodePoints

end IngressGateway.Text
