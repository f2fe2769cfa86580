import IngressGateway.Text.Cut
import IngressGateway.Text.Digits

/-!
Internet addresses as hosts. A version 4 address is written as up to four numbers, of which the last one
fills all bytes that are left; a version 6 address as groups of hexadecimal digits, one run of zero groups
left out, and possibly a version 4 address at its end.
-/

set_option autoImplicit false

namespace IngressGateway.Url

open Text (numberIn readIn?)

/-- One number of a version 4 address: decimal, octal after a zero, or hexadecimal after `0x`. -/
def readIpv4Number? : List Char → Option Nat
  | [] => none
  | '0' :: 'x' :: rest => readIn? 16 rest
  | '0' :: 'X' :: rest => readIn? 16 rest
  | '0' :: c :: rest => readIn? 8 (c :: rest)
  | s => readIn? 10 s

/-- The parts between the dots, without an empty one at the end. -/
def dottedParts (s : List Char) : List (List Char) :=
  let parts := Text.pieces '.' s
  if parts.getLast? = some [] then parts.dropLast else parts

/-- Whether a host can only be meant as a version 4 address. -/
def endsInNumber (s : List Char) : Bool :=
  match (dottedParts s).getLast? with
  | none => false
  | some [] => false
  | some last => last.all Char.isDigit || (readIpv4Number? last).isSome

def readIpv4? (s : List Char) : Option Nat := do
  let numbers ← (dottedParts s).mapM readIpv4Number?
  match numbers.reverse with
  | [] => none
  | last :: before =>
    if 3 < before.length then none
    else if before.any (255 < ·) then none
    else if Nat.pow 256 (4 - before.length) ≤ last then none
    else some (numberIn 256 before.reverse * Nat.pow 256 (4 - before.length) + last)

def displayIpv4 (n : Nat) : String :=
  ".".intercalate
    ([n / Nat.pow 256 3 % 256, n / Nat.pow 256 2 % 256, n / 256 % 256, n % 256].map toString)

def readGroup? (s : List Char) : Option Nat :=
  if s.isEmpty || 4 < s.length then none else readIn? 16 s

/-- A decimal number below 256 without zeros in front. -/
def readByte? (s : List Char) : Option Nat :=
  match s with
  | [] => none
  | '0' :: _ :: _ => none
  | _ => (readIn? 10 s).filter fun n => n < 256

def readEmbeddedIpv4? (s : List Char) : Option (List Nat) :=
  match (Text.pieces '.' s).mapM readByte? with
  | some [a, b, c, d] => some [a * 256 + b, c * 256 + d]
  | _ => none

/-- Groups between colons; the last place may hold a version 4 address if `embedded` says so. -/
def readGroups? (embedded : Bool) : List (List Char) → Option (List Nat)
  | [] => some []
  | [last] =>
    match readGroup? last with
    | some n => some [n]
    | none => if embedded then readEmbeddedIpv4? last else none
  | g :: rest => do
    let n ← readGroup? g
    let ns ← readGroups? embedded rest
    return n :: ns

/-- The groups of a stretch of an address, which may be empty. -/
def readStretch? (embedded : Bool) (s : List Char) : Option (List Nat) :=
  if s.isEmpty then some [] else readGroups? embedded (Text.pieces ':' s)

/-- What stands before and after the first pair of colons. -/
def cutAtGap? : List Char → Option (List Char × List Char)
  | ':' :: ':' :: rest => some ([], rest)
  | c :: rest => (cutAtGap? rest).map fun p => (c :: p.1, p.2)
  | [] => none

def readIpv6? (s : List Char) : Option (List Nat) :=
  match cutAtGap? s with
  | some (left, right) => do
    let ls ← readStretch? false left
    let rs ← readStretch? true right
    if ls.length + rs.length < 8 then
      some (ls ++ List.replicate (8 - (ls.length + rs.length)) 0 ++ rs)
    else none
  | none => do
    let gs ← readStretch? true s
    if gs.length = 8 then some gs else none

def displayGroup (n : Nat) : String := String.ofList (Nat.toDigits 16 n)

def zerosFrom (gs : List Nat) (start : Nat) : Nat := ((gs.drop start).takeWhile (· = 0)).length

/-- Where the longest run of zero groups starts and how long it is; the first one of several. -/
def longestZeros (gs : List Nat) : Nat × Nat :=
  (List.range gs.length).foldl (fun best start =>
    if best.2 < zerosFrom gs start then (start, zerosFrom gs start) else best) (0, 0)

/-- A version 6 address in its usual form; a run of at least two zero groups is left out. -/
def displayIpv6 (gs : List Nat) : String :=
  let (start, count) := longestZeros gs
  if count < 2 then ":".intercalate (gs.map displayGroup)
  else ":".intercalate ((gs.take start).map displayGroup) ++ "::"
    ++ ":".intercalate ((gs.drop (start + count)).map displayGroup)

end IngressGateway.Url
