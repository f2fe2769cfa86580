import IngressGateway.Text.Cut

/-!
Punycode: labels of a domain in ASCII alone. The ASCII characters of a label come first; what follows says
where its other characters go in, the smallest ones first. Each of them is a number of steps from the one
before it, a step being the next place or, after the last one, the first place of the next code point.
-/

set_option autoImplicit false

namespace IngressGateway.Url.Punycode

/-- The digit for a value below 36: a letter, or from 26 on a decimal digit. -/
def digit (n : Nat) : Char := if n < 26 then Char.ofNat (0x61 + n) else Char.ofNat (0x30 + n - 26)

def digit? (c : Char) : Option Nat :=
  if 'a' ≤ c ∧ c ≤ 'z' then some (c.toNat - 0x61)
  else if 'A' ≤ c ∧ c ≤ 'Z' then some (c.toNat - 0x41)
  else if '0' ≤ c ∧ c ≤ '9' then some (c.toNat - 0x30 + 26)
  else none

/-- The value from which on a digit says that more digits follow. `k` is 36 times the place of the digit,
counted from one. -/
def threshold (bias k : Nat) : Nat := min 26 (max 1 (k - bias))

theorem threshold_pos (bias k : Nat) : 1 ≤ threshold bias k := by unfold threshold; omega

/-- A number of steps divided down until it is small, and `36` for each division. -/
def scaleDown (n k : Nat) : Nat × Nat :=
  if 455 < n then scaleDown (n / 35) (k + 36) else (n, k)
termination_by n
decreasing_by omega

/-- The bias after a number of steps that led to a label of `length` characters. -/
def adapt (steps length : Nat) (first : Bool) : Nat :=
  let halved := if first then steps / 700 else steps / 2
  let (n, k) := scaleDown (halved + halved / length) 0
  k + 36 * n / (n + 38)

def digits (bias k n : Nat) : List Char :=
  let t := threshold bias k
  if n < t then [digit n]
  else digit (t + (n - t) % (36 - t)) :: digits bias (k + 36) ((n - t) / (36 - t))
termination_by n
decreasing_by
  have h₁ := threshold_pos bias k
  calc (n - threshold bias k) / (36 - threshold bias k)
      ≤ n - threshold bias k := Nat.div_le_self _ _
    _ < n := by omega

/-- Where the characters beyond ASCII go in, in the order in which they do: the code point, and how many
smaller or earlier equal ones stand before it. -/
def insertions (s : List Char) : List (Nat × Nat) :=
  ((s.zipIdx.filter fun p => 0x80 ≤ p.1.toNat).mergeSort fun p q => p.1.toNat ≤ q.1.toNat).map
    fun p => (p.1.toNat, (s.take p.2).countP fun c => c.toNat ≤ p.1.toNat)

/-- The digits of insertions. `code` and `place` say where the last one left off, `length` how long the
label is so far. -/
def encodeFrom (bias code place length : Nat) (first : Bool) : List (Nat × Nat) → List Char
  | [] => []
  | (c, p) :: rest =>
    let steps := (c - code) * (length + 1) + p - place
    digits bias 36 steps ++
      encodeFrom (adapt steps (length + 1) first) c (p + 1) (length + 1) false rest

/-- The label in ASCII, without the mark in front. -/
def encode (s : List Char) : List Char :=
  let plain := s.filter fun c => c.toNat < 0x80
  plain ++ (if plain.isEmpty then [] else ['-']) ++
    encodeFrom 72 0x80 0 plain.length true (insertions s)

/-- A number of steps from the start of a text, and what follows it. No number goes beyond 32 bits. -/
def readSteps? (bias k weight sum : Nat) : List Char → Option (Nat × List Char)
  | [] => none
  | c :: rest => do
    let d ← digit? c
    let n := sum + d * weight
    let t := threshold bias k
    if Nat.pow 2 32 ≤ n then none
    else if d < t then some (n, rest)
    else if Nat.pow 2 32 ≤ weight * (36 - t) then none
    else readSteps? bias (k + 36) (weight * (36 - t)) n rest

theorem length_lt_of_readSteps? {bias k weight sum n : Nat} {s rest : List Char}
    (h : readSteps? bias k weight sum s = some (n, rest)) : rest.length < s.length := by
  induction s generalizing k weight sum with
  | nil => simp [readSteps?] at h
  | cons c s ih =>
    unfold readSteps? at h
    cases hd : digit? c with
    | none => simp [hd] at h
    | some d =>
      simp only [hd, Option.bind_eq_bind, Option.bind_some] at h
      split at h
      · cases h
      · split at h
        · cases h; simp
        · split at h
          · cases h
          · have := ih h
            simp only [List.length_cons]
            omega

def decodeFrom (bias code place : Nat) (first : Bool) (label : List Char) (s : List Char) :
    Option (List Char) :=
  if s.isEmpty then some label
  else
    match _h : readSteps? bias 36 1 place s with
    | none => none
    | some (n, rest) =>
      let length := label.length + 1
      let c := code + n / length
      if Nat.isValidChar c then
        decodeFrom (adapt (n - place) length first) c (n % length + 1) false
          (label.insertIdx (n % length) (Char.ofNat c)) rest
      else none
termination_by s.length
decreasing_by exact length_lt_of_readSteps? _h

/-- The label that a text in ASCII writes, its mark in front taken off. -/
def decode? (s : List Char) : Option (List Char) :=
  match Text.cutLast? '-' s with
  | some (plain, rest) =>
    if plain.isEmpty then none
    else if plain.all fun c => c.toNat < 0x80 then decodeFrom 72 0x80 0 true plain rest
    else none
  | none => decodeFrom 72 0x80 0 true [] s

end IngressGateway.Url.Punycode
