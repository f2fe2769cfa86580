import IngressGateway.Text.Cut
import IngressGateway.Text.Digits

/-!
Texts that YAML would read as something other than text: null, truth values and numbers. Such a text has to
be quoted.
-/

set_option autoImplicit false

namespace IngressGateway.Yaml

open Text (natOfDigits)

/-- The words for null and for truth values. -/
def reservedWords : List String :=
  ["null", "Null", "NULL", "~", "true", "True", "TRUE", "false", "False", "FALSE"]

/-- The words for numbers that are not finite, without a sign. -/
def infinityWords : List String := [".inf", ".Inf", ".INF"]

def nanWords : List String := [".nan", ".NaN", ".NAN"]

/-- A text without a sign at its start. -/
def withoutSign : List Char → List Char
  | '+' :: rest => rest
  | '-' :: rest => rest
  | s => s

/-- Whether a text is made of digits only and has a zero in front of others. -/
def hasLeadingZero (s : List Char) : Bool :=
  match withoutSign s with
  | '0' :: d :: rest => (d :: rest).all Char.isDigit
  | _ => false

/-- The number that digits of a base write; there has to be one at least. -/
def readBase? (base : Nat) (s : List Char) : Option Nat :=
  if s.isEmpty then none else Text.readIn? base s

/-- The number that a text without a sign writes, in decimal or with the mark of another base. -/
def readMagnitude? (s : List Char) : Option Nat :=
  match s with
  | '0' :: 'x' :: rest => readBase? 16 rest
  | '0' :: 'o' :: rest => readBase? 8 rest
  | '0' :: 'b' :: rest => readBase? 2 rest
  | s => readBase? 10 s

def isInteger (s : List Char) : Bool :=
  !hasLeadingZero s &&
    match s with
    | '-' :: rest => (readMagnitude? rest).any fun n => n ≤ Nat.pow 2 127
    | '+' :: rest => (readMagnitude? rest).any fun n => n < Nat.pow 2 128
    | s => (readMagnitude? s).any fun n => n < Nat.pow 2 128

/-- The digits of a decimal number, those after the point counted, and its exponent. -/
structure Decimal where
  digits : List Char
  places : Nat
  exponent : Int
deriving Repr

def readExponent? (s : List Char) : Option Int :=
  match s with
  | [] => some 0
  | c :: rest =>
    if c = 'e' ∨ c = 'E' then
      let digits := withoutSign rest
      if digits.isEmpty || !digits.all Char.isDigit then none
      else
        let n : Int := (natOfDigits digits : Nat)
        some (if rest.head? = some '-' then -n else n)
    else none

/-- The decimal number that a text writes: digits before a point, after it or both, and an exponent. -/
def readDecimal? (s : List Char) : Option Decimal :=
  let s := withoutSign s
  let whole := s.takeWhile Char.isDigit
  match s.dropWhile Char.isDigit with
  | '.' :: rest =>
    let fraction := rest.takeWhile Char.isDigit
    if whole.isEmpty && fraction.isEmpty then none
    else (readExponent? (rest.dropWhile Char.isDigit)).map
      fun e => ⟨whole ++ fraction, fraction.length, e⟩
  | rest => if whole.isEmpty then none else (readExponent? rest).map fun e => ⟨whole, 0, e⟩

/-- The least whole number that is too large for a floating-point number of 64 bits. -/
def floatBound : Nat := Nat.pow 2 1024 - Nat.pow 2 970

/-- Whether a decimal number is within the range of floating-point numbers of 64 bits. -/
def Decimal.isFinite (d : Decimal) : Bool :=
  match d.digits.dropWhile (· = '0') with
  | [] => true
  | digits =>
    let shift := d.exponent - d.places
    let size := digits.length + shift
    if size < 309 then true
    else if 309 < size then false
    else
      let n := natOfDigits digits
      if 0 ≤ shift then n * Nat.pow 10 shift.toNat < floatBound
      else n < floatBound * Nat.pow 10 (-shift).toNat

/-- Whether a text is a finite decimal number. A second sign does not count as one. -/
def isFloat (s : List Char) : Bool := (readDecimal? s).any Decimal.isFinite

/-- Whether a text is a word for a number that is not finite. -/
def isSpecialFloat (s : List Char) : Bool :=
  infinityWords.contains (String.ofList (withoutSign s)) || nanWords.contains (String.ofList s)

/-- Whether YAML reads a bare text as anything but this text. -/
def needsQuotes (s : List Char) : Bool :=
  s.isEmpty || reservedWords.contains (String.ofList s) || isInteger s || hasLeadingZero s
    || isFloat s || isSpecialFloat s

end IngressGateway.Yaml
