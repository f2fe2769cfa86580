import IngressGateway.Json.Value
import IngressGateway.Text.Digits

/-!
Reading JSON text. One value is read, with white space around it and nothing else. Lists and objects
nest at most `maxDepth` deep. A name that occurs twice in an object keeps its last value, and escaped
surrogates have to come in pairs. Numbers too large for a double are refused.
-/

set_option autoImplicit false

namespace IngressGateway.Json

/-- How deep lists and objects may nest. -/
def maxDepth : Nat := 127

def isSpace (c : Char) : Bool := c = ' ' || c = '\t' || c = '\n' || c = '\r'

def skipSpace (s : List Char) : List Char := s.dropWhile isSpace

def codeUnit? (a b c d : Char) : Option Nat := Text.readIn? 16 [a, b, c, d]

def shortEscape? : Char → Option Char
  | '"' => some '"'
  | '\\' => some '\\'
  | '/' => some '/'
  | 'b' => some '\x08'
  | 'f' => some '\x0c'
  | 'n' => some '\n'
  | 'r' => some '\r'
  | 't' => some '\t'
  | _ => none

/-- The character of a single code unit that is no surrogate. -/
def plainUnit? (n : Nat) : Option Char :=
  if 0xD800 ≤ n ∧ n ≤ 0xDFFF then none else some (Char.ofNat n)

def pairedUnits? (high low : Nat) : Option Char :=
  if 0xD800 ≤ high ∧ high ≤ 0xDBFF ∧ 0xDC00 ≤ low ∧ low ≤ 0xDFFF then
    some (Char.ofNat (0x10000 + (high - 0xD800) * 0x400 + (low - 0xDC00)))
  else none

def readText : List Char → Option (List Char × List Char)
  | [] => none
  | '"' :: rest => some ([], rest)
  | '\\' :: 'u' :: a :: b :: c :: d :: '\\' :: 'u' :: e :: f :: g :: h :: rest =>
    match codeUnit? a b c d with
    | none => none
    | some high =>
      match plainUnit? high with
      | some x =>
        (readText ('\\' :: 'u' :: e :: f :: g :: h :: rest)).map fun p => (x :: p.1, p.2)
      | none =>
        match (codeUnit? e f g h).bind (pairedUnits? high) with
        | none => none
        | some x => (readText rest).map fun p => (x :: p.1, p.2)
  | '\\' :: 'u' :: a :: b :: c :: d :: rest =>
    match (codeUnit? a b c d).bind plainUnit? with
    | none => none
    | some x => (readText rest).map fun p => (x :: p.1, p.2)
  | '\\' :: x :: rest =>
    match shortEscape? x with
    | none => none
    | some y => (readText rest).map fun p => (y :: p.1, p.2)
  | c :: rest =>
    if c = '\\' ∨ c.toNat < 0x20 then none
    else (readText rest).map fun p => (c :: p.1, p.2)

/-- The digits at the start of a text, one at least, and what follows them. -/
def readDigits? (s : List Char) : Option (List Char × List Char) :=
  match s.takeWhile Char.isDigit with
  | [] => none
  | digits => some (digits, s.dropWhile Char.isDigit)

/-- The digits of a whole number: no zero stands before another digit. -/
def readWhole? : List Char → Option (List Char × List Char)
  | '0' :: rest => some (['0'], rest)
  | s => readDigits? s

def readFraction? : List Char → Option (List Char × List Char)
  | '.' :: rest => (readDigits? rest).map fun p => ('.' :: p.1, p.2)
  | s => some ([], s)

def readExponent? : List Char → Option (List Char × List Char)
  | c :: rest =>
    if c = 'e' ∨ c = 'E' then
      match rest with
      | '+' :: rest => (readDigits? rest).map fun p => (c :: '+' :: p.1, p.2)
      | '-' :: rest => (readDigits? rest).map fun p => (c :: '-' :: p.1, p.2)
      | rest => (readDigits? rest).map fun p => (c :: p.1, p.2)
    else some ([], c :: rest)
  | [] => some ([], [])

/-- The least number that is too large for a double: halfway from the largest one to the next power of
two. -/
def doubleLimit : Nat := Nat.pow 2 1024 - Nat.pow 2 970

def exponentOf : List Char → Int
  | _ :: '-' :: digits => -(Text.natOfDigits digits : Int)
  | _ :: '+' :: digits => Text.natOfDigits digits
  | _ :: digits => Text.natOfDigits digits
  | [] => 0

/-- Whether a written number is too large for a double, its sign aside. The powers of ten are taken only
where the count of digits does not decide. -/
def isTooLarge (whole fraction exponent : List Char) : Bool :=
  let decimals := fraction.drop 1
  let digits := (whole ++ decimals).dropWhile (· = '0')
  let scale := exponentOf exponent - decimals.length
  let places := digits.length + scale
  if digits.isEmpty || places < 309 then false
  else if 309 < places then true
  else
    doubleLimit * Nat.pow 10 (-scale).toNat ≤ Text.natOfDigits digits * Nat.pow 10 scale.toNat

/-- The value of a written number: a whole number if it is written as one and fits into 64 bits,
signed or not. Minus zero is no whole number. -/
def number (negative : Bool) (whole fraction exponent : List Char) : Json :=
  let n := Text.natOfDigits whole
  let written := (if negative then ['-'] else []) ++ whole ++ fraction ++ exponent
  if fraction = [] ∧ exponent = [] then
    if negative then
      if 0 < n ∧ n ≤ Nat.pow 2 63 then .int (-n) else .decimal (String.ofList written)
    else if n < Nat.pow 2 64 then .int n else .decimal (String.ofList written)
  else .decimal (String.ofList written)

def readNumber? (s : List Char) : Option (Json × List Char) := do
  let (negative, s) := match s with
    | '-' :: rest => (true, rest)
    | s => (false, s)
  let (whole, s) ← readWhole? s
  let (fraction, s) ← readFraction? s
  let (exponent, s) ← readExponent? s
  if isTooLarge whole fraction exponent then none
  else return (number negative whole fraction exponent, s)

mutual

/-- The value at the start of a text; `depth` more lists or objects may be opened. -/
def readValue (fuel depth : Nat) (s : List Char) : Option (Json × List Char) :=
  match fuel with
  | 0 => none
  | fuel + 1 =>
    match skipSpace s with
    | '"' :: rest => (readText rest).map fun p => (.str (String.ofList p.1), p.2)
    | '[' :: rest =>
      match depth with
      | 0 => none
      | depth + 1 =>
        match skipSpace rest with
        | ']' :: rest => some (.arr [], rest)
        | rest => (readItems fuel depth rest).map fun p => (.arr p.1, p.2)
    | '\x7b' :: rest =>
      match depth with
      | 0 => none
      | depth + 1 =>
        match skipSpace rest with
        | '\x7d' :: rest => some (.obj [], rest)
        | rest =>
          (readMembers fuel depth rest).map fun p => (.obj (SortedMap.ofList p.1).entries, p.2)
    | 'n' :: 'u' :: 'l' :: 'l' :: rest => some (.null, rest)
    | 't' :: 'r' :: 'u' :: 'e' :: rest => some (.bool true, rest)
    | 'f' :: 'a' :: 'l' :: 's' :: 'e' :: rest => some (.bool false, rest)
    | s => readNumber? s
termination_by structural fuel

def readItems (fuel depth : Nat) (s : List Char) : Option (List Json × List Char) :=
  match fuel with
  | 0 => none
  | fuel + 1 =>
    match readValue fuel depth s with
    | none => none
    | some (item, s) =>
      match skipSpace s with
      | ']' :: rest => some ([item], rest)
      | ',' :: rest => (readItems fuel depth rest).map fun p => (item :: p.1, p.2)
      | _ => none
termination_by structural fuel

def readMembers (fuel depth : Nat) (s : List Char) :
    Option (List (String × Json) × List Char) :=
  match fuel with
  | 0 => none
  | fuel + 1 =>
    match skipSpace s with
    | '"' :: rest =>
      match readText rest with
      | none => none
      | some (name, s) =>
        match skipSpace s with
        | ':' :: rest =>
          match readValue fuel depth rest with
          | none => none
          | some (value, s) =>
            match skipSpace s with
            | '\x7d' :: rest => some ([(String.ofList name, value)], rest)
            | ',' :: rest =>
              (readMembers fuel depth rest).map fun p => ((String.ofList name, value) :: p.1, p.2)
            | _ => none
        | _ => none
    | _ => none
termination_by structural fuel

end

def read? (text : String) : Option Json :=
  let s := text.toList
  match readValue (2 * s.length + 2) maxDepth s with
  | some (value, rest) => if skipSpace rest = [] then some value else none
  | none => none

end IngressGateway.Json
