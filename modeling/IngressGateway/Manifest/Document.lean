import IngressGateway.Json.Reader
import IngressGateway.Manifest.Quoted
import IngressGateway.Text.Cut

/-!
The documents of a manifest file. Documents are parted by lines that start with three dashes; each is one
JSON value, which is also YAML, or nothing but comments. No other form of YAML is read.
-/

set_option autoImplicit false

namespace IngressGateway.Manifest

inductive Document where
  | value (content : Json)
  | invalid

def nullWords : List String := ["", "~", "null", "Null", "NULL"]

def isAllowed (c : Char) : Bool :=
  let n := c.toNat
  n = 0x09 || n = 0x0A || n = 0x0D || (0x20 ≤ n && n ≤ 0x7E) || n = 0x85
    || (0xA0 ≤ n && n ≠ 0xFFFE && n ≠ 0xFFFF)

/-- Whether a written number is a whole one that no reader has room for: it needs more than 64 bits but
not more than 128. -/
def isOversized (written : String) : Bool :=
  match written.toList with
  | '-' :: digits =>
    digits.all Char.isDigit && Nat.pow 2 63 < Text.natOfDigits digits
      && Text.natOfDigits digits ≤ Nat.pow 2 127
  | digits =>
    digits.all Char.isDigit && Nat.pow 2 64 ≤ Text.natOfDigits digits
      && Text.natOfDigits digits < Nat.pow 2 128

mutual

/-- Whether a value holds a number that no reader has room for. -/
def hasOversized : Json → Bool
  | .decimal w => isOversized w
  | .arr items => itemsHaveOversized items
  | .obj members => membersHaveOversized members
  | _ => false
termination_by structural j => j

def itemsHaveOversized : List Json → Bool
  | [] => false
  | j :: rest => hasOversized j || itemsHaveOversized rest
termination_by structural js => js

def membersHaveOversized : List (String × Json) → Bool
  | [] => false
  | m :: rest => memberHasOversized m || membersHaveOversized rest
termination_by structural ms => ms

def memberHasOversized : String × Json → Bool
  | (_, j) => hasOversized j
termination_by structural m => m

end

/-- Whether a line holds nothing but a comment. -/
def isComment (line : List Char) : Bool := (line.dropWhile Json.isSpace).head? = some '#'

def Document.ofLines (lines : List (List Char)) : Document :=
  let text := ("\n".intercalate ((lines.filter fun l => !isComment l).map String.ofList))
  let bare := String.ofList
    ((text.toList.dropWhile Json.isSpace).reverse.dropWhile Json.isSpace).reverse
  if nullWords.contains bare then .value .null
  else match ((foldQuoted none text.toList).map String.ofList).bind Json.read? with
    | none => .invalid
    | some j => if hasOversized j then .invalid else .value j

/-- What follows the three dashes, if a line starts a document. -/
def afterMarker? (line : List Char) : Option (List Char) :=
  match Text.stripStart? "---".toList line with
  | none => none
  | some [] => some []
  | some (c :: rest) => if Json.isSpace c then some rest else none

/-- The lines of each document; those before the first marker come first. -/
def splitLines : List (List Char) → List (List Char) × List (List (List Char))
  | [] => ([], [])
  | line :: rest =>
    let (current, later) := splitLines rest
    match afterMarker? line with
    | none => (line :: current, later)
    | some after => ([], (after :: current) :: later)

/-- The documents of a file. What stands before the first marker counts if it says anything; a file with a
character that may not stand in it is one invalid document. -/
def documents (text : String) : List Document :=
  if text.toList.all isAllowed then
    let (before, later) := splitLines (Text.pieces '\n' text.toList)
    let first := if before.all fun l => l.all Json.isSpace || isComment l then [] else [before]
    (first ++ later).map Document.ofLines
  else [.invalid]

end IngressGateway.Manifest
