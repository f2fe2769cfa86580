import IngressGateway.Text.Canonical
import IngressGateway.Url.Idna.Direction
import IngressGateway.Url.Idna.Joining
import IngressGateway.Url.Idna.Mapping
import IngressGateway.Url.Punycode

/-!
Names of hosts in ASCII. A name is first brought to one form, small letters and composed characters. Its
labels, which stand between dots, are then checked, and one with characters beyond ASCII is written in
Punycode with the mark `xn--` in front. A label that has the mark already has to be one that is written so.
-/

set_option autoImplicit false

namespace IngressGateway.Url.Idna

def mark : List Char := "xn--".toList

/-- Whether a character of ASCII may not stand in the name of a host. -/
def isDenied (c : Char) : Bool :=
  c.toNat ≤ 0x20 || c = '\x7f' || "%#/:<>?@[\\]^|".toList.contains c

/-- The name in small letters and composed characters, if it holds none that a name may not hold. -/
def normal? (s : List Char) : Option (List Char) := do
  let images ← s.mapM mapped?
  let name := Text.Canonical.compose images.flatten
  if name.any isDenied then none else some name

/-! ### Checks of a label -/

def maxCodedLength : Nat := 2000

def maxUncodedLength : Nat := 1000

/-- The label with its characters beyond ASCII, read from Punycode if it is marked. What Punycode writes has
to be in normal form, and not marked again. -/
def readLabel? (label : List Char) : Option (List Char) :=
  match Text.stripStart? mark label with
  | none => some label
  | some coded =>
    if coded.isEmpty || coded.getLast? = some '-' || maxCodedLength < coded.length then none
    else do
      let decoded ← Punycode.decode? coded
      if normal? decoded = some decoded && (Text.stripStart? mark decoded).isNone then some decoded
      else none

/-- Whether the first character that joining does not pass over is one of the tables. -/
def joinsWith (tables : List (List Text.CodePoints)) (s : List Char) : Bool :=
  match s.dropWhile (Text.CodePoints.mem transparent) with
  | c :: _ => tables.any fun t => Text.CodePoints.mem t c
  | [] => false

/-- Whether each joiner, and each character against joining, has a reason to stand where it does: a mark that
silences a vowel before it, or, against joining only, letters around it that would join. `before` is what
comes before the text, from its end. -/
def joinersPlaced (before : List Char) : List Char → Bool
  | [] => true
  | c :: rest =>
    (if c = '\u200C' then
        before.head?.any (Text.Canonical.markClass · = 9)
          || (joinsWith [leftJoining, dualJoining] before
            && joinsWith [rightJoining, dualJoining] rest)
      else if c = '\u200D' then before.head?.any (Text.Canonical.markClass · = 9)
      else true)
      && joinersPlaced (c :: before) rest

/-- Whether a label starts with no combining mark, has its joiners in place and is not too long. -/
def isWellFormed (label : List Char) : Bool :=
  label.all (·.toNat < 0x80)
    || (!label.head?.any (Text.CodePoints.mem marks) && joinersPlaced [] label
      && label.length ≤ maxUncodedLength)

/-! ### Direction -/

/-- Whether a name with a character of this direction is checked for the direction of its labels. -/
def isRightward (d : Direction) : Bool :=
  d = .rightToLeft || d = .arabicLetter || d = .arabicNumber

/-- Whether a label reads in one direction only. One that starts from the left holds nothing from the right
and ends in a letter or digit, marks aside; one that starts from the right holds no letter from the left, has
one kind of digits at most, and ends in a letter or digit as well. -/
def isUnidirectional (label : List Char) : Bool :=
  let directions := label.map Direction.of
  let last := (directions.reverse.dropWhile (· = .nonspacing)).head?
  match directions with
  | [] => true
  | .leftToRight :: _ =>
    !directions.any isRightward && last.any fun d => d = .leftToRight || d = .europeanNumber
  | .rightToLeft :: _ | .arabicLetter :: _ =>
    !directions.contains .leftToRight
      && !(directions.contains .arabicNumber && directions.contains .europeanNumber)
      && last.any fun d => isRightward d || d = .europeanNumber
  | _ => false

/-! ### The name -/

def writeLabel (label : List Char) : List Char :=
  if label.all (·.toNat < 0x80) then label else mark ++ Punycode.encode label

/-- The name in ASCII, if it can be the name of a host. -/
def toAscii? (s : List Char) : Option (List Char) := do
  let name ← normal? s
  let labels ← (Text.pieces '.' name).mapM readLabel?
  if !labels.all isWellFormed then none
  else if labels.any (·.any fun c => isRightward (.of c)) && !labels.all isUnidirectional then none
  else some (['.'].intercalate (labels.map writeLabel))

end IngressGateway.Url.Idna
