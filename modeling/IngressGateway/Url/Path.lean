import IngressGateway.Url.Percent
import IngressGateway.Text.Cut

/-!
Paths of URLs. A path is a list of segments; one dot stands for nothing and two dots take back the segment
before them, whether the dots are written as such or in percent form. A segment that names a drive is not
taken back.
-/

set_option autoImplicit false

namespace IngressGateway.Url

def dotForms : List String := [".", "%2e"]

def isDot (s : List Char) : Bool := dotForms.contains (String.ofList (s.map Char.toLower))

def isDotDot (s : List Char) : Bool :=
  (dotForms.flatMap fun a => dotForms.map fun b => a ++ b).contains
    (String.ofList (s.map Char.toLower))

/-- Whether a segment names a drive: a letter with a colon or a bar. -/
def isDrive : List Char → Bool
  | [letter, mark] => letter.isAlpha && (mark = ':' || mark = '|')
  | _ => false

/-- The segments before the last one, after two dots. -/
def dropSegment (segments : List (List Char)) : List (List Char) :=
  match segments.getLast? with
  | some last => if isDrive last then segments else segments.dropLast
  | none => []

/-- The segments after some more written ones. A path that ends in dots ends in an empty segment. -/
def addSegments (done : List (List Char)) : List (List Char) → List (List Char)
  | [] => done
  | s :: rest =>
    if isDotDot s then
      if rest.isEmpty then dropSegment done ++ [[]] else addSegments (dropSegment done) rest
    else if isDot s then
      if rest.isEmpty then done ++ [[]] else addSegments done rest
    else addSegments (done ++ [s]) rest

/-- The stretches between slashes, and between backslashes if those count as slashes. -/
def writtenSegments (backslash : Bool) (s : List Char) : List (List Char) :=
  Text.pieces '/' (if backslash then s.map fun c => if c = '\\' then '/' else c else s)

/-- The segments of a path that is written without its first slash. -/
def pathSegments (backslash : Bool) (s : List Char) : List (List Char) :=
  addSegments [] ((writtenSegments backslash s).map (percentEncode pathSet))

/-- A path with a slash before each segment. -/
def joinSegments (segments : List (List Char)) : List Char :=
  segments.flatMap fun s => '/' :: s

end IngressGateway.Url
