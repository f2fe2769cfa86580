import IngressGateway.Text.Cut

/-!
Quoted texts that go over several lines. To YAML some characters end a line that JSON knows nothing of. In
a quoted text such a line end is folded with the blanks around it: one alone becomes a blank, and of several
the first one goes. A member name has to stand on one line and may not be too long.
-/

set_option autoImplicit false

namespace IngressGateway.Manifest

def nextLine : Char := '\x85'

/-- Whether a character ends a line to YAML only. -/
def isLineEnd (c : Char) : Bool := c = nextLine || c = '\u2028' || c = '\u2029'

def keptLineEnd (c : Char) : List Char := if c = nextLine then ['\\', 'n'] else [c]

/-- A run of blanks and line ends, folded. A line end of its own kind stays even if it is the first. -/
def foldRun (run : List Char) : List Char :=
  match run.filter isLineEnd with
  | [] => run
  | first :: others =>
    if first = nextLine then if others.isEmpty then [' '] else others.flatMap keptLineEnd
    else first :: others.flatMap keptLineEnd

def startsWithMarker (s : List Char) : Bool :=
  match s with
  | a :: b :: c :: d :: _ =>
    (a = '-' || a = '.') && b = a && c = a && (d = ' ' || isLineEnd d)
  | _ => false

/-- A quoted text, folded; `run` is what blanks and line ends have just been passed, from the last one on.
No line may start with a mark that parts documents. -/
def foldFrom (run : List Char) : List Char → Option (List Char)
  | [] => some (foldRun run.reverse)
  | c :: rest =>
    if c = ' ' || isLineEnd c then foldFrom (c :: run) rest
    else if run.head?.any isLineEnd && startsWithMarker (c :: rest) then none
    else (foldFrom [] rest).map fun s => foldRun run.reverse ++ c :: s

def maxNameLength : Nat := 1024

def canBeName (quoted : List Char) : Bool :=
  quoted.length + 2 ≤ maxNameLength && !quoted.any isLineEnd

/-- The text with its quoted parts folded; `quoted` holds the part that has been opened, from its end. -/
def foldQuoted (quoted : Option (List Char)) : List Char → Option (List Char)
  | [] => some (quoted.elim [] fun q => '"' :: q.reverse)
  | c :: rest =>
    match quoted with
    | none => if c = '"' then foldQuoted (some []) rest else (foldQuoted none rest).map (c :: ·)
    | some q =>
      if c = '"' && (q.takeWhile (· = '\\')).length % 2 = 0 then
        if rest.head? = some ':' && !canBeName q.reverse then none
        else do
          let folded ← foldFrom [] q.reverse
          let after ← foldQuoted none rest
          return '"' :: folded ++ '"' :: after
      else foldQuoted (some (c :: q)) rest

end IngressGateway.Manifest
