import IngressGateway.Yaml.Plain

/-!
Texts in YAML. A text with line ends is written as a block of lines, any other one bare if nothing in it
has a meaning of its own, else in single quotes; where neither will do, it is written in double quotes with
escapes.
-/

set_option autoImplicit false

namespace IngressGateway.Yaml

def isBreak (c : Char) : Bool :=
  c = '\n' || c = '\r' || c = '\x85' || c = '\u2028' || c = '\u2029'

/-- Whether a character can stand in a text without an escape. -/
def isPrintable (c : Char) : Bool :=
  c = '\n' || (0x20 ≤ c.toNat && c.toNat ≤ 0x7E)
    || (0xA0 ≤ c.toNat && c.toNat ≠ 0xFEFF && c.toNat ≠ 0xFFFE && c.toNat ≠ 0xFFFF)

/-- Whether a place in a text is blank, or behind its end. -/
def isBlankOrEnd : Option Char → Bool
  | none => true
  | some c => c = ' ' || c = '\t' || c = '\x00' || isBreak c

/-- Characters that have a meaning of their own at the start of a text. -/
def indicators : List Char :=
  ['#', ',', '[', ']', '\x7b', '\x7d', '&', '*', '!', '|', '>', '\x27', '"', '%', '@', '\x60']

def startsMarked (s : List Char) : Bool :=
  (Text.stripStart? "---".toList s).isSome || (Text.stripStart? "...".toList s).isSome ||
    match s with
    | [] => false
    | c :: rest =>
      indicators.contains c
        || ((c = '?' || c = ':' || c = '-') && isBlankOrEnd rest.head?)

/-- Whether a colon before a blank, or a number sign after one, stands behind the first character. -/
def marksInside : List Char → Bool
  | c :: d :: rest =>
    (d = ':' && isBlankOrEnd rest.head?) || (d = '#' && isBlankOrEnd (some c))
      || marksInside (d :: rest)
  | _ => false

/-- Whether some character stands right before one that ends a line. -/
def beforeBreak (p : Char → Bool) : List Char → Bool
  | c :: d :: rest => (p c && isBreak d) || beforeBreak p (d :: rest)
  | _ => false

/-- Whether a space stands right behind a character that ends a line. -/
def spaceAfterBreak : List Char → Bool
  | c :: d :: rest => (isBreak c && d = ' ') || spaceAfterBreak (d :: rest)
  | _ => false

def spaceBeforeBreak (s : List Char) : Bool := beforeBreak (· = ' ') s

/-- Whether every character can be written without an escape. -/
def allPrintable (s : List Char) : Bool := s.all isPrintable

def canBeBare (s : List Char) : Bool :=
  !needsQuotes s && !startsMarked s && !marksInside s && allPrintable s && !s.any isBreak
    && s.head? ≠ some ' ' && s.getLast? ≠ some ' '

def canBeSingleQuoted (s : List Char) : Bool :=
  allPrintable s && !spaceBeforeBreak s && !spaceAfterBreak s

def canBeBlock (s : List Char) : Bool :=
  allPrintable s && !spaceBeforeBreak s && s.getLast? ≠ some ' '

def spaces (n : Nat) : List Char := List.replicate n ' '

/-- The text with a margin before each line but the first one; empty lines get none. -/
def withMargin (margin : Nat) (atStart : Bool) : List Char → List Char
  | [] => []
  | c :: rest =>
    if isBreak c then c :: withMargin margin true rest
    else (if atStart then spaces margin else []) ++ c :: withMargin margin false rest

/-- How a block states its margin, where that cannot be seen, and what becomes of its last line end. -/
def blockHeader (s : List Char) : List Char :=
  let first := match s with
    | [] => []
    | c :: _ => if c = ' ' || isBreak c then ['2'] else []
  let last := match s.reverse with
    | [] => ['-']
    | c :: before =>
      if isBreak c then
        match before with
        | [] => ['+']
        | d :: _ => if isBreak d then ['+'] else []
      else ['-']
  '|' :: first ++ last

/-- A text as a block of lines with a margin; it ends with a line end. -/
def block (margin : Nat) (s : List Char) : List Char :=
  blockHeader s ++ '\n' :: withMargin margin true s
    ++ (if s.getLast?.any isBreak then [] else ['\n'])

/-- A text in single quotes; a single quote is written twice, and the closing one has a margin as well if
it starts a line. -/
def singleQuoted (margin : Nat) (s : List Char) : List Char :=
  '\x27' :: withMargin margin false (s.flatMap fun c => if c = '\x27' then [c, c] else [c])
    ++ (if s.getLast?.any isBreak then spaces margin else []) ++ ['\x27']

def escapeDigits (width n : Nat) : List Char := Text.hexOf Text.capitalHexDigits width n

def escapes : List (Char × Char) :=
  [('\x00', '0'), ('\x07', 'a'), ('\x08', 'b'), ('\t', 't'), ('\n', 'n'), ('\x0b', 'v'),
   ('\x0c', 'f'), ('\r', 'r'), ('\x1b', 'e'), ('"', '"'), ('\\', '\\'), ('\x85', 'N'),
   ('\u2028', 'L'), ('\u2029', 'P')]

def doubleQuotedChar (c : Char) : List Char :=
  match escapes.find? fun e => e.1 = c with
  | some e => ['\\', e.2]
  | none =>
    if isPrintable c then [c]
    else if c.toNat ≤ 0xFF then '\\' :: 'x' :: escapeDigits 2 c.toNat
    else if c.toNat ≤ 0xFFFF then '\\' :: 'u' :: escapeDigits 4 c.toNat
    else '\\' :: 'U' :: escapeDigits 8 c.toNat

def doubleQuoted (s : List Char) : List Char := '"' :: s.flatMap doubleQuotedChar ++ ['"']

/-- A text on the rest of its line, or from there on; it ends with a line end. -/
def scalar (margin : Nat) (text : String) : String :=
  let s := text.toList
  if s.contains '\n' then
    String.ofList (if canBeBlock s then block margin s else doubleQuoted s ++ ['\n'])
  else if canBeBare s then text ++ "\n"
  else if canBeSingleQuoted s then String.ofList (singleQuoted margin s ++ ['\n'])
  else String.ofList (doubleQuoted s ++ ['\n'])

def keyScalar (text : String) : String :=
  let s := text.toList
  String.ofList (if canBeBare s then s
    else if canBeSingleQuoted s then singleQuoted 0 s
    else doubleQuoted s)

/-- Whether a text can be a key that stands before its colon on one line. -/
def canBeShortKey (text : String) : Bool :=
  !text.toList.any isBreak && text.utf8ByteSize ≤ 128

end IngressGateway.Yaml
