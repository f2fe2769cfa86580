import IngressGateway.Json.Codec
import IngressGateway.Url.Host
import IngressGateway.Url.Path

/-!
URLs with a host, read as browsers read them. White space and control characters around a URL are
dropped, and so are tabs and line ends within it. Schemes that are well known take any number of slashes
before the host and take backslashes for slashes.
-/

set_option autoImplicit false

namespace IngressGateway.Url

/-- A URL with a host. The port is missing if it goes without saying. -/
structure Hosted where
  scheme : String
  host : String
  port : Option Unsigned16
  path : String
  query : Option String
  fragment : Option String
deriving DecidableEq, Repr

inductive SchemeKind where
  | web
  /-- The URL names a file, whose host is usually left out. -/
  | file
  | other
deriving DecidableEq, Repr

/-- The port of a scheme that goes without saying. -/
def defaultPort? (scheme : String) : Option Nat :=
  if scheme = "http" ∨ scheme = "ws" then some 80
  else if scheme = "https" ∨ scheme = "wss" then some 443
  else if scheme = "ftp" then some 21
  else none

def kindOf (scheme : String) : SchemeKind :=
  if scheme = "file" then .file
  else if (defaultPort? scheme).isSome then .web
  else .other

namespace Hosted

def isOuter (c : Char) : Bool := c.toNat ≤ 0x20

def isIgnored (c : Char) : Bool := c = '\t' || c = '\n' || c = '\r'

def clean (s : List Char) : List Char :=
  (((s.dropWhile isOuter).reverse.dropWhile isOuter).reverse).filter fun c => !isIgnored c

def isSchemeChar (c : Char) : Bool := c.isAlphanum || c = '+' || c = '-' || c = '.'

/-- The scheme at the start of a URL, and what follows its colon. -/
def readScheme? (s : List Char) : Option (String × List Char) :=
  match s with
  | [] => none
  | c :: _ =>
    if c.isAlpha then
      match s.dropWhile isSchemeChar with
      | ':' :: rest => some (String.ofList ((s.takeWhile isSchemeChar).map Char.toLower), rest)
      | _ => none
    else none

/-- Whether a character ends the part of a URL that names the server. -/
def endsAuthority (kind : SchemeKind) (c : Char) : Bool :=
  c = '/' || c = '?' || c = '#' || (c = '\\' && kind ≠ .other)

/-- The host at the start of a text that names a server, and what follows it: the rest from the first
colon on that is not in brackets. -/
def cutHost (inside : Bool) : List Char → List Char × List Char
  | [] => ([], [])
  | c :: rest =>
    if c = ':' ∧ inside = false then ([], c :: rest)
    else
      let p := cutHost (if c = '[' then true else if c = ']' then false else inside) rest
      (c :: p.1, p.2)

def readPortNumber? (digits : List Char) : Option (Option Unsigned16) :=
  if digits.isEmpty then some none
  else
    let n : Int := (Text.natOfDigits digits : Nat)
    if h : 0 ≤ n ∧ n ≤ 65535 then some (some ⟨n, h⟩) else none

/-- The port after a host, and what follows it. Only a backslash may follow, where it does not count as a
slash. -/
def readPort? (s : List Char) : Option (Option Unsigned16 × List Char) :=
  match s with
  | ':' :: rest =>
    match rest.dropWhile Char.isDigit with
    | [] => (readPortNumber? rest).map fun p => (p, [])
    | '\\' :: after =>
      (readPortNumber? (rest.takeWhile Char.isDigit)).map fun p => (p, '\\' :: after)
    | _ => none
  | s => some (none, s)

/-- The port unless it goes without saying. -/
def notable (scheme : String) (p : Option Unsigned16) : Option Unsigned16 :=
  p.filter fun n => (defaultPort? scheme).all fun d => n.val ≠ (d : Nat)

/-- What stands before the first question mark or number sign, and the rest. -/
def cutPath (s : List Char) : List Char × List Char :=
  (s.takeWhile fun c => c ≠ '?' && c ≠ '#', s.dropWhile fun c => c ≠ '?' && c ≠ '#')

def readTail (kind : SchemeKind) (s : List Char) : Option String × Option String :=
  let set := if kind = .other then querySet else specialQuerySet
  let fragment := fun (t : List Char) => String.ofList (percentEncode fragmentSet t)
  match s with
  | '?' :: rest =>
    let query := String.ofList (percentEncode set (rest.takeWhile fun c => c ≠ '#'))
    match rest.dropWhile fun c => c ≠ '#' with
    | '#' :: t => (some query, some (fragment t))
    | _ => (some query, none)
  | '#' :: t => (none, some (fragment t))
  | _ => (none, none)

/-- The path of a URL; the path of a well-known scheme is never empty. -/
def readPathText (kind : SchemeKind) (s : List Char) : List (List Char) :=
  match kind, s with
  | .other, [] => []
  | .other, '/' :: rest => pathSegments false rest
  | .other, s => pathSegments false s
  | _, '/' :: rest => pathSegments true rest
  | _, '\\' :: rest => pathSegments true rest
  | _, s => pathSegments true s

def build (scheme : String) (kind : SchemeKind) (host : Host) (port : Option Unsigned16)
    (s : List Char) : Hosted :=
  let (pathText, tail) := cutPath s
  let (query, fragment) := readTail kind tail
  { scheme, host := host.display, port := notable scheme port,
    path := String.ofList (joinSegments (readPathText kind pathText)), query, fragment }

/-- The server that a text names, without the user, and the rest of the URL. -/
def cutAuthority (kind : SchemeKind) (s : List Char) : List Char × List Char :=
  let authority := s.takeWhile fun c => !endsAuthority kind c
  let rest := s.dropWhile fun c => !endsAuthority kind c
  match Text.cutLast? '@' authority with
  | some (_, server) => (server, rest)
  | none => (authority, rest)

def readServer? (scheme : String) (kind : SchemeKind) (s : List Char) : Option Hosted := do
  let (server, rest) := cutAuthority kind s
  let (hostText, portText) := cutHost false server
  let host ← if kind = .other then Host.readOpaque? hostText else Host.read? hostText
  let (port, left) ← readPort? portText
  return build scheme kind host port (left ++ rest)

/-- The path of a file without slashes at its start; no path that starts with a drive goes with a
host. -/
def filePath? (segments : List (List Char)) : Option (List (List Char)) :=
  match segments with
  | [] => some [[]]
  | s :: rest =>
    if isDrive s then none
    else some (match (s :: rest).dropWhile List.isEmpty with
      | [] => [[]]
      | kept => kept)

def readFile? (s : List Char) : Option Hosted := do
  let hostText := s.takeWhile fun c => !endsAuthority .file c
  let rest := s.dropWhile fun c => !endsAuthority .file c
  if isDrive hostText then none
  else
    let host ← Host.read? hostText
    if host = .domain "localhost".toList then none
    else
      let url := build "file" .file host none rest
      let segments ← filePath? (readPathText .file (cutPath rest).1)
      return { url with path := String.ofList (joinSegments segments) }

def isSlash (c : Char) : Bool := c = '/' || c = '\\'

/-- The URL that a text writes; nothing if it writes none or one without a host. -/
def read? (text : String) : Option Hosted := do
  let (scheme, rest) ← readScheme? (clean text.toList)
  match kindOf scheme with
  | .web => readServer? scheme .web (rest.dropWhile isSlash)
  | .file =>
    match rest with
    | a :: b :: after => if isSlash a && isSlash b then readFile? after else none
    | _ => none
  | .other =>
    match rest with
    | '/' :: '/' :: after => readServer? scheme .other after
    | _ => none

end Hosted

end IngressGateway.Url
