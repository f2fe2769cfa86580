import IngressGateway.Ingress.Condition

/-!
Regular expressions for wanted values. A value without metacharacters is literal: it is escaped, and
letter case does not count. Negation wraps an expression into a lookahead.
-/

set_option autoImplicit false

namespace IngressGateway.Matching

open Ingress (Wanted)

def metacharacters : List Char := ['*', '^', '$', '[', ']', '(', ')', '.', '+', '?', '|', '\\']

def isRegex (value : String) : Bool := value.toList.any metacharacters.contains

def escapedCharacters : List Char :=
  ['\\', '.', '+', '*', '?', '(', ')', '|', '[', ']', '\x7b', '\x7d', '^', '$', '#', '&', '-', '~']

def escapeChar (c : Char) : List Char := if escapedCharacters.contains c then ['\\', c] else [c]

def escape (s : String) : String := String.ofList (s.toList.flatMap escapeChar)

/-- Exactly this text, in any letter case. -/
def exactPattern (value : String) : String := "(?i)^" ++ escape value ++ "$"

/-- Anything that the expression does not match from its start on. -/
def negate (pattern : String) : String := "^(?!" ++ pattern ++ ").*$"

/-- The expression for the value of a header or of a query parameter. -/
def valuePattern (w : Wanted) : String :=
  let pattern := if isRegex w.pattern then w.pattern else exactPattern w.pattern
  if w.negated then negate pattern else pattern

/-- The expression for one pair of the `Cookie` header; a literal value stands between word
boundaries. -/
def cookiePair (name : String) (w : Wanted) : String :=
  if isRegex w.pattern then escape name ++ "=" ++ w.pattern
  else "\\b" ++ escape (name ++ "=" ++ w.pattern) ++ "\\b"

/-- The expression for the whole `Cookie` header. -/
def cookiePattern (name : String) (w : Wanted) : String :=
  if w.negated then "^(?!.*" ++ cookiePair name w ++ ").*$"
  else "(?i).*" ++ cookiePair name w ++ ".*"

end IngressGateway.Matching
