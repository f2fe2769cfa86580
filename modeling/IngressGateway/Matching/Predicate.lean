import IngressGateway.Gateway.Route
import IngressGateway.Matching.Pattern
import IngressGateway.Notification.Reported

/-!
Predicates on headers and query parameters for the conditions of a match. Each condition is translated by
itself; the predicates of a list of conditions are those of its members, in order.
-/

set_option autoImplicit false

namespace IngressGateway.Matching

open Gateway (ValueMatch)
open Ingress (Condition Criterion)

structure Predicates where
  headers : List ValueMatch
  queryParams : List ValueMatch
deriving DecidableEq, Repr

namespace Predicates

def none : Predicates := ⟨[], []⟩

def isEmpty (p : Predicates) : Bool := p.headers.isEmpty && p.queryParams.isEmpty

def flatten (ps : List Predicates) : Predicates :=
  ⟨ps.flatMap headers, ps.flatMap queryParams⟩

def header (name pattern : String) : Predicates := ⟨[⟨name, some .regularExpression, pattern⟩], []⟩

def queryParam (name pattern : String) : Predicates :=
  ⟨[], [⟨name, some .regularExpression, pattern⟩]⟩

end Predicates

def cookieHeader : String := "Cookie"

/-- The predicate of a condition with one subject; a variable of the proxy has none. -/
def predicate (c : Criterion) : Predicates :=
  match c.subject with
  | .header name => .header name (valuePattern c.wanted)
  | .argument name => .queryParam name (valuePattern c.wanted)
  | .cookie name => .header cookieHeader (cookiePattern name c.wanted)
  | .internal _ => .none

def translateCriterion (c : Criterion) (source : ObjectRef) : Reported Predicates :=
  match c.subject with
  | .internal name => do
    Reported.info source
      s!"NGINX variable condition '{name}' is not directly supported in Gateway API"
    return .none
  | subject =>
    if c.wanted.isBlank then do
      Reported.warning source (subject.label ++ " condition missing name or value")
      return .none
    else do
      if c.wanted.negated then
        Reported.info source
          (s!"Negated {subject.display} condition converted to a negative lookahead regex, "
            ++ "which not every Gateway API implementation supports")
      if let .cookie name := subject then
        Reported.info source s!"Cookie condition '{name}' converted to Cookie header match"
      return predicate c

def translateCondition (c : Condition) (source : ObjectRef) : Reported Predicates :=
  match c.criterion with
  | .error e => do
    Reported.warning source ("Skipping match condition: " ++ e.message)
    return .none
  | .ok criterion => translateCriterion criterion source

def translateConditions (cs : List Condition) (source : ObjectRef) : Reported Predicates :=
  Predicates.flatten <$> Reported.each cs fun c => translateCondition c source

end IngressGateway.Matching
