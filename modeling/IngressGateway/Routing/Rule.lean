import IngressGateway.Backend.Target
import IngressGateway.Ingress.Route
import IngressGateway.Matching.Path
import IngressGateway.Matching.Predicate

/-!
The rules of a route: one for each of its matches, in order, and then one for the route itself. A rule is
a draft until it is known whether a backend of it speaks gRPC.
-/

set_option autoImplicit false

namespace IngressGateway.Routing

open Backend (Catalog Outcome Target)
open Gateway (HttpFilter HttpMatch PathMatch)
open Ingress (Action Match Route Split)
open Matching (Predicates)

structure RuleDraft where
  predicates : HttpMatch
  filters : List HttpFilter
  backends : List Target
deriving DecidableEq, Repr

def RuleDraft.isGrpc (d : RuleDraft) : Bool := d.backends.any Target.grpc

/-- Warnings about the fields of a route that have no counterpart. -/
def checkRoute (route : Route) (source : ObjectRef) : Reported Unit :=
  Reported.tellEach .warning source <|
    (Backend.namesOfSet
      [ ("location-snippets", !route.locationSnippets.isEmpty),
        ("errorPages", !route.errorPages.isEmpty),
        ("policies", !route.policies.isEmpty) ]).map fun field =>
      s!"Route field '{field}' on path '{route.path}' is not supported in Gateway API "
        ++ "and was not converted"

/-- Whether there is anything to do with the requests that get here. -/
def hasOutcome (action : Option Action) (splits : List Split) : Bool :=
  action.isSome || !splits.isEmpty

/-- What an action that may be missing leads to. -/
def translateOptional (action : Option Action) (c : Catalog) (source : ObjectRef) :
    Reported Outcome :=
  match action with
  | none => return .nothing
  | some a => Backend.translateAction a c source

def draftRule (predicates : HttpMatch) (action : Option Action) (splits : List Split)
    (c : Catalog) (source : ObjectRef) : Reported RuleDraft := do
  let outcome ← translateOptional action c source
  let targets ← Backend.translateSplits splits c source
  return ⟨predicates, outcome.filters, outcome.backend.toList ++ targets⟩

/-- A list that is there only if it is not empty. -/
def listIfAny {α : Type} (l : List α) : Option (List α) := if l.isEmpty then none else some l

def matchOn (path : PathMatch) (p : Predicates) : HttpMatch :=
  ⟨listIfAny p.headers, none, some path, listIfAny p.queryParams⟩

/-- The rule for one match of a route. A match that leads nowhere has none, and neither has one without a
predicate, which would stand in the way of the route itself. -/
def matchRule (route : Route) (path : PathMatch) (c : Catalog) (source : ObjectRef)
    (index : Nat) (m : Match) : Reported (Option RuleDraft) :=
  if hasOutcome m.action m.splits then do
    let predicates ← Matching.translateConditions m.conditions source
    if predicates.isEmpty then
      Reported.warning source
        (s!"Match {index} on path '{route.path}' has no convertible conditions "
          ++ "and would shadow the route, skipping")
      return none
    else some <$> draftRule (matchOn path predicates) m.action m.splits c source
  else return none

def matchRules (route : Route) (path : PathMatch) (c : Catalog) (source : ObjectRef) :
    Reported (List RuleDraft) :=
  List.filterMap id <$>
    Reported.each route.branches.zipIdx fun m => matchRule route path c source m.2 m.1

/-- The rule for the requests that no match of the route takes. -/
def catchAllRule (route : Route) (path : PathMatch) (c : Catalog) (source : ObjectRef) :
    Reported (Option RuleDraft) :=
  if hasOutcome route.action route.splits then
    some <$> draftRule (matchOn path .none) route.action route.splits c source
  else return none

def routeRules (route : Route) (c : Catalog) (source : ObjectRef) :
    Reported (List RuleDraft) := do
  checkRoute route source
  let path ← Matching.translatePath route.path source
  let branches ← matchRules route path c source
  let last ← catchAllRule route path c source
  return branches ++ last.toList

end IngressGateway.Routing
