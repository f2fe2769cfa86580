import IngressGateway.Backend.Catalog
import IngressGateway.Filter.Proxy
import IngressGateway.Filter.Redirect

/-!
What actions and splits lead to: backends, found by upstream name in a catalog, and filters. A backend
still knows its upstream, so that it can be told whether it speaks gRPC.
-/

set_option autoImplicit false

namespace IngressGateway.Backend

open Gateway (HttpFilter)
open Ingress (Action Choice Proxy Split Upstream)

/-- A service that gets requests, or a set of filters that answers them. -/
structure Target where
  upstream : String
  service : String
  ns : String
  port : Option Unsigned16
  grpc : Bool
  weight : Option Signed32
  filters : List HttpFilter
deriving DecidableEq, Repr

namespace Target

def ofUpstream (ns : String) (u : Upstream) : Target :=
  ⟨u.name, u.service, ns, some u.port, u.isGrpc, none, []⟩

/-- Filters that answer requests without a service. -/
def ofFilters (ns : String) (weight : Signed32) (filters : List HttpFilter) : Target :=
  ⟨"", "", ns, none, false, some weight, filters⟩

/-- The same target for a part of the requests only, with filters. -/
def weighted (t : Target) (weight : Signed32) (filters : List HttpFilter) : Target :=
  { t with weight := some weight, filters := filters }

end Target

structure Outcome where
  backend : Option Target
  filters : List HttpFilter
deriving DecidableEq, Repr

def Outcome.nothing : Outcome := ⟨none, []⟩

def Catalog.target? (c : Catalog) (name : String) : Option Target :=
  (c.get? name).map (Target.ofUpstream c.ns)

/-- The target of an upstream name, with a warning if there is none. -/
def lookUp (c : Catalog) (name : String) (source : ObjectRef) : Reported (Option Target) :=
  match c.target? name with
  | some t => return some t
  | none => do
    Reported.warning source s!"Upstream '{name}' not found for route"
    return none

def proxyTarget (c : Catalog) (proxy : Proxy) (source : ObjectRef) : Reported (Option Target) :=
  if proxy.upstream.isEmpty then do
    Reported.warning source "Proxy action missing upstream reference"
    return none
  else lookUp c proxy.upstream source

def translateChoice (choice : Choice) (c : Catalog) (source : ObjectRef) : Reported Outcome :=
  match choice with
  | .pass name => do
    let backend ← lookUp c name source
    return ⟨backend, []⟩
  | .redirect url code => do
    let filter ← Filter.redirect url code source
    return ⟨none, [filter]⟩
  | .reply code _ => do
    let shown := (code.map fun n => n.val).getD 200
    Reported.warning source
      s!"Return action with code {shown} not directly supported in Gateway API"
    return .nothing
  | .proxy proxy => do
    let backend ← proxyTarget c proxy source
    let filters ← Filter.ofProxy proxy source
    return ⟨backend, filters⟩

def translateAction (action : Action) (c : Catalog) (source : ObjectRef) : Reported Outcome :=
  match action.choice with
  | .error e => do
    Reported.warning source ("Skipping route action: " ++ e.message)
    return .nothing
  | .ok choice => translateChoice choice c source

/-- The target of one part of the requests. Filters without a service make a target of their own. -/
def splitTarget? (weight : Signed32) (ns : String) (outcome : Outcome) : Option Target :=
  match outcome.backend with
  | some t => some (t.weighted weight outcome.filters)
  | none => if outcome.filters.isEmpty then none else some (.ofFilters ns weight outcome.filters)

/-- What one split leads to; a split without weight or action leads nowhere. -/
def translateSplit (split : Split) (c : Catalog) (source : ObjectRef) :
    Reported (Option Target) :=
  if 0 < split.weight.val then
    match split.action with
    | none => return none
    | some action => splitTarget? split.weight c.ns <$> translateAction action c source
  else return none

/-- The targets of the splits of a route, in order. -/
def translateSplits (splits : List Split) (c : Catalog) (source : ObjectRef) :
    Reported (List Target) :=
  if splits.isEmpty then return []
  else do
    let targets ← Reported.each splits fun s => translateSplit s c source
    Reported.info source "Traffic splitting configuration converted to weighted backend refs"
    return targets.filterMap id

end IngressGateway.Backend
