import IngressGateway.Routing.Expansion
import IngressGateway.Routing.Rule
import IngressGateway.Routing.TlsRedirect

/-!
The routes of a virtual server. All rules are drafted first; those with a gRPC backend then go to a gRPC
route and all others to an HTTP route, in the order in which they were drafted. The upstreams of a route
are those of the resource that the route comes from.
-/

set_option autoImplicit false

namespace IngressGateway.Routing

open Backend (Catalog Extension Target)
open Gateway (BackendRef BackendTlsPolicy GrpcBackend GrpcFilter GrpcMatch GrpcRoute GrpcRule
  HttpBackend HttpFilter HttpRoute HttpRule MatchType MetadataMatch ValueMatch)
open Ingress (VirtualServer)
open Listeners (Sections)

/-- The reference to the service of a target. The namespace is left out if it is that of the route. -/
def backendRef (t : Target) (routeNs : String) : BackendRef where
  group := none
  kind := none
  name := t.service
  ns := if t.ns = routeNs then none else some t.ns
  port := t.port
  weight := t.weight

/-- The reference to the service of a target, with a remark if it is in another namespace. -/
def translateTarget (t : Target) (routeNs : String) (source : ObjectRef) : Reported BackendRef := do
  if t.ns ≠ routeNs then
    Reported.info source
      s!"Backend '{t.service}' is in namespace '{t.ns}'; a ReferenceGrant is required there"
  return backendRef t routeNs

def httpRule (d : RuleDraft) (routeNs : String) (source : ObjectRef) : Reported HttpRule := do
  let backends ← Reported.each d.backends fun t => do
    let backend ← translateTarget t routeNs source
    return (⟨backend, t.filters⟩ : HttpBackend)
  return ⟨[d.predicates], d.filters, backends⟩

/-- A filter on a gRPC rule, with a remark if there is no such filter. -/
def grpcFilter (f : HttpFilter) (source : ObjectRef) : Reported (Option GrpcFilter) :=
  match f with
  | .requestHeaders m => return some (.requestHeaders m)
  | .responseHeaders m => return some (.responseHeaders m)
  | .redirect _ => do
    Reported.info source "HTTP redirect filter not applicable to gRPC, skipping"
    return none
  | .rewrite _ => do
    Reported.info source "URL rewrite filter not applicable to gRPC, skipping"
    return none

def grpcFilters (fs : List HttpFilter) (source : ObjectRef) : Reported (List GrpcFilter) :=
  List.filterMap id <$> Reported.each fs fun f => grpcFilter f source

def grpcHeader (h : ValueMatch) : MetadataMatch where
  type := some (if h.type = some .regularExpression then .regularExpression else .exact)
  name := h.name
  value := h.value

/-- A draft as a gRPC rule. Its predicates are on the method and on headers only; without any there is no
match, which means every request. -/
def grpcRule (d : RuleDraft) (routeNs : String) (source : ObjectRef) : Reported GrpcRule := do
  let method ← Matching.translateMethod d.predicates.path source
  let headers := (d.predicates.headers.getD []).map grpcHeader
  if (d.predicates.queryParams.getD []) ≠ [] then
    Reported.info source
      "Query parameter matches are not supported on GRPCRoute and were dropped"
  let filters ← grpcFilters d.filters source
  let backends ← Reported.each d.backends fun t => do
    let backend ← translateTarget t routeNs source
    let filters ← grpcFilters t.filters source
    return (⟨backend, filters⟩ : GrpcBackend)
  return ⟨if method.isSome || !headers.isEmpty then [⟨method, headers⟩] else [], filters, backends⟩

/-- The catalogs of the resources that routes were referenced from. -/
abbrev OwnerCatalogs := SortedMap ObjectRef Catalog

def addOwner (ns : String) (m : OwnerCatalogs) (r : ResolvedRoute) : Reported OwnerCatalogs :=
  match r.upstreams with
  | none => return m
  | some us =>
    if m.contains r.owner then return m
    else do
      let c ← Catalog.build us (r.owner.ns.getD ns) r.owner
      return m.insert r.owner c

def addOwners (ns : String) : OwnerCatalogs → List ResolvedRoute → Reported OwnerCatalogs
  | m, [] => return m
  | m, r :: rs => do addOwners ns (← addOwner ns m r) rs

/-- The catalog in which the upstream names of a route are looked up. -/
def catalogFor? (own : Catalog) (others : OwnerCatalogs) (r : ResolvedRoute) : Option Catalog :=
  if r.isReferenced then others.get? r.owner else some own

def resolvedRules (own : Catalog) (others : OwnerCatalogs) (r : ResolvedRoute) :
    Reported (List RuleDraft) :=
  match catalogFor? own others r with
  | none => return []
  | some c => routeRules r.route c r.owner

/-- The rules of all routes, in order. -/
def draftRules (own : Catalog) (others : OwnerCatalogs) (rs : List ResolvedRoute) :
    Reported (List RuleDraft) :=
  List.flatten <$> Reported.each rs (resolvedRules own others)

structure AssembledRoutes where
  httpRoute : Option HttpRoute
  grpcRoute : Option GrpcRoute
  redirectRoute : Option HttpRoute
  policies : List BackendTlsPolicy
  extension : Extension
deriving DecidableEq

/-- The HTTP route with some rules, if there are any. -/
def httpRouteOf (vs : VirtualServer) (source : ObjectRef) (ns : String) (sections : Sections)
    (settings : Settings) (rules : List HttpRule) : Reported (Option HttpRoute) :=
  if rules.isEmpty then return none
  else do
    let name := GeneratedName.httpRoute vs.anyName
    Reported.info source
      s!"Created HTTPRoute '{name}' with {rules.length} HTTP rules for host '{vs.spec.host}'"
    return some
      { metadata := .labelled ns name (settings.virtualServerLabels fromVirtualServer vs.anyName)
        spec := ⟨[parentOf ns sections.primary?], [vs.spec.host], rules⟩ }

/-- The gRPC route with some rules, if there are any. -/
def grpcRouteOf (vs : VirtualServer) (source : ObjectRef) (ns : String) (sections : Sections)
    (settings : Settings) (rules : List GrpcRule) : Reported (Option GrpcRoute) :=
  if rules.isEmpty then return none
  else do
    let name := GeneratedName.grpcRoute vs.anyName
    Reported.info source
      s!"Created GRPCRoute '{name}' with {rules.length} gRPC rules for host '{vs.spec.host}'"
    return some
      { metadata := .labelled ns name (settings.virtualServerLabels fromVirtualServer vs.anyName)
        spec := ⟨[parentOf ns sections.primary?], [vs.spec.host], rules⟩ }

/-- The recorded settings of all upstreams; those of the virtual server come first. -/
def assembledExtension (own : Catalog) (others : OwnerCatalogs) : Extension :=
  others.values.foldl (fun e c => e.orElse c.extension) own.extension

def assemble (vs : VirtualServer) (source : ObjectRef) (rs : List ResolvedRoute) (own : Catalog)
    (sections : Sections) (settings : Settings) : Reported AssembledRoutes := do
  let others ← addOwners own.ns .empty rs
  let drafts ← draftRules own others rs
  let httpRules ← Reported.each (drafts.filter fun d => !d.isGrpc) fun d =>
    httpRule d own.ns source
  let grpcRules ← Reported.each (drafts.filter RuleDraft.isGrpc) fun d =>
    grpcRule d own.ns source
  let http ← httpRouteOf vs source own.ns sections settings httpRules
  let grpc ← grpcRouteOf vs source own.ns sections settings grpcRules
  let policies ← Reported.each (own :: others.values) fun c => c.tlsPolicies vs.anyName settings
  let redirect ← redirectRoute vs source sections settings
  return ⟨http, grpc, redirect, policies.flatten, assembledExtension own others⟩

end IngressGateway.Routing
