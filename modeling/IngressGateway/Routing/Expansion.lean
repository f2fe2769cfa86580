import IngressGateway.Ingress.VirtualServer
import IngressGateway.Notification.Reported
import IngressGateway.Routing.Reference

/-!
The routes of a virtual server with its references expanded. A reference stands for the subroutes of a
virtual server route; subroutes that refer any further are left out.
-/

set_option autoImplicit false

namespace IngressGateway.Routing

open Ingress (Route Upstream VirtualServerRoute VirtualServerRouteSpec)

structure IndexedRoute where
  ref : ObjectRef
  resource : VirtualServerRoute

abbrev RouteIndex := SortedMap ObjectKey IndexedRoute

/-- The entry of a virtual server route; one without a name has none. -/
def indexEntry? (r : VirtualServerRoute) : Option (ObjectKey × IndexedRoute) :=
  match r.ref? with
  | .ok ref => some (r.key, ⟨ref, r⟩)
  | .error _ => none

/-- All virtual server routes by key; the last one of a key counts. -/
def indexRoutes (rs : List VirtualServerRoute) : RouteIndex := .ofList (rs.filterMap indexEntry?)

/-- A route, whose it is, and where its upstreams are defined if that is not the virtual server. -/
structure ResolvedRoute where
  route : Route
  owner : ObjectRef
  upstreams : Option (List Upstream)

def ResolvedRoute.isReferenced (r : ResolvedRoute) : Bool := r.upstreams.isSome

/-- Why routes cannot be resolved. -/
inductive ResolveError where
  | ownerWithoutNamespace (owner : ObjectRef)
deriving DecidableEq, Repr

def ResolveError.message : ResolveError → String
  | .ownerWithoutNamespace owner => s!"route owner {owner.display} has no namespace"

/-- One subroute; it is left out if it refers any further. -/
def expandSubroute (entry : IndexedRoute) (sub : Route) : Reported (Option ResolvedRoute) :=
  match sub.reference? with
  | none => return some ⟨sub, entry.ref, some entry.resource.spec.upstreams⟩
  | some nested => do
    Reported.warning entry.ref
      (s!"Subroute '{sub.path}' references VirtualServerRoute '{nested}'; "
        ++ "nested references are not supported, skipping subroute")
    return none

/-- The subroutes of a virtual server route, with a remark to the owner on how many there are. -/
def expandEntry (key : ObjectKey) (entry : IndexedRoute) (owner : ObjectRef) :
    Reported (List ResolvedRoute) := do
  let subs ← Reported.each entry.resource.spec.subroutes (expandSubroute entry)
  let found := subs.filterMap id
  if !found.isEmpty then
    Reported.info owner
      s!"Resolved {found.length} routes from VirtualServerRoute {key.display}"
  return found

def expandRoute (index : RouteIndex) (owner : ObjectRef) (ownerNs : String) (route : Route) :
    Reported (List ResolvedRoute) :=
  match route.reference? with
  | none => return [⟨route, owner, none⟩]
  | some reference =>
    match readReference? reference ownerNs with
    | none => do
      Reported.warning owner
        s!"VirtualServerRoute reference '{reference}' is malformed, skipping route"
      return []
    | some key =>
      match index.get? key with
      | none => do
        Reported.warning owner
          s!"VirtualServerRoute {key.display} not found, skipping route"
        return []
      | some entry => expandEntry key entry owner

/-- What all routes of an owner stand for, in order. -/
def resolveRoutes (routes : List Route) (index : RouteIndex) (owner : ObjectRef) :
    Except ResolveError (Reported (List ResolvedRoute)) :=
  match owner.ns with
  | none => .error (.ownerWithoutNamespace owner)
  | some ns => .ok (List.flatten <$> Reported.each routes (expandRoute index owner ns))

end IngressGateway.Routing
