import IngressGateway.Ingress.Condition

/-!
Routes of a virtual server: a path with its own action and with matches that are tried before it, or a
reference to routes that are kept in another resource.
-/

set_option autoImplicit false

namespace IngressGateway.Ingress

structure PolicyRef where
  name : String
  ns : Option String
deriving DecidableEq, Repr

def PolicyRef.record : Record PolicyRef PolicyRef :=
  PolicyRef.mk <$> .required "name" .text PolicyRef.name
    <*> .optional "namespace" .text PolicyRef.ns

structure ErrorPage where
  codes : List Unsigned16
  redirect : Option Redirect
  reply : Option Reply
deriving DecidableEq, Repr

def ErrorPage.record : Record ErrorPage ErrorPage :=
  ErrorPage.mk <$> .items "codes" .unsigned16 ErrorPage.codes
    <*> .optional "redirect" Redirect.record.codec ErrorPage.redirect
    <*> .optional "return" Reply.record.codec ErrorPage.reply

/-- An action or a split for the requests that meet some conditions. -/
structure Match where
  conditions : List Condition
  action : Option Action
  splits : List Split
deriving DecidableEq, Repr

def Match.record : Record Match Match :=
  Match.mk <$> .items "conditions" Condition.record.codec Match.conditions
    <*> .optional "action" Action.record.codec Match.action
    <*> .items "splits" Split.record.codec Match.splits

structure Route where
  path : String
  route : Option String
  action : Option Action
  splits : List Split
  branches : List Match
  policies : List PolicyRef
  errorPages : List ErrorPage
  locationSnippets : String
deriving DecidableEq, Repr

namespace Route

def record : Record Route Route :=
  mk <$> .textOrEmpty "path" path <*> .optional "route" .text route
    <*> .optional "action" Action.record.codec action
    <*> .items "splits" Split.record.codec splits
    <*> .items "matches" Match.record.codec branches
    <*> .items "policies" PolicyRef.record.codec policies
    <*> .items "errorPages" ErrorPage.record.codec errorPages
    <*> .textIfAny "location-snippets" locationSnippets

/-- The resource that the route refers to, if it refers to one. -/
def reference? (r : Route) : Option String := Text.present? r.route

end Route

end IngressGateway.Ingress
