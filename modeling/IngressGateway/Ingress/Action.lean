import IngressGateway.Json.Codec
import IngressGateway.Text.Present

/-!
What a route does with a request, as it is written: several members of which one should be set. `Choice`
is an action of which that has been checked.
-/

set_option autoImplicit false

namespace IngressGateway.Ingress

structure Header where
  name : String
  value : String
deriving DecidableEq, Repr

def Header.record : Record Header Header :=
  Header.mk <$> .required "name" .text Header.name <*> .textOrEmpty "value" Header.value

/-- A header that is added to responses, to all of them or to successful ones only. -/
structure AddedHeader where
  name : String
  value : String
  always : Bool
deriving DecidableEq, Repr

def AddedHeader.record : Record AddedHeader AddedHeader :=
  AddedHeader.mk <$> .required "name" .text AddedHeader.name
    <*> .textOrEmpty "value" AddedHeader.value <*> .flagOrOff "always" AddedHeader.always

structure Redirect where
  url : String
  code : Option Unsigned16
deriving DecidableEq, Repr

def Redirect.record : Record Redirect Redirect :=
  Redirect.mk <$> .required "url" .text Redirect.url <*> .optional "code" .unsigned16 Redirect.code

/-- A response that is given without asking a backend. -/
structure Reply where
  code : Option Unsigned16
  contentType : Option String
  body : String
  headers : List Header
deriving DecidableEq, Repr

def Reply.record : Record Reply Reply :=
  Reply.mk <$> .optional "code" .unsigned16 Reply.code
    <*> .optional "type" .text Reply.contentType <*> .textOrEmpty "body" Reply.body
    <*> .items "headers" Header.record.codec Reply.headers

structure RequestHeaders where
  pass : Option Bool
  set : List Header
deriving DecidableEq, Repr

def RequestHeaders.record : Record RequestHeaders RequestHeaders :=
  RequestHeaders.mk <$> .optional "pass" .flag RequestHeaders.pass
    <*> .items "set" Header.record.codec RequestHeaders.set

structure ResponseHeaders where
  hide : List String
  pass : List String
  ignored : List String
  add : List AddedHeader
deriving DecidableEq, Repr

def ResponseHeaders.record : Record ResponseHeaders ResponseHeaders :=
  ResponseHeaders.mk <$> .items "hide" .text ResponseHeaders.hide
    <*> .items "pass" .text ResponseHeaders.pass <*> .items "ignore" .text ResponseHeaders.ignored
    <*> .items "add" AddedHeader.record.codec ResponseHeaders.add

structure Proxy where
  upstream : String
  requestHeaders : Option RequestHeaders
  responseHeaders : Option ResponseHeaders
  rewritePath : Option String
deriving DecidableEq, Repr

def Proxy.record : Record Proxy Proxy :=
  Proxy.mk <$> .textOrEmpty "upstream" Proxy.upstream
    <*> .optional "requestHeaders" RequestHeaders.record.codec Proxy.requestHeaders
    <*> .optional "responseHeaders" ResponseHeaders.record.codec Proxy.responseHeaders
    <*> .optional "rewritePath" .text Proxy.rewritePath

structure Action where
  pass : Option String
  redirect : Option Redirect
  reply : Option Reply
  proxy : Option Proxy
deriving DecidableEq, Repr

def Action.record : Record Action Action :=
  Action.mk <$> .optional "pass" .text Action.pass
    <*> .optional "redirect" Redirect.record.codec Action.redirect
    <*> .optional "return" Reply.record.codec Action.reply
    <*> .optional "proxy" Proxy.record.codec Action.proxy

structure Split where
  weight : Signed32
  action : Option Action
deriving DecidableEq, Repr

def Split.noWeight : Signed32 := .zero

def Split.record : Record Split Split :=
  Split.mk <$> .defaulted "weight" .signed32 Split.noWeight Split.weight
    <*> .optional "action" Action.record.codec Split.action

inductive Choice where
  | pass (upstream : String)
  | redirect (url : String) (code : Option Unsigned16)
  | reply (code : Option Unsigned16) (body : String)
  | proxy (proxy : Proxy)
deriving DecidableEq, Repr

/-- Why an action does no one thing. -/
inductive ActionError where
  | empty
  | ambiguous (members : List String)
deriving DecidableEq, Repr

def ActionError.message : ActionError → String
  | .empty => "action has none of pass, redirect, return or proxy set"
  | .ambiguous members => "action sets more than one of " ++ ", ".intercalate members

/-- The members of an action that are set, each with what it asks for. -/
def Action.candidates (a : Action) : List (String × Choice) :=
  [ (Text.present? a.pass).map fun u => ("pass", .pass u),
    a.redirect.map fun r => ("redirect", .redirect r.url r.code),
    a.reply.map fun r => ("return", .reply r.code r.body),
    a.proxy.map fun p => ("proxy", .proxy p) ].filterMap id

/-- What the action does; exactly one member has to be set, and an empty `pass` is not. -/
def Action.choice (a : Action) : Except ActionError Choice :=
  match a.candidates with
  | [] => .error .empty
  | [(_, c)] => .ok c
  | several => .error (.ambiguous (several.map Prod.fst))

end IngressGateway.Ingress
