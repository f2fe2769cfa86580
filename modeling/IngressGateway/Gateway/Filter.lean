import IngressGateway.Gateway.Listener

/-!
Filters, which change requests and responses on their way. A filter states its kind in the member `type`
and its content in a member named after the kind.
-/

set_option autoImplicit false

namespace IngressGateway.Gateway

structure HeaderValue where
  name : String
  value : String
deriving DecidableEq, Repr

def HeaderValue.record : Record HeaderValue HeaderValue :=
  HeaderValue.mk <$> .required "name" .text HeaderValue.name
    <*> .required "value" .text HeaderValue.value

/-- Headers that are added to, replaced in, or taken out of a message. -/
structure HeaderModifier where
  add : Option (List HeaderValue)
  remove : Option (List String)
  set : Option (List HeaderValue)
deriving DecidableEq, Repr

def HeaderModifier.record : Record HeaderModifier HeaderModifier :=
  HeaderModifier.mk <$> .optional "add" (.list HeaderValue.record.codec) HeaderModifier.add
    <*> .optional "remove" (.list .text) HeaderModifier.remove
    <*> .optional "set" (.list HeaderValue.record.codec) HeaderModifier.set

inductive PathModifierKind where
  | fullPath
  | matchedStart
deriving DecidableEq, Repr

def PathModifierKind.codec : Codec PathModifierKind :=
  .named (fun | .fullPath => "ReplaceFullPath" | .matchedStart => "ReplacePrefixMatch")
    [.fullPath, .matchedStart]

structure PathModifier where
  replaceFullPath : Option String
  replacePrefixMatch : Option String
  kind : PathModifierKind
deriving DecidableEq, Repr

namespace PathModifier

def record : Record PathModifier PathModifier :=
  mk <$> .optional "replaceFullPath" .text replaceFullPath
    <*> .optional "replacePrefixMatch" .text replacePrefixMatch
    <*> .required "type" PathModifierKind.codec kind

def full (path : String) : PathModifier := ⟨some path, none, .fullPath⟩

def start (path : String) : PathModifier := ⟨none, some path, .matchedStart⟩

end PathModifier

inductive Scheme where
  | http
  | https
deriving DecidableEq, Repr

def Scheme.codec : Codec Scheme :=
  .named (fun | .http => "http" | .https => "https") [.http, .https]

structure RequestRedirect where
  hostname : Option String
  path : Option PathModifier
  port : Option Signed32
  scheme : Option Scheme
  statusCode : Option Signed64
deriving DecidableEq, Repr

def RequestRedirect.record : Record RequestRedirect RequestRedirect :=
  RequestRedirect.mk <$> .optional "hostname" .text RequestRedirect.hostname
    <*> .optional "path" PathModifier.record.codec RequestRedirect.path
    <*> .optional "port" .signed32 RequestRedirect.port
    <*> .optional "scheme" Scheme.codec RequestRedirect.scheme
    <*> .optional "statusCode" .signed64 RequestRedirect.statusCode

structure UrlRewrite where
  hostname : Option String
  path : Option PathModifier
deriving DecidableEq, Repr

def UrlRewrite.record : Record UrlRewrite UrlRewrite :=
  UrlRewrite.mk <$> .optional "hostname" .text UrlRewrite.hostname
    <*> .optional "path" PathModifier.record.codec UrlRewrite.path

inductive HttpFilter where
  | requestHeaders (modifier : HeaderModifier)
  | responseHeaders (modifier : HeaderModifier)
  | redirect (redirect : RequestRedirect)
  | rewrite (rewrite : UrlRewrite)
deriving DecidableEq, Repr

inductive GrpcFilter where
  | requestHeaders (modifier : HeaderModifier)
  | responseHeaders (modifier : HeaderModifier)
deriving DecidableEq, Repr

def taggedObject (tag member : String) (content : Json) : Json :=
  .obj [("type", .str tag), (member, content)]

/-- The kind that a filter states, with the value that holds its content. In a list the kind comes first. -/
def tagOf? : Json → Option (String × Json)
  | .obj members => ((Json.find? "type" members).bind Json.text?).map fun tag => (tag, .obj members)
  | .arr (.str tag :: items) => some (tag, .arr items)
  | _ => none

namespace HttpFilter

def write : HttpFilter → Json
  | .requestHeaders m =>
    taggedObject "RequestHeaderModifier" "requestHeaderModifier" (HeaderModifier.record.codec.write m)
  | .responseHeaders m =>
    taggedObject "ResponseHeaderModifier" "responseHeaderModifier"
      (HeaderModifier.record.codec.write m)
  | .redirect r => taggedObject "RequestRedirect" "requestRedirect" (RequestRedirect.record.codec.write r)
  | .rewrite r => taggedObject "URLRewrite" "urlRewrite" (UrlRewrite.record.codec.write r)

def read (rule : NullRule) (j : Json) : Option HttpFilter :=
  (tagOf? j).bind fun (tag, rest) =>
    let content {α : Type} (name : String) (c : Codec α) : Option α :=
      (Record.required name c id).readValue rule rest
    if tag = "RequestHeaderModifier" then
      (content "requestHeaderModifier" HeaderModifier.record.codec).map .requestHeaders
    else if tag = "ResponseHeaderModifier" then
      (content "responseHeaderModifier" HeaderModifier.record.codec).map .responseHeaders
    else if tag = "RequestRedirect" then
      (content "requestRedirect" RequestRedirect.record.codec).map .redirect
    else if tag = "URLRewrite" then (content "urlRewrite" UrlRewrite.record.codec).map .rewrite
    else none

def codec : Codec HttpFilter := ⟨write, read⟩

end HttpFilter

namespace GrpcFilter

def toHttp : GrpcFilter → HttpFilter
  | .requestHeaders m => .requestHeaders m
  | .responseHeaders m => .responseHeaders m

/-- The same filter on a gRPC rule, if there is one. -/
def ofHttp? : HttpFilter → Option GrpcFilter
  | .requestHeaders m => some (.requestHeaders m)
  | .responseHeaders m => some (.responseHeaders m)
  | .redirect _ => none
  | .rewrite _ => none

def codec : Codec GrpcFilter where
  write f := HttpFilter.write f.toHttp
  read rule j := (HttpFilter.read rule j).bind ofHttp?

end GrpcFilter

end IngressGateway.Gateway
