import IngressGateway.Gateway.Filter

/-!
Routes of a gateway: HTTP routes and gRPC routes, whose rules match requests, and the routes of whole
connections, whose rules only name backends.
-/

set_option autoImplicit false

namespace IngressGateway.Gateway

inductive MatchType where
  | exact
  | regularExpression
deriving DecidableEq, Repr

def MatchType.codec : Codec MatchType :=
  .named (fun | .exact => "Exact" | .regularExpression => "RegularExpression")
    [.exact, .regularExpression]

inductive PathMatchType where
  | exact
  | pathPrefix
  | regularExpression
deriving DecidableEq, Repr

def PathMatchType.codec : Codec PathMatchType :=
  .named
    (fun | .exact => "Exact" | .pathPrefix => "PathPrefix" | .regularExpression => "RegularExpression")
    [.exact, .pathPrefix, .regularExpression]

structure PathMatch where
  type : Option PathMatchType
  value : Option String
deriving DecidableEq, Repr

def PathMatch.record : Record PathMatch PathMatch :=
  PathMatch.mk <$> .optional "type" PathMatchType.codec PathMatch.type
    <*> .optional "value" .text PathMatch.value

def PathMatch.codec : Codec PathMatch := PathMatch.record.codec

/-- A predicate on the value of a header or of a query parameter. -/
structure ValueMatch where
  name : String
  type : Option MatchType
  value : String
deriving DecidableEq, Repr

def ValueMatch.record : Record ValueMatch ValueMatch :=
  ValueMatch.mk <$> .required "name" .text ValueMatch.name
    <*> .optional "type" MatchType.codec ValueMatch.type
    <*> .required "value" .text ValueMatch.value

def ValueMatch.codec : Codec ValueMatch := ValueMatch.record.codec

inductive Method where
  | get | head | post | put | delete | connect | options | trace | patch
deriving DecidableEq, Repr

def Method.label : Method → String
  | .get => "GET"
  | .head => "HEAD"
  | .post => "POST"
  | .put => "PUT"
  | .delete => "DELETE"
  | .connect => "CONNECT"
  | .options => "OPTIONS"
  | .trace => "TRACE"
  | .patch => "PATCH"

def Method.codec : Codec Method :=
  .named Method.label [.get, .head, .post, .put, .delete, .connect, .options, .trace, .patch]

/-- The predicates of one match, all of which a request has to meet. -/
structure HttpMatch where
  headers : Option (List ValueMatch)
  method : Option Method
  path : Option PathMatch
  queryParams : Option (List ValueMatch)
deriving DecidableEq, Repr

def HttpMatch.record : Record HttpMatch HttpMatch :=
  HttpMatch.mk <$> .optional "headers" (.list ValueMatch.codec) HttpMatch.headers
    <*> .optional "method" Method.codec HttpMatch.method
    <*> .optional "path" PathMatch.codec HttpMatch.path
    <*> .optional "queryParams" (.list ValueMatch.codec) HttpMatch.queryParams

structure HttpBackend where
  backend : BackendRef
  filters : List HttpFilter
deriving DecidableEq, Repr

def HttpBackend.record : Record HttpBackend HttpBackend :=
  HttpBackend.mk <$> BackendRef.record.within HttpBackend.backend
    <*> .items "filters" HttpFilter.codec HttpBackend.filters

structure HttpRule where
  matchList : List HttpMatch
  filters : List HttpFilter
  backendRefs : List HttpBackend
deriving DecidableEq, Repr

def HttpRule.record : Record HttpRule HttpRule :=
  HttpRule.mk <$> .items "matches" HttpMatch.record.codec HttpRule.matchList
    <*> .items "filters" HttpFilter.codec HttpRule.filters
    <*> .items "backendRefs" HttpBackend.record.namedCodec HttpRule.backendRefs

structure HttpRouteSpec where
  parentRefs : List ParentRef
  hostnames : List String
  rules : List HttpRule
deriving DecidableEq

def HttpRouteSpec.record : Record HttpRouteSpec HttpRouteSpec :=
  HttpRouteSpec.mk <$> .items "parentRefs" ParentRef.record.codec HttpRouteSpec.parentRefs
    <*> .items "hostnames" .text HttpRouteSpec.hostnames
    <*> .items "rules" HttpRule.record.codec HttpRouteSpec.rules

instance : ResourceKind HttpRouteSpec := ⟨"HTTPRoute", apiGroup, "v1", HttpRouteSpec.record.codec⟩

abbrev HttpRoute := Resource HttpRouteSpec

structure MethodMatch where
  type : Option MatchType
  service : Option String
  method : Option String
deriving DecidableEq, Repr

def MethodMatch.record : Record MethodMatch MethodMatch :=
  MethodMatch.mk <$> .optional "type" MatchType.codec MethodMatch.type
    <*> .optional "service" .text MethodMatch.service
    <*> .optional "method" .text MethodMatch.method

structure MetadataMatch where
  type : Option MatchType
  name : String
  value : String
deriving DecidableEq, Repr

def MetadataMatch.record : Record MetadataMatch MetadataMatch :=
  MetadataMatch.mk <$> .optional "type" MatchType.codec MetadataMatch.type
    <*> .required "name" .text MetadataMatch.name <*> .required "value" .text MetadataMatch.value

structure GrpcMatch where
  method : Option MethodMatch
  headers : List MetadataMatch
deriving DecidableEq, Repr

def GrpcMatch.record : Record GrpcMatch GrpcMatch :=
  GrpcMatch.mk <$> .optional "method" MethodMatch.record.codec GrpcMatch.method
    <*> .items "headers" MetadataMatch.record.codec GrpcMatch.headers

structure GrpcBackend where
  backend : BackendRef
  filters : List GrpcFilter
deriving DecidableEq, Repr

def GrpcBackend.record : Record GrpcBackend GrpcBackend :=
  GrpcBackend.mk <$> BackendRef.record.within GrpcBackend.backend
    <*> .items "filters" GrpcFilter.codec GrpcBackend.filters

structure GrpcRule where
  matchList : List GrpcMatch
  filters : List GrpcFilter
  backendRefs : List GrpcBackend
deriving DecidableEq, Repr

def GrpcRule.record : Record GrpcRule GrpcRule :=
  GrpcRule.mk <$> .items "matches" GrpcMatch.record.codec GrpcRule.matchList
    <*> .items "filters" GrpcFilter.codec GrpcRule.filters
    <*> .items "backendRefs" GrpcBackend.record.namedCodec GrpcRule.backendRefs

structure GrpcRouteSpec where
  parentRefs : List ParentRef
  hostnames : List String
  rules : List GrpcRule
deriving DecidableEq

def GrpcRouteSpec.record : Record GrpcRouteSpec GrpcRouteSpec :=
  GrpcRouteSpec.mk <$> .items "parentRefs" ParentRef.record.codec GrpcRouteSpec.parentRefs
    <*> .items "hostnames" .text GrpcRouteSpec.hostnames
    <*> .items "rules" GrpcRule.record.codec GrpcRouteSpec.rules

instance : ResourceKind GrpcRouteSpec := ⟨"GRPCRoute", apiGroup, "v1", GrpcRouteSpec.record.codec⟩

abbrev GrpcRoute := Resource GrpcRouteSpec

structure ConnectionRule where
  backendRefs : List BackendRef
deriving DecidableEq, Repr

def ConnectionRule.record : Record ConnectionRule ConnectionRule :=
  ConnectionRule.mk <$>
    .defaulted "backendRefs" (.list BackendRef.record.codec) [] ConnectionRule.backendRefs

structure TcpRouteSpec where
  parentRefs : List ParentRef
  rules : List ConnectionRule
deriving DecidableEq

def TcpRouteSpec.record : Record TcpRouteSpec TcpRouteSpec :=
  TcpRouteSpec.mk <$> .items "parentRefs" ParentRef.record.codec TcpRouteSpec.parentRefs
    <*> .required "rules" (.list ConnectionRule.record.codec) TcpRouteSpec.rules

instance : ResourceKind TcpRouteSpec := ⟨"TCPRoute", apiGroup, "v1alpha2", TcpRouteSpec.record.codec⟩

abbrev TcpRoute := Resource TcpRouteSpec

structure TlsRouteSpec where
  parentRefs : List ParentRef
  hostnames : List String
  rules : List ConnectionRule
deriving DecidableEq

def TlsRouteSpec.record : Record TlsRouteSpec TlsRouteSpec :=
  TlsRouteSpec.mk <$> .items "parentRefs" ParentRef.record.codec TlsRouteSpec.parentRefs
    <*> .items "hostnames" .text TlsRouteSpec.hostnames
    <*> .required "rules" (.list ConnectionRule.record.codec) TlsRouteSpec.rules

instance : ResourceKind TlsRouteSpec := ⟨"TLSRoute", apiGroup, "v1alpha2", TlsRouteSpec.record.codec⟩

abbrev TlsRoute := Resource TlsRouteSpec

structure UdpRouteSpec where
  parentRefs : List ParentRef
  rules : List ConnectionRule
deriving DecidableEq

def UdpRouteSpec.record : Record UdpRouteSpec UdpRouteSpec :=
  UdpRouteSpec.mk <$> .items "parentRefs" ParentRef.record.codec UdpRouteSpec.parentRefs
    <*> .required "rules" (.list ConnectionRule.record.codec) UdpRouteSpec.rules

instance : ResourceKind UdpRouteSpec := ⟨"UDPRoute", apiGroup, "v1alpha2", UdpRouteSpec.record.codec⟩

abbrev UdpRoute := Resource UdpRouteSpec

end IngressGateway.Gateway
