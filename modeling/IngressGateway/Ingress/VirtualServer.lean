import IngressGateway.Ingress.Route
import IngressGateway.Ingress.Upstream

/-!
Virtual servers, which serve one host, and virtual server routes, to which virtual servers refer for some
of their routes.
-/

set_option autoImplicit false

namespace IngressGateway.Ingress

def apiGroup : String := "k8s.nginx.org"

def apiVersion : String := "v1"

structure ListenerNames where
  http : Option String
  https : Option String

def ListenerNames.record : Record ListenerNames ListenerNames :=
  ListenerNames.mk <$> .optional "http" .text ListenerNames.http
    <*> .optional "https" .text ListenerNames.https

structure TlsRedirect where
  enable : Bool
  code : Option Unsigned16
  basedOn : Option String

def TlsRedirect.record : Record TlsRedirect TlsRedirect :=
  TlsRedirect.mk <$> .flagOrOff "enable" TlsRedirect.enable
    <*> .optional "code" .unsigned16 TlsRedirect.code
    <*> .optional "basedOn" .text TlsRedirect.basedOn

structure Tls where
  secret : Option String
  redirect : Option TlsRedirect
  certManager : Option Json

def Tls.record : Record Tls Tls :=
  Tls.mk <$> .optional "secret" .text Tls.secret
    <*> .optional "redirect" TlsRedirect.record.codec Tls.redirect
    <*> .optional "cert-manager" .any Tls.certManager

structure ExternalDns where
  enable : Bool
  recordType : Option String
  recordTtl : Option Signed64

def ExternalDns.record : Record ExternalDns ExternalDns :=
  ExternalDns.mk <$> .flagOrOff "enable" ExternalDns.enable
    <*> .optional "recordType" .text ExternalDns.recordType
    <*> .optional "recordTtl" .signed64 ExternalDns.recordTtl

structure VirtualServerSpec where
  ingressClassName : Option String
  host : String
  listener : Option ListenerNames
  tls : Option Tls
  gunzip : Bool
  externalDns : Option ExternalDns
  dos : String
  policies : List PolicyRef
  upstreams : List Upstream
  routes : List Route
  httpSnippets : String
  serverSnippets : String
  internalRoute : Bool

namespace VirtualServerSpec

def record : Record VirtualServerSpec VirtualServerSpec :=
  mk <$> .optional "ingressClassName" .text ingressClassName
    <*> .textOrEmpty "host" host
    <*> .optional "listener" ListenerNames.record.codec listener
    <*> .optional "tls" Tls.record.codec tls
    <*> .flagOrOff "gunzip" gunzip
    <*> .optional "externalDNS" ExternalDns.record.codec externalDns
    <*> .textIfAny "dos" dos
    <*> .items "policies" PolicyRef.record.codec policies
    <*> .items "upstreams" Upstream.codec upstreams
    <*> .items "routes" Route.record.codec routes
    <*> .textIfAny "http-snippets" httpSnippets
    <*> .textIfAny "server-snippets" serverSnippets
    <*> .flagOrOff "internalRoute" internalRoute

instance : ResourceKind VirtualServerSpec := ⟨"VirtualServer", apiGroup, apiVersion, record.codec⟩

/-- The secret with the certificate of the host, if one is named. -/
def tlsSecret? (s : VirtualServerSpec) : Option String := Text.present? (s.tls.bind Tls.secret)

/-- The redirect of plain requests, if it is switched on. -/
def tlsRedirect? (s : VirtualServerSpec) : Option TlsRedirect :=
  (s.tls.bind Tls.redirect).filter TlsRedirect.enable

end VirtualServerSpec

abbrev VirtualServer := Resource VirtualServerSpec

structure VirtualServerRouteSpec where
  ingressClassName : Option String
  host : String
  upstreams : List Upstream
  subroutes : List Route

namespace VirtualServerRouteSpec

def record : Record VirtualServerRouteSpec VirtualServerRouteSpec :=
  mk <$> .optional "ingressClassName" .text ingressClassName
    <*> .textOrEmpty "host" host
    <*> .items "upstreams" Upstream.codec upstreams
    <*> .items "subroutes" Route.record.codec subroutes

instance : ResourceKind VirtualServerRouteSpec :=
  ⟨"VirtualServerRoute", apiGroup, apiVersion, record.codec⟩

end VirtualServerRouteSpec

abbrev VirtualServerRoute := Resource VirtualServerRouteSpec

end IngressGateway.Ingress
