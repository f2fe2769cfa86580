import IngressGateway.Ingress.VirtualServer

/-!
Transport servers, which pass on whole connections, and the global configuration, which names the
listeners that virtual and transport servers attach to.
-/

set_option autoImplicit false

namespace IngressGateway.Ingress

structure TransportTls where
  secret : String

def TransportTls.record : Record TransportTls TransportTls :=
  TransportTls.mk <$> .textOrEmpty "secret" TransportTls.secret

structure ListenerChoice where
  name : String
  protocol : String

def ListenerChoice.record : Record ListenerChoice ListenerChoice :=
  ListenerChoice.mk <$> .textOrEmpty "name" ListenerChoice.name
    <*> .textOrEmpty "protocol" ListenerChoice.protocol

structure TransportUpstream where
  name : String
  service : String
  port : Unsigned16
  failTimeout : Option String
  maxFails : Option Signed32
  maxConns : Option Signed32
  loadBalancingMethod : Option String

def TransportUpstream.record : Record TransportUpstream TransportUpstream :=
  TransportUpstream.mk <$> .required "name" .text TransportUpstream.name
    <*> .textOrEmpty "service" TransportUpstream.service
    <*> .defaulted "port" .unsigned16 .zero TransportUpstream.port
    <*> .optional "failTimeout" .text TransportUpstream.failTimeout
    <*> .optional "maxFails" .signed32 TransportUpstream.maxFails
    <*> .optional "maxConns" .signed32 TransportUpstream.maxConns
    <*> .optional "loadBalancingMethod" .text TransportUpstream.loadBalancingMethod

structure TransportAction where
  pass : String

def TransportAction.record : Record TransportAction TransportAction :=
  TransportAction.mk <$> .textOrEmpty "pass" TransportAction.pass

structure TransportServerSpec where
  ingressClassName : Option String
  tls : Option TransportTls
  listener : Option ListenerChoice
  host : Option String
  upstreams : List TransportUpstream
  upstreamParameters : Option Json
  sessionParameters : Option Json
  serverSnippets : String
  streamSnippets : String
  action : Option TransportAction

namespace TransportServerSpec

def record : Record TransportServerSpec TransportServerSpec :=
  mk <$> .optional "ingressClassName" .text ingressClassName
    <*> .optional "tls" TransportTls.record.codec tls
    <*> .optional "listener" ListenerChoice.record.codec listener
    <*> .optional "host" .text host
    <*> .items "upstreams" TransportUpstream.record.codec upstreams
    <*> .optional "upstreamParameters" .any upstreamParameters
    <*> .optional "sessionParameters" .any sessionParameters
    <*> .textIfAny "serverSnippets" serverSnippets
    <*> .textIfAny "streamSnippets" streamSnippets
    <*> .optional "action" TransportAction.record.codec action

instance : ResourceKind TransportServerSpec :=
  ⟨"TransportServer", apiGroup, apiVersion, record.codec⟩

end TransportServerSpec

abbrev TransportServer := Resource TransportServerSpec

structure NamedListener where
  name : String
  port : Unsigned16
  protocol : String
  ipv4 : Option String
  ipv6 : Option String
  ssl : Bool

def NamedListener.record : Record NamedListener NamedListener :=
  NamedListener.mk <$> .required "name" .text NamedListener.name
    <*> .defaulted "port" .unsigned16 .zero NamedListener.port
    <*> .textOrEmpty "protocol" NamedListener.protocol
    <*> .optional "ipv4" .text NamedListener.ipv4
    <*> .optional "ipv6" .text NamedListener.ipv6
    <*> .flagOrOff "ssl" NamedListener.ssl

structure GlobalConfigurationSpec where
  listeners : List NamedListener

namespace GlobalConfigurationSpec

def record : Record GlobalConfigurationSpec GlobalConfigurationSpec :=
  mk <$> .items "listeners" NamedListener.record.codec listeners

instance : ResourceKind GlobalConfigurationSpec :=
  ⟨"GlobalConfiguration", apiGroup, apiVersion, record.codec⟩

end GlobalConfigurationSpec

abbrev GlobalConfiguration := Resource GlobalConfigurationSpec

end IngressGateway.Ingress
