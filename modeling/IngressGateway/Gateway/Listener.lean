import IngressGateway.Resource

/-!
Gateways and their listeners. A listener is found by its name, so routes refer to it by name.
-/

set_option autoImplicit false

namespace IngressGateway.Gateway

def apiGroup : String := "gateway.networking.k8s.io"

inductive Protocol where
  | http
  | https
  | tcp
  | tls
  | udp
deriving DecidableEq, Repr

namespace Protocol

def all : List Protocol := [.http, .https, .tcp, .tls, .udp]

def label : Protocol → String
  | .http => "HTTP"
  | .https => "HTTPS"
  | .tcp => "TCP"
  | .tls => "TLS"
  | .udp => "UDP"

def slug : Protocol → String
  | .http => "http"
  | .https => "https"
  | .tcp => "tcp"
  | .tls => "tls"
  | .udp => "udp"

def codec : Codec Protocol := .named label all

end Protocol

/-- Who takes off the encryption of a connection, the gateway or the backend. -/
inductive TlsMode where
  | terminate
  | passthrough
deriving DecidableEq, Repr

def TlsMode.codec : Codec TlsMode :=
  .named (fun | .terminate => "Terminate" | .passthrough => "Passthrough") [.terminate, .passthrough]

structure SecretRef where
  group : Option String
  kind : Option String
  name : String
  ns : Option String
deriving DecidableEq, Repr

def SecretRef.record : Record SecretRef SecretRef :=
  SecretRef.mk <$> .optional "group" .text SecretRef.group
    <*> .optional "kind" .text SecretRef.kind <*> .required "name" .text SecretRef.name
    <*> .optional "namespace" .text SecretRef.ns

structure ListenerTls where
  mode : Option TlsMode
  certificateRefs : List SecretRef
deriving DecidableEq, Repr

def ListenerTls.record : Record ListenerTls ListenerTls :=
  ListenerTls.mk <$> .optional "mode" TlsMode.codec ListenerTls.mode
    <*> .items "certificateRefs" SecretRef.record.codec ListenerTls.certificateRefs

structure Listener where
  name : String
  hostname : Option String
  port : Unsigned16
  protocol : Protocol
  tls : Option ListenerTls
deriving DecidableEq, Repr

def Listener.record : Record Listener Listener :=
  Listener.mk <$> .required "name" .text Listener.name
    <*> .optional "hostname" .text Listener.hostname
    <*> .required "port" .unsigned16 Listener.port
    <*> .required "protocol" Protocol.codec Listener.protocol
    <*> .optional "tls" ListenerTls.record.codec Listener.tls

structure GatewaySpec where
  gatewayClassName : String
  listeners : List Listener
deriving DecidableEq

def GatewaySpec.record : Record GatewaySpec GatewaySpec :=
  GatewaySpec.mk <$> .required "gatewayClassName" .text GatewaySpec.gatewayClassName
    <*> .required "listeners" (.list Listener.record.codec) GatewaySpec.listeners

instance : ResourceKind GatewaySpec := ⟨"Gateway", apiGroup, "v1", GatewaySpec.record.codec⟩

abbrev Gateway := Resource GatewaySpec

/-- The gateway that a route attaches to, and the listener of it. -/
structure ParentRef where
  group : Option String
  kind : Option String
  ns : Option String
  name : String
  sectionName : Option String
deriving DecidableEq, Repr

def ParentRef.record : Record ParentRef ParentRef :=
  ParentRef.mk <$> .optional "group" .text ParentRef.group
    <*> .optional "kind" .text ParentRef.kind <*> .optional "namespace" .text ParentRef.ns
    <*> .required "name" .text ParentRef.name
    <*> .optional "sectionName" .text ParentRef.sectionName

def ParentRef.sibling (name : String) (sectionName : Option String) : ParentRef :=
  ⟨none, none, none, name, sectionName⟩

/-- A port of a service, with the part of the requests that it gets. -/
structure BackendRef where
  group : Option String
  kind : Option String
  name : String
  ns : Option String
  port : Option Unsigned16
  weight : Option Signed32
deriving DecidableEq, Repr

def BackendRef.record : Record BackendRef BackendRef :=
  BackendRef.mk <$> .optional "group" .text BackendRef.group
    <*> .optional "kind" .text BackendRef.kind <*> .required "name" .text BackendRef.name
    <*> .optional "namespace" .text BackendRef.ns
    <*> .optional "port" .unsigned16 BackendRef.port
    <*> .optional "weight" .signed32 BackendRef.weight

end IngressGateway.Gateway
