import IngressGateway.Text.Ascii
import IngressGateway.Resource

/-!
Upstreams: services that routes pass requests to, with the settings of the proxy for them.
-/

set_option autoImplicit false

namespace IngressGateway.Ingress

structure UpstreamTls where
  enable : Bool
deriving DecidableEq

def UpstreamTls.record : Record UpstreamTls UpstreamTls :=
  UpstreamTls.mk <$> .flagOrOff "enable" UpstreamTls.enable

structure HealthCheck where
  enable : Bool
  path : Option String
  interval : Option String
  port : Option Unsigned16
  fails : Option Signed32
  passes : Option Signed32
deriving DecidableEq

def HealthCheck.record : Record HealthCheck HealthCheck :=
  HealthCheck.mk <$> .flagOrOff "enable" HealthCheck.enable
    <*> .optional "path" .text HealthCheck.path
    <*> .optional "interval" .text HealthCheck.interval
    <*> .optional "port" .unsigned16 HealthCheck.port
    <*> .optional "fails" .signed32 HealthCheck.fails
    <*> .optional "passes" .signed32 HealthCheck.passes

structure Queue where
  size : Signed32
  timeout : Option String
deriving DecidableEq

def Queue.record : Record Queue Queue :=
  Queue.mk <$> .defaulted "size" .signed32 .zero Queue.size
    <*> .optional "timeout" .text Queue.timeout

structure Buffers where
  number : Signed32
  size : String
deriving DecidableEq

def Buffers.record : Record Buffers Buffers :=
  Buffers.mk <$> .defaulted "number" .signed32 .zero Buffers.number
    <*> .textOrEmpty "size" Buffers.size

structure SessionCookie where
  enable : Bool
  name : Option String
  path : Option String
  expires : Option String
  domain : Option String
  httpOnly : Bool
  secure : Bool
deriving DecidableEq

def SessionCookie.record : Record SessionCookie SessionCookie :=
  SessionCookie.mk <$> .flagOrOff "enable" SessionCookie.enable
    <*> .optional "name" .text SessionCookie.name
    <*> .optional "path" .text SessionCookie.path
    <*> .optional "expires" .text SessionCookie.expires
    <*> .optional "domain" .text SessionCookie.domain
    <*> .flagOrOff "httpOnly" SessionCookie.httpOnly
    <*> .flagOrOff "secure" SessionCookie.secure

/-- A service under a name that the routes of the same resource use. -/
structure Upstream where
  name : String
  service : String
  port : Unsigned16
  protocol : Option String
  subselector : TextMap
  useClusterIp : Bool
  lbMethod : Option String
  failTimeout : Option String
  maxFails : Option Signed32
  maxConns : Option Signed32
  keepalive : Option Signed32
  connectTimeout : Option String
  readTimeout : Option String
  sendTimeout : Option String
  nextUpstream : Option String
  nextUpstreamTimeout : Option String
  nextUpstreamTries : Option Signed32
  clientMaxBodySize : Option String
  tls : Option UpstreamTls
  healthCheck : Option HealthCheck
  slowStart : Option String
  queue : Option Queue
  buffering : Option Bool
  buffers : Option Buffers
  bufferSize : Option String
  ntlm : Bool
  backup : Option String
  backupPort : Option Unsigned16
  sessionCookie : Option SessionCookie
deriving DecidableEq

namespace Upstream

def record : Record Upstream Upstream :=
  mk <$> .required "name" .text name <*> .textOrEmpty "service" service
    <*> .defaulted "port" .unsigned16 .zero port
    <*> .optional "type" .text protocol
    <*> .omitted "subselector" (.map .text) .empty SortedMap.isEmpty subselector
    <*> .flagOrOff "use-cluster-ip" useClusterIp
    <*> .optional "lb-method" .text lbMethod
    <*> .optional "fail-timeout" .text failTimeout
    <*> .optional "max-fails" .signed32 maxFails
    <*> .optional "max-conns" .signed32 maxConns
    <*> .optional "keepalive" .signed32 keepalive
    <*> .optional "connect-timeout" .text connectTimeout
    <*> .optional "read-timeout" .text readTimeout
    <*> .optional "send-timeout" .text sendTimeout
    <*> .optional "next-upstream" .text nextUpstream
    <*> .optional "next-upstream-timeout" .text nextUpstreamTimeout
    <*> .optional "next-upstream-tries" .signed32 nextUpstreamTries
    <*> .optional "client-max-body-size" .text clientMaxBodySize
    <*> .optional "tls" UpstreamTls.record.codec tls
    <*> .optional "healthCheck" HealthCheck.record.codec healthCheck
    <*> .optional "slow-start" .text slowStart
    <*> .optional "queue" Queue.record.codec queue
    <*> .optional "buffering" .flag buffering
    <*> .optional "buffers" Buffers.record.codec buffers
    <*> .optional "buffer-size" .text bufferSize
    <*> .flagOrOff "ntlm" ntlm
    <*> .optional "backup" .text backup
    <*> .optional "backupPort" .unsigned16 backupPort
    <*> .optional "sessionCookie" SessionCookie.record.codec sessionCookie

def codec : Codec Upstream := record.codec

def isGrpc (u : Upstream) : Bool := u.protocol.any fun p => Text.sameIgnoringCase p "grpc"

def usesTls (u : Upstream) : Bool := u.tls.any UpstreamTls.enable

end Upstream

end IngressGateway.Ingress
