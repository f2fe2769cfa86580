import IngressGateway.Ingress.Upstream
import IngressGateway.Text.Present

/-!
The settings of an upstream that have no place in generated objects. `unsupportedFields` names those that
are set; `Tuning` records the values of some of them, so that they are not lost.
-/

set_option autoImplicit false

namespace IngressGateway.Backend

open Ingress (Upstream SessionCookie Queue HealthCheck)

/-- The way of balancing load that goes without saying. -/
def usualLbMethod : String := "least_conn"

/-- The fields without a counterpart, each with whether it is set. -/
def fieldTable (u : Upstream) : List (String × Bool) :=
  [ ("lb-method", u.lbMethod.any fun m => !m.isEmpty && m ≠ usualLbMethod),
    ("subselector", !u.subselector.isEmpty),
    ("use-cluster-ip", u.useClusterIp),
    ("fail-timeout", Text.isPresent u.failTimeout),
    ("max-fails", u.maxFails.isSome),
    ("max-conns", u.maxConns.isSome),
    ("keepalive", u.keepalive.isSome),
    ("connect-timeout", Text.isPresent u.connectTimeout),
    ("read-timeout", Text.isPresent u.readTimeout),
    ("send-timeout", Text.isPresent u.sendTimeout),
    ("next-upstream", Text.isPresent u.nextUpstream),
    ("next-upstream-timeout", Text.isPresent u.nextUpstreamTimeout),
    ("next-upstream-tries", u.nextUpstreamTries.isSome),
    ("client-max-body-size", Text.isPresent u.clientMaxBodySize),
    ("healthCheck", u.healthCheck.any HealthCheck.enable),
    ("slow-start", Text.isPresent u.slowStart),
    ("queue", u.queue.isSome),
    ("buffering", u.buffering.isSome),
    ("buffers", u.buffers.isSome),
    ("buffer-size", Text.isPresent u.bufferSize),
    ("ntlm", u.ntlm),
    ("backup", Text.isPresent u.backup),
    ("backupPort", u.backupPort.isSome),
    ("sessionCookie", u.sessionCookie.any SessionCookie.enable) ]

def namesOfSet (table : List (String × Bool)) : List String :=
  (table.filter Prod.snd).map Prod.fst

/-- The fields without a counterpart that an upstream sets. -/
def unsupportedFields (u : Upstream) : List String := namesOfSet (fieldTable u)

/-- Settings of an upstream that are recorded beside the objects. -/
structure Tuning where
  lbMethod : Option String
  sessionCookie : Option SessionCookie
  slowStart : Option String
  queue : Option Queue
  keepalive : Option Signed32
  maxFails : Option Signed32
  maxConns : Option Signed32
  failTimeout : Option String
  healthCheck : Option HealthCheck
  buffering : Option Bool
deriving DecidableEq

namespace Tuning

def none : Tuning :=
  ⟨.none, .none, .none, .none, .none, .none, .none, .none, .none, .none⟩

def record : Record Tuning Tuning :=
  mk <$> .optional "lbMethod" .text lbMethod
    <*> .optional "sessionCookie" SessionCookie.record.codec sessionCookie
    <*> .optional "slowStart" .text slowStart
    <*> .optional "queue" Queue.record.codec queue
    <*> .optional "keepalive" .signed32 keepalive
    <*> .optional "maxFails" .signed32 maxFails
    <*> .optional "maxConns" .signed32 maxConns
    <*> .optional "failTimeout" .text failTimeout
    <*> .optional "healthCheck" HealthCheck.record.codec healthCheck
    <*> .optional "buffering" .flag buffering

/-- The settings of an upstream; what is empty or switched off is left out. -/
def settingsOf (u : Upstream) : Tuning where
  lbMethod := Text.present? u.lbMethod
  sessionCookie := u.sessionCookie.filter SessionCookie.enable
  slowStart := Text.present? u.slowStart
  queue := u.queue
  keepalive := u.keepalive
  maxFails := u.maxFails
  maxConns := u.maxConns
  failTimeout := Text.present? u.failTimeout
  healthCheck := u.healthCheck.filter HealthCheck.enable
  buffering := u.buffering

/-- The settings of an upstream, if it has any. -/
def ofUpstream? (u : Upstream) : Option Tuning :=
  if settingsOf u = none then .none else some (settingsOf u)

end Tuning

/-- The recorded settings of the upstreams of a route, by upstream. -/
structure Extension where
  upstreams : SortedMap String Tuning
deriving DecidableEq

namespace Extension

def empty : Extension := ⟨.empty⟩

def isEmpty (e : Extension) : Bool := e.upstreams.isEmpty

def record : Record Extension Extension :=
  mk <$> .required "upstreams" (.map Tuning.record.codec) upstreams

def codec : Codec Extension := record.codec

/-- The settings of those upstreams that have any; the last one of a name counts. -/
def ofUpstreams (us : List Upstream) : Extension :=
  ⟨.ofList (us.filterMap fun u => (Tuning.ofUpstream? u).map fun t => (u.name, t))⟩

/-- The settings of both; where both have some for an upstream, the first ones count. -/
def orElse (e f : Extension) : Extension :=
  ⟨f.upstreams.entries.foldl (fun m x => m.insertIfNew x.1 x.2) e.upstreams⟩

end Extension

end IngressGateway.Backend
