import IngressGateway.Backend.Tuning
import IngressGateway.Gateway.BackendTlsPolicy
import IngressGateway.GeneratedName
import IngressGateway.Notification.Reported
import IngressGateway.Settings

/-!
Catalogs: the upstreams of one resource that can be used, by name. Of several upstreams of one name the
first usable one counts.
-/

set_option autoImplicit false

namespace IngressGateway.Backend

open Gateway (BackendTlsPolicy BackendTlsPolicySpec PolicyTarget Validation)
open Ingress (Upstream)

/-- Why an upstream cannot be used. -/
inductive UpstreamFault where
  | noService
  | noPort
deriving DecidableEq, Repr

def faultOf? (u : Upstream) : Option UpstreamFault :=
  if u.service.isEmpty then some .noService
  else if u.port.val = 0 then some .noPort
  else none

def UpstreamFault.message (upstream : String) : UpstreamFault → String
  | .noService => s!"Upstream '{upstream}' has no service specified"
  | .noPort => s!"Upstream '{upstream}' has no port specified"

/-- Whether an upstream can be used; if not, the owner is warned. -/
def checkUpstream (u : Upstream) (owner : ObjectRef) : Reported Bool :=
  match faultOf? u with
  | none => return true
  | some fault => do
    Reported.warning owner (fault.message u.name)
    return false

structure Catalog where
  ns : String
  owner : ObjectRef
  upstreams : SortedMap String Upstream

namespace Catalog

/-- One more upstream; the first usable one of a name stays. -/
def add (owner : ObjectRef) (m : SortedMap String Upstream) (u : Upstream) :
    Reported (SortedMap String Upstream) := do
  if ← checkUpstream u owner then
    if m.contains u.name then
      Reported.warning owner
        s!"Upstream '{u.name}' is defined more than once, keeping the first definition"
      return m
    else
      Reported.tellEach .info owner <| (unsupportedFields u).map fun field =>
        s!"Upstream '{u.name}': {field} field is not currently converted to Gateway API"
      return m.insert u.name u
  else return m

/-- Several more upstreams, in order. -/
def addAll (owner : ObjectRef) : SortedMap String Upstream → List Upstream →
    Reported (SortedMap String Upstream)
  | m, [] => return m
  | m, u :: us => do addAll owner (← add owner m u) us

def build (us : List Upstream) (ns : String) (owner : ObjectRef) : Reported Catalog :=
  (⟨ns, owner, ·⟩) <$> addAll owner .empty us

def get? (c : Catalog) (name : String) : Option Upstream := c.upstreams.get? name

/-- The upstreams in the order of their names. -/
def toList (c : Catalog) : List Upstream := c.upstreams.values

def extension (c : Catalog) : Extension := .ofUpstreams c.toList

def tlsPolicy (c : Catalog) (owner : String) (settings : Settings) (u : Upstream) :
    BackendTlsPolicy where
  metadata := .labelled c.ns (GeneratedName.tlsPolicy u.service u.name)
    (settings.virtualServerLabels fromVirtualServerTls owner)
  spec := ⟨[⟨"", "Service", u.service, none⟩], .blank⟩

/-- The policies for all upstreams whose services speak TLS; each has to be completed by hand. -/
def tlsPolicies (c : Catalog) (owner : String) (settings : Settings) :
    Reported (List BackendTlsPolicy) :=
  Reported.each (c.toList.filter Upstream.usesTls) fun u => do
    let name := GeneratedName.tlsPolicy u.service u.name
    Reported.warning c.owner
      (s!"BackendTLSPolicy '{name}' created but requires manual configuration. "
        ++ "You must set the 'validation.hostname' field to match the backend "
        ++ "certificate and configure CA certificates (caCertificateRefs or "
        ++ "wellKnownCACertificates)")
    return c.tlsPolicy owner settings u

end Catalog

end IngressGateway.Backend
