import IngressGateway.Filter.Redirect
import IngressGateway.Gateway.Route
import IngressGateway.GeneratedName
import IngressGateway.Ingress.VirtualServer
import IngressGateway.Listeners.Sections
import IngressGateway.Settings

/-!
The route that sends plain requests for a virtual server to its encrypted site. It attaches to the plain
listener and needs an encrypted one to point to.
-/

set_option autoImplicit false

namespace IngressGateway.Routing

open Gateway (HttpFilter HttpMatch HttpRoute HttpRule ParentRef PathMatch RequestRedirect)
open Ingress (TlsRedirect VirtualServer)
open Listeners (Sections)

def parentOf (ns : String) (sectionName : Option String) : ParentRef :=
  .sibling (GeneratedName.gateway ns) sectionName

def toEncrypted (port : Unsigned16) (code : Option Unsigned16) : RequestRedirect where
  scheme := some .https
  hostname := none
  port := if port = Settings.usualHttpsPort then none else some port.toSigned32
  path := none
  statusCode := some (Filter.redirectStatus code).toSigned64

def everyPath : HttpMatch := ⟨none, none, some ⟨some .pathPrefix, some "/"⟩, none⟩

def redirectRouteFrom (httpSection : String) (vs : VirtualServer) (sections : Sections)
    (settings : Settings) (code : Option Unsigned16) : HttpRoute where
  metadata := .labelled vs.namespaceOf (GeneratedName.redirectRoute vs.anyName)
    (settings.virtualServerLabels fromVirtualServer vs.anyName)
  spec :=
    { parentRefs := [parentOf vs.namespaceOf (some httpSection)]
      hostnames := [vs.spec.host]
      rules := [⟨[everyPath], [.redirect (toEncrypted sections.httpsPort code)], []⟩] }

/-- The redirect route of a virtual server, if its redirect is switched on and both its listeners are
there. -/
def redirectRoute (vs : VirtualServer) (source : ObjectRef) (sections : Sections)
    (settings : Settings) : Reported (Option HttpRoute) :=
  match vs.spec.tlsRedirect?, sections.http, sections.https with
  | some redirect, some httpSection, some _ => do
    if Text.isPresent redirect.basedOn then
      Reported.info source
        ("TLS redirect 'basedOn' is not converted; "
          ++ "the redirect applies to every plain HTTP request")
    return some (redirectRouteFrom httpSection vs sections settings redirect.code)
  | _, _, _ => return none

end IngressGateway.Routing
