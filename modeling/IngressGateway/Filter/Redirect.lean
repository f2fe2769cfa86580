import IngressGateway.Gateway.Filter
import IngressGateway.Notification.Reported
import IngressGateway.Url.Hosted

/-!
Redirect filters for redirect URLs. A URL with a host is taken apart; any other text becomes the path.
-/

set_option autoImplicit false

namespace IngressGateway.Filter

open Gateway (HttpFilter PathModifier RequestRedirect Scheme)
open Url (Hosted)

def usualStatus : Unsigned16 := ⟨301, by decide⟩

def temporaryStatus : Unsigned16 := ⟨302, by decide⟩

/-- The status of a redirect. The codes that keep the method of the request give way to the common ones. -/
def redirectStatus (code : Option Unsigned16) : Unsigned16 :=
  match code with
  | none => usualStatus
  | some c =>
    if c.val = 0 ∨ c.val = 308 then usualStatus
    else if c.val = 307 then temporaryStatus
    else c

/-- Whether a URL goes on after the name of its server. -/
def hasWrittenPath (raw : String) : Bool :=
  match Text.after? "://".toList raw.toList with
  | none => false
  | some rest => rest.any fun c => c = '/' || c = '?' || c = '#'

def target (url : Hosted) : String :=
  url.path ++ (url.query.elim "" fun q => "?" ++ q) ++ (url.fragment.elim "" fun f => "#" ++ f)

/-- The scheme of a redirect, if a redirect can have it. -/
def schemeOf? (name : String) : Option Scheme :=
  if name = "http" then some .http else if name = "https" then some .https else none

def redirectTo (raw : String) (url : Hosted) (status : Unsigned16) : RequestRedirect where
  scheme := schemeOf? url.scheme
  hostname := some url.host
  port := url.port.map Unsigned16.toSigned32
  path := if hasWrittenPath raw then some (.full (target url)) else none
  statusCode := some status.toSigned64

def redirectWithin (raw : String) (status : Unsigned16) : RequestRedirect where
  scheme := none
  hostname := none
  port := none
  path := some (.full raw)
  statusCode := some status.toSigned64

def redirect (raw : String) (code : Option Unsigned16) (source : ObjectRef) :
    Reported HttpFilter := do
  if raw.toList.contains '$' then
    Reported.warning source
      s!"Redirect URL '{raw}' uses NGINX variables, which are not expanded by Gateway API"
  match Hosted.read? raw with
  | none => return .redirect (redirectWithin raw (redirectStatus code))
  | some url =>
    if (schemeOf? url.scheme).isNone then
      Reported.warning source
        s!"Redirect scheme '{url.scheme}' is not supported in Gateway API, dropping it"
    return .redirect (redirectTo raw url (redirectStatus code))

end IngressGateway.Filter
