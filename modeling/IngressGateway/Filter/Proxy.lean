import IngressGateway.Gateway.Filter
import IngressGateway.Ingress.Action
import IngressGateway.Notification.Reported

/-!
The filters of proxy actions: a new path, and changes to the headers of requests and responses.
-/

set_option autoImplicit false

namespace IngressGateway.Filter

open Gateway (HttpFilter PathModifier)
open Ingress (Proxy RequestHeaders ResponseHeaders)

def rewriteTo (path : PathModifier) : HttpFilter := .rewrite ⟨none, some path⟩

/-- The filter for a new path. A path with a variable in it cannot be expressed; a path from the root on
replaces the whole path, and any other one the part that the rule matched. -/
def rewrite (path : String) (source : ObjectRef) : Reported (Option HttpFilter) :=
  if path.toList.contains '$' then do
    Reported.warning source
      (s!"Rewrite path '{path}' uses NGINX variables or capture groups, "
        ++ "which Gateway API cannot express")
    return none
  else if path.toList.head? = some '/' then do
    Reported.info source
      s!"Path rewrite '{path}' converted to URLRewrite filter with ReplaceFullPath"
    return some (rewriteTo (.full path))
  else if path.isEmpty then do
    Reported.info source
      "Empty path rewrite converted to URLRewrite filter with ReplacePrefixMatch '/'"
    return some (rewriteTo (.start "/"))
  else do
    Reported.info source
      s!"Path rewrite '{path}' converted to URLRewrite filter with ReplacePrefixMatch"
    return some (rewriteTo (.start path))

/-- The filter for the headers of a request; nothing if no header is set. -/
def requestHeaders (headers : RequestHeaders) (source : ObjectRef) :
    Reported (Option HttpFilter) := do
  if headers.pass = some false then
    Reported.warning source
      ("Request header 'pass: false' has no Gateway API equivalent, "
        ++ "client headers are still forwarded")
  if headers.set.isEmpty then return none
  else
    Reported.info source
      s!"{headers.set.length} request header(s) converted to RequestHeaderModifier filter"
    return some (.requestHeaders ⟨none, none, some (headers.set.map fun h => ⟨h.name, h.value⟩)⟩)

/-- A warning about a list that has no counterpart, unless it is empty. -/
def warnOfList (list : String) (names : List String) (source : ObjectRef) : Reported Unit :=
  if names.isEmpty then return ()
  else
    Reported.warning source
      (s!"Response header '{list}' list (" ++ ", ".intercalate names
        ++ ") has no Gateway API equivalent")

/-- The filter for the headers of a response; nothing if no header is added or hidden. -/
def responseHeaders (headers : ResponseHeaders) (source : ObjectRef) :
    Reported (Option HttpFilter) := do
  warnOfList "pass" headers.pass source
  warnOfList "ignore" headers.ignored source
  Reported.tellEach .warning source <| (headers.add.filter fun h => !h.always).map fun h =>
    s!"Response header '{h.name}' without the always flag will be added to every response, "
      ++ "Gateway API does not distinguish by status code"
  if headers.add.isEmpty && headers.hide.isEmpty then return none
  else
    Reported.info source "Response headers converted to ResponseHeaderModifier filter"
    return some (.responseHeaders
      ⟨none,
        if headers.hide.isEmpty then none else some headers.hide,
        if headers.add.isEmpty then none else some (headers.add.map fun h => ⟨h.name, h.value⟩)⟩)

/-- A step that is taken if there is something to take it for. -/
def optionally {α β : Type} (step : α → Reported (Option β)) : Option α → Reported (Option β)
  | none => return none
  | some a => step a

/-- The filters of a proxy action: at most one for the path, for requests and for responses. -/
def ofProxy (proxy : Proxy) (source : ObjectRef) : Reported (List HttpFilter) := do
  let path ← optionally (fun p => rewrite p source) proxy.rewritePath
  let request ← optionally (fun h => requestHeaders h source) proxy.requestHeaders
  let response ← optionally (fun h => responseHeaders h source) proxy.responseHeaders
  return path.toList ++ request.toList ++ response.toList

end IngressGateway.Filter
