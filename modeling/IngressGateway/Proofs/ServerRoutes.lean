import IngressGateway.Proofs.Arrangement
import IngressGateway.Proofs.SharedGateway

/-!
What one server leads to, without the notifications. A virtual server leads to an HTTP route for its rules
without a gRPC backend, a gRPC route for the others and a redirect route; a transport server leads to one
route. None of this depends on any other server except through the sections of a virtual server.
-/

set_option autoImplicit false

namespace IngressGateway

namespace Routing

open Backend (Catalog)
open Gateway (GrpcRule HttpRule)
open Ingress (TransportServer VirtualServer)
open Listeners (ConnectionListener NamedPorts Sections)

variable (index : RouteIndex) (settings : Settings) (vs : VirtualServer) (sections : Sections)

def resolvedRoutes : List ResolvedRoute :=
  vs.spec.routes.flatMap fun r => (expandRoute index vs.source vs.namespaceOf r).value

def ownCatalog : Catalog := (Catalog.build vs.spec.upstreams vs.namespaceOf vs.source).value

/-- The upstreams of the resources that a virtual server refers to. -/
def ownerCatalogs : OwnerCatalogs :=
  (addOwners vs.namespaceOf .empty (resolvedRoutes index vs)).value

def serverDrafts : List RuleDraft :=
  (draftRules (ownCatalog vs) (ownerCatalogs index vs) (resolvedRoutes index vs)).value

def httpRules : List HttpRule :=
  ((serverDrafts index vs).filter fun d => !d.isGrpc).map fun d =>
    (httpRule d vs.namespaceOf vs.source).value

def grpcRules : List GrpcRule :=
  ((serverDrafts index vs).filter RuleDraft.isGrpc).map fun d =>
    (grpcRule d vs.namespaceOf vs.source).value

def serverRoutes : AssembledRoutes :=
  (assemble vs vs.source (resolvedRoutes index vs) (ownCatalog vs) sections settings).value

theorem value_convertVirtualServer :
    (Conversion.convertVirtualServer vs vs.source vs.namespaceOf sections index settings).value =
      some (serverRoutes index settings vs sections) := by
  have hr : resolveRoutes vs.spec.routes index vs.source =
      .ok (List.flatten <$> Reported.each vs.spec.routes
        (expandRoute index vs.source vs.namespaceOf)) := rfl
  simp only [Conversion.convertVirtualServer, hr, Reported.value_bind, Reported.value_map,
    Reported.value_each, serverRoutes, resolvedRoutes, ownCatalog, List.flatMap_def]

theorem httpRoute_serverRoutes :
    (serverRoutes index settings vs sections).httpRoute =
      if httpRules index vs = [] then none
      else some
        ⟨.labelled vs.namespaceOf (GeneratedName.httpRoute vs.anyName)
            (settings.virtualServerLabels fromVirtualServer vs.anyName),
          [parentOf vs.namespaceOf sections.primary?], [vs.spec.host], httpRules index vs⟩ := by
  change (httpRouteOf vs vs.source vs.namespaceOf sections settings (httpRules index vs)).value = _
  unfold httpRouteOf
  cases h : httpRules index vs with
  | nil => rfl
  | cons r rs => rfl

theorem grpcRoute_serverRoutes :
    (serverRoutes index settings vs sections).grpcRoute =
      if grpcRules index vs = [] then none
      else some
        ⟨.labelled vs.namespaceOf (GeneratedName.grpcRoute vs.anyName)
            (settings.virtualServerLabels fromVirtualServer vs.anyName),
          [parentOf vs.namespaceOf sections.primary?], [vs.spec.host], grpcRules index vs⟩ := by
  change (grpcRouteOf vs vs.source vs.namespaceOf sections settings (grpcRules index vs)).value = _
  unfold grpcRouteOf
  cases h : grpcRules index vs with
  | nil => rfl
  | cons r rs => rfl

theorem redirectRoute_serverRoutes :
    (serverRoutes index settings vs sections).redirectRoute =
      vs.spec.tlsRedirect?.bind fun redirect => sections.http.bind fun httpSection =>
        sections.https.map fun _ => redirectRouteFrom httpSection vs sections settings redirect.code := by
  change (redirectRoute vs vs.source sections settings).value = _
  unfold redirectRoute
  cases vs.spec.tlsRedirect? with
  | none => rfl
  | some redirect =>
    cases sections.http with
    | none => rfl
    | some httpSection =>
      cases sections.https with
      | none => rfl
      | some httpsSection => cases h : Text.isPresent redirect.basedOn <;> simp [h]

theorem policies_serverRoutes :
    (serverRoutes index settings vs sections).policies =
      (ownCatalog vs :: (ownerCatalogs index vs).values).flatMap fun c =>
        (c.tlsPolicies vs.anyName settings).value := List.flatMap_def.symm

theorem extension_serverRoutes :
    (serverRoutes index settings vs sections).extension =
      assembledExtension (ownCatalog vs) (ownerCatalogs index vs) := rfl

/-! ### Transport servers -/

variable (ts : TransportServer) (ports : NamedPorts)

def transportRoute? : Option ConnectionRoute := (connectionRoute ts ts.source ports settings).value

theorem value_connectionRouteOn (l : ConnectionListener) (source : ObjectRef) :
    (connectionRouteOn l ts source settings).value =
      connectionRouteFor l ts settings (connectionBackends ts ts.namespaceOf source).value := by
  unfold connectionRouteOn
  split <;> rfl

theorem transportRoute?_eq :
    transportRoute? settings ts ports =
      (Listeners.connectionListener ts ports).toOption.map fun l =>
        connectionRouteFor l ts settings (connectionBackends ts ts.namespaceOf ts.source).value := by
  unfold transportRoute? connectionRoute
  cases Listeners.connectionListener ts ports with
  | error fault => rfl
  | ok l => exact congrArg some (value_connectionRouteOn settings ts l ts.source)

end Routing

end IngressGateway
