import IngressGateway.Ingress.TransportServer
import IngressGateway.Proofs.ResourceFormat

/-!
The resources that a conversion starts from, written and read back. Most records keep every value. Those that
hold JSON of any form keep all that can come of reading: a member that is null counts as missing, so null is
never what such a member is read as.
-/

set_option autoImplicit false

namespace IngressGateway

open Codec (roundTrips_of_lossless)

namespace Ingress

/-! ### Records that keep every value -/

instance : Header.record.codec.Lossless := by
  unfold Header.record
  exact Record.lossless_codec (by decide)

instance : AddedHeader.record.codec.Lossless := by
  unfold AddedHeader.record
  exact Record.lossless_codec (by decide)

instance : Redirect.record.codec.Lossless := by
  unfold Redirect.record
  exact Record.lossless_codec (by decide)

instance : Reply.record.codec.Lossless := by
  unfold Reply.record
  exact Record.lossless_codec (by decide)

instance : RequestHeaders.record.codec.Lossless := by
  unfold RequestHeaders.record
  exact Record.lossless_codec (by decide)

instance : ResponseHeaders.record.codec.Lossless := by
  unfold ResponseHeaders.record
  exact Record.lossless_codec (by decide)

instance : Proxy.record.codec.Lossless := by
  unfold Proxy.record
  exact Record.lossless_codec (by decide)

instance : Action.record.codec.Lossless := by
  unfold Action.record
  exact Record.lossless_codec (by decide)

instance : Split.record.codec.Lossless := by
  unfold Split.record
  exact Record.lossless_codec (by decide)

instance : Condition.record.codec.Lossless := by
  unfold Condition.record
  exact Record.lossless_codec (by decide)

instance : PolicyRef.record.codec.Lossless := by
  unfold PolicyRef.record
  exact Record.lossless_codec (by decide)

instance : ErrorPage.record.codec.Lossless := by
  unfold ErrorPage.record
  exact Record.lossless_codec (by decide)

instance : Match.record.codec.Lossless := by
  unfold Match.record
  exact Record.lossless_codec (by decide)

instance : Route.record.codec.Lossless := by
  unfold Route.record
  exact Record.lossless_codec (by decide)

instance : UpstreamTls.record.codec.Lossless := by
  unfold UpstreamTls.record
  exact Record.lossless_codec (by decide)

instance : HealthCheck.record.codec.Lossless := by
  unfold HealthCheck.record
  exact Record.lossless_codec (by decide)

instance : Queue.record.codec.Lossless := by
  unfold Queue.record
  exact Record.lossless_codec (by decide)

instance : Buffers.record.codec.Lossless := by
  unfold Buffers.record
  exact Record.lossless_codec (by decide)

instance : SessionCookie.record.codec.Lossless := by
  unfold SessionCookie.record
  exact Record.lossless_codec (by decide)

instance : Upstream.record.codec.Lossless := by
  unfold Upstream.record
  exact Record.lossless_codec (by decide)

instance : Upstream.codec.Lossless := inferInstanceAs Upstream.record.codec.Lossless

instance : Upstream.codec.NonNull := inferInstanceAs Upstream.record.codec.NonNull

instance : ListenerNames.record.codec.Lossless := by
  unfold ListenerNames.record
  exact Record.lossless_codec (by decide)

instance : TlsRedirect.record.codec.Lossless := by
  unfold TlsRedirect.record
  exact Record.lossless_codec (by decide)

instance : ExternalDns.record.codec.Lossless := by
  unfold ExternalDns.record
  exact Record.lossless_codec (by decide)

instance : VirtualServerRouteSpec.record.codec.Lossless := by
  unfold VirtualServerRouteSpec.record
  exact Record.lossless_codec (by decide)

instance : TransportTls.record.codec.Lossless := by
  unfold TransportTls.record
  exact Record.lossless_codec (by decide)

instance : ListenerChoice.record.codec.Lossless := by
  unfold ListenerChoice.record
  exact Record.lossless_codec (by decide)

instance : TransportUpstream.record.codec.Lossless := by
  unfold TransportUpstream.record
  exact Record.lossless_codec (by decide)

instance : TransportAction.record.codec.Lossless := by
  unfold TransportAction.record
  exact Record.lossless_codec (by decide)

instance : NamedListener.record.codec.Lossless := by
  unfold NamedListener.record
  exact Record.lossless_codec (by decide)

instance : GlobalConfigurationSpec.record.codec.Lossless := by
  unfold GlobalConfigurationSpec.record
  exact Record.lossless_codec (by decide)

/-! ### Records with JSON of any form -/

def Tls.IsRead (t : Tls) : Prop := ∀ j, t.certManager = some j → j ≠ .null

theorem Tls.yields : Tls.record.Yields IsRead := by
  unfold Tls.record
  exact .seq (.skip (.map (Record.yields_of_forall fun _ _ _ h => h))) Record.yields_optional_any

theorem Tls.restores {t : Tls} (h : t.IsRead) : Tls.record.codec.Restores .written t := by
  have hmanager : (Record.optional "cert-manager" .any Tls.certManager).Restores .written t
      ["cert-manager"] t.certManager := Record.restores_optional (fun j _ => Codec.restores_any j) h
  unfold Tls.record
  exact Record.restores_codec (by decide)

def VirtualServerSpec.IsRead (s : VirtualServerSpec) : Prop := ∀ t, s.tls = some t → t.IsRead

theorem VirtualServerSpec.yields : VirtualServerSpec.record.Yields IsRead := by
  have htls : (Record.optional "tls" Tls.record.codec VirtualServerSpec.tls).Yields fun t? =>
      ∀ t, t? = some t → t.IsRead := Record.yields_optional Tls.yields.codec
  unfold VirtualServerSpec.record
  -- Nine members stand behind the only one that counts.
  refine .skip (.skip (.skip (.skip (.skip (.skip (.skip (.skip (.skip (.seq ?_ htls)))))))))
  exact .skip (.skip (.map (Record.yields_of_forall fun _ _ _ _ h _ _ _ _ _ _ _ _ _ => h)))

theorem VirtualServerSpec.restores {s : VirtualServerSpec} (h : s.IsRead) :
    VirtualServerSpec.record.codec.Restores .written s := by
  have htls : (Record.optional "tls" Tls.record.codec VirtualServerSpec.tls).Restores .written s
      ["tls"] s.tls :=
    Record.restores_optional (fun t ht => Tls.restores (h t ht)) fun t _ => Codec.NonNull.ne_null t
  unfold VirtualServerSpec.record
  exact Record.restores_codec (by decide)

structure TransportServerSpec.IsRead (s : TransportServerSpec) : Prop where
  upstreamParameters : ∀ j, s.upstreamParameters = some j → j ≠ .null
  sessionParameters : ∀ j, s.sessionParameters = some j → j ≠ .null

theorem TransportServerSpec.yields : TransportServerSpec.record.Yields IsRead := by
  unfold TransportServerSpec.record
  refine .skip (.skip (.skip (.seq (.seq ?_ Record.yields_optional_any) Record.yields_optional_any)))
  refine .skip (.skip (.skip (.skip (.map (Record.yields_of_forall ?_)))))
  exact fun _ _ _ _ _ _ hupstream _ hsession _ _ _ => ⟨hupstream, hsession⟩

theorem TransportServerSpec.restores {s : TransportServerSpec} (h : s.IsRead) :
    TransportServerSpec.record.codec.Restores .written s := by
  have hupstream : (Record.optional "upstreamParameters" .any upstreamParameters).Restores .written s
      ["upstreamParameters"] s.upstreamParameters :=
    Record.restores_optional (fun j _ => Codec.restores_any j) h.upstreamParameters
  have hsession : (Record.optional "sessionParameters" .any sessionParameters).Restores .written s
      ["sessionParameters"] s.sessionParameters :=
    Record.restores_optional (fun j _ => Codec.restores_any j) h.sessionParameters
  unfold TransportServerSpec.record
  exact Record.restores_codec (by decide)

/-! ### Resources -/

/-- The kinds of resources, and of parts of resources, that a conversion starts from. -/
structure InputRoundTrips : Prop where
  virtualServer : (Resource.codec : Codec VirtualServer).RoundTrips
  virtualServerRoute : (Resource.codec : Codec VirtualServerRoute).RoundTrips
  transportServer : (Resource.codec : Codec TransportServer).RoundTrips
  globalConfiguration : (Resource.codec : Codec GlobalConfiguration).RoundTrips
  upstream : Upstream.codec.RoundTrips
  route : Route.record.codec.RoundTrips
  action : Action.record.codec.RoundTrips
  condition : Condition.record.codec.RoundTrips

theorem inputRoundTrips : InputRoundTrips where
  virtualServer := Resource.roundTrips fun rule j s hs =>
    VirtualServerSpec.restores (VirtualServerSpec.yields.codec rule j s hs)
  virtualServerRoute := Resource.roundTrips fun _ _ s _ =>
    (inferInstance : VirtualServerRouteSpec.record.codec.Lossless).restores .written s
  transportServer := Resource.roundTrips fun rule j s hs =>
    TransportServerSpec.restores (TransportServerSpec.yields.codec rule j s hs)
  globalConfiguration := Resource.roundTrips fun _ _ s _ =>
    (inferInstance : GlobalConfigurationSpec.record.codec.Lossless).restores .written s
  upstream := roundTrips_of_lossless
  route := roundTrips_of_lossless
  action := roundTrips_of_lossless
  condition := roundTrips_of_lossless

/-- What is not a member of an action does not come out again, nor does a member that is null. -/
example : Action.record.codec.rewrite? .refused
    (.obj [("weight", .int 1), ("proxy", .null), ("pass", .str "tea")]) =
      some (.obj [("pass", .str "tea")]) := rfl

end Ingress

end IngressGateway
