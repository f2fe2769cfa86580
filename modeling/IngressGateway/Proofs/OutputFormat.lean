import IngressGateway.Conversion
import IngressGateway.Proofs.ResourceFormat
import IngressGateway.Render

/-!
The objects that a conversion produces, written and read back. Every record keeps every value; the backends of
a rule have the members of their reference among their own, and a filter is told from the others by the kind
that it states.
-/

set_option autoImplicit false

namespace IngressGateway

open Codec (Lossless inverts_of_lossless lossless_named)
open Json (Layout)

namespace Gateway

/-! ### Gateways -/

instance : Protocol.codec.Lossless := lossless_named fun p => by cases p <;> rfl

instance : TlsMode.codec.Lossless := lossless_named fun m => by cases m <;> rfl

instance : TlsMode.codec.NonNull := inferInstanceAs (Codec.named _ _).NonNull

instance : SecretRef.record.codec.Lossless := by
  unfold SecretRef.record
  exact Record.lossless_codec (by decide)

instance : ListenerTls.record.codec.Lossless := by
  unfold ListenerTls.record
  exact Record.lossless_codec (by decide)

instance : Listener.record.codec.Lossless := by
  unfold Listener.record
  exact Record.lossless_codec (by decide)

instance : GatewaySpec.record.codec.Lossless := by
  unfold GatewaySpec.record
  exact Record.lossless_codec (by decide)

instance : ParentRef.record.codec.Lossless := by
  unfold ParentRef.record
  exact Record.lossless_codec (by decide)

instance : BackendRef.record.codec.Lossless := by
  unfold BackendRef.record
  exact Record.lossless_codec (by decide)

/-! ### Filters -/

instance : HeaderValue.record.codec.Lossless := by
  unfold HeaderValue.record
  exact Record.lossless_codec (by decide)

instance : HeaderModifier.record.codec.Lossless := by
  unfold HeaderModifier.record
  exact Record.lossless_codec (by decide)

instance : PathModifierKind.codec.Lossless := lossless_named fun k => by cases k <;> rfl

instance : PathModifier.record.codec.Lossless := by
  unfold PathModifier.record
  exact Record.lossless_codec (by decide)

instance : Scheme.codec.Lossless := lossless_named fun s => by cases s <;> rfl

instance : Scheme.codec.NonNull := inferInstanceAs (Codec.named _ _).NonNull

instance : RequestRedirect.record.codec.Lossless := by
  unfold RequestRedirect.record
  exact Record.lossless_codec (by decide)

instance : UrlRewrite.record.codec.Lossless := by
  unfold UrlRewrite.record
  exact Record.lossless_codec (by decide)

section

variable {α : Type} {c : Codec α} {tag member : String}

/-- A tagged object states its tag. -/
theorem tagOf?_taggedObject (l : Layout) (content : Json) (hm : member ≠ "type") :
    tagOf? (l.apply (taggedObject tag member content)) =
      some (tag, l.apply (taggedObject tag member content)) := by
  have hn : ([("type", Json.str tag), (member, content)].map Prod.fst).Nodup := by
    simpa using hm.symm
  rw [taggedObject, Layout.apply_obj, tagOf?, l.find?_applyMembers hn]
  change ((l.apply (.str tag)).text?).map _ = _
  rw [Layout.apply_str]
  rfl

/-- The content of a tagged object is read from the member named after the tag. -/
theorem readValue_taggedObject [c.Lossless] (l : Layout) (rule : NullRule) (a : α)
    (hm : member ≠ "type") :
    (Record.required member c id).readValue rule (l.apply (taggedObject tag member (c.write a))) =
      some a := by
  have hn : ([("type", Json.str tag), (member, c.write a)].map Prod.fst).Nodup := by
    simpa using hm.symm
  rw [taggedObject, Layout.apply_obj]
  change (Json.find? member (l.applyMembers _)).bind (c.read rule) = _
  rw [l.find?_applyMembers hn, Json.find?, if_neg hm.symm, Record.find?_singleton]
  exact Lossless.restores l a rule

end

instance : HttpFilter.codec.Lossless where
  restores l f rule := by
    change HttpFilter.read rule (l.apply (HttpFilter.write f)) = some f
    cases f with
    | requestHeaders m =>
      rw [HttpFilter.write, HttpFilter.read, tagOf?_taggedObject l _ (by decide)]
      simp [readValue_taggedObject]
    | responseHeaders m =>
      rw [HttpFilter.write, HttpFilter.read, tagOf?_taggedObject l _ (by decide)]
      simp [readValue_taggedObject]
    | redirect r =>
      rw [HttpFilter.write, HttpFilter.read, tagOf?_taggedObject l _ (by decide)]
      simp [readValue_taggedObject]
    | rewrite r =>
      rw [HttpFilter.write, HttpFilter.read, tagOf?_taggedObject l _ (by decide)]
      simp [readValue_taggedObject]

theorem GrpcFilter.ofHttp?_toHttp (f : GrpcFilter) : ofHttp? f.toHttp = some f := by
  cases f <;> rfl

instance : GrpcFilter.codec.Lossless where
  restores l f rule := by
    have hread : HttpFilter.read rule (l.apply (HttpFilter.write f.toHttp)) = some f.toHttp :=
      Lossless.restores (c := HttpFilter.codec) l f.toHttp rule
    change (HttpFilter.read rule (l.apply (HttpFilter.write f.toHttp))).bind GrpcFilter.ofHttp? = _
    rw [hread, Option.bind_some, GrpcFilter.ofHttp?_toHttp]

/-! ### Routes -/

instance : MatchType.codec.Lossless := lossless_named fun t => by cases t <;> rfl

instance : MatchType.codec.NonNull := inferInstanceAs (Codec.named _ _).NonNull

instance : PathMatchType.codec.Lossless := lossless_named fun t => by cases t <;> rfl

instance : PathMatchType.codec.NonNull := inferInstanceAs (Codec.named _ _).NonNull

instance : Method.codec.Lossless := lossless_named fun m => by cases m <;> rfl

instance : Method.codec.NonNull := inferInstanceAs (Codec.named _ _).NonNull

instance : PathMatch.codec.Lossless := by
  unfold PathMatch.codec PathMatch.record
  exact Record.lossless_codec (by decide)

instance : PathMatch.codec.NonNull := inferInstanceAs PathMatch.record.codec.NonNull

instance : ValueMatch.codec.Lossless := by
  unfold ValueMatch.codec ValueMatch.record
  exact Record.lossless_codec (by decide)

instance : HttpMatch.record.codec.Lossless := by
  unfold HttpMatch.record
  exact Record.lossless_codec (by decide)

instance : HttpBackend.record.namedCodec.Lossless := by
  unfold HttpBackend.record BackendRef.record
  exact Record.lossless_namedCodec (by decide)

instance : HttpRule.record.codec.Lossless := by
  unfold HttpRule.record
  exact Record.lossless_codec (by decide)

instance : HttpRouteSpec.record.codec.Lossless := by
  unfold HttpRouteSpec.record
  exact Record.lossless_codec (by decide)

instance : MethodMatch.record.codec.Lossless := by
  unfold MethodMatch.record
  exact Record.lossless_codec (by decide)

instance : MetadataMatch.record.codec.Lossless := by
  unfold MetadataMatch.record
  exact Record.lossless_codec (by decide)

instance : GrpcMatch.record.codec.Lossless := by
  unfold GrpcMatch.record
  exact Record.lossless_codec (by decide)

instance : GrpcBackend.record.namedCodec.Lossless := by
  unfold GrpcBackend.record BackendRef.record
  exact Record.lossless_namedCodec (by decide)

instance : GrpcRule.record.codec.Lossless := by
  unfold GrpcRule.record
  exact Record.lossless_codec (by decide)

instance : GrpcRouteSpec.record.codec.Lossless := by
  unfold GrpcRouteSpec.record
  exact Record.lossless_codec (by decide)

instance : ConnectionRule.record.codec.Lossless := by
  unfold ConnectionRule.record
  exact Record.lossless_codec (by decide)

instance : TcpRouteSpec.record.codec.Lossless := by
  unfold TcpRouteSpec.record
  exact Record.lossless_codec (by decide)

instance : TlsRouteSpec.record.codec.Lossless := by
  unfold TlsRouteSpec.record
  exact Record.lossless_codec (by decide)

instance : UdpRouteSpec.record.codec.Lossless := by
  unfold UdpRouteSpec.record
  exact Record.lossless_codec (by decide)

/-! ### Policies -/

instance : PolicyTarget.record.codec.Lossless := by
  unfold PolicyTarget.record
  exact Record.lossless_codec (by decide)

instance : LocalRef.record.codec.Lossless := by
  unfold LocalRef.record
  exact Record.lossless_codec (by decide)

instance : Validation.record.codec.Lossless := by
  unfold Validation.record
  exact Record.lossless_codec (by decide)

instance : BackendTlsPolicySpec.record.codec.Lossless := by
  unfold BackendTlsPolicySpec.record
  exact Record.lossless_codec (by decide)

/-! ### Objects -/

instance : (Resource.codec : Codec Gateway).Lossless :=
  Resource.lossless_codec (inferInstanceAs GatewaySpec.record.codec.Lossless)

instance : (Resource.codec : Codec HttpRoute).Lossless :=
  Resource.lossless_codec (inferInstanceAs HttpRouteSpec.record.codec.Lossless)

instance : (Resource.codec : Codec GrpcRoute).Lossless :=
  Resource.lossless_codec (inferInstanceAs GrpcRouteSpec.record.codec.Lossless)

instance : (Resource.codec : Codec TcpRoute).Lossless :=
  Resource.lossless_codec (inferInstanceAs TcpRouteSpec.record.codec.Lossless)

instance : (Resource.codec : Codec TlsRoute).Lossless :=
  Resource.lossless_codec (inferInstanceAs TlsRouteSpec.record.codec.Lossless)

instance : (Resource.codec : Codec UdpRoute).Lossless :=
  Resource.lossless_codec (inferInstanceAs UdpRouteSpec.record.codec.Lossless)

instance : (Resource.codec : Codec BackendTlsPolicy).Lossless :=
  Resource.lossless_codec (inferInstanceAs BackendTlsPolicySpec.record.codec.Lossless)

end Gateway

/-! ### Objects of any kind -/

namespace GeneratedObject

/-- What a value is read as, under the kind that it states. -/
def readBack? (rule : NullRule) (j : Json) : Option GeneratedObject :=
  ((j.member? "kind").bind Json.text?).bind fun kind => (read? rule kind j).join

variable {σ : Type} [ResourceKind σ]

theorem readBack?_codec_write [h : (Resource.codec : Codec (Resource σ)).Lossless]
    {make : Resource σ → GeneratedObject}
    (hmake : ∀ rule j, read? rule (ResourceKind.kind σ) j = some ((Resource.codec.read rule j).map make))
    (l : Layout) (rule : NullRule) (r : Resource σ) :
    readBack? rule (l.apply (Resource.codec.write r)) = some (make r) := by
  rw [readBack?, Resource.kind_codec_write, Option.bind_some, hmake, h.restores l r rule]
  rfl

theorem readBack?_write (l : Layout) (rule : NullRule) (o : GeneratedObject) :
    readBack? rule (l.apply o.write) = some o := by
  cases o with
  | gateway o => exact readBack?_codec_write (fun _ _ => rfl) l rule o
  | httpRoute o => exact readBack?_codec_write (fun _ _ => rfl) l rule o
  | grpcRoute o => exact readBack?_codec_write (fun _ _ => rfl) l rule o
  | tcpRoute o => exact readBack?_codec_write (fun _ _ => rfl) l rule o
  | tlsRoute o => exact readBack?_codec_write (fun _ _ => rfl) l rule o
  | udpRoute o => exact readBack?_codec_write (fun _ _ => rfl) l rule o
  | policy o => exact readBack?_codec_write (fun _ _ => rfl) l rule o

end GeneratedObject

/-- What is printed of a bundle is read as the objects of the bundle. -/
theorem Bundle.mapM_readBack?_collected (b : Bundle) (rule : NullRule) :
    b.collected.mapM (GeneratedObject.readBack? rule) = some b.objects :=
  Codec.mapM_map_eq (fun o => GeneratedObject.readBack?_write .byName rule o) b.objects

/-! ### Round trips -/

namespace Gateway

/-- The kinds of objects that a conversion produces, the filters of their rules, and what it prints. -/
structure OutputRoundTrips : Prop where
  gateway : (Resource.codec : Codec Gateway).Inverts
  httpRoute : (Resource.codec : Codec HttpRoute).Inverts
  grpcRoute : (Resource.codec : Codec GrpcRoute).Inverts
  tcpRoute : (Resource.codec : Codec TcpRoute).Inverts
  tlsRoute : (Resource.codec : Codec TlsRoute).Inverts
  udpRoute : (Resource.codec : Codec UdpRoute).Inverts
  policy : (Resource.codec : Codec BackendTlsPolicy).Inverts
  httpFilter : HttpFilter.codec.Inverts
  grpcFilter : GrpcFilter.codec.Inverts
  printed : ∀ (s : Snapshot) (settings : Settings) (rule : NullRule),
    (convert s settings).bundle.collected.mapM (GeneratedObject.readBack? rule) =
      some (convert s settings).bundle.objects

theorem outputRoundTrips : OutputRoundTrips where
  gateway := inverts_of_lossless
  httpRoute := inverts_of_lossless
  grpcRoute := inverts_of_lossless
  tcpRoute := inverts_of_lossless
  tlsRoute := inverts_of_lossless
  udpRoute := inverts_of_lossless
  policy := inverts_of_lossless
  httpFilter := inverts_of_lossless
  grpcFilter := inverts_of_lossless
  printed s settings rule := (convert s settings).bundle.mapM_readBack?_collected rule

end Gateway

end IngressGateway
