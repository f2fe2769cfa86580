import IngressGateway.Proofs.RoundTrip
import IngressGateway.Resource

/-!
Resources written and read back. A resource that is written states its group, its version and its kind in
members of their own, which are passed over when it is read; so it is read back if its specification is.
-/

set_option autoImplicit false

namespace IngressGateway

open Codec (roundTrips_of_yields)
open Json (Layout)

instance : Metadata.codec.Lossless := by
  unfold Metadata.codec Metadata.record
  exact Record.lossless_namedCodec (by decide)

namespace Resource

variable {σ : Type} [ResourceKind σ]

theorem yields {p : σ → Prop} (h : (ResourceKind.spec : Codec σ).Yields p) :
    (codec : Codec (Resource σ)).Yields fun r => p r.spec := by
  have hrecord : (record : Record (Resource σ) (Resource σ)).Yields fun r => p r.spec := by
    unfold record
    exact .seq (.map (Record.yields_of_forall fun _ _ hspec => hspec)) (Record.yields_required h)
  exact hrecord.codec

theorem names_codec_write_nodup (r : Resource σ) :
    ((("apiVersion", Json.str (ResourceKind.apiVersion σ)) ::
      ("kind", .str (ResourceKind.kind σ)) :: record.write r).map Prod.fst).Nodup := by
  change ["apiVersion", "kind", "metadata", "spec"].Nodup
  decide

/-- The kind that a resource states, in whatever order its members stand. -/
theorem kind_codec_write (l : Layout) (r : Resource σ) :
    ((l.apply (codec.write r)).member? "kind").bind Json.text? = some (ResourceKind.kind σ) := by
  change ((l.apply (.obj _)).member? "kind").bind Json.text? = _
  rw [Layout.apply_obj]
  change (Json.find? "kind" (l.applyMembers _)).bind Json.text? = _
  rw [l.find?_applyMembers (names_codec_write_nodup r)]
  change (l.apply (.str (ResourceKind.kind σ))).text? = _
  rw [Layout.apply_str]
  rfl

theorem restores {l : Layout} {r : Resource σ} (h : (ResourceKind.spec : Codec σ).Restores l r.spec) :
    codec.Restores l r := by
  have hspec : (Record.required "spec" (ResourceKind.spec (σ := σ)) spec).Restores l r ["spec"] r.spec :=
    Record.restores_required h
  have hrecord : record.Restores l r ["metadata", "spec"] r := by
    unfold record
    infer_instance
  intro rule
  change record.codec.read rule (l.apply (.obj (_ :: _ :: record.write r))) = some r
  rw [Layout.apply_obj]
  refine hrecord.restored (by decide) rule _ fun n hn => ?_
  rw [l.find?_applyMembers (names_codec_write_nodup r)]
  have hn' : n = "metadata" ∨ n = "spec" := by simpa using hn
  rcases hn' with rfl | rfl <;> rfl

theorem lossless_codec (h : (ResourceKind.spec : Codec σ).Lossless) :
    (codec : Codec (Resource σ)).Lossless :=
  ⟨fun l r => restores (h.restores l r.spec)⟩

theorem roundTrips
    (h : (ResourceKind.spec : Codec σ).Yields ((ResourceKind.spec : Codec σ).Restores .written)) :
    (codec : Codec (Resource σ)).RoundTrips :=
  roundTrips_of_yields fun rule j r hr => restores (yields h rule j r hr)

end Resource

end IngressGateway
