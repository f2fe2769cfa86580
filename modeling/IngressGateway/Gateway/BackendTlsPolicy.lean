import IngressGateway.Gateway.Listener

/-!
Policies that make a gateway speak TLS to a service.
-/

set_option autoImplicit false

namespace IngressGateway.Gateway

structure PolicyTarget where
  group : String
  kind : String
  name : String
  sectionName : Option String
deriving DecidableEq, Repr

def PolicyTarget.record : Record PolicyTarget PolicyTarget :=
  PolicyTarget.mk <$> .required "group" .text PolicyTarget.group
    <*> .required "kind" .text PolicyTarget.kind <*> .required "name" .text PolicyTarget.name
    <*> .optional "sectionName" .text PolicyTarget.sectionName

structure LocalRef where
  group : String
  kind : String
  name : String
deriving DecidableEq, Repr

def LocalRef.record : Record LocalRef LocalRef :=
  LocalRef.mk <$> .required "group" .text LocalRef.group <*> .required "kind" .text LocalRef.kind
    <*> .required "name" .text LocalRef.name

structure Validation where
  hostname : String
  caCertificateRefs : List LocalRef
  wellKnownCaCertificates : Option String
deriving DecidableEq, Repr

namespace Validation

def record : Record Validation Validation :=
  mk <$> .textOrEmpty "hostname" hostname
    <*> .items "caCertificateRefs" LocalRef.record.codec caCertificateRefs
    <*> .optional "wellKnownCACertificates" .text wellKnownCaCertificates

/-- Nothing is filled in; that is left to an operator. -/
def blank : Validation := ⟨"", [], none⟩

end Validation

structure BackendTlsPolicySpec where
  targetRefs : List PolicyTarget
  validation : Validation
deriving DecidableEq

def BackendTlsPolicySpec.record : Record BackendTlsPolicySpec BackendTlsPolicySpec :=
  BackendTlsPolicySpec.mk
    <$> .required "targetRefs" (.list PolicyTarget.record.codec) BackendTlsPolicySpec.targetRefs
    <*> .required "validation" Validation.record.codec BackendTlsPolicySpec.validation

instance : ResourceKind BackendTlsPolicySpec :=
  ⟨"BackendTLSPolicy", apiGroup, "v1alpha3", BackendTlsPolicySpec.record.codec⟩

abbrev BackendTlsPolicy := Resource BackendTlsPolicySpec

end IngressGateway.Gateway
