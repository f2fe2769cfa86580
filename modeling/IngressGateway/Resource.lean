import IngressGateway.ObjectRef

/-!
Resources: metadata and a specification. The type of the specification decides which kind of resource
it is.
-/

set_option autoImplicit false

namespace IngressGateway

abbrev TextMap := SortedMap String String

structure Metadata where
  name : Option String
  ns : Option String
  generateName : Option String
  labels : Option TextMap
  annotations : Option TextMap
deriving DecidableEq, Inhabited

namespace Metadata

def anyName (m : Metadata) : String := (m.name <|> m.generateName).getD ""

def record : Record Metadata Metadata :=
  mk <$> .optional "name" .text name <*> .optional "namespace" .text ns
    <*> .optional "generateName" .text generateName
    <*> .optional "labels" (.map .text) labels <*> .optional "annotations" (.map .text) annotations

def codec : Codec Metadata := record.namedCodec

def labelled (ns name : String) (labels : TextMap) : Metadata :=
  ⟨some name, some ns, none, some labels, none⟩

end Metadata

/-- The kind of the resources with a specification of type `σ`. -/
class ResourceKind (σ : Type) where
  kind : String
  group : String
  version : String
  spec : Codec σ

/-- The group and the version of a kind of resource, as a resource states them. -/
def ResourceKind.apiVersion (σ : Type) [ResourceKind σ] : String :=
  ResourceKind.group σ ++ "/" ++ ResourceKind.version σ

/-- A resource with a specification of type `σ`. -/
structure Resource (σ : Type) where
  metadata : Metadata
  spec : σ
deriving DecidableEq

def defaultNamespace : String := "default"

namespace Resource

variable {σ : Type}

def anyName (r : Resource σ) : String := r.metadata.anyName

def namespaceOf (r : Resource σ) : String := r.metadata.ns.getD defaultNamespace

/-- The key of the resource, with the namespace that stands in for a missing one. -/
def keyIn (fallback : String) (r : Resource σ) : ObjectKey :=
  ⟨r.metadata.ns.getD fallback, r.anyName⟩

def key (r : Resource σ) : ObjectKey := r.keyIn defaultNamespace

variable [ResourceKind σ]

def refTo (σ : Type) [ResourceKind σ] (ns : Option String) (name : String) : ObjectRef where
  kind := ResourceKind.kind σ
  group := if (ResourceKind.group σ).isEmpty then none else some (ResourceKind.group σ)
  ns := ns
  name := name

/-- A reference to the resource; it needs a name of its own. -/
def ref? (r : Resource σ) : Except NamingError ObjectRef :=
  match r.metadata.name with
  | none => .error .missingName
  | some name => if name.isEmpty then .error .missingName else .ok (refTo σ r.metadata.ns name)

def record : Record (Resource σ) (Resource σ) :=
  mk <$> .required "metadata" Metadata.codec metadata
    <*> .required "spec" (ResourceKind.spec (σ := σ)) spec

/-- A resource states its kind when it is written; when it is read, the kind is known already. -/
def codec : Codec (Resource σ) where
  write r := .obj (("apiVersion", .str (ResourceKind.apiVersion σ)) ::
    ("kind", .str (ResourceKind.kind σ)) :: record.write r)
  read := record.codec.read

end Resource

end IngressGateway
