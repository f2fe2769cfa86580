import IngressGateway.Json.Codec

/-!
How objects are named. An `ObjectKey` is what a store is keyed by; an `ObjectRef` also says of which
kind the object is and is what a notification points to. Both are ordered part by part.
-/

set_option autoImplicit false

namespace IngressGateway

structure ObjectKey where
  ns : String
  name : String
deriving DecidableEq, Repr, Inhabited

namespace ObjectKey

def parts (k : ObjectKey) : String × String := (k.ns, k.name)

theorem parts_inj (a b : ObjectKey) (h : a.parts = b.parts) : a = b := by
  cases a; cases b; simp_all [parts]

instance : KeyOrder ObjectKey := KeyOrder.on parts parts_inj

/-- The key as one text, `namespace/name`. -/
def display (k : ObjectKey) : String := k.ns ++ "/" ++ k.name

def record : Record ObjectKey ObjectKey :=
  mk <$> .required "namespace" .text ns <*> .required "name" .text name

def codec : Codec ObjectKey := record.codec

end ObjectKey

structure ObjectRef where
  kind : String
  group : Option String
  ns : Option String
  name : String
deriving DecidableEq, Repr, Inhabited

namespace ObjectRef

/-- The reference as nested pairs, in the order in which references are compared. -/
def parts (r : ObjectRef) : String × Option String × Option String × String :=
  (r.kind, r.group, r.ns, r.name)

theorem parts_inj (a b : ObjectRef) (h : a.parts = b.parts) : a = b := by
  cases a; cases b; simp_all [parts]

instance : KeyOrder ObjectRef := KeyOrder.on parts parts_inj

/-- The reference as one text, `Kind/namespace/name`, or `Kind/name` without a namespace. -/
def display (r : ObjectRef) : String :=
  match r.ns with
  | some ns => r.kind ++ "/" ++ ns ++ "/" ++ r.name
  | none => r.kind ++ "/" ++ r.name

/-- The key of the object, if its namespace is known. -/
def key? (r : ObjectRef) : Option ObjectKey := r.ns.map fun ns => ⟨ns, r.name⟩

def record : Record ObjectRef ObjectRef :=
  mk <$> .required "kind" .text kind <*> .optional "group" .text group
    <*> .optional "namespace" .text ns <*> .required "name" .text name

def codec : Codec ObjectRef := record.codec

end ObjectRef

/-- Why no reference to an object can be formed. -/
inductive NamingError where
  | missingName
deriving DecidableEq, Repr

def NamingError.message : NamingError → String
  | .missingName => "Object is missing a name"

end IngressGateway
