import IngressGateway.Manifest.Collection
import IngressGateway.Proofs.MemberOrder

/-!
Manifests are read in one pass. A list of resources is met before its items, and these in their order, at
whatever depth they stand; documents and files follow each other. What has been met decides everything: the
first fault in that order is the error, and without one the snapshot holds the resources in that order.
-/

set_option autoImplicit false

namespace IngressGateway.Manifest

open Ingress (GlobalConfigurationSpec TransportServerSpec VirtualServerRouteSpec VirtualServerSpec)

/-! ### Values in a document -/

/-- The items of a list of resources; any other value has none. -/
def listItems (j : Json) : List Json :=
  if (typeOf? j).any fun t => t.2 = listKind then ((j.member? "items").bind Json.items?).getD []
  else []

theorem sizeOf_lt_of_mem_listItems {i j : Json} (h : i ∈ listItems j) : sizeOf i < sizeOf j := by
  unfold listItems at h
  split at h
  · cases j with
    | obj members =>
      cases hitems : Json.find? "items" members with
      | none => simp [Json.member?, hitems] at h
      | some found =>
        cases found with
        | arr items =>
          have hi : i ∈ items := by simpa [Json.member?, hitems, Json.items?] using h
          have hin := List.sizeOf_lt_of_mem (Json.mem_of_find? hitems)
          have hout := List.sizeOf_lt_of_mem hi
          simp only [Prod.mk.sizeOf_spec, Json.arr.sizeOf_spec, Json.obj.sizeOf_spec] at hin ⊢
          omega
        | null | bool | int | decimal | str | obj => simp [Json.member?, hitems, Json.items?] at h
    | null | bool | int | decimal | str | arr => simp [Json.member?] at h
  · cases h

/-- The values that are met in a value: itself, and in a list what is met in its items. -/
def met (j : Json) : List Json := j :: (listItems j).attach.flatMap fun i => met i.1
termination_by j
decreasing_by exact sizeOf_lt_of_mem_listItems i.2

section

variable (σ : Type) [ResourceKind σ]

/-- Whether a value states to be a resource of that kind. -/
def states (j : Json) : Bool :=
  typeOf? j = some (ResourceKind.apiVersion σ, ResourceKind.kind σ)

/-- The resource of that kind that a value stands for. -/
def resource? (j : Json) : Option (Resource σ) := if states σ j then decode? j else none

def isBroken (j : Json) : Bool := states σ j && (decode? j : Option (Resource σ)).isNone

end

/-- Whether a value states to be a resource and cannot be decoded as one. -/
def isUndecodable (j : Json) : Bool :=
  isBroken VirtualServerSpec j || isBroken VirtualServerRouteSpec j || isBroken TransportServerSpec j
    || isBroken GlobalConfigurationSpec j

/-! ### What is met in files -/

inductive Encounter where
  | unreadable (path : String)
  | invalid (path : String) (index : Nat)
  | value (path : String) (index : Nat) (content : Json)

namespace Encounter

/-- What is wrong with it. -/
def fault? : Encounter → Option ManifestError
  | .unreadable path => some (.unreadable path)
  | .invalid path index => some (.invalidDocument path index)
  | .value path index j =>
    match typeOf? j with
    | none => some (.missingType path index)
    | some (_, kind) => if isUndecodable j then some (.undecodable path index kind) else none

def content? : Encounter → Option Json
  | .value _ _ j => some j
  | _ => none

end Encounter

/-- The resources of a kind among what has been met. -/
def resources (σ : Type) [ResourceKind σ] (ms : List Encounter) : List (Resource σ) :=
  ms.filterMap fun m => m.content?.bind (resource? σ)

def extend (s : Snapshot) (ms : List Encounter) : Snapshot where
  virtualServers := s.virtualServers ++ resources VirtualServerSpec ms
  virtualServerRoutes := s.virtualServerRoutes ++ resources VirtualServerRouteSpec ms
  transportServers := s.transportServers ++ resources TransportServerSpec ms
  globalConfiguration :=
    s.globalConfiguration <|> (resources GlobalConfigurationSpec ms).head?

/-- What comes of a snapshot when all this has been met. -/
def outcome (s : Snapshot) (ms : List Encounter) : Except ManifestError Snapshot :=
  match ms.findSome? Encounter.fault? with
  | some e => .error e
  | none => .ok (extend s ms)

section

variable {path : String} {index : Nat} {s : Snapshot} {j : Json} {apiVersion kind : String}

end

/-! ### Documents and files -/

/-- Null says nothing as a document and is a fault in a list; documents that say nothing are counted. -/
example :
    addFiles .empty
      [⟨"a.yaml", some [.value .null, .value (.obj
        [("apiVersion", .str "v1"), ("items", .arr [.null]), ("kind", .str "List")])]⟩] =
      .error (.missingType "a.yaml" 1) := rfl

end IngressGateway.Manifest
