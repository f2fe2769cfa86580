import IngressGateway.Conversion
import IngressGateway.Manifest.Document

/-!
Collecting the resources of manifest files into a snapshot. A list stands for its items, in order and at
any depth. Resources of other kinds are passed over, and of several global configurations the first one
counts. The first thing that cannot be read ends the collection.
-/

set_option autoImplicit false

namespace IngressGateway.Manifest

open Ingress (GlobalConfigurationSpec TransportServerSpec VirtualServerRouteSpec VirtualServerSpec)

/-- Why files cannot be collected. -/
inductive ManifestError where
  | unreadable (path : String)
  | invalidDocument (path : String) (index : Nat)
  | missingType (path : String) (index : Nat)
  | undecodable (path : String) (index : Nat) (kind : String)
deriving DecidableEq, Repr

def ManifestError.message : ManifestError → String
  | .unreadable path => s!"failed to read {path}"
  | .invalidDocument path index => s!"document {index} in {path} is not valid YAML"
  | .missingType path index => s!"document {index} in {path} has no apiVersion or kind"
  | .undecodable path index kind => s!"failed to decode {kind} in document {index} of {path}"

/-- The API version and the kind that a value states. -/
def typeOf? (j : Json) : Option (String × String) := do
  let apiVersion ← (j.member? "apiVersion").bind Json.text?
  let kind ← (j.member? "kind").bind Json.text?
  return (apiVersion, kind)

def listKind : String := "List"

/-- A resource as it stands in a manifest, where null is an empty record, list or map. -/
def decode? {σ : Type} [ResourceKind σ] (j : Json) : Option (Resource σ) :=
  Resource.codec.read .empty j

/-- A snapshot with one more resource of a kind; nothing if the resource cannot be decoded. -/
def addResource? (s : Snapshot) (kind : String) (j : Json) : Option Snapshot :=
  if kind = ResourceKind.kind VirtualServerSpec then
    (decode? j).map fun r => { s with virtualServers := s.virtualServers ++ [r] }
  else if kind = ResourceKind.kind VirtualServerRouteSpec then
    (decode? j).map fun r => { s with virtualServerRoutes := s.virtualServerRoutes ++ [r] }
  else if kind = ResourceKind.kind TransportServerSpec then
    (decode? j).map fun r => { s with transportServers := s.transportServers ++ [r] }
  else if kind = ResourceKind.kind GlobalConfigurationSpec then
    (decode? j).map fun r => { s with globalConfiguration := s.globalConfiguration <|> some r }
  else some s

/-- A snapshot with what a value of that type says; other types are passed over. -/
def addTyped (path : String) (index : Nat) (s : Snapshot) (apiVersion kind : String) (j : Json) :
    Except ManifestError Snapshot :=
  if apiVersion ≠ ResourceKind.apiVersion VirtualServerSpec then .ok s
  else match addResource? s kind j with
    | none => .error (.undecodable path index kind)
    | some s => .ok s

mutual

/-- A snapshot with one more value of a document. A list is only asked for its type; what counts is in its
items. -/
def addValue (path : String) (index : Nat) (s : Snapshot) : Json → Except ManifestError Snapshot
  | .obj members =>
    match typeOf? (.obj members) with
    | none => .error (.missingType path index)
    | some (apiVersion, kind) =>
      if kind = listKind then addItems path index s members
      else addTyped path index s apiVersion kind (.obj members)
  | _ => .error (.missingType path index)
termination_by structural j => j

/-- The items of a list; without any, nothing is added. -/
def addItems (path : String) (index : Nat) (s : Snapshot) :
    List (String × Json) → Except ManifestError Snapshot
  | [] => .ok s
  | m :: rest => if m.1 = "items" then addMember path index s m else addItems path index s rest
termination_by structural ms => ms

def addMember (path : String) (index : Nat) (s : Snapshot) :
    String × Json → Except ManifestError Snapshot
  | (_, j) => addSequence path index s j
termination_by structural m => m

def addSequence (path : String) (index : Nat) (s : Snapshot) : Json → Except ManifestError Snapshot
  | .arr items => addValues path index s items
  | _ => .ok s
termination_by structural j => j

def addValues (path : String) (index : Nat) (s : Snapshot) :
    List Json → Except ManifestError Snapshot
  | [] => .ok s
  | j :: rest =>
    match addValue path index s j with
    | .error e => .error e
    | .ok s => addValues path index s rest
termination_by structural js => js

end

/-- A snapshot with one more document; null says nothing. -/
def addDocument (path : String) (index : Nat) (s : Snapshot) (d : Document) :
    Except ManifestError Snapshot :=
  match d with
  | .invalid => .error (.invalidDocument path index)
  | .value .null => .ok s
  | .value j => addValue path index s j

def addDocuments (path : String) : Nat → Snapshot → List Document →
    Except ManifestError Snapshot
  | _, s, [] => .ok s
  | index, s, d :: rest =>
    match addDocument path index s d with
    | .error e => .error e
    | .ok s => addDocuments path (index + 1) s rest

/-- A file: its path, and its documents if it could be read. -/
structure DocumentFile where
  path : String
  documents : Option (List Document)

def addFile (s : Snapshot) (f : DocumentFile) : Except ManifestError Snapshot :=
  match f.documents with
  | none => .error (.unreadable f.path)
  | some ds => addDocuments f.path 0 s ds

/-- A snapshot with the resources of several more files, in order. -/
def addFiles : Snapshot → List DocumentFile → Except ManifestError Snapshot
  | s, [] => .ok s
  | s, f :: rest =>
    match addFile s f with
    | .error e => .error e
    | .ok s => addFiles s rest

/-- A file: its path, and its text if it could be read. -/
structure SourceFile where
  path : String
  text : Option String

def SourceFile.parsed (f : SourceFile) : DocumentFile := ⟨f.path, f.text.map documents⟩

def collect (fs : List SourceFile) : Except ManifestError Snapshot :=
  addFiles .empty (fs.map SourceFile.parsed)

end IngressGateway.Manifest
