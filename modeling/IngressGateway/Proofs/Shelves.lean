import IngressGateway.Proofs.ServerRoutes

/-!
The stores of a bundle one at a time. A shelf is one store together with the objects that go into it; it
only ever grows by such objects, so the store that a conversion ends with is filled from the list of the
objects that the namespaces lead to.
-/

set_option autoImplicit false

namespace IngressGateway

open Backend (Extension)
open Conversion (NamespaceResult)
open Gateway (BackendTlsPolicySpec GatewaySpec GrpcRouteSpec HttpRouteSpec TcpRouteSpec TlsRouteSpec
  UdpRouteSpec)

/-- One of the stores of a bundle, and which objects go there. -/
structure Shelf (σ : Type) where
  store : Bundle → Store (Resource σ)
  make : Resource σ → GeneratedObject
  pick? : GeneratedObject → Option (Resource σ)
  pick?_eq_some_iff : ∀ o r, pick? o = some r ↔ o = make r
  store_empty : store .empty = .empty
  store_insert : ∀ b o,
    store (b.insert o) = (pick? o).elim (store b) fun r => (store b).insert r.key r
  store_extensions : ∀ (b : Bundle) (es : Store Extension), store { b with extensions := es } = store b

namespace Shelf

def gateways : Shelf GatewaySpec where
  store := Bundle.gateways
  make := .gateway
  pick? | .gateway o => some o | _ => none
  pick?_eq_some_iff o r := by cases o <;> simp
  store_empty := rfl
  store_insert b o := by cases o <;> rfl
  store_extensions _ _ := rfl

def httpRoutes : Shelf HttpRouteSpec where
  store := Bundle.httpRoutes
  make := .httpRoute
  pick? | .httpRoute o => some o | _ => none
  pick?_eq_some_iff o r := by cases o <;> simp
  store_empty := rfl
  store_insert b o := by cases o <;> rfl
  store_extensions _ _ := rfl

def grpcRoutes : Shelf GrpcRouteSpec where
  store := Bundle.grpcRoutes
  make := .grpcRoute
  pick? | .grpcRoute o => some o | _ => none
  pick?_eq_some_iff o r := by cases o <;> simp
  store_empty := rfl
  store_insert b o := by cases o <;> rfl
  store_extensions _ _ := rfl

def tcpRoutes : Shelf TcpRouteSpec where
  store := Bundle.tcpRoutes
  make := .tcpRoute
  pick? | .tcpRoute o => some o | _ => none
  pick?_eq_some_iff o r := by cases o <;> simp
  store_empty := rfl
  store_insert b o := by cases o <;> rfl
  store_extensions _ _ := rfl

def tlsRoutes : Shelf TlsRouteSpec where
  store := Bundle.tlsRoutes
  make := .tlsRoute
  pick? | .tlsRoute o => some o | _ => none
  pick?_eq_some_iff o r := by cases o <;> simp
  store_empty := rfl
  store_insert b o := by cases o <;> rfl
  store_extensions _ _ := rfl

def udpRoutes : Shelf UdpRouteSpec where
  store := Bundle.udpRoutes
  make := .udpRoute
  pick? | .udpRoute o => some o | _ => none
  pick?_eq_some_iff o r := by cases o <;> simp
  store_empty := rfl
  store_insert b o := by cases o <;> rfl
  store_extensions _ _ := rfl

def policies : Shelf BackendTlsPolicySpec where
  store := Bundle.policies
  make := .policy
  pick? | .policy o => some o | _ => none
  pick?_eq_some_iff o r := by cases o <;> simp
  store_empty := rfl
  store_insert b o := by cases o <;> rfl
  store_extensions _ _ := rfl

end Shelf

/-! ### What a conversion puts where -/

namespace Conversion

def namespaceObjects (r : NamespaceResult) : List GeneratedObject :=
  r.gateway.toList.map .gateway ++ (r.routes.filterMap id).flatMap objectsOf ++
    (r.connections.filterMap id).map connectionObject

def results (input : Snapshot) (settings : Settings) : List (String × NamespaceResult) :=
  (groupByNamespace input).value.entries.map fun g =>
    (g.1, (convertNamespace (contextOf input settings) g.1 g.2).value)

/-- All objects that a conversion makes; some may take the place of others. -/
def allObjects (input : Snapshot) (settings : Settings) : List GeneratedObject :=
  (results input settings).flatMap fun r => namespaceObjects r.2

theorem bundle_convert (input : Snapshot) (settings : Settings) :
    (convert input settings).bundle = storeAll .empty (results input settings) := rfl

end Conversion

namespace Shelf

variable {σ : Type} (s : Shelf σ)

def entriesOf (os : List GeneratedObject) : List (ObjectKey × Resource σ) :=
  (os.filterMap s.pick?).map fun r => (r.key, r)

theorem entriesOf_append (os os' : List GeneratedObject) :
    s.entriesOf (os ++ os') = s.entriesOf os ++ s.entriesOf os' := by
  rw [entriesOf, List.filterMap_append, List.map_append]
  rfl

theorem store_insertExtension (b : Bundle) (key : ObjectKey) (e : Extension) :
    s.store (b.insertExtension key e) = s.store b := by
  unfold Bundle.insertExtension
  split
  · rfl
  · exact s.store_extensions b _

theorem store_insertAll (b : Bundle) (os : List GeneratedObject) :
    s.store (b.insertAll os) = (s.store b).insertMany (s.entriesOf os) := by
  induction os generalizing b with
  | nil => rfl
  | cons o os ih =>
    change s.store ((b.insert o).insertAll os) = _
    rw [ih, s.store_insert, entriesOf, entriesOf, List.filterMap_cons]
    cases s.pick? o <;> rfl

theorem store_store (b : Bundle) (a : Routing.AssembledRoutes) (ns : String) :
    s.store (Conversion.store b a ns) =
      (s.store b).insertMany (s.entriesOf (Conversion.objectsOf a)) := by
  unfold Conversion.store
  rw [store_insertAll]
  cases Conversion.extensionKey? a ns with
  | none => rfl
  | some key => exact congrArg (SortedMap.insertMany · _) (s.store_insertExtension b key a.extension)

theorem store_foldl_store (ns : String) (rs : List Routing.AssembledRoutes) (b : Bundle) :
    s.store (rs.foldl (fun b a => Conversion.store b a ns) b) =
      (s.store b).insertMany (s.entriesOf (rs.flatMap Conversion.objectsOf)) := by
  induction rs generalizing b with
  | nil => rfl
  | cons a rs ih =>
    rw [List.foldl_cons, ih, store_store, List.flatMap_cons, entriesOf_append,
      SortedMap.insertMany_append]

theorem store_storeNamespace (b : Bundle) (ns : String) (r : NamespaceResult) :
    s.store (Conversion.storeNamespace b ns r) =
      (s.store b).insertMany (s.entriesOf (Conversion.namespaceObjects r)) := by
  unfold Conversion.storeNamespace Conversion.namespaceObjects
  rw [store_insertAll, store_foldl_store, store_insertAll, entriesOf_append, entriesOf_append,
    SortedMap.insertMany_append, SortedMap.insertMany_append]

theorem store_storeAll (rs : List (String × NamespaceResult)) (b : Bundle) :
    s.store (Conversion.storeAll b rs) =
      (s.store b).insertMany
        (s.entriesOf (rs.flatMap fun r => Conversion.namespaceObjects r.2)) := by
  induction rs generalizing b with
  | nil => rfl
  | cons r rs ih =>
    change s.store (Conversion.storeAll (Conversion.storeNamespace b r.1 r.2) rs) = _
    rw [ih, store_storeNamespace, List.flatMap_cons, entriesOf_append, SortedMap.insertMany_append]

theorem store_convert (input : Snapshot) (settings : Settings) :
    s.store (convert input settings).bundle =
      .ofList (s.entriesOf (Conversion.allObjects input settings)) := by
  rw [Conversion.bundle_convert, store_storeAll, s.store_empty]
  rfl

variable {input : Snapshot} {settings : Settings}

theorem map_fst_entriesOf (os : List GeneratedObject) :
    (s.entriesOf os).map Prod.fst = (os.filterMap s.pick?).map Resource.key := by
  rw [entriesOf, List.map_map]
  rfl

/-- What a store holds was made by the conversion and stands under its own key. -/
theorem exists_object_of_get? {key : ObjectKey} {r : Resource σ}
    (h : (s.store (convert input settings).bundle).get? key = some r) :
    r.key = key ∧ ∃ o ∈ Conversion.allObjects input settings, s.pick? o = some r := by
  rw [store_convert] at h
  obtain ⟨r', hr', he⟩ := List.mem_map.1 (SortedMap.mem_of_get?_ofList h)
  cases he
  exact ⟨rfl, List.mem_filterMap.1 hr'⟩

theorem make_mem_allObjects {r : Resource σ}
    (h : r ∈ (s.store (convert input settings).bundle).values) :
    s.make r ∈ Conversion.allObjects input settings := by
  obtain ⟨key, hkey⟩ := SortedMap.mem_values_iff.1 h
  obtain ⟨_, o, ho, hpick⟩ := s.exists_object_of_get? hkey
  rwa [← (s.pick?_eq_some_iff o r).1 hpick]

theorem mem_keys_convert {key : ObjectKey} :
    key ∈ (s.store (convert input settings).bundle).keys ↔
      ∃ o ∈ Conversion.allObjects input settings, ∃ r, s.pick? o = some r ∧ r.key = key := by
  rw [store_convert, SortedMap.mem_keys_ofList, map_fst_entriesOf, List.mem_map]
  simp only [List.mem_filterMap]
  constructor
  · rintro ⟨r, ⟨o, ho, hr⟩, hk⟩
    exact ⟨o, ho, r, hr, hk⟩
  · rintro ⟨o, ho, r, hr, hk⟩
    exact ⟨r, ⟨o, ho, hr⟩, hk⟩

/-- If no two objects for a shelf share a key, none of them gets lost. -/
theorem entries_convert_perm
    (hn : (((Conversion.allObjects input settings).filterMap s.pick?).map Resource.key).Nodup) :
    (s.store (convert input settings).bundle).entries.Perm
      (s.entriesOf (Conversion.allObjects input settings)) := by
  rw [store_convert]
  apply SortedMap.entries_ofList_perm
  rwa [map_fst_entriesOf]

end Shelf

/-! ### Recorded settings -/

namespace Conversion

def recordOf? (ns : String) (a : Routing.AssembledRoutes) : Option (ObjectKey × Extension) :=
  (extensionKey? a ns).bind fun key => if a.extension.isEmpty then none else some (key, a.extension)

def allRecords (input : Snapshot) (settings : Settings) : List (ObjectKey × Extension) :=
  (results input settings).flatMap fun r => (r.2.routes.filterMap id).filterMap (recordOf? r.1)

theorem extensions_insertAll (b : Bundle) (os : List GeneratedObject) :
    (b.insertAll os).extensions = b.extensions := by
  induction os generalizing b with
  | nil => rfl
  | cons o os ih =>
    change ((b.insert o).insertAll os).extensions = _
    rw [ih]
    cases o <;> rfl

theorem extensions_store (b : Bundle) (a : Routing.AssembledRoutes) (ns : String) :
    (store b a ns).extensions = b.extensions.insertMany (recordOf? ns a).toList := by
  unfold store recordOf?
  rw [extensions_insertAll]
  cases extensionKey? a ns with
  | none => rfl
  | some key =>
    simp only [Option.bind_some, Bundle.insertExtension]
    cases a.extension.isEmpty <;> rfl

theorem extensions_foldl_store (ns : String) (rs : List Routing.AssembledRoutes) (b : Bundle) :
    (rs.foldl (fun b a => store b a ns) b).extensions =
      b.extensions.insertMany (rs.filterMap (recordOf? ns)) := by
  induction rs generalizing b with
  | nil => rfl
  | cons a rs ih =>
    rw [List.foldl_cons, ih, extensions_store, ← SortedMap.insertMany_append, List.filterMap_cons]
    cases recordOf? ns a <;> rfl

theorem extensions_storeAll (rs : List (String × NamespaceResult)) (b : Bundle) :
    (storeAll b rs).extensions = b.extensions.insertMany
      (rs.flatMap fun r => (r.2.routes.filterMap id).filterMap (recordOf? r.1)) := by
  induction rs generalizing b with
  | nil => rfl
  | cons r rs ih =>
    have hr : (storeNamespace b r.1 r.2).extensions =
        b.extensions.insertMany ((r.2.routes.filterMap id).filterMap (recordOf? r.1)) := by
      unfold storeNamespace
      rw [extensions_insertAll, extensions_foldl_store, extensions_insertAll]
    change (storeAll (storeNamespace b r.1 r.2) rs).extensions = _
    rw [ih, hr, List.flatMap_cons, SortedMap.insertMany_append]

theorem extensions_convert (input : Snapshot) (settings : Settings) :
    (convert input settings).bundle.extensions = .ofList (allRecords input settings) := by
  rw [bundle_convert, extensions_storeAll]
  rfl

end Conversion

end IngressGateway
