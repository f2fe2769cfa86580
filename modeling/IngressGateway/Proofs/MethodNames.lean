import IngressGateway.Matching.Path
import Mathlib.Data.List.DropRight

/-!
Methods that paths name. Once the slashes at both ends are off, a path is a service, or a service and a method with
the last slash between them. Neither is empty, since no slash is left at either end, and joined by the slash they
are the path again.
-/

set_option autoImplicit false

namespace IngressGateway

namespace Text

theorem dropEnd_eq_rdropWhile (sep : Char) (s : List Char) : dropEnd sep s = s.rdropWhile (· = sep) := by
  induction s using List.reverseRecOn with
  | nil => rfl
  | append_singleton s c ih =>
    rw [dropEnd_concat, ih, List.rdropWhile_concat]
    simp

theorem trim_eq (sep : Char) (s : List Char) :
    trim sep s = (s.dropWhile (· = sep)).rdropWhile (· = sep) :=
  dropEnd_eq_rdropWhile sep _

theorem trim_eq_nil_iff {sep : Char} {s : List Char} : trim sep s = [] ↔ ∀ c ∈ s, c = sep := by
  rw [trim_eq, List.rdropWhile_eq_nil_iff, ← List.dropWhile_eq_nil_iff, List.dropWhile_idempotent,
    List.dropWhile_eq_nil_iff]
  simp

theorem head?_trim_ne (sep : Char) (s : List Char) : (trim sep s).head? ≠ some sep := by
  intro h
  obtain ⟨rest, hrest⟩ : trim sep s <+: s.dropWhile (· = sep) := by
    rw [trim_eq]
    exact List.rdropWhile_prefix _ _
  have hhead : (s.dropWhile (· = sep)).head? = some sep := by
    rw [← hrest, List.head?_append, h]
    rfl
  have hnot := List.head?_dropWhile_not (· = sep) s
  rw [hhead] at hnot
  simp at hnot

theorem getLast?_trim_ne (sep : Char) (s : List Char) : (trim sep s).getLast? ≠ some sep := by
  intro h
  rw [trim_eq] at h
  obtain ⟨hne, hlast⟩ := List.mem_getLast?_eq_getLast h
  exact List.rdropWhile_last_not _ _ hne (by simp [← hlast])

end Text

namespace Matching

open Gateway (MethodMatch PathMatch PathMatchType)

/-- A path without the slashes at both ends. -/
def bare (path : String) : String :=
  String.ofList ((path.toList.dropWhile (· = '/')).rdropWhile (· = '/'))

/-- That a path is written as a service, with a slash and a method behind it if there is a slash inside. -/
structure IsWritten (path service : String) (method : Option String) : Prop where
  service_ne : service ≠ ""
  service_head : service.toList.head? ≠ some '/'
  method_word : ∀ name, method = some name → name ≠ "" ∧ '/' ∉ name.toList
  eq_bare : service ++ method.elim "" ("/" ++ ·) = bare path
  method_eq_none_iff : method = none ↔ '/' ∉ (bare path).toList

/-- That what is found for a path is what the path names. Slashes alone name nothing. -/
structure NamesMethod (path : String) (found : Option MethodMatch) : Prop where
  eq_none_iff : found = none ↔ ∀ c ∈ path.toList, c = '/'
  written : ∀ m, found = some m →
    m.type = some .exact ∧ ∃ service, m.service = some service ∧ IsWritten path service m.method

variable {path : String}

theorem toList_bare (path : String) : (bare path).toList = Text.trim '/' path.toList := by
  rw [bare, String.toList_ofList, Text.trim_eq]

theorem toList_bare_eq_nil_iff : (bare path).toList = [] ↔ ∀ c ∈ path.toList, c = '/' := by
  rw [toList_bare, Text.trim_eq_nil_iff]

theorem head?_bare_ne (path : String) : (bare path).toList.head? ≠ some '/' := by
  rw [toList_bare]
  exact Text.head?_trim_ne _ _

theorem getLast?_bare_ne (path : String) : (bare path).toList.getLast? ≠ some '/' := by
  rw [toList_bare]
  exact Text.getLast?_trim_ne _ _

theorem isWritten_bare (hne : (bare path).toList ≠ []) (hslash : '/' ∉ (bare path).toList) :
    IsWritten path (bare path) none where
  service_ne h := hne (by rw [h]; rfl)
  service_head := head?_bare_ne path
  method_word _ h := nomatch h
  eq_bare := String.append_empty
  method_eq_none_iff := iff_of_true rfl hslash

theorem isWritten_of_cut {service method : List Char} (hcut : (bare path).toList = service ++ '/' :: method)
    (hword : '/' ∉ method) : IsWritten path (String.ofList service) (some (String.ofList method)) := by
  have hhead := head?_bare_ne path
  have hlast := getLast?_bare_ne path
  rw [hcut] at hhead hlast
  -- An empty part would leave the slash of the cut at an end of the path.
  have hservice : service ≠ [] := by
    rintro rfl
    exact hhead rfl
  have hmethod : method ≠ [] := by
    rintro rfl
    exact hlast List.getLast?_concat
  refine ⟨?_, ?_, ?_, ?_, iff_of_false nofun (by simp [hcut])⟩
  · simpa using hservice
  · intro h
    rw [String.toList_ofList] at h
    exact hhead (by rw [List.head?_append, h]; rfl)
  · rintro name ⟨⟩
    simpa using ⟨hmethod, hword⟩
  · rw [← String.toList_inj, hcut]
    simp

theorem namesMethod_of_isWritten {service : String} {method : Option String} (hne : (bare path).toList ≠ [])
    (h : IsWritten path service method) : NamesMethod path (some ⟨some .exact, some service, method⟩) where
  eq_none_iff := iff_of_false nofun (mt toList_bare_eq_nil_iff.2 hne)
  written m hm := by
    cases hm
    exact ⟨rfl, service, rfl, h⟩

theorem namesMethod_methodOfPath? (path : String) : NamesMethod path (methodOfPath? path) := by
  unfold methodOfPath?
  rw [← toList_bare]
  split
  next hnil => exact ⟨iff_of_true rfl (toList_bare_eq_nil_iff.1 hnil), fun m h => nomatch h⟩
  next hne =>
    split
    next service method hcut =>
      obtain ⟨hparts, hword⟩ := Text.eq_of_cutLast? hcut
      have hwritten := isWritten_of_cut hparts hword
      have hmethod : method ≠ [] := by simpa using (hwritten.method_word _ rfl).1
      rw [if_neg hmethod]
      exact namesMethod_of_isWritten hne hwritten
    next hcut =>
      rw [String.ofList_toList]
      exact namesMethod_of_isWritten hne (isWritten_bare hne (Text.cutLast?_eq_none_iff.1 hcut))

/-- A path match that compares texts is translated without a remark. -/
theorem translateMethod_of_value {type : Option PathMatchType} (h : type ≠ some .regularExpression)
    (value : String) (source : ObjectRef) :
    translateMethod (some ⟨type, some value⟩) source = pure (methodOfPath? value) :=
  if_neg h

/-- Nothing of a path is lost in the match for its method but the slashes around it. -/
theorem namesMethod_translateMethod {path : PathMatch} {value : String} (htype : path.type ≠ some .regularExpression)
    (hvalue : path.value = some value) (source : ObjectRef) :
    NamesMethod value (translateMethod (some path) source).value := by
  obtain ⟨type, text⟩ := path
  cases hvalue
  rw [translateMethod_of_value htype]
  exact namesMethod_methodOfPath? value

theorem namesMethod_many_slashes :
    let path : PathMatch := ⟨some .pathPrefix, some "//api//v1.Users/Get//"⟩
    let source : ObjectRef := ⟨"VirtualServer", none, some "shop", "cafe"⟩
    path.type ≠ some .regularExpression ∧ path.value = some "//api//v1.Users/Get//" ∧
      (translateMethod (some path) source).value = some ⟨some .exact, some "api//v1.Users", some "Get"⟩ ∧
      NamesMethod "//api//v1.Users/Get//" (translateMethod (some path) source).value :=
  ⟨by decide, rfl, by decide, namesMethod_translateMethod (by decide) rfl _⟩

end Matching

end IngressGateway
