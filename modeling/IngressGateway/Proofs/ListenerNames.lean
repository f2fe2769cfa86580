import IngressGateway.Proofs.Naming
import Mathlib

/-!
What the names of listeners say. A name is a protocol, a port and a sanitized host with dashes in between, and the
host may have dashes and digits of its own. But there are no dashes in a protocol or a port, so each part is told
from the next, and two listeners have one name only if they agree on what the name says.
-/

set_option autoImplicit false

namespace IngressGateway.GeneratedName

open Gateway (Protocol)

/-- The characters that the name of a listener may take from a host as they are. -/
def IsPlain (c : Char) : Prop := c ≠ '.' ∧ c ≠ '*' ∧ c.isUpper = false

instance (c : Char) : Decidable (IsPlain c) := inferInstanceAs (Decidable (_ ∧ _))

def IsAbsent (host : Option String) : Prop := host = none ∨ host = some ""

/-- That two hosts count as one. A host that is absent never counts as one that is there. -/
inductive HostsAgree (sanitize : String → String) : Option String → Option String → Prop
  | absent {host host' : Option String} (h : IsAbsent host) (h' : IsAbsent host') :
      HostsAgree sanitize host host'
  | sanitized {s t : String} (hs : s ≠ "") (ht : t ≠ "") (h : sanitize s = sanitize t) :
      HostsAgree sanitize (some s) (some t)

/-- That names tell listeners apart by protocol, port and sanitized host, where there is nothing to sanitize in a
sanitized host. -/
structure Identifies (name : Protocol → Unsigned16 → Option String → String) (sanitize : String → String) :
    Prop where
  name_eq_iff : ∀ p p' n n' host host',
    name p n host = name p' n' host' ↔ p = p' ∧ n = n' ∧ HostsAgree sanitize host host'
  idempotent : ∀ host, sanitize (sanitize host) = sanitize host
  plain : ∀ host, ∀ c ∈ (sanitize host).toList, IsPlain c

variable {c d : Char} {s : String} {host host' : Option String}

/-! ### Sanitized hosts -/

theorem eq_of_toLower_eq (hd : d.isAlpha = false) (h : c.toLower = d) : c = d := by
  -- Small letters are made of letters only.
  have hupper : ¬ c.isUpper = true := by
    intro hupper
    rw [← h, Char.isAlpha_toLower_eq_isAlpha, Char.isAlpha, hupper, Bool.true_or] at hd
    cases hd
  rwa [Char.toLower_eq_of_not_isUpper hupper] at h

theorem isPlain_of_mem_hostChar (h : d ∈ hostChar c) : IsPlain d := by
  unfold hostChar at h
  split at h
  next =>
    have hword : ∀ d ∈ "wildcard".toList, IsPlain d := by simp [IsPlain]
    exact hword d h
  next hstar =>
    split at h
    next =>
      obtain rfl := List.mem_singleton.1 h
      decide
    next hdot =>
      obtain rfl := List.mem_singleton.1 h
      exact ⟨mt (eq_of_toLower_eq rfl) hdot, mt (eq_of_toLower_eq rfl) hstar, Char.isUpper_toLower_eq_false c⟩

theorem hostChar_of_isPlain (h : IsPlain c) : hostChar c = [c] := by
  obtain ⟨hdot, hstar, hupper⟩ := h
  rw [hostChar, if_neg hstar, if_neg hdot, Char.toLower_eq_of_not_isUpper (by simp [hupper])]

theorem isPlain_of_mem_hostSlug (h : c ∈ (hostSlug s).toList) : IsPlain c := by
  rw [hostSlug, String.toList_ofList] at h
  obtain ⟨_, _, hc⟩ := List.mem_flatMap.1 h
  exact isPlain_of_mem_hostChar hc

/-- The hosts that are left alone are those with plain characters only. -/
theorem hostSlug_eq_self_iff : hostSlug s = s ↔ ∀ c ∈ s.toList, IsPlain c := by
  constructor
  · intro h c hc
    rw [← h] at hc
    exact isPlain_of_mem_hostSlug hc
  · intro h
    have hchars : s.toList.flatMap hostChar = s.toList.flatMap fun c => [c] :=
      List.flatMap_congr fun c hc => hostChar_of_isPlain (h c hc)
    rw [hostSlug, hchars, List.flatMap_singleton', String.ofList_toList]

/-! ### What names say about hosts -/

theorem hostPart_eq_none_iff : hostPart host = none ↔ IsAbsent host := by
  rw [hostPart, Option.map_eq_none_iff, Text.present?_eq_none_iff]
  rfl

theorem hostPart_eq_some_iff {slug : String} :
    hostPart host = some slug ↔ ∃ s, host = some s ∧ s ≠ "" ∧ hostSlug s = slug := by
  simp only [hostPart, Option.map_eq_some_iff, Text.present?_eq_some_iff, and_assoc]

theorem hostsAgree_iff : HostsAgree hostSlug host host' ↔ hostPart host = hostPart host' := by
  constructor
  · rintro (⟨h, h'⟩ | ⟨hs, ht, h⟩)
    · rw [hostPart_eq_none_iff.2 h, hostPart_eq_none_iff.2 h']
    · exact (hostPart_eq_some_iff.2 ⟨_, rfl, hs, h⟩).trans (hostPart_eq_some_iff.2 ⟨_, rfl, ht, rfl⟩).symm
  · intro h
    cases hpart : hostPart host' with
    | none =>
      rw [hpart] at h
      exact .absent (hostPart_eq_none_iff.1 h) (hostPart_eq_none_iff.1 hpart)
    | some slug =>
      rw [hpart] at h
      obtain ⟨s, rfl, hs, hslug⟩ := hostPart_eq_some_iff.1 h
      obtain ⟨t, rfl, ht, rfl⟩ := hostPart_eq_some_iff.1 hpart
      exact .sanitized hs ht hslug

/-- Two listeners have one name if and only if they have the same protocol, the same port and hosts that count as
one. -/
theorem identifies_listener : Identifies listener hostSlug where
  name_eq_iff p p' n n' host host' := by rw [listener_inj, hostsAgree_iff]
  idempotent host := hostSlug_eq_self_iff.2 fun _ => isPlain_of_mem_hostSlug
  plain _ _ := isPlain_of_mem_hostSlug

example : listener .http ⟨80, by decide⟩ (some "a.b") = listener .http ⟨80, by decide⟩ (some "A-b") := by decide

end IngressGateway.GeneratedName
