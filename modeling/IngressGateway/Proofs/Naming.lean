import IngressGateway.Routing.Connection
import IngressGateway.Routing.TlsRedirect
import Mathlib.Data.List.Basic

/-!
Generated names do not collide. The name of a route is that of its owner with an ending, and the routes of one
kind for different purposes have different endings. The name of a listener tells its protocol, its port and
its host, as far as a name can hold a host.
-/

set_option autoImplicit false

namespace IngressGateway.GeneratedName

open Gateway (Protocol)
open Listeners (ConnectionProtocol)

/-- What stands behind the name of a transport server in the name of its route. -/
def connectionEnding : ConnectionProtocol → String
  | .tcp => "-tcproute"
  | .udp => "-udproute"
  | .tlsPassthrough => "-tlsroute"

theorem connectionRoute_eq (owner : String) (p : ConnectionProtocol) :
    connectionRoute owner p.listenerProtocol = owner ++ connectionEnding p := by
  rw [connectionRoute, String.append_assoc, String.append_assoc]
  cases p <;> rfl

theorem httpRoute_ne_redirectRoute (a b : String) : a ++ "-httproute" ≠ b ++ "-redirect" := by
  intro h
  have hlast := congrArg (fun s : String => s.toList.getLast?) h
  simp at hlast

theorem httpRoute_ne_grpcRoute (a b : String) : a ++ "-httproute" ≠ b ++ "-grpcroute" := by
  intro h
  have hlist : a.toList ++ "-httproute".toList = b.toList ++ "-grpcroute".toList := by
    simpa using congrArg String.toList h
  have hsuffix := (List.append_inj' hlist (by decide)).2
  revert hsuffix
  decide

/-! ### Listeners -/

/-- Texts without the separator end where it first stands. -/
theorem append_cons_inj {c : Char} {xs ys u v : List Char} (hx : c ∉ xs) (hy : c ∉ ys)
    (h : xs ++ c :: u = ys ++ c :: v) : xs = ys ∧ u = v := by
  induction xs generalizing ys with
  | nil =>
    cases ys with
    | nil => exact ⟨rfl, (List.cons.inj h).2⟩
    | cons y ys => exact absurd ((List.cons.inj h).1 ▸ List.mem_cons_self) hy
  | cons x xs ih =>
    cases ys with
    | nil => exact absurd ((List.cons.inj h).1 ▸ List.mem_cons_self) hx
    | cons y ys =>
      obtain ⟨rfl, htail⟩ := List.cons.inj h
      obtain ⟨rfl, hrest⟩ := ih (fun hc => hx (List.mem_cons_of_mem _ hc))
        (fun hc => hy (List.mem_cons_of_mem _ hc)) htail
      exact ⟨rfl, hrest⟩

/-- What the name of a listener says about its host. -/
def hostPart (host : Option String) : Option String := (Text.present? host).map hostSlug

theorem hostPart_present? (host : Option String) :
    hostPart (Text.present? host) = hostPart host := by
  unfold hostPart Text.present?
  rw [Option.filter_filter]
  simp

/-- The end of the name of a listener, behind its port. -/
def hostTail (host : Option String) : List Char :=
  (hostPart host).elim [] fun slug => '-' :: slug.toList

theorem toList_listener (p : Protocol) (n : Unsigned16) (host : Option String) :
    (listener p n host).toList =
      p.slug.toList ++ '-' :: ((toString n.val).toList ++ hostTail host) := by
  unfold listener hostTail hostPart
  cases Text.present? host <;> simp

theorem dash_not_mem_slug (p : Protocol) : '-' ∉ p.slug.toList := by
  cases p <;> decide

theorem slug_inj {p q : Protocol} (h : p.slug = q.slug) : p = q := by
  revert h
  cases p <;> cases q <;> decide

theorem toList_port (n : Unsigned16) : (toString n.val).toList = Nat.toDigits 10 n.val.toNat := by
  obtain ⟨i, hi⟩ := n
  obtain ⟨k, rfl⟩ := Int.eq_ofNat_of_zero_le hi.1
  exact Nat.toList_repr

theorem dash_not_mem_port (n : Unsigned16) : '-' ∉ (toString n.val).toList := by
  rw [toList_port]
  intro h
  exact absurd (Nat.isDigit_of_mem_toDigits (by decide) (by decide) h) (by decide)

theorem port_inj {n m : Unsigned16} (h : (toString n.val).toList = (toString m.val).toList) :
    n = m := by
  rw [toList_port, toList_port] at h
  have hnat := congrArg (Nat.ofDigitChars 10 · 0) h
  simp only [Nat.ofDigitChars_toDigits (by decide : 1 < 10) (by decide : 10 ≤ 10)] at hnat
  have hn := n.property.1
  have hm := m.property.1
  exact Subtype.ext (by omega)

theorem hostTail_inj {host host' : Option String} (h : hostTail host = hostTail host') :
    hostPart host = hostPart host' := by
  revert h
  unfold hostTail
  cases hostPart host <;> cases hostPart host' <;> simp [String.toList_inj]

theorem exists_hostTail_append (host : Option String) :
    ∃ rest, hostTail host ++ ['-'] = '-' :: rest := by
  unfold hostTail
  cases hostPart host with
  | none => exact ⟨[], rfl⟩
  | some slug => exact ⟨slug.toList ++ ['-'], rfl⟩

/-- A name tells the protocol, the port and what it says about the host. -/
theorem listener_inj {p q : Protocol} {n m : Unsigned16} {host host' : Option String} :
    listener p n host = listener q m host' ↔ p = q ∧ n = m ∧ hostPart host = hostPart host' := by
  constructor
  · intro h
    have hlist := congrArg String.toList h
    rw [toList_listener, toList_listener] at hlist
    obtain ⟨hslug, hrest⟩ := append_cons_inj (dash_not_mem_slug p) (dash_not_mem_slug q) hlist
    -- Behind the port there is nothing or a dash; one more dash at the end leaves only the second case.
    obtain ⟨rest, ht⟩ := exists_hostTail_append host
    obtain ⟨rest', ht'⟩ := exists_hostTail_append host'
    have hdash := congrArg (· ++ ['-']) hrest
    simp only [List.append_assoc, ht, ht'] at hdash
    have hport := (append_cons_inj (dash_not_mem_port n) (dash_not_mem_port m) hdash).1
    rw [hport] at hrest
    exact ⟨slug_inj (String.toList_inj.1 hslug), port_inj hport,
      hostTail_inj (List.append_cancel_left hrest)⟩
  · rintro ⟨rfl, rfl, h⟩
    rw [← String.toList_inj, toList_listener, toList_listener, hostTail, hostTail, h]

end IngressGateway.GeneratedName
