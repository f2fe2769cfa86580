/-!
Strict linear orders on keys. `KeyOrder.before` is a Boolean test; its three laws are what sorted
maps and sorting need. Orders are built from `Nat` by comparing lists entry by entry and by comparing
values through an injective key, so text is ordered by code point, which is also the order of its
UTF-8 bytes.
-/

set_option autoImplicit false

namespace IngressGateway

/-- A strict linear order, as a Boolean test. -/
class KeyOrder (κ : Type) where
  /-- Whether the first key stands before the second one. -/
  before : κ → κ → Bool
  irrefl : ∀ a, before a a = false
  trans : ∀ a b c, before a b = true → before b c = true → before a c = true
  eq_of_neither : ∀ a b, before a b = false → before b a = false → a = b

namespace KeyOrder

@[reducible] def on {κ ι : Type} [KeyOrder ι] (f : κ → ι) (inj : ∀ a b, f a = f b → a = b) :
    KeyOrder κ where
  before a b := before (f a) (f b)
  irrefl a := irrefl (f a)
  trans a b c := trans (f a) (f b) (f c)
  eq_of_neither a b h h' := inj a b (eq_of_neither (f a) (f b) h h')

instance : KeyOrder Nat where
  before a b := decide (a < b)
  irrefl a := by simp
  trans a b c h h' := by simp at *; omega
  eq_of_neither a b h h' := by simp at *; omega

instance : KeyOrder Char :=
  on Char.toNat fun a b h => by
    have h' : a.val.toNat = b.val.toNat := h
    exact Char.ext (UInt32.toNat_inj.1 h')

variable {α : Type} [KeyOrder α]

theorem asymm (a b : α) (h : before a b = true) : before b a = false := by
  cases h' : before b a with
  | false => rfl
  | true =>
    have := trans a b a h h'
    rw [irrefl] at this
    exact absurd this (by simp)

/-- Lists are compared at the first place where they differ; a list that ends there comes first. -/
def listBefore : List α → List α → Bool
  | _, [] => false
  | [], _ :: _ => true
  | a :: s, b :: t => before a b || (!before b a && listBefore s t)

theorem listBefore_irrefl (s : List α) : listBefore s s = false := by
  induction s with
  | nil => rfl
  | cons a s ih => simp [listBefore, irrefl, ih]

theorem listBefore_eq_of_neither (s t : List α) (h : listBefore s t = false)
    (h' : listBefore t s = false) : s = t := by
  induction s generalizing t with
  | nil => cases t with
    | nil => rfl
    | cons b t => simp [listBefore] at h
  | cons a s ih => cases t with
    | nil => simp [listBefore] at h'
    | cons b t =>
      simp only [listBefore, Bool.or_eq_false_iff] at h h'
      obtain ⟨hab, hs⟩ := h
      obtain ⟨hba, ht⟩ := h'
      simp only [hab, hba, Bool.not_false, Bool.true_and] at hs ht
      rw [eq_of_neither a b hab hba, ih t hs ht]

theorem listBefore_trans (s t u : List α) (h : listBefore s t = true)
    (h' : listBefore t u = true) : listBefore s u = true := by
  induction s generalizing t u with
  | nil => cases u with
    | nil => cases t <;> simp [listBefore] at h'
    | cons c u => rfl
  | cons a s ih => cases t with
    | nil => simp [listBefore] at h
    | cons b t => cases u with
      | nil => simp [listBefore] at h'
      | cons c u =>
        simp only [listBefore, Bool.or_eq_true, Bool.and_eq_true, Bool.not_eq_true'] at h h' ⊢
        rcases h with h | ⟨hba, hst⟩ <;> rcases h' with h' | ⟨hcb, htu⟩
        · exact .inl (trans a b c h h')
        · left
          cases hac : before a c with
          | true => rfl
          | false =>
            cases hca : before c a with
            | true => rw [trans c a b hca h] at hcb; exact absurd hcb (by simp)
            | false => rw [← eq_of_neither a c hac hca, h] at hcb; exact absurd hcb (by simp)
        · left
          cases hac : before a c with
          | true => rfl
          | false =>
            cases hca : before c a with
            | true => rw [trans b c a h' hca] at hba; exact absurd hba (by simp)
            | false => rw [eq_of_neither a c hac hca, h'] at hba; exact absurd hba (by simp)
        · cases hac : before a c with
          | true => exact .inl rfl
          | false =>
            right
            refine ⟨?_, ih t u hst htu⟩
            cases hca : before c a with
            | false => rfl
            | true =>
              cases hab : before a b with
              | true => rw [trans c a b hca hab] at hcb; exact absurd hcb (by simp)
              | false => rw [eq_of_neither a b hab hba, hcb] at hca; exact absurd hca (by simp)

instance : KeyOrder (List α) where
  before := listBefore
  irrefl := listBefore_irrefl
  trans := listBefore_trans
  eq_of_neither := listBefore_eq_of_neither

/-- Text is ordered by code point. -/
instance : KeyOrder String := on String.toList fun _ _ h => String.toList_inj.1 h

/-- A missing value comes before every value. -/
instance : KeyOrder (Option α) := on Option.toList fun a b h => by cases a <;> cases b <;> simp_all

variable {β : Type} [KeyOrder β]

/-- Pairs are compared by their first parts, then by their second parts. -/
instance : KeyOrder (α × β) where
  before a b := before a.1 b.1 || (!before b.1 a.1 && before a.2 b.2)
  irrefl a := by simp [irrefl]
  trans a b c h h' := by
    simp only [Bool.or_eq_true, Bool.and_eq_true, Bool.not_eq_true'] at h h' ⊢
    have key : ∀ x y z : α, before x y = true → before z y = false → before x z = true := by
      intro x y z hxy hzy
      cases hxz : before x z with
      | true => rfl
      | false =>
        cases hzx : before z x with
        | true => rw [trans z x y hzx hxy] at hzy; exact absurd hzy (by simp)
        | false => rw [← eq_of_neither x z hxz hzx, hxy] at hzy; exact absurd hzy (by simp)
    rcases h with h | ⟨hba, hst⟩ <;> rcases h' with h' | ⟨hcb, htu⟩
    · exact .inl (trans _ _ _ h h')
    · exact .inl (key _ _ _ h hcb)
    · left
      cases hab : before a.1 b.1 with
      | true => exact trans _ _ _ hab h'
      | false => rw [eq_of_neither _ _ hab hba]; exact h'
    · cases hab : before a.1 b.1 with
      | true => exact .inl (key _ _ _ hab hcb)
      | false =>
        rw [eq_of_neither _ _ hab hba]
        exact .inr ⟨hcb, trans _ _ _ hst htu⟩
  eq_of_neither a b h h' := by
    simp only [Bool.or_eq_false_iff] at h h'
    obtain ⟨hab, hs⟩ := h
    obtain ⟨hba, ht⟩ := h'
    simp only [hab, hba, Bool.not_false, Bool.true_and] at hs ht
    exact Prod.ext (eq_of_neither _ _ hab hba) (eq_of_neither _ _ hs ht)

end KeyOrder

end IngressGateway
