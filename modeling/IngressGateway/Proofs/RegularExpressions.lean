import Mathlib.Data.List.Basic

/-!
Regular expressions and what they match. An expression takes a subject from one place in it to a later one; a
search asks whether there are any such places. What letter case leaves open, and which characters are digits,
blanks or parts of words, differs from one program that searches to the next: it is a parameter throughout.
-/

set_option autoImplicit false

namespace IngressGateway.Matching

inductive CharKind where
  | digit
  | blank
  | word
deriving DecidableEq, Repr

structure Dialect where
  /-- Characters that are the same up to letter case have the same image. -/
  fold : Char → Char
  isA : CharKind → Char → Bool

namespace Dialect

variable (d : Dialect)

def folds (anyCase : Bool) : Char → Char := if anyCase then d.fold else id

def isWordAt (c : Option Char) : Bool := c.any (d.isA .word)

/-- That a word starts or ends between two stretches of a subject. -/
def IsEdge (before after : List Char) : Prop := d.isWordAt before.getLast? ≠ d.isWordAt after.head?

/-- Letter case and words as they are in ASCII. -/
def ascii : Dialect where
  fold := Char.toLower
  isA
    | .digit, c => c.isDigit
    | .blank, c => c = ' ' || ('\t' ≤ c && c ≤ '\r')
    | .word, c => c.isAlphanum || c = '_'

instance (before after : List Char) : Decidable (d.IsEdge before after) :=
  inferInstanceAs (Decidable (_ ≠ _))

theorem map_folds_of_eq {s t : List Char} (h : s.map (d.folds false) = t.map (d.folds false))
    (anyCase : Bool) : s.map (d.folds anyCase) = t.map (d.folds anyCase) := by
  have hid : d.folds false = id := rfl
  rw [hid, List.map_id, List.map_id] at h
  rw [h]

end Dialect

/-- A member of a class in brackets. -/
inductive Member where
  | range (first last : Char)
  | kind (k : CharKind) (negated : Bool)
deriving DecidableEq, Repr

def Member.Has (d : Dialect) (anyCase : Bool) : Member → Char → Prop
  | .range first last, x => ∃ c, first ≤ c ∧ c ≤ last ∧ d.folds anyCase x = d.folds anyCase c
  | .kind k negated, x => d.isA k x = !negated

inductive Regex where
  | empty
  | char (anyCase : Bool) (c : Char)
  | oneOf (anyCase negated : Bool) (members : List Member)
  | any
  | atStart
  | atEnd
  | edge (negated : Bool)
  | seq (first second : Regex)
  | either (first second : Regex)
  | times (body : Regex) (least : Nat) (most : Option Nat)
  | ahead (negated : Bool) (body : Regex)
deriving DecidableEq, Repr

/-- A place in a subject: what comes before it, and what is still to come. -/
structure Place where
  before : List Char
  after : List Char

namespace Place

/-- That the stretch from one place to another is `taken`. -/
structure Passes (p : Place) (taken : List Char) (q : Place) : Prop where
  after : p.after = taken ++ q.after
  before : q.before = p.before ++ taken

theorem passes_nil {p q : Place} : p.Passes [] q ↔ q = p := by
  constructor
  · rintro ⟨hafter, hbefore⟩
    cases p
    cases q
    simp_all
  · rintro rfl
    exact ⟨rfl, (List.append_nil _).symm⟩

theorem passes_append {p q : Place} {s t : List Char} :
    p.Passes (s ++ t) q ↔ ∃ m, p.Passes s m ∧ m.Passes t q := by
  constructor
  · rintro ⟨hafter, hbefore⟩
    rw [List.append_assoc] at hafter
    rw [← List.append_assoc] at hbefore
    exact ⟨⟨p.before ++ s, t ++ q.after⟩, ⟨hafter, rfl⟩, ⟨rfl, hbefore⟩⟩
  · rintro ⟨m, ⟨hafter, hbefore⟩, ⟨hafter', hbefore'⟩⟩
    refine ⟨?_, ?_⟩
    · rw [hafter, hafter', List.append_assoc]
    · rw [hbefore', hbefore, List.append_assoc]

theorem passes_cons {p q : Place} {x : Char} {taken : List Char} :
    p.Passes (x :: taken) q ↔ ∃ m, p.Passes [x] m ∧ m.Passes taken q := by
  rw [← List.singleton_append]
  exact passes_append

end Place

/-- That `n` steps in a row lead from one thing to another. -/
def Chain {α : Type} (step : α → α → Prop) : Nat → α → α → Prop
  | 0, a, b => b = a
  | n + 1, a, b => ∃ m, step a m ∧ Chain step n m b

namespace Regex

def ofPieces (pieces : List Regex) : Regex := pieces.foldr .seq .empty

def ofAlternatives : List (List Regex) → Regex
  | [] => .empty
  | [a] => ofPieces a
  | a :: as => .either (ofPieces a) (ofAlternatives as)

def chars (anyCase : Bool) (cs : List Char) : List Regex := cs.map (.char anyCase)

/-- Any stretch of one line. -/
def line : Regex := .times .any 0 none

section

variable (d : Dialect)

/-- That an expression leads from one place in a subject to another. -/
def Spans : Regex → Place → Place → Prop
  | .empty, p, q => q = p
  | .char anyCase c, p, q => ∃ x, p.Passes [x] q ∧ d.folds anyCase x = d.folds anyCase c
  | .oneOf anyCase negated members, p, q =>
    ∃ x, p.Passes [x] q ∧ ((∃ m ∈ members, m.Has d anyCase x) ↔ negated = false)
  | .any, p, q => ∃ x, p.Passes [x] q ∧ x ≠ '\n'
  | .atStart, p, q => q = p ∧ p.before = []
  | .atEnd, p, q => q = p ∧ p.after = []
  | .edge negated, p, q => q = p ∧ (d.IsEdge p.before p.after ↔ negated = false)
  | .seq e f, p, q => ∃ m, Spans e p m ∧ Spans f m q
  | .either e f, p, q => Spans e p q ∨ Spans f p q
  | .times e least most, p, q =>
    ∃ n, least ≤ n ∧ (∀ m ∈ most, n ≤ m) ∧ Chain (Spans e) n p q
  | .ahead negated e, p, q => q = p ∧ ((∃ m, Spans e p m) ↔ negated = false)

/-- That a search for an expression in a text succeeds. -/
def Found (e : Regex) (text : List Char) : Prop :=
  ∃ p q, p.before ++ p.after = text ∧ Spans d e p q

end

variable {d : Dialect}

theorem spans_cons {e : Regex} {es : List Regex} {p q : Place} :
    Spans d (ofPieces (e :: es)) p q ↔ ∃ m, Spans d e p m ∧ Spans d (ofPieces es) m q :=
  Iff.rfl

theorem spans_singleton {e : Regex} {p q : Place} : Spans d (ofPieces [e]) p q ↔ Spans d e p q := by
  constructor
  · rintro ⟨m, h, rfl⟩
    exact h
  · intro h
    exact ⟨q, h, rfl⟩

theorem spans_append {es fs : List Regex} {p q : Place} :
    Spans d (ofPieces (es ++ fs)) p q ↔
      ∃ m, Spans d (ofPieces es) p m ∧ Spans d (ofPieces fs) m q := by
  induction es generalizing p with
  | nil =>
    constructor
    · intro h
      exact ⟨p, rfl, h⟩
    · rintro ⟨m, rfl, h⟩
      exact h
  | cons e es ih =>
    rw [List.cons_append, spans_cons]
    constructor
    · rintro ⟨m, he, h⟩
      obtain ⟨k, hes, hfs⟩ := ih.1 h
      exact ⟨k, ⟨m, he, hes⟩, hfs⟩
    · rintro ⟨k, ⟨m, he, hes⟩, hfs⟩
      exact ⟨m, he, ih.2 ⟨k, hes, hfs⟩⟩

theorem spans_chars {anyCase : Bool} {cs : List Char} {p q : Place} :
    Spans d (ofPieces (chars anyCase cs)) p q ↔
      ∃ taken, taken.map (d.folds anyCase) = cs.map (d.folds anyCase) ∧ p.Passes taken q := by
  induction cs generalizing p with
  | nil =>
    constructor
    · intro h
      exact ⟨[], rfl, Place.passes_nil.2 h⟩
    · rintro ⟨taken, htaken, h⟩
      rw [List.map_nil, List.map_eq_nil_iff] at htaken
      subst htaken
      exact Place.passes_nil.1 h
  | cons c cs ih =>
    constructor
    · rintro ⟨m, ⟨x, hx, hc⟩, h⟩
      obtain ⟨taken, htaken, h⟩ := ih.1 h
      refine ⟨x :: taken, ?_, Place.passes_cons.2 ⟨m, hx, h⟩⟩
      rw [List.map_cons, List.map_cons, htaken, hc]
    · rintro ⟨taken, htaken, h⟩
      cases taken with
      | nil => simp at htaken
      | cons x taken =>
        rw [List.map_cons, List.map_cons, List.cons.injEq] at htaken
        obtain ⟨m, hx, h⟩ := Place.passes_cons.1 h
        exact ⟨m, ⟨x, hx, htaken.1⟩, ih.2 ⟨taken, htaken.2, h⟩⟩

theorem chain_any {n : Nat} {p q : Place} :
    Chain (Spans d .any) n p q ↔ ∃ taken, taken.length = n ∧ '\n' ∉ taken ∧ p.Passes taken q := by
  induction n generalizing p with
  | zero =>
    constructor
    · intro h
      exact ⟨[], rfl, List.not_mem_nil, Place.passes_nil.2 h⟩
    · rintro ⟨taken, hlength, _, h⟩
      rw [List.length_eq_zero_iff] at hlength
      subst hlength
      exact Place.passes_nil.1 h
  | succ n ih =>
    constructor
    · rintro ⟨m, ⟨x, hx, hline⟩, h⟩
      obtain ⟨taken, rfl, htaken, h⟩ := ih.1 h
      refine ⟨x :: taken, rfl, ?_, Place.passes_cons.2 ⟨m, hx, h⟩⟩
      rw [List.mem_cons, not_or]
      exact ⟨Ne.symm hline, htaken⟩
    · rintro ⟨taken, hlength, hline, h⟩
      cases taken with
      | nil => cases hlength
      | cons x taken =>
        rw [List.mem_cons, not_or] at hline
        obtain ⟨m, hx, h⟩ := Place.passes_cons.1 h
        exact ⟨m, ⟨x, hx, Ne.symm hline.1⟩, ih.2 ⟨taken, Nat.succ.inj hlength, hline.2, h⟩⟩

theorem spans_line {p q : Place} :
    Spans d line p q ↔ ∃ taken, '\n' ∉ taken ∧ p.Passes taken q := by
  constructor
  · rintro ⟨n, _, _, h⟩
    obtain ⟨taken, _, hline, h⟩ := chain_any.1 h
    exact ⟨taken, hline, h⟩
  · rintro ⟨taken, hline, h⟩
    exact ⟨taken.length, Nat.zero_le _, by simp, chain_any.2 ⟨taken, rfl, hline, h⟩⟩

theorem found_ofAlternatives {a : List Regex} {as : List (List Regex)} {text : List Char} :
    Found d (ofAlternatives (a :: as)) text ↔ ∃ b ∈ a :: as, Found d (ofPieces b) text := by
  induction as generalizing a with
  | nil => simp [ofAlternatives]
  | cons b as ih =>
    have heither : Found d (ofAlternatives (a :: b :: as)) text ↔
        Found d (ofPieces a) text ∨ Found d (ofAlternatives (b :: as)) text := by
      constructor
      · rintro ⟨p, q, htext, h | h⟩
        · exact .inl ⟨p, q, htext, h⟩
        · exact .inr ⟨p, q, htext, h⟩
      · rintro (⟨p, q, htext, h⟩ | ⟨p, q, htext, h⟩)
        · exact ⟨p, q, htext, .inl h⟩
        · exact ⟨p, q, htext, .inr h⟩
    rw [heither, ih]
    simp only [List.mem_cons, exists_eq_or_imp]

end Regex

end IngressGateway.Matching
