import IngressGateway.Matching.Pattern
import Mathlib.Logic.Relation

/-!
The language of patterns. A pattern is a sequence of pieces: characters, the dot, anchors, stars and groups
that refuse what comes next. A backslash makes a mark literal, and behind `(?i)` letter case does not count
until the group ends. A pattern is found in a subject if it spans some stretch of it.
-/

set_option autoImplicit false

namespace IngressGateway.Matching

inductive Expression where
  | empty
  | char (anyCase : Bool) (c : Char)
  | any
  | atStart
  | atEnd
  | seq (first second : Expression)
  | star (body : Expression)
  | unless (body : Expression)
deriving DecidableEq, Repr

namespace Expression

def ofPieces (pieces : List Expression) : Expression := pieces.foldr .seq .empty

/-! ### Meaning -/

section

variable (fold : Char → Char) (subject : List Char)

/-- That an expression takes a stretch of the subject. Of the subject, `rest` is to come in front of the
stretch, and `after` behind it. -/
def Spans : Expression → List Char → List Char → Prop
  | .empty, rest, after => after = rest
  | .char anyCase c, rest, after =>
    ∃ d, rest = d :: after ∧ if anyCase then fold d = fold c else d = c
  | .any, rest, after => ∃ d, rest = d :: after ∧ d ≠ '\n'
  | .atStart, rest, after => after = rest ∧ rest = subject
  | .atEnd, rest, after => after = rest ∧ rest = []
  | .seq e f, rest, after => ∃ middle, Spans e rest middle ∧ Spans f middle after
  | .star e, rest, after => Relation.ReflTransGen (Spans e) rest after
  | .unless e, rest, after => after = rest ∧ ¬ ∃ last, Spans e rest last

/-- That an expression takes some stretch of the subject, wherever that stretch starts. -/
def Found (e : Expression) : Prop := ∃ rest, rest <:+ subject ∧ ∃ after, Spans fold subject e rest after

variable {fold subject}

theorem spans_ofPieces_cons {e : Expression} {es : List Expression} {rest after : List Char} :
    Spans fold subject (ofPieces (e :: es)) rest after ↔
      ∃ middle, Spans fold subject e rest middle ∧ Spans fold subject (ofPieces es) middle after :=
  Iff.rfl

/-- Characters in any letter case take a stretch that differs from them in letter case only. -/
theorem spans_chars {cs : List Char} {es : List Expression} {rest after : List Char} :
    Spans fold subject (ofPieces (cs.map (.char true) ++ es)) rest after ↔
      ∃ taken middle, rest = taken ++ middle ∧ taken.map fold = cs.map fold ∧
        Spans fold subject (ofPieces es) middle after := by
  induction cs generalizing rest with
  | nil =>
    constructor
    · intro h
      exact ⟨[], rest, rfl, rfl, h⟩
    · rintro ⟨taken, middle, rfl, htaken, h⟩
      rw [List.map_nil, List.map_eq_nil_iff] at htaken
      subst htaken
      exact h
  | cons c cs ih =>
    rw [List.map_cons, List.cons_append, spans_ofPieces_cons]
    constructor
    · rintro ⟨next, ⟨d, rfl, hd⟩, h⟩
      obtain ⟨taken, middle, rfl, htaken, h⟩ := ih.1 h
      refine ⟨d :: taken, middle, rfl, ?_, h⟩
      rw [List.map_cons, List.map_cons, htaken]
      exact congrArg (· :: cs.map fold) hd
    · rintro ⟨taken, middle, rfl, htaken, h⟩
      cases taken with
      | nil => simp at htaken
      | cons d taken =>
        rw [List.map_cons, List.map_cons, List.cons.injEq] at htaken
        exact ⟨taken ++ middle, ⟨d, rfl, htaken.1⟩, ih.2 ⟨taken, middle, rfl, htaken.2, h⟩⟩

/-- A star behind a dot takes any stretch of one line. -/
theorem spans_star_any {rest after : List Char} :
    Spans fold subject (.star .any) rest after ↔ ∃ taken, rest = taken ++ after ∧ '\n' ∉ taken := by
  change Relation.ReflTransGen (Spans fold subject .any) rest after ↔ _
  constructor
  · intro h
    induction h using Relation.ReflTransGen.head_induction_on with
    | refl => exact ⟨[], rfl, List.not_mem_nil⟩
    | head hstep _ ih =>
      obtain ⟨d, rfl, hd⟩ := hstep
      obtain ⟨taken, rfl, htaken⟩ := ih
      refine ⟨d :: taken, rfl, ?_⟩
      rw [List.mem_cons, not_or]
      exact ⟨Ne.symm hd, htaken⟩
  · rintro ⟨taken, rfl, htaken⟩
    induction taken with
    | nil => exact .refl
    | cons d taken ih =>
      rw [List.mem_cons, not_or] at htaken
      exact .head ⟨d, rfl, Ne.symm htaken.1⟩ (ih htaken.2)

/-- An anchor in front leaves one place at which a stretch can start. -/
theorem found_atStart_iff {es : List Expression} :
    Found fold subject (ofPieces (.atStart :: es)) ↔
      ∃ after, Spans fold subject (ofPieces es) subject after := by
  constructor
  · rintro ⟨rest, _, after, middle, ⟨rfl, rfl⟩, h⟩
    exact ⟨after, h⟩
  · rintro ⟨after, h⟩
    exact ⟨subject, List.suffix_rfl, after, subject, ⟨rfl, rfl⟩, h⟩

theorem spans_atEnd {rest after : List Char} :
    Spans fold subject (ofPieces [.atEnd]) rest after ↔ rest = [] ∧ after = [] := by
  constructor
  · rintro ⟨middle, ⟨rfl, rfl⟩, rfl⟩
    exact ⟨rfl, rfl⟩
  · rintro ⟨rfl, rfl⟩
    exact ⟨[], ⟨rfl, rfl⟩, rfl⟩

end

/-! ### Reading -/

/-- The characters that mean something else than themselves. -/
def marks : List Char :=
  ['\\', '.', '+', '*', '?', '(', ')', '|', '[', ']', '\x7b', '\x7d', '^', '$']

def isMark (c : Char) : Bool := marks.contains c

/-- The characters that a backslash makes literal. -/
def isPunctuation (c : Char) : Bool := 0x21 ≤ c.toNat && c.toNat ≤ 0x7e && !c.isAlphanum

/-- A group as far as it is read; the latest piece comes first. -/
structure Scope where
  anyCase : Bool
  pieces : List Expression

namespace Scope

def push (s : Scope) (e : Expression) : Scope := { s with pieces := e :: s.pieces }

def expression (s : Scope) : Expression := ofPieces s.pieces.reverse

def pushChars (s : Scope) (cs : List Char) : Scope :=
  cs.foldl (fun s c => s.push (.char s.anyCase c)) s

theorem pushChars_eq (s : Scope) (cs : List Char) :
    s.pushChars cs = ⟨s.anyCase, (cs.map (Expression.char s.anyCase)).reverse ++ s.pieces⟩ := by
  induction cs generalizing s with
  | nil => rfl
  | cons c cs ih =>
    change (s.push (.char s.anyCase c)).pushChars cs = _
    rw [ih, List.map_cons, List.reverse_cons, List.append_assoc]
    rfl

end Scope

/-- Reads on within a group and the groups around it. -/
def readIn (s : Scope) (around : List Scope) : List Char → Option Expression
  | [] => if around.isEmpty then some s.expression else none
  | '(' :: '?' :: 'i' :: ')' :: text => readIn { s with anyCase := true } around text
  | '(' :: '?' :: '!' :: text => readIn ⟨s.anyCase, []⟩ (s :: around) text
  | ')' :: text =>
    match around with
    | [] => none
    | outer :: around => readIn (outer.push (.unless s.expression)) around text
  | '*' :: text =>
    match s.pieces with
    | [] => none
    | e :: pieces => readIn { s with pieces := .star e :: pieces } around text
  | '^' :: text => readIn (s.push .atStart) around text
  | '$' :: text => readIn (s.push .atEnd) around text
  | '.' :: text => readIn (s.push .any) around text
  | '\\' :: c :: text =>
    if isPunctuation c then readIn (s.push (.char s.anyCase c)) around text else none
  | c :: text => if isMark c then none else readIn (s.push (.char s.anyCase c)) around text

/-- The expression that a text writes, if it writes one. -/
def read? (pattern : String) : Option Expression := readIn ⟨false, []⟩ [] pattern.toList

section

variable (s : Scope) (around : List Scope) (text : List Char)

theorem readIn_of_not_isMark {c : Char} (h : isMark c = false) :
    readIn s around (c :: text) = readIn (s.push (.char s.anyCase c)) around text := by
  -- The clauses for marks come first and overlap; a character that is no mark gets past all of them.
  conv => lhs; unfold readIn
  split <;> simp_all [isMark, marks]

theorem readIn_backslash {c : Char} (h : isPunctuation c = true) :
    readIn s around ('\\' :: c :: text) = readIn (s.push (.char s.anyCase c)) around text := by
  rw [readIn, if_pos h]

theorem isPunctuation_of_escaped : ∀ c ∈ escapedCharacters, isPunctuation c = true := by
  rw [← List.all_eq_true]
  decide

/-- Every mark is escaped, so that no character is left which does not stand for itself. -/
theorem isMark_of_not_escaped {c : Char} (h : escapedCharacters.contains c = false) :
    isMark c = false := by
  have hmarks : marks.all escapedCharacters.contains = true := by decide
  rw [isMark, List.contains_eq_mem, decide_eq_false_iff_not]
  intro hmark
  rw [List.all_eq_true.1 hmarks c hmark] at h
  cases h

/-- An escaped text is read as its characters, one by one. -/
theorem readIn_escape (cs : List Char) :
    readIn s around (cs.flatMap escapeChar ++ text) = readIn (s.pushChars cs) around text := by
  induction cs generalizing s with
  | nil => rfl
  | cons c cs ih =>
    rw [List.flatMap_cons, List.append_assoc]
    change _ = readIn ((s.push (.char s.anyCase c)).pushChars cs) around text
    rw [← ih]
    cases h : escapedCharacters.contains c with
    | true =>
      have hc : isPunctuation c = true := isPunctuation_of_escaped c (List.contains_iff_mem.1 h)
      rw [escapeChar, if_pos h]
      exact readIn_backslash s around _ hc
    | false =>
      rw [escapeChar, if_neg (by rw [h]; exact Bool.false_ne_true)]
      exact readIn_of_not_isMark s around _ (isMark_of_not_escaped h)

end

end Expression

end IngressGateway.Matching
