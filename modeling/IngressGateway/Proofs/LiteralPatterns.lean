import IngressGateway.Proofs.Literals
import IngressGateway.Proofs.PatternLanguage

/-!
The patterns of literal values. A value without metacharacters is pasted between anchors, and into a group that
refuses it if it is negated. Read as a pattern again, the first asks for the very text of the value, and the
second for any other text of one line; letter case does not count in either.
-/

set_option autoImplicit false

namespace IngressGateway.Matching

open Ingress (Wanted)

/-- Whether two texts are the same up to letter case, as far as `fold` leaves it out of account. -/
def SameUpTo (fold : Char → Char) (s t : String) : Prop := s.toList.map fold = t.toList.map fold

namespace Expression

variable (fold : Char → Char)

/-- A whole text in any letter case. -/
def exactly (text : List Char) : Expression := ofPieces (.atStart :: (text.map (.char true) ++ [.atEnd]))

/-- A whole text of one line that is another one in every letter case. -/
def otherThan (text : List Char) : Expression :=
  ofPieces [.atStart, .unless (exactly text), .star .any, .atEnd]

theorem spans_exactly {subject text rest after : List Char} :
    Spans fold subject (exactly text) rest after ↔
      rest = subject ∧ after = [] ∧ subject.map fold = text.map fold := by
  constructor
  · rintro ⟨middle, ⟨rfl, rfl⟩, h⟩
    obtain ⟨taken, middle, hrest, htaken, hend⟩ := spans_chars.1 h
    obtain ⟨rfl, rfl⟩ := spans_atEnd.1 hend
    rw [List.append_nil] at hrest
    subst hrest
    exact ⟨rfl, rfl, htaken⟩
  · rintro ⟨rfl, rfl, htext⟩
    refine ⟨rest, ⟨rfl, rfl⟩, spans_chars.2 ⟨rest, [], (List.append_nil rest).symm, htext, ?_⟩⟩
    exact spans_atEnd.2 ⟨rfl, rfl⟩

theorem found_exactly (subject text : List Char) :
    Found fold subject (exactly text) ↔ subject.map fold = text.map fold := by
  constructor
  · rintro ⟨rest, _, after, h⟩
    exact ((spans_exactly fold).1 h).2.2
  · intro h
    exact ⟨subject, List.suffix_rfl, [], (spans_exactly fold).2 ⟨rfl, rfl, h⟩⟩

theorem found_otherThan (subject text : List Char) :
    Found fold subject (otherThan text) ↔ '\n' ∉ subject ∧ subject.map fold ≠ text.map fold := by
  rw [otherThan, found_atStart_iff]
  constructor
  · rintro ⟨after, middle, ⟨rfl, hrefused⟩, last, hline, hend⟩
    obtain ⟨taken, htaken, hbreak⟩ := spans_star_any.1 hline
    obtain ⟨rfl, _⟩ := spans_atEnd.1 hend
    rw [List.append_nil] at htaken
    subst htaken
    exact ⟨hbreak, fun h => hrefused ⟨[], (spans_exactly fold).2 ⟨rfl, rfl, h⟩⟩⟩
  · rintro ⟨hbreak, hother⟩
    have hrefused : ¬ ∃ last, Spans fold subject (exactly text) subject last := by
      rintro ⟨last, h⟩
      exact hother ((spans_exactly fold).1 h).2.2
    have hline : Spans fold subject (.star .any) subject [] :=
      spans_star_any.2 ⟨subject, (List.append_nil subject).symm, hbreak⟩
    exact ⟨[], subject, ⟨rfl, hrefused⟩, [], hline, spans_atEnd.2 ⟨rfl, rfl⟩⟩

theorem exactly_inj {text text' : List Char} (h : exactly text = exactly text') : text = text' := by
  -- Where letter case counts, either text is the only one in which its expression is found.
  have hfound : Found id text (exactly text') := by
    rw [← h]
    exact (found_exactly id text text).2 rfl
  have hsame := (found_exactly id text text').1 hfound
  rwa [List.map_id, List.map_id] at hsame

theorem otherThan_inj {text text' : List Char} (h : otherThan text = otherThan text') :
    text = text' := by
  change Expression.seq .atStart (.seq (.unless (exactly text)) _) =
    .seq .atStart (.seq (.unless (exactly text')) _) at h
  injection h with _ h
  injection h with h _
  injection h with h
  exact exactly_inj h

theorem exactly_ne_otherThan (text text' : List Char) : exactly text ≠ otherThan text' := by
  cases text with
  | nil => exact fun h => nomatch h
  | cons c text => exact fun h => nomatch h

/-! ### The pattern of a value -/

/-- What a literal value asks for. -/
def ofLiteral (w : Wanted) : Expression :=
  if w.negated then otherThan w.pattern.toList else exactly w.pattern.toList

theorem ofLiteral_inj {w w' : Wanted} (h : ofLiteral w = ofLiteral w') : w = w' := by
  obtain ⟨pattern, negated⟩ := w
  obtain ⟨pattern', negated'⟩ := w'
  cases negated with
  | false =>
    cases negated' with
    | false =>
      have htext : pattern = pattern' := String.toList_inj.1 (exactly_inj h)
      rw [htext]
    | true => exact absurd h (exactly_ne_otherThan _ _)
  | true =>
    cases negated' with
    | false => exact absurd h.symm (exactly_ne_otherThan _ _)
    | true =>
      have htext : pattern = pattern' := String.toList_inj.1 (otherThan_inj h)
      rw [htext]

theorem readIn_exactPattern (s : Scope) (around : List Scope) (value : String) (text : List Char) :
    readIn s around ((exactPattern value).toList ++ text) =
      readIn ⟨true, (.atStart :: (value.toList.map (Expression.char true) ++ [.atEnd])).reverse ++ s.pieces⟩
        around text := by
  have htext : (exactPattern value).toList ++ text =
      '(' :: '?' :: 'i' :: ')' :: '^' :: (value.toList.flatMap escapeChar ++ '$' :: text) := by
    simp [exactPattern, escape]
  rw [htext, readIn, readIn, readIn_escape, readIn, Scope.pushChars_eq]
  simp [Scope.push]

/-- The pattern of a literal value is read as what the value asks for. -/
theorem read?_valuePattern {w : Wanted} (h : isRegex w.pattern = false) :
    read? (valuePattern w) = some (ofLiteral w) := by
  have hpattern : valuePattern w =
      if w.negated then negate (exactPattern w.pattern) else exactPattern w.pattern := by
    simp [valuePattern, h]
  rw [hpattern, ofLiteral, read?]
  cases w.negated with
  | false =>
    have hread := readIn_exactPattern ⟨false, []⟩ [] w.pattern []
    rw [List.append_nil] at hread
    rw [if_neg Bool.false_ne_true, if_neg Bool.false_ne_true, hread, readIn]
    simp [Scope.expression, exactly]
  | true =>
    have htext : (negate (exactPattern w.pattern)).toList =
        '^' :: '(' :: '?' :: '!' :: ((exactPattern w.pattern).toList ++ [')', '.', '*', '$']) := by
      simp [negate]
    rw [if_pos rfl, if_pos rfl, htext, readIn, readIn, readIn_exactPattern, readIn, readIn]
    simp [readIn, Scope.push, Scope.expression, exactly, otherThan]

end Expression

/-- That a value asks for its own text, or for any other text of one line if it is negated, in the pattern that
a condition on a header or on a query parameter gets. -/
structure AsksForText (w : Wanted) : Prop where
  header : w.isBlank = false → ∀ name source,
    (translateCriterion ⟨.header name, w⟩ source).value = .header name (valuePattern w)
  argument : w.isBlank = false → ∀ name source,
    (translateCriterion ⟨.argument name, w⟩ source).value = .queryParam name (valuePattern w)
  means : ∃ e, Expression.read? (valuePattern w) = some e ∧ ∀ (fold : Char → Char) (subject : String),
    (w.negated = false →
      (e.Found fold subject.toList ↔ SameUpTo fold subject w.pattern)) ∧
    (w.negated = true →
      (e.Found fold subject.toList ↔ '\n' ∉ subject.toList ∧ ¬ SameUpTo fold subject w.pattern))
  distinct : ∀ w' : Wanted, isRegex w'.pattern = false → valuePattern w' = valuePattern w → w' = w

/-- The characters that make a value an expression are fewer than those that are escaped, and the value is
pasted between an anchor, a flag and a group; but no literal value breaks out of its pattern. -/
theorem asksForText_of_literal {w : Wanted} (h : isRegex w.pattern = false) : AsksForText w where
  header hblank name source := by
    rw [value_translateCriterion, Literal.ofCriterion?, if_neg (by rw [hblank]; exact Bool.false_ne_true)]
    rfl
  argument hblank name source := by
    rw [value_translateCriterion, Literal.ofCriterion?, if_neg (by rw [hblank]; exact Bool.false_ne_true)]
    rfl
  means := by
    refine ⟨.ofLiteral w, Expression.read?_valuePattern h, fun fold subject => ⟨fun hn => ?_, fun hn => ?_⟩⟩
    · rw [Expression.ofLiteral, hn]
      exact Expression.found_exactly fold subject.toList w.pattern.toList
    · rw [Expression.ofLiteral, hn]
      exact Expression.found_otherThan fold subject.toList w.pattern.toList
  distinct w' h' heq := by
    have hread := Expression.read?_valuePattern h'
    rw [heq, Expression.read?_valuePattern h] at hread
    exact (Expression.ofLiteral_inj (Option.some.inj hread)).symm

/-- A value whose characters are escaped although they make no expression. -/
theorem asksForText_braces :
    let w : Wanted := ⟨"a-\x7b1\x7d~#", true⟩
    isRegex w.pattern = false ∧ valuePattern w = "^(?!(?i)^a\\-\\\x7b1\\\x7d\\~\\#$).*$" ∧
      AsksForText w := by
  intro w
  have h : isRegex w.pattern = false := by decide
  exact ⟨h, by decide, asksForText_of_literal h⟩

end IngressGateway.Matching
