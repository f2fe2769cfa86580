import IngressGateway.Proofs.ExpressionText
import IngressGateway.Proofs.Literals

/-!
The patterns of cookies with literal values. A cookie is searched for as a word within the header that carries
all of them: its name, an equals sign and its value. The plain pattern leaves letter case out of account, but
the one for a negated value does not. So the second is the complement of the first on all headers but those
which have the cookie in another letter case only: these match both.
-/

set_option autoImplicit false

namespace IngressGateway.Matching

open Ingress (Wanted)

/-- That a text has a stretch which is `word`, up to letter case if `anyCase`, and begins and ends at an edge. -/
def HasWord (d : Dialect) (anyCase : Bool) (word text : List Char) : Prop :=
  ∃ before taken after, text = before ++ taken ++ after ∧
    taken.map (d.folds anyCase) = word.map (d.folds anyCase) ∧
    d.IsEdge before (taken ++ after) ∧ d.IsEdge (before ++ taken) after

theorem hasWord_anyCase {d : Dialect} {word text : List Char} (h : HasWord d false word text) :
    HasWord d true word text := by
  obtain ⟨before, taken, after, htext, htaken, hstart, hend⟩ := h
  exact ⟨before, taken, after, htext, d.map_folds_of_eq htaken true, hstart, hend⟩

/-- A cookie as it stands in the header. -/
def cookieText (name value : String) : List Char := name.toList ++ '=' :: value.toList

namespace Regex

variable {d : Dialect}

/-! ### What the expressions find -/

def word (anyCase : Bool) (cs : List Char) : List Regex :=
  [.edge false] ++ (chars anyCase cs ++ [.edge false])

def lineWith (cs : List Char) : List Regex := [line] ++ word true cs ++ [line]

def lineWithout (cs : List Char) : List Regex :=
  [.atStart, .ahead true (ofPieces ([line] ++ word false cs)), line, .atEnd]

theorem spans_word {anyCase : Bool} {cs : List Char} {p q : Place} :
    Spans d (ofPieces (word anyCase cs)) p q ↔
      d.IsEdge p.before p.after ∧ d.IsEdge q.before q.after ∧
        ∃ taken, taken.map (d.folds anyCase) = cs.map (d.folds anyCase) ∧ p.Passes taken q := by
  rw [word, spans_append]
  constructor
  · rintro ⟨m, hedge, h⟩
    obtain ⟨rfl, hstart⟩ := spans_singleton.1 hedge
    obtain ⟨k, hchars, hedge⟩ := spans_append.1 h
    obtain ⟨rfl, hend⟩ := spans_singleton.1 hedge
    exact ⟨hstart.2 rfl, hend.2 rfl, spans_chars.1 hchars⟩
  · rintro ⟨hstart, hend, h⟩
    refine ⟨p, spans_singleton.2 ⟨rfl, iff_of_true hstart rfl⟩, spans_append.2 ⟨q, spans_chars.2 h, ?_⟩⟩
    exact spans_singleton.2 ⟨rfl, iff_of_true hend rfl⟩

/-- Behind any stretch of a line there is a word if the text has one there. -/
theorem exists_spans_line_word {anyCase : Bool} {cs : List Char} {p : Place} :
    (∃ q, Spans d (ofPieces ([line] ++ word anyCase cs)) p q) ↔
      ∃ skipped taken after, p.after = skipped ++ (taken ++ after) ∧ '\n' ∉ skipped ∧
        taken.map (d.folds anyCase) = cs.map (d.folds anyCase) ∧
        d.IsEdge (p.before ++ skipped) (taken ++ after) ∧ d.IsEdge (p.before ++ skipped ++ taken) after := by
  constructor
  · rintro ⟨q, h⟩
    obtain ⟨m, hline, hword⟩ := spans_append.1 h
    obtain ⟨skipped, hskipped, hm⟩ := spans_line.1 (spans_singleton.1 hline)
    obtain ⟨hstart, hend, taken, htaken, hq⟩ := spans_word.1 hword
    rw [hq.before, hm.before] at hend
    rw [hm.before, hq.after] at hstart
    refine ⟨skipped, taken, q.after, ?_, hskipped, htaken, hstart, hend⟩
    rw [hm.after, hq.after]
  · rintro ⟨skipped, taken, after, hafter, hskipped, htaken, hstart, hend⟩
    refine ⟨⟨p.before ++ skipped ++ taken, after⟩, spans_append.2 ⟨⟨p.before ++ skipped, taken ++ after⟩, ?_, ?_⟩⟩
    · exact spans_singleton.2 (spans_line.2 ⟨skipped, hskipped, hafter, rfl⟩)
    · exact spans_word.2 ⟨hstart, hend, taken, htaken, rfl, rfl⟩

theorem found_lineWith (cs text : List Char) :
    Found d (ofPieces (lineWith cs)) text ↔ HasWord d true cs text := by
  constructor
  · rintro ⟨p, q, rfl, h⟩
    obtain ⟨m, h, _⟩ := spans_append.1 h
    obtain ⟨skipped, taken, after, hafter, _, htaken, hstart, hend⟩ := exists_spans_line_word.1 ⟨m, h⟩
    refine ⟨p.before ++ skipped, taken, after, ?_, htaken, hstart, hend⟩
    rw [hafter, List.append_assoc, List.append_assoc]
  · rintro ⟨before, taken, after, rfl, htaken, hstart, hend⟩
    have hword : ∃ q, Spans d (ofPieces ([line] ++ word true cs)) ⟨before, taken ++ after⟩ q := by
      refine exists_spans_line_word.2 ⟨[], taken, after, rfl, List.not_mem_nil, htaken, ?_, ?_⟩
      · rwa [List.append_nil]
      · rwa [List.append_nil]
    obtain ⟨q, hq⟩ := hword
    have hline : Spans d line q q := spans_line.2 ⟨[], List.not_mem_nil, Place.passes_nil.2 rfl⟩
    refine ⟨_, q, ?_, spans_append.2 ⟨q, hq, spans_singleton.2 hline⟩⟩
    exact (List.append_assoc before taken after).symm

theorem found_lineWithout (cs text : List Char) :
    Found d (ofPieces (lineWithout cs)) text ↔ '\n' ∉ text ∧ ¬ HasWord d false cs text := by
  constructor
  · rintro ⟨p, q, rfl, m, ⟨rfl, hstart⟩, k, ⟨rfl, hahead⟩, h⟩
    obtain ⟨l, hline, hend⟩ := h
    obtain ⟨taken, htaken, hl⟩ := spans_line.1 hline
    obtain ⟨rfl, hend⟩ := spans_singleton.1 hend
    have hafter := hl.after
    rw [hend, List.append_nil] at hafter
    have hnone : ¬ ∃ q, Spans d (ofPieces ([line] ++ word false cs)) k q := by
      intro hsome
      cases hahead.1 hsome
    rw [hstart, List.nil_append, hafter]
    refine ⟨htaken, ?_⟩
    rintro ⟨before, word, after, htext, hword, hedge, hedge'⟩
    have hbefore : '\n' ∉ before := by
      intro hmem
      rw [htext] at htaken
      exact htaken (List.mem_append_left _ (List.mem_append_left _ hmem))
    refine hnone (exists_spans_line_word.2 ⟨before, word, after, ?_, hbefore, hword, ?_, ?_⟩)
    · rw [hafter, htext, List.append_assoc]
    · rwa [hstart, List.nil_append]
    · rwa [hstart, List.nil_append]
  · rintro ⟨hline, hword⟩
    have hnone : ¬ ∃ q, Spans d (ofPieces ([line] ++ word false cs)) ⟨[], text⟩ q := by
      intro hsome
      obtain ⟨skipped, taken, after, hafter, _, htaken, hstart, hend⟩ := exists_spans_line_word.1 hsome
      refine hword ⟨skipped, taken, after, ?_, htaken, hstart, hend⟩
      rw [List.append_assoc]
      exact hafter
    have hahead : Spans d (.ahead true (ofPieces ([line] ++ word false cs))) ⟨[], text⟩ ⟨[], text⟩ :=
      ⟨rfl, iff_of_false hnone Bool.false_ne_true.symm⟩
    have hpasses : Place.Passes ⟨[], text⟩ text ⟨text, []⟩ := ⟨(List.append_nil text).symm, rfl⟩
    refine ⟨⟨[], text⟩, ⟨text, []⟩, rfl, _, ⟨rfl, rfl⟩, _, hahead, _, spans_line.2 ⟨text, hline, hpasses⟩, ?_⟩
    exact spans_singleton.2 ⟨rfl, rfl⟩

/-! ### How the patterns are read -/

theorem toList_cookiePair {name value : String} (negated : Bool) (h : isRegex value = false) :
    (cookiePair name ⟨value, negated⟩).toList =
      '\\' :: 'b' :: ((cookieText name value).flatMap escapeChar ++ ['\\', 'b']) := by
  simp [cookiePair, h, escape, cookieText]

theorem backslash_not_mem_quantifiers : '\\' ∉ quantifiers := by decide

theorem read?_plainCookie {name value : String} (h : isRegex value = false) :
    read? (cookiePattern name ⟨value, false⟩) = some (ofPieces (lineWith (cookieText name value))) := by
  let cs := cookieText name value
  let start : List Char := "(?i).*\\b".toList
  let r : Reader := ⟨⟨.plain, true, [], [line, .edge false]⟩, [], .next none false⟩
  have htext : (cookiePattern name ⟨value, false⟩).toList =
      start ++ (cs.flatMap escapeChar ++ '\\' :: ['b', '.', '*']) := by
    simp [cookiePattern, toList_cookiePair false h, start, cs]
  have hstart : (Reader.start false).SettlesAs start r := ⟨_, rfl, some (.edge false), false, rfl, rfl⟩
  have hpieces : [line, .edge false] ++ chars true cs ++ [.edge false] ++ [line] ++ [] = lineWith cs := by
    simp [lineWith, word]
  have halternatives : alternatives? false (cookiePattern name ⟨value, false⟩).toList = some [lineWith cs] := by
    rw [alternatives?, htext, hstart.read?_escape cs backslash_not_mem_quantifiers, ← hpieces]
    rfl
  rw [read?, halternatives]
  rfl

theorem read?_negatedCookie {name value : String} (h : isRegex value = false) :
    read? (cookiePattern name ⟨value, true⟩) = some (ofPieces (lineWithout (cookieText name value))) := by
  let cs := cookieText name value
  let start : List Char := "^(?!.*\\b".toList
  let r : Reader := ⟨⟨.plain, false, [], [.atStart]⟩, [⟨.ahead true, false, [], [line, .edge false]⟩],
    .next none false⟩
  have htext : (cookiePattern name ⟨value, true⟩).toList =
      start ++ (cs.flatMap escapeChar ++ '\\' :: ['b', ')', '.', '*', '$']) := by
    simp [cookiePattern, toList_cookiePair true h, start, cs]
  have hstart : (Reader.start false).SettlesAs start r := ⟨_, rfl, some (.edge false), false, rfl, rfl⟩
  have hpieces : [line, .edge false] ++ chars false cs ++ [.edge false] = [line] ++ word false cs := by
    simp [word]
  have halternatives : alternatives? false (cookiePattern name ⟨value, true⟩).toList =
      some [lineWithout cs] := by
    rw [alternatives?, htext, hstart.read?_escape cs backslash_not_mem_quantifiers, lineWithout, ← hpieces]
    rfl
  rw [read?, halternatives]
  rfl

end Regex

/-! ### The two patterns of a value -/

/-- That a text has a word in another letter case only. -/
def HasWordInOtherCase (d : Dialect) (word text : List Char) : Prop :=
  HasWord d true word text ∧ ¬ HasWord d false word text

/-- That of the conditions on a cookie which ask for a value and for anything else, each gets its pattern, and
what the two patterns find. -/
structure Complements (name value : String) : Prop where
  plain : value ≠ "" → ∀ source, (translateCriterion ⟨.cookie name, .ofText value⟩ source).value =
    .header cookieHeader (cookiePattern name (.ofText value))
  negated : ∀ source, (translateCriterion ⟨.cookie name, .ofText ("!" ++ value)⟩ source).value =
    .header cookieHeader (cookiePattern name (.ofText ("!" ++ value)))
  means : ∃ e f, Regex.read? (cookiePattern name (.ofText value)) = some e ∧
    Regex.read? (cookiePattern name (.ofText ("!" ++ value))) = some f ∧ ∀ (d : Dialect) (header : List Char),
      (e.Found d header ↔ HasWord d true (cookieText name value) header) ∧
      ('\n' ∉ header → (f.Found d header ↔ ¬ HasWord d false (cookieText name value) header)) ∧
      ('\n' ∉ header →
        ((f.Found d header ↔ ¬ e.Found d header) ↔ ¬ HasWordInOtherCase d (cookieText name value) header))

theorem value_translateCookie (name : String) {w : Wanted} (h : w.isBlank = false) (source : ObjectRef) :
    (translateCriterion ⟨.cookie name, w⟩ source).value = .header cookieHeader (cookiePattern name w) := by
  rw [value_translateCriterion, Literal.ofCriterion?, if_neg (by rw [h]; exact Bool.false_ne_true)]
  rfl

theorem ofText_of_head?_ne {value : String} (h : value.toList.head? ≠ some '!') :
    Wanted.ofText value = ⟨value, false⟩ := by
  unfold Wanted.ofText
  split
  · simp_all
  · rfl

theorem ofText_mark (value : String) : Wanted.ofText ("!" ++ value) = ⟨value, true⟩ := by
  simp [Wanted.ofText]

/-- Only the plain pattern leaves letter case out of account. -/
theorem complements_of_literal (name : String) {value : String} (hliteral : isRegex value = false)
    (hmark : value.toList.head? ≠ some '!') : Complements name value where
  plain hvalue source := by
    refine value_translateCookie name ?_ source
    rw [ofText_of_head?_ne hmark]
    simpa [Wanted.isBlank] using hvalue
  negated source := by
    refine value_translateCookie name ?_ source
    rw [ofText_mark]
    exact Bool.and_false _
  means := by
    rw [ofText_of_head?_ne hmark, ofText_mark]
    refine ⟨_, _, Regex.read?_plainCookie hliteral, Regex.read?_negatedCookie hliteral, fun d header => ?_⟩
    have hplain := Regex.found_lineWith (d := d) (cookieText name value) header
    have hnegated := Regex.found_lineWithout (d := d) (cookieText name value) header
    refine ⟨hplain, fun hline => ?_, fun hline => ?_⟩
    · rw [hnegated, and_iff_right hline]
    · have hcase : HasWord d false (cookieText name value) header →
          HasWord d true (cookieText name value) header := hasWord_anyCase
      rw [hnegated, and_iff_right hline, hplain, HasWordInOtherCase]
      tauto

/-- A name and a value of which several characters are escaped. -/
theorem complements_escaped :
    let value := "a-\x7b1\x7d~#"
    isRegex value = false ∧ value.toList.head? ≠ some '!' ∧
      cookiePattern "user.id" (.ofText ("!" ++ value)) = "^(?!.*\\buser\\.id=a\\-\\\x7b1\\\x7d\\~\\#\\b).*$" ∧
      Complements "user.id" value := by
  intro value
  have hliteral : isRegex value = false := by decide
  have hmark : value.toList.head? ≠ some '!' := by decide
  exact ⟨hliteral, hmark, by decide, complements_of_literal "user.id" hliteral hmark⟩

/-- A header with the cookie in capitals. A value and its negation both find it. -/
theorem found_by_both_capitals :
    let header := "session=ABC".toList
    '\n' ∉ header ∧ ∃ e f, Regex.read? (cookiePattern "session" (.ofText "abc")) = some e ∧
      Regex.read? (cookiePattern "session" (.ofText "!abc")) = some f ∧
      e.Found .ascii header ∧ f.Found .ascii header := by
  intro header
  have hline : '\n' ∉ header := by decide
  have hliteral : isRegex "abc" = false := by decide
  have hword : HasWord .ascii true (cookieText "session" "abc") header :=
    ⟨[], header, [], by decide, by decide, by decide, by decide⟩
  have hexact : ¬ HasWord .ascii false (cookieText "session" "abc") header := by
    rintro ⟨before, taken, after, htext, htaken, _⟩
    have hsmall : 'a' ∈ taken := by
      have hid : Dialect.ascii.folds false = id := rfl
      rw [hid, List.map_id, List.map_id] at htaken
      rw [htaken]
      decide
    have hheader : 'a' ∈ header := by
      rw [htext]
      exact List.mem_append_left _ (List.mem_append_right _ hsmall)
    revert hheader
    decide
  refine ⟨hline, _, _, Regex.read?_plainCookie hliteral, Regex.read?_negatedCookie hliteral, ?_, ?_⟩
  · exact (Regex.found_lineWith _ header).2 hword
  · exact (Regex.found_lineWithout _ header).2 ⟨hline, hexact⟩

end IngressGateway.Matching
