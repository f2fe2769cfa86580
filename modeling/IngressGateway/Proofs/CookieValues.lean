import IngressGateway.Proofs.CookiePatterns

/-!
Cookies whose values are expressions. Such a value is pasted between the name of the cookie and the rest of the
header as it is. What it writes is read behind the name, so that a bar outside of groups parts the name from the
rest of the value, and a quantifier at its start repeats the equals sign. Unless a value does either, a header
that its pattern finds carries the cookie.
-/

set_option autoImplicit false

namespace IngressGateway.Matching

/-- That a header has a cookie of a name, up to letter case. -/
def CarriesCookie (d : Dialect) (name : String) (header : List Char) : Prop :=
  ∃ before taken after, header = before ++ taken ++ after ∧
    taken.map d.fold = (name.toList ++ ['=']).map d.fold

namespace Regex

/-- Whether a piece takes a character at least once, and nothing else. -/
def demands (c : Char) : Regex → Bool
  | .char _ x => x = c
  | .times (.char _ x) least _ => x = c ∧ 0 < least
  | _ => false

/-- Any start of a line, and a name behind it. -/
def named (name : String) : List Regex := [line] ++ chars true name.toList

/-- The alternatives that a value writes behind an equals sign. -/
def valueAlternatives? (value : String) : Option (List (List Regex)) :=
  alternatives? true ('=' :: (value.toList ++ ['.', '*']))

end Regex

/-- Whether a value stays behind the name of its cookie: it writes one alternative only, which needs the equals
sign. -/
def staysBehindName (value : String) : Bool :=
  match Regex.valueAlternatives? value with
  | none => true
  | some [e :: _] => e.demands '='
  | some _ => false

/-- How the pattern for a value that is not negated is read, and what it finds. -/
structure FindsCookie (name value : String) : Prop where
  condition : value ≠ "" → ∀ source, (translateCriterion ⟨.cookie name, ⟨value, false⟩⟩ source).value =
    .header cookieHeader (cookiePattern name ⟨value, false⟩)
  literal : isRegex value = false → ∃ e, Regex.read? (cookiePattern name ⟨value, false⟩) = some e ∧
    ∀ d header, e.Found d header ↔ HasWord d true (cookieText name value) header
  spliced : isRegex value = true → Regex.read? (cookiePattern name ⟨value, false⟩) =
    (Regex.valueAlternatives? value).map fun as =>
      .ofAlternatives (as.modifyHead (Regex.named name ++ ·))
  /-- An alternative behind a bar is searched for by itself, wherever the cookie is. -/
  strays : isRegex value = true → ∀ first others,
    Regex.valueAlternatives? value = some (first :: others) → ∀ a ∈ others, ∀ d header,
      (Regex.ofPieces a).Found d header →
        ∃ e, Regex.read? (cookiePattern name ⟨value, false⟩) = some e ∧ e.Found d header
  carries : (isRegex value = true → staysBehindName value = true) →
    ∀ e, Regex.read? (cookiePattern name ⟨value, false⟩) = some e → ∀ d header, e.Found d header →
      CarriesCookie d name header

namespace Regex

variable {d : Dialect}

theorem alternatives?_spliced (name : String) {value : String} (h : isRegex value = true) :
    alternatives? false (cookiePattern name ⟨value, false⟩).toList =
      (valueAlternatives? value).map fun as => as.modifyHead (named name ++ ·) := by
  let start : List Char := "(?i).*".toList
  let rest : List Char := value.toList ++ ['.', '*']
  let r : Reader := ⟨⟨.plain, true, [], [line]⟩, [], .next none false⟩
  have hequals : '=' ∉ operators := by decide
  have hquantifiers : '=' ∉ quantifiers := by decide
  have htext : (cookiePattern name ⟨value, false⟩).toList =
      start ++ (name.toList.flatMap escapeChar ++ '=' :: rest) := by
    simp [cookiePattern, cookiePair, h, escape, start, rest]
  have hstart : (Reader.start false).SettlesAs start r := ⟨_, rfl, none, true, rfl, rfl⟩
  have hnamed : r.add (chars r.anyCase name.toList) = (Reader.start true).graft (named name) := by
    change Reader.mk ⟨.plain, true, [], named name⟩ [] (.next none false) =
      Reader.mk ⟨.plain, true, [], named name ++ []⟩ [] (.next none false)
    rw [List.append_nil]
  have hblank : (Reader.start true).IsSettledAs (Reader.start true) := ⟨none, false, rfl, rfl⟩
  -- The equals sign and the value are read as they would be without the name in front.
  have hread : (Reader.start false).read? (start ++ (name.toList.flatMap escapeChar ++ '=' :: rest)) =
      ((Reader.start true).read? ('=' :: rest)).map (Reader.graft (named name)) := by
    rw [hstart.read?_escape name.toList hquantifiers, hnamed, ← Reader.read?_graft, Reader.read?_cons,
      Reader.step?_graft, hblank.step? hquantifiers, Reader.begin?_graft]
  rw [alternatives?, htext, hread, valueAlternatives?, alternatives?, Option.bind_map, Option.map_bind]
  exact Option.bind_congr fun r' _ => r'.finish?_graft (named name)

/-- A piece that demands a character starts with it. -/
theorem exists_passes_of_demands {c : Char} {e : Regex} (he : e.demands c = true) {p q : Place}
    (h : Spans d e p q) : ∃ x m, p.Passes [x] m ∧ d.fold x = d.fold c := by
  have hchar : ∀ {anyCase y q}, y = c → Spans d (.char anyCase y) p q →
      ∃ x m, p.Passes [x] m ∧ d.fold x = d.fold c := by
    rintro anyCase y q rfl ⟨x, hx, hfold⟩
    refine ⟨x, q, hx, ?_⟩
    cases anyCase with
    | true => exact hfold
    | false => exact congrArg d.fold hfold
  unfold demands at he
  split at he
  · exact hchar (of_decide_eq_true he) h
  · obtain ⟨hy, hleast⟩ := of_decide_eq_true he
    obtain ⟨n, hn, _, hchain⟩ := h
    cases n with
    | zero => exact absurd hn (by omega)
    | succ n =>
      obtain ⟨m, hfirst, _⟩ := hchain
      exact hchar hy hfirst
  · cases he

theorem carriesCookie_of_found {name : String} {e : Regex} {es : List Regex} {text : List Char}
    (he : e.demands '=' = true) (h : Found d (ofPieces (named name ++ e :: es)) text) :
    CarriesCookie d name text := by
  obtain ⟨p, q, rfl, h⟩ := h
  obtain ⟨m, hnamed, k, hequals, _⟩ := spans_append.1 h
  obtain ⟨l, hline, hchars⟩ := spans_append.1 hnamed
  obtain ⟨skipped, _, hl⟩ := spans_line.1 (spans_singleton.1 hline)
  obtain ⟨taken, htaken, hm⟩ := spans_chars.1 hchars
  obtain ⟨x, n, hx, hfold⟩ := exists_passes_of_demands he hequals
  refine ⟨p.before ++ skipped, taken ++ [x], n.after, ?_, ?_⟩
  · rw [hl.after, hm.after, hx.after]
    simp only [List.append_assoc]
  · rw [List.map_append, List.map_append, List.map_singleton, List.map_singleton, hfold]
    exact congrArg (· ++ [d.fold '=']) htaken

end Regex

theorem carriesCookie_of_hasWord {d : Dialect} {name value : String} {header : List Char}
    (h : HasWord d true (cookieText name value) header) : CarriesCookie d name header := by
  obtain ⟨before, taken, after, rfl, htaken, _⟩ := h
  have hcookie : cookieText name value = (name.toList ++ ['=']) ++ value.toList := by simp [cookieText]
  rw [hcookie, List.map_append] at htaken
  obtain ⟨start, rest, rfl, hstart, _⟩ := List.map_eq_append_iff.1 htaken
  refine ⟨before, start, rest ++ after, ?_, hstart⟩
  simp only [List.append_assoc]

/-- A value that is pasted behind the name of its cookie as it is need not stay there. -/
theorem findsCookie (name value : String) : FindsCookie name value where
  condition hvalue source := by
    refine value_translateCookie name ?_ source
    simpa [Ingress.Wanted.isBlank] using hvalue
  literal h :=
    ⟨_, Regex.read?_plainCookie h, fun d header => Regex.found_lineWith (cookieText name value) header⟩
  spliced h := by
    rw [Regex.read?, Regex.alternatives?_spliced name h, Option.map_map]
    rfl
  strays h first others halternatives a ha d header hfound := by
    refine ⟨.ofAlternatives ((Regex.named name ++ first) :: others), ?_, ?_⟩
    · rw [Regex.read?, Regex.alternatives?_spliced name h, halternatives]
      rfl
    · exact Regex.found_ofAlternatives.2 ⟨a, List.mem_cons_of_mem _ ha, hfound⟩
  carries hstays e hread d header hfound := by
    cases h : isRegex value with
    | false =>
      rw [Regex.read?_plainCookie h] at hread
      cases hread
      exact carriesCookie_of_hasWord ((Regex.found_lineWith _ header).1 hfound)
    | true =>
      have hvalue := hstays h
      rw [Regex.read?, Regex.alternatives?_spliced name h] at hread
      unfold staysBehindName at hvalue
      split at hvalue
      case h_1 hnone =>
        rw [hnone] at hread
        cases hread
      case h_2 first others hsome =>
        rw [hsome] at hread
        cases hread
        exact Regex.carriesCookie_of_found hvalue hfound
      case h_3 => cases hvalue

example : ["a|b", "*", "?b"].map staysBehindName = [false, false, false] := by decide

example : ["(a|b)+", "[a|b]c", "a\\|b", "+", "^"].map staysBehindName = [true, true, true, true, true] := by
  decide

/-- A value of two alternatives. Its pattern finds the second one in a header without any cookie. -/
theorem found_without_cookie :
    let value := "a|b"
    isRegex value = true ∧ ∃ e, Regex.read? (cookiePattern "session" ⟨value, false⟩) = some e ∧
      e.Found .ascii ['b'] ∧ ¬ CarriesCookie .ascii "session" ['b'] := by
  intro value
  have hregex : isRegex value = true := by decide
  have halternatives : Regex.valueAlternatives? value =
      some [[.char true '=', .char true 'a'], [.char true 'b', Regex.line]] := by decide
  have hread : Regex.read? (cookiePattern "session" ⟨value, false⟩) =
      some (.ofAlternatives [Regex.named "session" ++ [.char true '=', .char true 'a'],
        [.char true 'b', Regex.line]]) := by
    rw [Regex.read?, Regex.alternatives?_spliced "session" hregex, halternatives]
    rfl
  have hfound : (Regex.ofPieces [.char true 'b', Regex.line]).Found .ascii ['b'] := by
    have htaken : Place.Passes ⟨[], ['b']⟩ ['b'] ⟨['b'], []⟩ := ⟨rfl, rfl⟩
    have hline : Regex.Spans .ascii Regex.line ⟨['b'], []⟩ ⟨['b'], []⟩ :=
      Regex.spans_line.2 ⟨[], List.not_mem_nil, Place.passes_nil.2 rfl⟩
    exact ⟨_, _, rfl, _, ⟨'b', htaken, rfl⟩, Regex.spans_singleton.2 hline⟩
  have hcarries : ¬ CarriesCookie .ascii "session" ['b'] := by
    rintro ⟨before, taken, after, htext, htaken⟩
    have hlength := congrArg List.length htext
    have hlength' := congrArg List.length htaken
    simp at hlength hlength'
    omega
  refine ⟨hregex, _, hread, Regex.found_ofAlternatives.2 ⟨_, ?_, hfound⟩, hcarries⟩
  exact List.mem_cons_of_mem _ (List.mem_singleton_self _)

end IngressGateway.Matching
