import IngressGateway.Proofs.PatternLanguage
import IngressGateway.Proofs.RegularExpressions
import IngressGateway.Text.Cut
import IngressGateway.Text.Digits

/-!
Reading regular expressions. A text is read character by character; what has been read of the groups that are
still open is kept, and the latest piece apart from the others, because a quantifier may follow. A bar ends an
alternative of the innermost open group, so that it binds weaker than anything else. Nothing that is read later
changes pieces which have been put away: an expression pasted behind a text extends the first alternative only.
-/

set_option autoImplicit false

namespace IngressGateway.Matching

namespace Regex

inductive GroupKind where
  | plain
  | ahead (negated : Bool)
deriving DecidableEq, Repr

/-- A group as far as it is read: its finished alternatives and the pieces of the one that is not. -/
structure Group where
  kind : GroupKind
  anyCase : Bool
  earlier : List (List Regex)
  pieces : List Regex
deriving DecidableEq, Repr

namespace Group

def blank (kind : GroupKind) (anyCase : Bool) : Group := ⟨kind, anyCase, [], []⟩

def add (g : Group) (es : List Regex) : Group := { g with pieces := g.pieces ++ es }

def bar (g : Group) : Group := { g with earlier := g.earlier ++ [g.pieces], pieces := [] }

def ignoreCase (g : Group) : Group := { g with anyCase := true }

def alternatives (g : Group) : List (List Regex) := g.earlier ++ [g.pieces]

def expression (g : Group) : Regex :=
  match g.kind with
  | .plain => ofAlternatives g.alternatives
  | .ahead negated => .ahead negated (ofAlternatives g.alternatives)

/-- The group with more pieces at its very start. -/
def graft (base : List Regex) (g : Group) : Group :=
  match g.earlier with
  | [] => { g with pieces := base ++ g.pieces }
  | first :: others => { g with earlier := (base ++ first) :: others }

end Group

inductive Mode where
  /-- Between pieces. A quantifier would repeat `last`; behind one, a question mark changes nothing. -/
  | next (last : Option Regex) (quantified : Bool)
  | escaped
  /-- Within braces behind `last`. -/
  | counting (last : Regex) (text : List Char)
  /-- Within brackets. -/
  | listing (text : List Char) (escaped : Bool)
  | opened
  | marked
  | flagged
deriving DecidableEq, Repr

structure Reader where
  outer : Group
  /-- The open groups, the innermost first. -/
  inner : List Group
  mode : Mode
deriving DecidableEq, Repr

/-! ### Small parts of the text -/

def readKind? : Char → Option Member
  | 'd' => some (.kind .digit false)
  | 'D' => some (.kind .digit true)
  | 's' => some (.kind .blank false)
  | 'S' => some (.kind .blank true)
  | 'w' => some (.kind .word false)
  | 'W' => some (.kind .word true)
  | _ => none

/-- The character that a backslash and another character stand for. -/
def readEscapedChar? (c : Char) : Option Char :=
  if Expression.isPunctuation c then some c
  else match c with
    | 'n' => some '\n'
    | 'r' => some '\r'
    | 't' => some '\t'
    | _ => none

def readEscape? (anyCase : Bool) (c : Char) : Option Regex :=
  match readEscapedChar? c with
  | some x => some (.char anyCase x)
  | none =>
    match c with
    | 'b' => some (.edge false)
    | 'B' => some (.edge true)
    | _ => (readKind? c).map fun m => .oneOf anyCase false [m]

/-- How often a piece is repeated at least and at most, from the text between braces. -/
def readCount? (text : List Char) : Option (Nat × Option Nat) :=
  match Text.pieces ',' text with
  | [exact] => if exact = [] then none else (Text.readIn? 10 exact).map fun n => (n, some n)
  | [least, most] =>
    if least = [] then none
    else if most = [] then (Text.readIn? 10 least).map fun n => (n, none)
    else do
      let n ← Text.readIn? 10 least
      let m ← Text.readIn? 10 most
      if n ≤ m then some (n, some m) else none
  | _ => none

def readMembers? : List Char → Option (List Member)
  | [] => some []
  | '\\' :: c :: text => do
    let m ← (readEscapedChar? c).map (fun x => Member.range x x) <|> readKind? c
    let ms ← readMembers? text
    return m :: ms
  | c :: '-' :: last :: text =>
    if c ≤ last ∧ last ≠ '\\' then (readMembers? text).map (.range c last :: ·) else none
  | c :: text => (readMembers? text).map (.range c c :: ·)

def readClass? (anyCase : Bool) : List Char → Option Regex
  | '^' :: text => (readMembers? text).map (.oneOf anyCase true)
  | text => (readMembers? text).map (.oneOf anyCase false)

/-! ### One character at a time -/

namespace Reader

def start (anyCase : Bool) : Reader := ⟨.blank .plain anyCase, [], .next none false⟩

/-- The reader with the innermost open group changed. -/
def change (r : Reader) (f : Group → Group) : Reader :=
  match r.inner with
  | [] => { r with outer := f r.outer }
  | g :: gs => { r with inner := f g :: gs }

def anyCase (r : Reader) : Bool := (r.inner.head?.getD r.outer).anyCase

def into (r : Reader) (mode : Mode) : Reader := { r with mode }

def enter (r : Reader) (kind : GroupKind) (anyCase : Bool) : Reader :=
  ⟨r.outer, .blank kind anyCase :: r.inner, .next none false⟩

def leave? (r : Reader) : Option Reader :=
  match r.inner with
  | [] => none
  | g :: gs => some ⟨r.outer, gs, .next (some g.expression) false⟩

def add (r : Reader) (es : List Regex) : Reader := r.change (·.add es)

/-- The reader with the latest piece put away. -/
def settle (r : Reader) (last : Option Regex) : Reader := (r.add last.toList).into (.next none false)

def repeated (r : Reader) (least : Nat) (most : Option Nat) (e : Regex) : Reader :=
  (r.add [.times e least most]).into (.next none true)

/-- What a character starts or ends that is no quantifier. -/
def begin? (r : Reader) (c : Char) : Option Reader :=
  match c with
  | '\\' => some (r.into .escaped)
  | '(' => some (r.into .opened)
  | ')' => r.leave?
  | '|' => some ((r.change .bar).into (.next none false))
  | '[' => some (r.into (.listing [] false))
  | '.' => some (r.into (.next (some .any) false))
  | '^' => some (r.into (.next (some .atStart) false))
  | '$' => some (r.into (.next (some .atEnd) false))
  | c => some (r.into (.next (some (.char r.anyCase c)) false))

def next? (r : Reader) (last : Option Regex) (quantified : Bool) (c : Char) : Option Reader :=
  match c with
  | '*' => last.map (r.repeated 0 none)
  | '+' => last.map (r.repeated 1 none)
  | '?' => if quantified then some (r.into (.next none false)) else last.map (r.repeated 0 (some 1))
  | '\x7b' => last.map fun e => r.into (.counting e [])
  | c => (r.settle last).begin? c

def count? (r : Reader) (last : Regex) (text : List Char) (c : Char) : Option Reader :=
  if c = '\x7d' then (readCount? text).map fun n => r.repeated n.1 n.2 last
  else some (r.into (.counting last (text ++ [c])))

def list? (r : Reader) (text : List Char) (escaped : Bool) (c : Char) : Option Reader :=
  if escaped then some (r.into (.listing (text ++ [c]) false))
  else if c = '\\' then some (r.into (.listing (text ++ [c]) true))
  else if c = '[' then none
  else if c = ']' ∧ text ≠ [] ∧ text ≠ ['^'] then
    (readClass? r.anyCase text).map fun e => r.into (.next (some e) false)
  else some (r.into (.listing (text ++ [c]) false))

def open? (r : Reader) (c : Char) : Option Reader :=
  if c = '?' then some (r.into .marked) else (r.enter .plain r.anyCase).next? none false c

def mark? (r : Reader) (c : Char) : Option Reader :=
  match c with
  | ':' => some (r.enter .plain r.anyCase)
  | '=' => some (r.enter (.ahead false) r.anyCase)
  | '!' => some (r.enter (.ahead true) r.anyCase)
  | 'i' => some (r.into .flagged)
  | _ => none

def flag? (r : Reader) (c : Char) : Option Reader :=
  match c with
  | ')' => some ((r.change .ignoreCase).into (.next none false))
  | ':' => some (r.enter .plain true)
  | _ => none

def step? (r : Reader) (c : Char) : Option Reader :=
  match r.mode with
  | .next last quantified => r.next? last quantified c
  | .escaped => (readEscape? r.anyCase c).map fun e => r.into (.next (some e) false)
  | .counting last text => r.count? last text c
  | .listing text escaped => r.list? text escaped c
  | .opened => r.open? c
  | .marked => r.mark? c
  | .flagged => r.flag? c

def read? (r : Reader) (text : List Char) : Option Reader := text.foldlM step? r

/-- The alternatives of the whole expression, if all groups are closed. -/
def finish? (r : Reader) : Option (List (List Regex)) :=
  match r.inner, r.mode with
  | [], .next last _ => some (r.outer.add last.toList).alternatives
  | _, _ => none

end Reader

/-- The alternatives that a text writes, if it writes an expression. -/
def alternatives? (anyCase : Bool) (text : List Char) : Option (List (List Regex)) :=
  ((Reader.start anyCase).read? text).bind Reader.finish?

def read? (pattern : String) : Option Regex := (alternatives? false pattern.toList).map ofAlternatives

/-! ### Escaped texts -/

def quantifiers : List Char := ['*', '+', '?', '\x7b']

/-- The characters that do not stand for themselves. -/
def operators : List Char := quantifiers ++ ['\\', '(', ')', '|', '[', '.', '^', '$']

theorem not_mem_operators_of_not_escaped {c : Char} (h : escapedCharacters.contains c = false) :
    c ∉ operators := by
  have hall : operators.all escapedCharacters.contains = true := by rfl
  intro hc
  rw [List.all_eq_true.1 hall c hc] at h
  cases h

namespace Reader

section

variable (r : Reader)

theorem read?_append (s t : List Char) : r.read? (s ++ t) = (r.read? s).bind fun r' => r'.read? t :=
  List.foldlM_append

theorem read?_cons (c : Char) (t : List Char) : r.read? (c :: t) = (r.step? c).bind fun r' => r'.read? t :=
  List.foldlM_cons

theorem next?_of_not_mem_quantifiers {c : Char} (h : c ∉ quantifiers) (last : Option Regex)
    (quantified : Bool) : r.next? last quantified c = (r.settle last).begin? c := by
  unfold next?
  split <;> simp_all [quantifiers]

theorem begin?_of_not_mem_operators {c : Char} (h : c ∉ operators) :
    r.begin? c = some (r.into (.next (some (.char r.anyCase c)) false)) := by
  unfold begin?
  split <;> simp_all [operators]

theorem add_nil : r.add [] = r := by
  obtain ⟨outer, inner, mode⟩ := r
  cases inner <;> simp [add, change, Group.add]

theorem add_add (es fs : List Regex) : (r.add es).add fs = r.add (es ++ fs) := by
  obtain ⟨outer, inner, mode⟩ := r
  cases inner <;> simp [add, change, Group.add]

theorem anyCase_add (es : List Regex) : (r.add es).anyCase = r.anyCase := by
  obtain ⟨outer, inner, mode⟩ := r
  cases inner <;> rfl

end

/-- That a reader is between pieces, and is `r` as soon as its latest piece is put away. -/
def IsSettledAs (s r : Reader) : Prop :=
  ∃ last quantified, s.mode = .next last quantified ∧ s.settle last = r

variable {s r : Reader}

theorem IsSettledAs.step? (h : s.IsSettledAs r) {c : Char} (hc : c ∉ quantifiers) :
    s.step? c = r.begin? c := by
  obtain ⟨last, quantified, hmode, rfl⟩ := h
  rw [Reader.step?, hmode]
  exact s.next?_of_not_mem_quantifiers hc last quantified

theorem IsSettledAs.mode (h : s.IsSettledAs r) : r.mode = .next none false := by
  obtain ⟨last, quantified, _, rfl⟩ := h
  rfl

theorem isSettledAs_into (hr : r.mode = .next none false) (e : Regex) :
    (r.into (.next (some e) false)).IsSettledAs (r.add [e]) := by
  refine ⟨some e, false, rfl, ?_⟩
  obtain ⟨outer, inner, mode⟩ := r
  cases hr
  cases inner <;> rfl

theorem IsSettledAs.read?_escapeChar (h : s.IsSettledAs r) (c : Char) :
    ∃ s', s.read? (escapeChar c) = some s' ∧ s'.IsSettledAs (r.add [.char r.anyCase c]) := by
  refine ⟨_, ?_, isSettledAs_into h.mode (.char r.anyCase c)⟩
  unfold escapeChar
  cases hc : escapedCharacters.contains c with
  | true =>
    have hpunctuation : Expression.isPunctuation c = true :=
      Expression.isPunctuation_of_escaped c (List.contains_iff_mem.1 hc)
    have hescape : readEscape? r.anyCase c = some (.char r.anyCase c) := by
      unfold readEscape? readEscapedChar?
      rw [if_pos hpunctuation]
    have hstart : s.step? '\\' = some (r.into .escaped) := h.step? (by decide)
    rw [if_pos rfl, read?_cons, hstart, Option.bind_some, read?_cons]
    change (((readEscape? r.anyCase c).map _).bind _) = _
    rw [hescape]
    rfl
  | false =>
    have hoperators := not_mem_operators_of_not_escaped hc
    have hquantifiers : c ∉ quantifiers := fun hmem => hoperators (List.mem_append_left _ hmem)
    rw [if_neg Bool.false_ne_true, read?_cons, h.step? hquantifiers,
      r.begin?_of_not_mem_operators hoperators]
    rfl

/-- An escaped text is read as its characters, one by one. -/
theorem IsSettledAs.read?_escape (h : s.IsSettledAs r) (cs : List Char) {c : Char}
    (hc : c ∉ quantifiers) (text : List Char) :
    s.read? (cs.flatMap escapeChar ++ c :: text) =
      ((r.add (chars r.anyCase cs)).begin? c).bind fun r' => r'.read? text := by
  induction cs generalizing s r with
  | nil =>
    change s.read? (c :: text) = ((r.add []).begin? c).bind _
    rw [read?_cons, h.step? hc, add_nil]
  | cons x cs ih =>
    obtain ⟨s', hread, hs'⟩ := h.read?_escapeChar x
    have hrest := ih hs'
    rw [anyCase_add, add_add] at hrest
    rw [List.flatMap_cons, List.append_assoc, read?_append, hread, Option.bind_some, hrest]
    rfl

/-- That a reader which has read a text is `r` as soon as its latest piece is put away. -/
def SettlesAs (s : Reader) (text : List Char) (r : Reader) : Prop :=
  ∃ s', s.read? text = some s' ∧ s'.IsSettledAs r

theorem SettlesAs.read?_escape {start : List Char} (h : s.SettlesAs start r) (cs : List Char) {c : Char}
    (hc : c ∉ quantifiers) (text : List Char) :
    s.read? (start ++ (cs.flatMap escapeChar ++ c :: text)) =
      ((r.add (chars r.anyCase cs)).begin? c).bind fun r' => r'.read? text := by
  obtain ⟨s', hread, hsettled⟩ := h
  rw [read?_append, hread, Option.bind_some, hsettled.read?_escape cs hc]

end Reader

/-! ### What is read already -/

namespace Group

variable (base : List Regex) (g : Group)

theorem add_graft (es : List Regex) : (g.graft base).add es = (g.add es).graft base := by
  obtain ⟨kind, anyCase, earlier, pieces⟩ := g
  cases earlier <;> simp [add, graft]

theorem bar_graft : (g.graft base).bar = g.bar.graft base := by
  obtain ⟨kind, anyCase, earlier, pieces⟩ := g
  cases earlier <;> rfl

theorem ignoreCase_graft : (g.graft base).ignoreCase = g.ignoreCase.graft base := by
  obtain ⟨kind, anyCase, earlier, pieces⟩ := g
  cases earlier <;> rfl

theorem anyCase_graft : (g.graft base).anyCase = g.anyCase := by
  obtain ⟨kind, anyCase, earlier, pieces⟩ := g
  cases earlier <;> rfl

theorem alternatives_graft :
    (g.graft base).alternatives = g.alternatives.modifyHead (base ++ ·) := by
  obtain ⟨kind, anyCase, earlier, pieces⟩ := g
  cases earlier <;> rfl

end Group

namespace Reader

section

variable (base : List Regex) (r : Reader)

/-- The reader with more pieces at the very start of what it has read. -/
def graft : Reader := { r with outer := r.outer.graft base }

theorem change_graft {f : Group → Group} (hf : ∀ g : Group, f (g.graft base) = (f g).graft base) :
    (r.graft base).change f = (r.change f).graft base := by
  obtain ⟨outer, inner, mode⟩ := r
  cases inner with
  | nil => simp [change, graft, hf]
  | cons g gs => rfl

theorem anyCase_graft : (r.graft base).anyCase = r.anyCase := by
  obtain ⟨outer, inner, mode⟩ := r
  cases inner with
  | nil => exact Group.anyCase_graft base outer
  | cons g gs => rfl

theorem add_graft (es : List Regex) : (r.graft base).add es = (r.add es).graft base :=
  r.change_graft base fun g => g.add_graft base es

theorem settle_graft (last : Option Regex) : (r.graft base).settle last = (r.settle last).graft base := by
  rw [settle, add_graft]
  rfl

theorem repeated_graft (least : Nat) (most : Option Nat) (e : Regex) :
    (r.graft base).repeated least most e = (r.repeated least most e).graft base := by
  rw [repeated, add_graft]
  rfl

theorem leave?_graft : (r.graft base).leave? = r.leave?.map (graft base) := by
  obtain ⟨outer, inner, mode⟩ := r
  cases inner <;> rfl

theorem begin?_graft (c : Char) : (r.graft base).begin? c = (r.begin? c).map (graft base) := by
  unfold begin?
  split
  case h_3 => exact r.leave?_graft base
  case h_4 => rw [change_graft base r fun g => g.bar_graft base]; rfl
  case h_9 => rw [anyCase_graft]; rfl
  all_goals rfl

theorem next?_graft (last : Option Regex) (quantified : Bool) (c : Char) :
    (r.graft base).next? last quantified c = (r.next? last quantified c).map (graft base) := by
  have hrepeated : ∀ least most, last.map ((r.graft base).repeated least most) =
      (last.map (r.repeated least most)).map (graft base) := by
    intro least most
    rw [Option.map_map]
    exact Option.map_congr fun e _ => r.repeated_graft base least most e
  unfold next?
  split
  · exact hrepeated 0 none
  · exact hrepeated 1 none
  · split
    · rfl
    · exact hrepeated 0 (some 1)
  · cases last <;> rfl
  · rw [settle_graft]
    exact begin?_graft base _ c

theorem count?_graft (last : Regex) (text : List Char) (c : Char) :
    (r.graft base).count? last text c = (r.count? last text c).map (graft base) := by
  unfold count?
  split
  · rw [Option.map_map]
    exact Option.map_congr fun n _ => r.repeated_graft base n.1 n.2 last
  · rfl

theorem list?_graft (text : List Char) (escaped : Bool) (c : Char) :
    (r.graft base).list? text escaped c = (r.list? text escaped c).map (graft base) := by
  unfold list?
  rw [anyCase_graft]
  split_ifs
  · rfl
  · rfl
  · rfl
  · rw [Option.map_map]
    rfl
  · rfl

theorem open?_graft (c : Char) : (r.graft base).open? c = (r.open? c).map (graft base) := by
  unfold open?
  rw [anyCase_graft]
  split
  · rfl
  · exact next?_graft base (r.enter .plain r.anyCase) none false c

theorem mark?_graft (c : Char) : (r.graft base).mark? c = (r.mark? c).map (graft base) := by
  unfold mark?
  rw [anyCase_graft]
  split <;> rfl

theorem flag?_graft (c : Char) : (r.graft base).flag? c = (r.flag? c).map (graft base) := by
  unfold flag?
  split
  · rw [change_graft base r fun g => g.ignoreCase_graft base]
    rfl
  · rfl
  · rfl

/-- No step changes what was put away at the start of the text. -/
theorem step?_graft (c : Char) : (r.graft base).step? c = (r.step? c).map (graft base) := by
  have hmode : (r.graft base).mode = r.mode := rfl
  unfold step?
  rw [hmode, anyCase_graft]
  cases r.mode with
  | next last quantified => exact r.next?_graft base last quantified c
  | escaped =>
    rw [Option.map_map]
    rfl
  | counting last text => exact r.count?_graft base last text c
  | listing text escaped => exact r.list?_graft base text escaped c
  | opened => exact r.open?_graft base c
  | marked => exact r.mark?_graft base c
  | flagged => exact r.flag?_graft base c

theorem read?_graft (text : List Char) : (r.graft base).read? text = (r.read? text).map (graft base) := by
  induction text generalizing r with
  | nil => rfl
  | cons c text ih =>
    rw [read?_cons, read?_cons, step?_graft]
    cases r.step? c with
    | none => rfl
    | some r' => exact ih r'

theorem finish?_graft : (r.graft base).finish? = r.finish?.map fun as => as.modifyHead (base ++ ·) := by
  obtain ⟨outer, inner, mode⟩ := r
  cases inner with
  | cons g gs => rfl
  | nil =>
    cases mode with
    | next last quantified =>
      change some ((outer.graft base).add last.toList).alternatives =
        some ((outer.add last.toList).alternatives.modifyHead (base ++ ·))
      rw [Group.add_graft, Group.alternatives_graft]
    | _ => rfl

end

end Reader

end Regex

end IngressGateway.Matching
