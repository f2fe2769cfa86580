import IngressGateway.Backend.Target
import IngressGateway.Notification.Basic
import Mathlib.Algebra.Ring.Nat
import Mathlib.Data.List.Basic

/-!
The lines of a report. A report has one line for each notification as long as the texts that it shows have no line
breaks. It shows them as they are, so a line break in one of them ends the line, and what follows it reads like a
line of the report itself.
-/

set_option autoImplicit false

namespace IngressGateway

namespace Text

def lineBreaks (s : String) : Nat := s.toList.count '\n'

/-- The stretches of a text between its line breaks; there is one more of them. -/
def lines (s : String) : List String := (s.toList.splitOn '\n').map String.ofList

theorem lineBreaks_append (s t : String) : lineBreaks (s ++ t) = lineBreaks s + lineBreaks t := by
  rw [lineBreaks, String.toList_append, List.count_append]
  rfl

theorem lines_append_break (s t : String) : lines (s ++ "\n" ++ t) = lines s ++ lines t := by
  have hbreak : (s ++ "\n" ++ t).toList = s.toList ++ '\n' :: t.toList := by simp
  rw [lines, hbreak, List.splitOn_append_cons_self, List.map_append]
  rfl

theorem lines_of_lineBreaks_eq_zero {s : String} (h : lineBreaks s = 0) : lines s = [s] := by
  rw [lines, List.splitOn_eq_singleton (List.count_eq_zero.1 h), List.map_singleton, String.ofList_toList]

end Text

open Text (lineBreaks)

namespace Notification

/-- What stands on the line of a notification. -/
def rendering (n : Notification) : String :=
  "[" ++ n.severity.tag ++ "] " ++ n.source.display ++ ": " ++ n.message

/-- The texts that a line shows as they are. -/
def texts (n : Notification) : List String := n.source.kind :: n.source.ns.toList ++ [n.source.name, n.message]

def IsOneLine (n : Notification) : Prop := ∀ text ∈ n.texts, lineBreaks text = 0

theorem lineBreaks_rendering (n : Notification) : lineBreaks n.rendering = (n.texts.map lineBreaks).sum := by
  have htag : lineBreaks n.severity.tag = 0 := by cases n.severity <;> decide
  have hmarks : lineBreaks "[" = 0 ∧ lineBreaks "] " = 0 ∧ lineBreaks ": " = 0 ∧ lineBreaks "/" = 0 := by decide
  obtain ⟨hopen, hclose, hcolon, hslash⟩ := hmarks
  rw [rendering, texts, ObjectRef.display]
  cases n.source.ns with
  | none => simp [Text.lineBreaks_append, htag, hopen, hclose, hcolon, hslash, Nat.add_assoc]
  | some ns => simp [Text.lineBreaks_append, htag, hopen, hclose, hcolon, hslash, Nat.add_assoc]

theorem isOneLine_iff {n : Notification} : n.IsOneLine ↔ lineBreaks n.rendering = 0 := by
  rw [lineBreaks_rendering, List.sum_eq_zero_iff_forall_eq_nat, List.forall_mem_map]
  rfl

end Notification

namespace Notifications

/-- That a report has one line for each notification, which shows that notification. -/
structure HasLineEach (c : Notifications) : Prop where
  breaks : lineBreaks c.report = c.size
  shown : ∀ (i : Nat) (n : Notification), c.entries[i]? = some n → (Text.lines c.report)[i]? = some n.rendering

/-- The line breaks in the texts of some notifications. -/
def innerBreaks (c : Notifications) : Nat := ((c.entries.flatMap Notification.texts).map lineBreaks).sum

/-- Where the lines of a report end: behind each notification, and wherever a text of one has a line break. There is
a line for each notification if and only if there are no such texts, and then the report tells what it shows. -/
structure EndsLines (c : Notifications) : Prop where
  breaks : lineBreaks c.report = c.size + c.innerBreaks
  lines : Text.lines c.report = (c.entries.flatMap fun n => Text.lines n.rendering) ++ [""]
  each : HasLineEach c ↔ ∀ n ∈ c.entries, n.IsOneLine
  told : HasLineEach c → ∀ d, HasLineEach d → d.report = c.report →
    d.entries.map Notification.rendering = c.entries.map Notification.rendering

theorem report_cons (n : Notification) (l : List Notification) :
    (mk (n :: l)).report = n.rendering ++ "\n" ++ (mk l).report := String.join_cons

theorem lineBreaks_report (c : Notifications) : lineBreaks c.report = c.size + c.innerBreaks := by
  obtain ⟨l⟩ := c
  induction l with
  | nil => rfl
  | cons n l ih =>
    have hbreak : lineBreaks "\n" = 1 := by decide
    have hinner : (mk (n :: l)).innerBreaks = lineBreaks n.rendering + (mk l).innerBreaks := by
      rw [n.lineBreaks_rendering, innerBreaks, List.flatMap_cons, List.map_append, List.sum_append]
      rfl
    have hsize : (mk (n :: l)).size = (mk l).size + 1 := rfl
    rw [report_cons, Text.lineBreaks_append, Text.lineBreaks_append, ih, hbreak, hinner, hsize]
    omega

theorem lines_report (c : Notifications) :
    Text.lines c.report = (c.entries.flatMap fun n => Text.lines n.rendering) ++ [""] := by
  obtain ⟨l⟩ := c
  induction l with
  | nil => rfl
  | cons n l ih => rw [report_cons, Text.lines_append_break, ih, List.flatMap_cons, List.append_assoc]

theorem lines_report_of_isOneLine {c : Notifications} (h : ∀ n ∈ c.entries, n.IsOneLine) :
    Text.lines c.report = c.entries.map Notification.rendering ++ [""] := by
  rw [lines_report, List.map_eq_flatMap]
  refine congrArg (· ++ [""]) (List.flatMap_congr fun n hn => ?_)
  exact Text.lines_of_lineBreaks_eq_zero (Notification.isOneLine_iff.1 (h n hn))

theorem innerBreaks_eq_zero_iff {c : Notifications} : c.innerBreaks = 0 ↔ ∀ n ∈ c.entries, n.IsOneLine := by
  rw [innerBreaks, List.sum_eq_zero_iff_forall_eq_nat, List.forall_mem_map, List.forall_mem_flatMap]
  rfl

theorem hasLineEach_iff (c : Notifications) : HasLineEach c ↔ ∀ n ∈ c.entries, n.IsOneLine := by
  constructor
  · intro h
    have hbreaks := h.breaks
    rw [lineBreaks_report, Nat.add_eq_left] at hbreaks
    exact innerBreaks_eq_zero_iff.1 hbreaks
  · intro h
    constructor
    · rw [lineBreaks_report, innerBreaks_eq_zero_iff.2 h, Nat.add_zero]
    · intro i n hn
      have hi := (List.getElem?_eq_some_iff.1 hn).1
      rw [lines_report_of_isOneLine h, List.getElem?_append_left (by simpa using hi), List.getElem?_map, hn]
      rfl

theorem endsLines (c : Notifications) : EndsLines c where
  breaks := lineBreaks_report c
  lines := lines_report c
  each := hasLineEach_iff c
  told hc d hd h := by
    have hlines := congrArg Text.lines h
    rw [lines_report_of_isOneLine ((hasLineEach_iff c).1 hc),
      lines_report_of_isOneLine ((hasLineEach_iff d).1 hd)] at hlines
    exact List.append_cancel_right hlines

/-! ### A forged line -/

def cafe : ObjectRef := ⟨"VirtualServer", some "k8s.nginx.org", some "shop", "cafe"⟩

/-- One warning, about an upstream whose name has a line break. -/
def forged : Notifications :=
  ⟨(Backend.lookUp ⟨"shop", cafe, .empty⟩ "tea' is gone\n[ERROR] TransportServer/shop/db: 'SCTP" cafe).notes⟩

def honest : Notifications :=
  ⟨[⟨.warning, "Upstream 'tea' is gone", cafe⟩,
    ⟨.error, "'SCTP' not found for route", ⟨"TransportServer", some "k8s.nginx.org", some "shop", "db"⟩⟩]⟩

theorem not_hasLineEach_forged :
    ¬ HasLineEach forged ∧ forged.size = 1 ∧ forged.count .error = 0 ∧
      honest.count .error = 1 ∧ honest.report = forged.report := by
  refine ⟨fun h => ?_, by decide, by decide, by decide, by decide +kernel⟩
  have hbreaks : lineBreaks forged.report = 2 := by decide +kernel
  exact absurd (h.breaks.symm.trans hbreaks) (by decide)

end Notifications

end IngressGateway
