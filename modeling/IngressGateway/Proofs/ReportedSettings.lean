import IngressGateway.Backend.Tuning
import IngressGateway.Proofs.Arrangement

/-!
Settings that are recorded and settings that are reported. `Tuning` and `fieldTable` go through the fields of an
upstream separately, each with its own idea of when one is set. They agree on every setting but one: the way of
balancing load that goes without saying is recorded, since it is written down, and not reported, since nothing
is lost with it.
-/

set_option autoImplicit false

namespace IngressGateway.Backend

open Ingress (HealthCheck SessionCookie Upstream)

/-! ### Tables of fields -/

/-- Names that occur once in a table are listed if and only if their own line says so. -/
theorem mem_namesOfSet_iff {table : List (String × Bool)} (hn : (table.map Prod.fst).Nodup)
    {name : String} {isSet : Bool} (h : (name, isSet) ∈ table) :
    name ∈ namesOfSet table ↔ isSet = true := by
  rw [namesOfSet, List.mem_map]
  constructor
  · rintro ⟨line, hline, rfl⟩
    obtain ⟨hmem, hset⟩ := List.mem_filter.1 hline
    have hsame : line = (line.1, isSet) := List.inj_on_of_nodup_map hn hmem h rfl
    rw [hsame] at hset
    exact hset
  · rintro rfl
    exact ⟨(name, true), List.mem_filter.2 ⟨h, rfl⟩, rfl⟩

theorem names_fieldTable_nodup (u : Upstream) : ((fieldTable u).map Prod.fst).Nodup := by
  have hnames : (fieldTable u).map Prod.fst =
      ["lb-method", "subselector", "use-cluster-ip", "fail-timeout", "max-fails", "max-conns", "keepalive",
        "connect-timeout", "read-timeout", "send-timeout", "next-upstream", "next-upstream-timeout",
        "next-upstream-tries", "client-max-body-size", "healthCheck", "slow-start", "queue", "buffering",
        "buffers", "buffer-size", "ntlm", "backup", "backupPort", "sessionCookie"] := rfl
  rw [hnames]
  decide

/-! ### The settings of a record -/

inductive Setting where
  | lbMethod
  | sessionCookie
  | slowStart
  | queue
  | keepalive
  | maxFails
  | maxConns
  | failTimeout
  | healthCheck
  | buffering
deriving DecidableEq

namespace Setting

/-- The field of an upstream that a setting is written in. -/
def field : Setting → String
  | lbMethod => "lb-method"
  | sessionCookie => "sessionCookie"
  | slowStart => "slow-start"
  | queue => "queue"
  | keepalive => "keepalive"
  | maxFails => "max-fails"
  | maxConns => "max-conns"
  | failTimeout => "fail-timeout"
  | healthCheck => "healthCheck"
  | buffering => "buffering"

def isIn (t : Tuning) : Setting → Bool
  | lbMethod => t.lbMethod.isSome
  | sessionCookie => t.sessionCookie.isSome
  | slowStart => t.slowStart.isSome
  | queue => t.queue.isSome
  | keepalive => t.keepalive.isSome
  | maxFails => t.maxFails.isSome
  | maxConns => t.maxConns.isSome
  | failTimeout => t.failTimeout.isSome
  | healthCheck => t.healthCheck.isSome
  | buffering => t.buffering.isSome

/-- Whether an upstream has the setting: it is there, and neither empty nor switched off. -/
def isSet (u : Upstream) : Setting → Bool
  | lbMethod => Text.isPresent u.lbMethod
  | sessionCookie => u.sessionCookie.any SessionCookie.enable
  | slowStart => Text.isPresent u.slowStart
  | queue => u.queue.isSome
  | keepalive => u.keepalive.isSome
  | maxFails => u.maxFails.isSome
  | maxConns => u.maxConns.isSome
  | failTimeout => Text.isPresent u.failTimeout
  | healthCheck => u.healthCheck.any HealthCheck.enable
  | buffering => u.buffering.isSome

/-- Whether a setting is the one that goes without saying. -/
def isUsual (u : Upstream) (s : Setting) : Bool :=
  s = lbMethod && u.lbMethod = some usualLbMethod

def isRecorded (u : Upstream) (s : Setting) : Bool := (Tuning.ofUpstream? u).any fun t => s.isIn t

def IsReported (u : Upstream) (s : Setting) : Prop := s.field ∈ unsupportedFields u

end Setting

/-- That the settings of an upstream are recorded which are reported, and the usual one besides. -/
structure RecordsReported (u : Upstream) : Prop where
  recorded_iff : ∀ s : Setting, s.isRecorded u = true ↔ s.IsReported u ∨ s.isUsual u = true
  unreported : ∀ s : Setting, s.isUsual u = true → ¬ s.IsReported u
  recorded : ∀ s : Setting, s.isRecorded u = s.isSet u
  isSome_iff : (Tuning.ofUpstream? u).isSome = true ↔
    (∃ s : Setting, s.IsReported u) ∨ u.lbMethod = some usualLbMethod

namespace Setting

variable (u : Upstream) (s : Setting)

theorem isIn_settingsOf : s.isIn (Tuning.settingsOf u) = s.isSet u := by
  cases s with
  | lbMethod => exact (Text.isPresent_eq_isSome _).symm
  | sessionCookie => exact Option.isSome_filter
  | slowStart => exact (Text.isPresent_eq_isSome _).symm
  | queue => rfl
  | keepalive => rfl
  | maxFails => rfl
  | maxConns => rfl
  | failTimeout => exact (Text.isPresent_eq_isSome _).symm
  | healthCheck => exact Option.isSome_filter
  | buffering => rfl

theorem eq_none_of_isIn {t : Tuning} (h : ∀ s : Setting, s.isIn t = false) : t = .none := by
  have unset {α : Type} {o : Option α} (ho : o.isSome = false) : o = none :=
    Option.isNone_iff_eq_none.1 (Option.isSome_eq_false_iff.1 ho)
  cases t
  rw [Tuning.none, Tuning.mk.injEq]
  exact ⟨unset (h lbMethod), unset (h sessionCookie), unset (h slowStart), unset (h queue), unset (h keepalive),
    unset (h maxFails), unset (h maxConns), unset (h failTimeout), unset (h healthCheck), unset (h buffering)⟩

theorem isIn_none : s.isIn .none = false := by cases s <;> rfl

theorem isRecorded_eq : s.isRecorded u = s.isSet u := by
  rw [isRecorded, Tuning.ofUpstream?, ← isIn_settingsOf]
  split
  next hnone => rw [hnone, isIn_none, Option.any_none]
  next => rw [Option.any_some]

/-- The line of a setting in the table of fields. -/
theorem mem_fieldTable : (s.field, s.isSet u && !s.isUsual u) ∈ fieldTable u := by
  cases s with
  | lbMethod =>
    -- the only line that looks at the value of a text
    have hflag : (isSet u lbMethod && !isUsual u lbMethod) =
        u.lbMethod.any fun m => !m.isEmpty && m ≠ usualLbMethod := by
      cases h : u.lbMethod <;> simp [isSet, isUsual, Text.isPresent, h]
    rw [hflag]
    exact .head _
  | sessionCookie | slowStart | queue | keepalive | maxFails | maxConns | failTimeout | healthCheck | buffering =>
    simp [isUsual, field, isSet, fieldTable]

theorem isReported_iff : s.IsReported u ↔ s.isSet u = true ∧ s.isUsual u = false := by
  rw [IsReported, unsupportedFields, mem_namesOfSet_iff (names_fieldTable_nodup u) (s.mem_fieldTable u),
    Bool.and_eq_true, Bool.not_eq_true']

theorem isUsual_iff : s.isUsual u = true ↔ s = lbMethod ∧ u.lbMethod = some usualLbMethod := by
  rw [isUsual, Bool.and_eq_true, decide_eq_true_iff, decide_eq_true_iff]

theorem isSet_of_isUsual (h : s.isUsual u = true) : s.isSet u = true := by
  obtain ⟨rfl, hvalue⟩ := (isUsual_iff u s).1 h
  rw [isSet, hvalue]
  decide

theorem isRecorded_iff : s.isRecorded u = true ↔ s.IsReported u ∨ s.isUsual u = true := by
  rw [isRecorded_eq, isReported_iff]
  constructor
  · intro hset
    cases husual : s.isUsual u with
    | false => exact .inl ⟨hset, rfl⟩
    | true => exact .inr rfl
  · rintro (⟨hset, -⟩ | husual)
    · exact hset
    · exact s.isSet_of_isUsual u husual

/-- There is a record if and only if there is something in it. -/
theorem isSome_ofUpstream?_iff : (Tuning.ofUpstream? u).isSome = true ↔ ∃ s : Setting, s.isRecorded u = true := by
  constructor
  · intro hsome
    by_contra hall
    have hnone : Tuning.settingsOf u = .none := eq_none_of_isIn fun s => by
      rw [isIn_settingsOf, ← isRecorded_eq]
      exact Bool.eq_false_iff.2 fun h => hall ⟨s, h⟩
    rw [Tuning.ofUpstream?, if_pos hnone] at hsome
    cases hsome
  · rintro ⟨s, hs⟩
    obtain ⟨t, ht, -⟩ := (Option.any_eq_true _ _).1 hs
    rw [ht]
    rfl

end Setting

theorem recordsReported (u : Upstream) : RecordsReported u where
  recorded_iff s := s.isRecorded_iff u
  unreported s husual hreported := by
    have hnot := ((s.isReported_iff u).1 hreported).2
    rw [husual] at hnot
    cases hnot
  recorded s := s.isRecorded_eq u
  isSome_iff := by
    rw [Setting.isSome_ofUpstream?_iff]
    constructor
    · rintro ⟨s, hs⟩
      refine ((s.isRecorded_iff u).1 hs).imp (fun hreported => ⟨s, hreported⟩) fun husual => ?_
      exact ((s.isUsual_iff u).1 husual).2
    · rintro (⟨s, hs⟩ | hvalue)
      · exact ⟨s, (s.isRecorded_iff u).2 (.inl hs)⟩
      · exact ⟨.lbMethod, (Setting.isRecorded_iff u _).2 (.inr ((Setting.isUsual_iff u _).2 ⟨rfl, hvalue⟩))⟩

/-- The usual way of balancing load, written down, makes a record of its own. -/
theorem records_unreported :
    let tea := { Conversion.simpleUpstream "tea" "tea-svc" none none with lbMethod := some "least_conn" }
    ¬ (∀ s : Setting, s.isRecorded tea = true ↔ s.IsReported tea) ∧
      ¬ ((Tuning.ofUpstream? tea).isSome = true ↔ ∃ s : Setting, s.IsReported tea) := by
  intro tea
  have hsilent : unsupportedFields tea = [] := by decide
  have hnone : ∀ s : Setting, ¬ s.IsReported tea := fun s => by
    rw [Setting.IsReported, hsilent]
    exact List.not_mem_nil
  constructor
  · intro h
    exact hnone .lbMethod ((h .lbMethod).1 (by decide))
  · intro h
    obtain ⟨s, hs⟩ := h.1 (by decide)
    exact hnone s hs

end IngressGateway.Backend
