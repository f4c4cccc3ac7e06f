import TicketSystem.CsvText
import TicketSystem.SlaPage

namespace TicketSystem

/-- `new Date(value)` of a property that is null or the JSON of a time. -/
def newDate : Option Time → JsDate
  | none => .time 0
  | some t => .time t

def Ticket.overdueMs (ticket : Ticket) (nowMs : Time) : Int :=
  match ticket.slaDueAt with
  | none => 0
  | some slaDueAt => max 0 (nowMs - slaDueAt)

/-! ### The queue -/

structure SlaInfo where
  label : String
  overdue : Bool
  deriving DecidableEq, Repr

def formatDuration (totalMinutes : Int) : String :=
  let hours := totalMinutes.fdiv 60
  let minutes := totalMinutes.tmod 60
  if 0 < hours then toString hours ++ "h " ++ toString minutes ++ "m" else toString minutes ++ "m"

def slaRemaining (slaDueAt : Option Time) (nowMs : Time) : SlaInfo :=
  if slaDueAt = none then { label := "—", overdue := false }
  else
    match newDate slaDueAt with
    | .invalid => { label := "—", overdue := false }
    | .time dueMs =>
      let diffMinutes := (dueMs - nowMs).fdiv 60000
      if 0 ≤ diffMinutes then { label := formatDuration diffMinutes, overdue := false }
      else { label := "Vencido hace " ++ formatDuration (-diffMinutes), overdue := true }

/-! ### The detail page -/

def formatRemaining (ms : Int) : String :=
  let totalMin := ms.fdiv 60000
  let days := totalMin.fdiv 1440
  let hours := (totalMin.tmod 1440).fdiv 60
  let minutes := totalMin.tmod 60
  if 0 < days then toString days ++ "d " ++ toString hours ++ "h"
  else if 0 < hours then toString hours ++ "h " ++ toString minutes ++ "m"
  else toString minutes ++ "m"

/-- What the component `SlaStatus` shows. A null due date is no invalid date here. -/
def DetailTab.SlaStatus (ticket : Ticket) (now : Time) : String :=
  let due := newDate ticket.slaDueAt
  if ticket.status = .resuelto then
    let breached : Bool := match ticket.resolvedAt, due with
      | some resolved, .time due => due < resolved
      | _, _ => false
    if breached then "Resuelto fuera de SLA" else "Cumplido"
  else
    match due with
    | .invalid => "—"
    | .time due => if due < now then "Vencido" else "Faltan " ++ formatRemaining (due - now)

theorem DetailTab.SlaStatus_open {ticket : Ticket} (h : ticket.status ≠ .resuelto) (now : Time) :
    DetailTab.SlaStatus ticket now = "Vencido" ↔ ticket.slaDueAt.getD 0 < now := by
  have hfaltan : ∀ text : String, "Faltan " ++ text ≠ "Vencido" := by
    intro text he
    have hhead := congrArg (fun s => s.toList.head?) he
    simp at hhead
  unfold SlaStatus
  rw [if_neg h]
  cases hdue : ticket.slaDueAt <;> simp [newDate, hfaltan]

theorem DetailTab.SlaStatus_resolved {ticket : Ticket} {resolvedAt : Time}
    (h : ticket.status = .resuelto) (hr : ticket.resolvedAt = some resolvedAt) (now : Time) :
    DetailTab.SlaStatus ticket now = "Resuelto fuera de SLA" ↔
      ticket.slaDueAt.getD 0 < resolvedAt := by
  unfold SlaStatus
  rw [if_pos h, hr]
  cases hdue : ticket.slaDueAt <;> simp [newDate]

/-- The four verdicts are one, and the two amounts are on its side. -/
structure OverdueAgree (ticket : Ticket) (now : Time) : Prop where
  board : (computeSlaFields ticket.slaDueAt now).slaStatus = some .vencido ↔
    ticket.isOverdue now = true
  queue : (computeSlaFields ticket.slaDueAt now).slaStatus = some .vencido ↔
    (slaRemaining ticket.slaDueAt now).overdue = true
  detail : (computeSlaFields ticket.slaDueAt now).slaStatus = some .vencido ↔
    DetailTab.SlaStatus ticket now = "Vencido"
  late : (computeSlaFields ticket.slaDueAt now).slaStatus = some .vencido →
    0 < ticket.overdueMs now ∧ ∃ days, (computeSlaFields ticket.slaDueAt now).slaOffByDays =
      some days ∧ 0 ≤ days
  onTime : (computeSlaFields ticket.slaDueAt now).slaStatus ≠ some .vencido →
    ticket.overdueMs now = 0 ∧ ∀ days, (computeSlaFields ticket.slaDueAt now).slaOffByDays =
      some days → days ≤ 0

/-- A time is past from its first millisecond on, whatever the minutes are rounded to. -/
theorem minutes_nonneg (ms : Int) : 0 ≤ ms.fdiv 60000 ↔ 0 ≤ ms := by
  rw [Int.fdiv_eq_ediv_of_nonneg _ (by decide)]
  omega

theorem computeSlaFields_vencido (slaDueAt : Option Time) (now : Time) :
    (computeSlaFields slaDueAt now).slaStatus = some .vencido ↔ ∃ due ∈ slaDueAt, due < now := by
  cases slaDueAt with
  | none => simp [computeSlaFields]
  | some due =>
    simp only [computeSlaFields, Option.some.injEq, ite_eq_left_iff, reduceCtorEq, imp_false,
      not_not, gt_iff_lt, Int.sub_pos, Option.mem_def, exists_eq_left']

theorem slaRemaining_overdue (slaDueAt : Option Time) (now : Time) :
    (slaRemaining slaDueAt now).overdue = true ↔ ∃ due ∈ slaDueAt, due < now := by
  cases slaDueAt with
  | none => simp [slaRemaining]
  | some due =>
    have hfloor : 0 ≤ (due - now).fdiv 60000 ↔ now ≤ due := by
      rw [minutes_nonneg, Int.sub_nonneg]
    simp only [slaRemaining, newDate, hfloor, reduceCtorEq, if_false]
    split
    next h => simpa using h
    next h => simpa using h

theorem isOverdue_iff (ticket : Ticket) (now : Time) :
    ticket.isOverdue now = true ↔ ∃ due ∈ ticket.slaDueAt, due < now := by
  simp [Ticket.isOverdue, Option.any_eq_true]

theorem overdueMs_pos (ticket : Ticket) (now : Time) :
    0 < ticket.overdueMs now ↔ ∃ due ∈ ticket.slaDueAt, due < now := by
  cases h : ticket.slaDueAt with
  | none => simp [Ticket.overdueMs, h]
  | some due =>
    have hmax : ∀ ms : Int, 0 < max 0 ms ↔ 0 < ms := by
      intro ms
      omega
    simp only [Ticket.overdueMs, h, hmax, Int.sub_pos, Option.mem_def, Option.some.injEq,
      exists_eq_left']

/-- The days are rounded towards the past, so that they have the sign of the milliseconds. -/
theorem slaOffByDays_sign {due now : Time} :
    (due < now → 0 ≤ (now - due) / MS_PER_DAY) ∧ (¬ due < now → (now - due) / MS_PER_DAY ≤ 0) := by
  have hsign : ∀ ms : Int, (0 < ms → 0 ≤ ms / MS_PER_DAY) ∧ (ms ≤ 0 → ms / MS_PER_DAY ≤ 0) := by
    intro ms
    unfold MS_PER_DAY
    omega
  obtain ⟨hlate, honTime⟩ := hsign (now - due)
  exact ⟨fun h => hlate (Int.sub_pos.mpr h),
    fun h => honTime (Int.sub_nonpos_of_le (Int.not_lt.mp h))⟩

/-- The amounts are on the side of the server's verdict, with a due date or without. -/
theorem overdue_amounts (ticket : Ticket) (now : Time) :
    ((∃ due ∈ ticket.slaDueAt, due < now) → 0 < ticket.overdueMs now ∧
      ∃ days, (computeSlaFields ticket.slaDueAt now).slaOffByDays = some days ∧ 0 ≤ days) ∧
    ((¬ ∃ due ∈ ticket.slaDueAt, due < now) → ticket.overdueMs now = 0 ∧
      ∀ days, (computeSlaFields ticket.slaDueAt now).slaOffByDays = some days → days ≤ 0) := by
  refine ⟨fun h => ⟨(overdueMs_pos ticket now).mpr h, ?_⟩, fun h => ⟨?_, fun days hdays => ?_⟩⟩
  · obtain ⟨due, hdue, hlt⟩ := h
    rw [Option.mem_def.mp hdue]
    exact ⟨(now - due) / MS_PER_DAY, rfl, slaOffByDays_sign.1 hlt⟩
  · have hpos := mt (overdueMs_pos ticket now).mp h
    have hnonneg : 0 ≤ ticket.overdueMs now := by
      unfold Ticket.overdueMs
      split
      next => exact Int.le_refl 0
      next => exact Int.le_max_left _ _
    omega
  · cases hdue : ticket.slaDueAt with
    | none => simp [hdue, computeSlaFields] at hdays
    | some due =>
      simp only [hdue, computeSlaFields, Option.some.injEq] at hdays
      rw [← hdays]
      exact slaOffByDays_sign.2 fun hlt => h ⟨due, hdue, hlt⟩

/-- The verdicts are one when there is a due date: the detail page reads a missing one as the
epoch, which has passed. -/
theorem overdue_agree_iff (ticket : Ticket) (now : Time) (hopen : ticket.status ≠ .resuelto)
    (hnow : 0 < now) : OverdueAgree ticket now ↔ ticket.slaDueAt ≠ none := by
  have hserver := computeSlaFields_vencido ticket.slaDueAt now
  have hdetail := DetailTab.SlaStatus_open hopen now
  obtain ⟨hlate, honTime⟩ := overdue_amounts ticket now
  constructor
  · intro h hnone
    have hvencido := h.detail.mpr (hdetail.mpr (by simpa [hnone] using hnow))
    obtain ⟨due, hdue, _⟩ := hserver.mp hvencido
    cases hnone.symm.trans hdue
  · intro hdue
    obtain ⟨due, hdue⟩ := Option.ne_none_iff_exists'.mp hdue
    refine ⟨hserver.trans (isOverdue_iff ticket now).symm,
      hserver.trans (slaRemaining_overdue _ now).symm, hserver.trans ?_,
      fun h => hlate (hserver.mp h), fun h => honTime (mt hserver.mpr h)⟩
    rw [hdetail]
    simp [hdue]

namespace Sample

/-- A ticket of before its priority had a rule. -/
def sinSla : Ticket where
  id := 102
  ticketNumber := "TKT-00001"
  type := .incidente
  title := "No arranca"
  description := "El servicio de pagos no responde"
  severity := 2
  impact := 2
  priority := .alta
  reporterId := 1
  slaDueAt := none
  idempotencyKey := none
  createdAt := 1767225600000

end Sample

theorem overdue_agree_due :
    OverdueAgree { Sample.sinSla with slaDueAt := some 1767240000000 } 1767240000001 :=
  (overdue_agree_iff { Sample.sinSla with slaDueAt := some 1767240000000 } 1767240000001
    (by decide) (by decide)).mpr (by decide)

/-- Without a due date the detail page alone shows the ticket as overdue. -/
theorem null_due_vencido : Sample.sinSla.status ≠ .resuelto ∧
    (computeSlaFields Sample.sinSla.slaDueAt 1767240000000).slaStatus = none ∧
    Sample.sinSla.isOverdue 1767240000000 = false ∧
    (slaRemaining Sample.sinSla.slaDueAt 1767240000000).overdue = false ∧
    DetailTab.SlaStatus Sample.sinSla 1767240000000 = "Vencido" ∧
    ¬ OverdueAgree Sample.sinSla 1767240000000 := by
  refine ⟨by decide, rfl, rfl, rfl, by decide, fun h => ?_⟩
  have hvencido := h.detail.mpr (by decide)
  cases hvencido

/-! ### The verdicts on resolved tickets -/

/-- Both are valid dates and the first is not the later one. -/
def JsDate.notAfter : JsDate → JsDate → Bool
  | .time a, .time b => a ≤ b
  | _, _ => false

def withinSla (resolved : List Ticket) : Nat :=
  resolved.countP fun t => (newDate t.resolvedAt).notAfter (newDate t.slaDueAt)

/-- The quotients are exact here. -/
structure ReportKpis where
  resolvedCount : Nat
  avgResolutionMs : Option ℚ
  slaCompliancePct : Option Int
  openCount : Nat
  resolvedByPriority : Priority → Nat
  byStatus : TicketStatus → Nat

def resolvedOf (tickets : List Ticket) : List Ticket :=
  tickets.filter fun t => t.status == .resuelto && t.resolvedAt.isSome

/-- `Math.round` -/
def mathRound (x : ℚ) : Int := (x + 1 / 2).floor

def computeKpis (tickets : List Ticket) : ReportKpis :=
  let resolved := resolvedOf tickets
  let totalMs : Int := (resolved.map fun t => max 0 (t.resolvedAt.getD 0 - t.createdAt)).sum
  let byStatus := fun s => tickets.countP fun t => t.status == s
  { resolvedCount := resolved.length
    avgResolutionMs := if resolved.length = 0 then none else some (totalMs / resolved.length)
    slaCompliancePct :=
      if resolved.length = 0 then none
      else some (mathRound (withinSla resolved / resolved.length * 100))
    openCount := tickets.length - byStatus .resuelto
    resolvedByPriority := fun p => resolved.countP fun t => t.priority == p
    byStatus := byStatus }

/-- What a column of the report says in the text of a row. -/
def csvColumn (column : String) (row : String) : Option String :=
  (Csv.read row).bind fun records => records.head?.bind fun record => record[HEADER.idxOf column]?

theorem csvColumn_slaBreached (r : Row) :
    csvColumn "sla_breached" (toCsvRow r) = some (toString r.ticket.slaBreached) := by
  obtain ⟨values, hrow, hne, hlast⟩ : ∃ values, toCsvRow r = csvRow values ∧ values ≠ [] ∧
      values[HEADER.idxOf "sla_breached"]? = some (.boolean r.ticket.slaBreached) :=
    ⟨_, rfl, by simp, rfl⟩
  have hread := read_csvRows [values] (by simpa using hne)
  have hjoin : String.join ([values].map csvRow) = csvRow values := by simp
  rw [hjoin] at hread
  simp [csvColumn, hrow, hread, hlast, CsvValue.text]

theorem toString_eq_false (b : Bool) : toString b = "false" ↔ b = false := by
  cases b <;> decide

theorem toString_eq_true (b : Bool) : toString b = "true" ↔ b = true := by
  cases b <;> decide

/-- The KPIs count as many tickets within the SLA as the report has rows that say so, and the
detail page agrees with the row of every ticket. -/
structure ResolvedAgree (rows : List Row) : Prop where
  counted : withinSla (resolvedOf (rows.map (·.ticket))) =
    rows.countP fun r => csvColumn "sla_breached" (toCsvRow r) = some "false"
  shown : ∀ r ∈ rows, ∀ now, DetailTab.SlaStatus r.ticket now = "Resuelto fuera de SLA" ↔
    csvColumn "sla_breached" (toCsvRow r) = some "true"

section Resolved

variable {t : Ticket} {resolvedAt : Time}

/-- Of a missing due date the report says that it was met; the pages take it for the epoch. -/
theorem slaBreached_iff (hr : t.resolvedAt = some resolvedAt) :
    (t.slaBreached = true ↔ t.slaDueAt.getD 0 < resolvedAt) ↔
      (t.slaDueAt = none → resolvedAt ≤ 0) := by
  cases hdue : t.slaDueAt with
  | none => simp [Ticket.slaBreached, hr, hdue]
  | some due => simp [Ticket.slaBreached, hr, hdue]

theorem notAfter_iff (hr : t.resolvedAt = some resolvedAt) :
    (newDate t.resolvedAt).notAfter (newDate t.slaDueAt) = true ↔
      ¬ t.slaDueAt.getD 0 < resolvedAt := by
  cases hdue : t.slaDueAt <;> simp [hr, newDate, JsDate.notAfter]

theorem resolvedOf_eq {tickets : List Ticket}
    (h : ∀ t ∈ tickets, t.status = .resuelto ∧ t.resolvedAt ≠ none) :
    resolvedOf tickets = tickets := by
  refine List.filter_eq_self.mpr fun t ht => ?_
  obtain ⟨hstatus, hr⟩ := h t ht
  simp [hstatus, Option.isSome_iff_ne_none.mpr hr]

end Resolved

/-- The verdicts are one when every ticket has a due date (or was resolved before the epoch). -/
theorem resolved_agree_iff (rows : List Row)
    (hresolved : ∀ r ∈ rows, r.ticket.status = .resuelto ∧ r.ticket.resolvedAt ≠ none) :
    ResolvedAgree rows ↔ ∀ r ∈ rows, r.ticket.slaDueAt = none →
      ∀ resolvedAt ∈ r.ticket.resolvedAt, resolvedAt ≤ 0 := by
  have hcell : ∀ r : Row, (csvColumn "sla_breached" (toCsvRow r) = some "true" ↔
      r.ticket.slaBreached = true) := by
    intro r
    rw [csvColumn_slaBreached, Option.some.injEq, toString_eq_true]
  constructor
  · intro h r hr hnone resolvedAt hat
    have hshown := h.shown r hr 0
    rw [hcell, DetailTab.SlaStatus_resolved (hresolved r hr).1 hat] at hshown
    exact (slaBreached_iff hat).mp hshown.symm hnone
  · intro h
    have hbreached : ∀ r ∈ rows, ∃ resolvedAt, r.ticket.resolvedAt = some resolvedAt ∧
        (r.ticket.slaBreached = true ↔ r.ticket.slaDueAt.getD 0 < resolvedAt) := by
      intro r hr
      obtain ⟨resolvedAt, hat⟩ := Option.ne_none_iff_exists'.mp (hresolved r hr).2
      exact ⟨resolvedAt, hat, (slaBreached_iff hat).mpr fun hnone => h r hr hnone resolvedAt hat⟩
    refine ⟨?_, fun r hr now => ?_⟩
    · have htickets : ∀ t ∈ rows.map (·.ticket), t.status = .resuelto ∧ t.resolvedAt ≠ none := by
        intro t ht
        obtain ⟨r, hr, rfl⟩ := List.mem_map.mp ht
        exact hresolved r hr
      rw [resolvedOf_eq htickets, withinSla, List.countP_map]
      refine List.countP_congr fun r hr => ?_
      obtain ⟨resolvedAt, hat, hiff⟩ := hbreached r hr
      have hfalse : csvColumn "sla_breached" (toCsvRow r) = some "false" ↔
          ¬ r.ticket.slaBreached = true := by
        rw [csvColumn_slaBreached, Option.some.injEq, toString_eq_false, Bool.not_eq_true]
      rw [Function.comp_apply, notAfter_iff hat, decide_eq_true_iff, hfalse, hiff]
    · obtain ⟨resolvedAt, hat, hiff⟩ := hbreached r hr
      rw [hcell, DetailTab.SlaStatus_resolved (hresolved r hr).1 hat, hiff]

namespace Sample

def resuelto (slaDueAt : Option Time) : Row where
  ticket := { sinSla with status := .resuelto, slaDueAt := slaDueAt
                          resolvedAt := some 1767240000000 }
  reporter := none
  assignee := none

end Sample

theorem resolved_agree_due : ResolvedAgree [Sample.resuelto (some 1767240000000)] :=
  (resolved_agree_iff [Sample.resuelto (some 1767240000000)] (by decide)).mpr (by decide)

/-- A resolved ticket without a due date: within the SLA in the report, out of it on the pages. -/
theorem null_due_breached : ¬ ResolvedAgree [Sample.resuelto none] := by
  intro h
  have hcell := (h.shown (Sample.resuelto none) (by simp) 0).mp (by decide)
  rw [csvColumn_slaBreached] at hcell
  exact absurd hcell (by decide)

end TicketSystem
