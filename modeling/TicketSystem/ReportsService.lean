import TicketSystem.TicketsService

namespace TicketSystem

open Interleaved

/-- A value of a row; what is null or undefined has no text, and a number that is not an integer
(or anything else) is given by its text. -/
inductive CsvValue where
  | null
  | string (s : String)
  | number (n : Int)
  | boolean (b : Bool)
  | other (text : String)
  deriving DecidableEq, Repr

/-- `String(value)` -/
def CsvValue.text : CsvValue → String
  | .null => ""
  | .string s => s
  | .number n => toString n
  | .boolean b => toString b
  | .other text => text

def csvField (value : CsvValue) : String :=
  let s := value.text
  if s.toList.any (fun c => c == '"' || c == ',' || c == '\r' || c == '\n') then
    "\"" ++ String.ofList (s.toList.flatMap fun c => if c = '"' then ['"', '"'] else [c]) ++ "\""
  else s

def csvRow (values : List CsvValue) : String := ",".intercalate (values.map csvField) ++ "\r\n"

/-- The decimal digits of `n`, at least `width` of them. -/
def padded (width n : Nat) : String :=
  let digits := toString n
  String.ofList (List.replicate (width - digits.length) '0') ++ digits

/-- The date a count of days from the epoch on is, in years of 365.2425 days that begin in
March. -/
def civilDate (days : Int) : Int × Nat × Nat :=
  let z := days + 719468
  let era := z.fdiv 146097
  let dayOfEra := (z - era * 146097).toNat
  let yearOfEra := (dayOfEra - dayOfEra / 1460 + dayOfEra / 36524 - dayOfEra / 146096) / 365
  let dayOfYear := dayOfEra - (365 * yearOfEra + yearOfEra / 4 - yearOfEra / 100)
  let month := (5 * dayOfYear + 2) / 153
  let day := dayOfYear - (153 * month + 2) / 5 + 1
  let year := yearOfEra + era * 400
  if month < 10 then (year, month + 3, day) else (year + 1, month - 9, day)

/-- A year that has not four digits is written with six and its sign. -/
def isoYear (year : Int) : String :=
  if 0 ≤ year ∧ year ≤ 9999 then padded 4 year.toNat
  else (if year < 0 then "-" else "+") ++ padded 6 year.natAbs

def toISOString (t : Time) : String :=
  let (year, month, day) := civilDate (t.fdiv 86400000)
  let ms := (t.fmod 86400000).toNat
  isoYear year ++ "-" ++ padded 2 month ++ "-" ++ padded 2 day ++ "T" ++
    padded 2 (ms / 3600000) ++ ":" ++ padded 2 (ms / 60000 % 60) ++ ":" ++
    padded 2 (ms / 1000 % 60) ++ "." ++ padded 3 (ms % 1000) ++ "Z"

example : toISOString 1767225600000 = "2026-01-01T00:00:00.000Z" := by decide +kernel

def TicketType.text : TicketType → String
  | .incidente => "incidente"
  | .solicitud => "solicitud"

def Priority.text : Priority → String
  | .critica => "critica"
  | .alta => "alta"
  | .media => "media"
  | .baja => "baja"

/-! ### ReportsService -/

def BATCH : Nat := 500

def HEADER : List String :=
  ["ticket_number", "type", "title", "severity", "impact", "priority", "status", "reporter_email",
    "assignee_email", "created_at", "resolved_at", "time_to_resolve_minutes", "escalation_level",
    "sla_breached"]

def buildWhere (q : ReportQuery) : Except Err ReportWhere := do
  let resolvedAtGte ← dateArg q.resolvedFrom
  let resolvedAtLte ← dateArg q.resolvedTo
  let assigneeId ← match truthy q.assigneeId with
    | none => .ok none
    | some s => (uuidArg s).map some
  pure { status := .resuelto
         priority := q.priority
         assigneeId := assigneeId
         resolvedAtGte := resolvedAtGte
         resolvedAtLte := resolvedAtLte }

/-- `Math.round` of the minutes between two times. -/
def roundMinutes (ms : Int) : Int := (ms + 30000).fdiv 60000

def Ticket.slaBreached (t : Ticket) : Bool :=
  match t.resolvedAt, t.slaDueAt with
  | some resolvedAt, some slaDueAt => slaDueAt < resolvedAt
  | _, _ => false

def toCsvRow (r : Row) : String :=
  let t := r.ticket
  csvRow
    [.string t.ticketNumber, .string t.type.text, .string t.title, .number t.severity,
      .number t.impact, .string t.priority.text, .string t.status.text,
      .string (r.reporter.getD ""), .string (r.assignee.getD ""),
      .string (toISOString t.createdAt), .string (t.resolvedAt.elim "" toISOString),
      match t.resolvedAt with
      | some resolvedAt => .number (roundMinutes (resolvedAt - t.createdAt))
      | none => .string "",
      .number t.escalationLevel, .boolean t.slaBreached]

/-- What the loop of `streamCsv` does with a batch: it yields the rows, and goes on from the last
one or breaks. -/
def batchPage (batch : List Row) : Page Row :=
  if batch.length = 0 then { items := [], nextCursor := none }
  else if batch.length < BATCH then { items := batch, nextCursor := none }
  else { items := batch, nextCursor := batch.getLast?.map (·.ticket.id) }

/-- One turn of the loop of `streamCsv`. -/
def streamBatch (q : ReportQuery) (cursor : Option Uuid) : Service (Page Row) := do
  let filter ← Service.ofExcept (buildWhere q)
  let batch : List Row ← call (.ticketFindBatch filter cursor (cursorSkip cursor) BATCH)
  pure (batchPage batch)

/-- A batch that is not full ends the loop, as a page that is not full ends a walk. -/
theorem batchPage_eq {batch : List Row} (h : batch.length ≤ BATCH) :
    batchPage batch = toPage (fun r => r.ticket.id) BATCH batch := by
  have hpos : 0 < BATCH := by decide
  unfold batchPage toPage
  split
  next hzero => simp [List.length_eq_zero_iff.mp hzero, hpos.ne]
  next =>
    split
    next hshort => rw [if_neg hshort.ne]
    next hfull => rw [if_pos (Nat.le_antisymm h (Nat.le_of_not_lt hfull))]

/-- What `streamCsv` yields over these turns. -/
def streamCsv (batches : List (Page Row)) : List String :=
  csvRow (HEADER.map .string) :: batches.flatMap fun p => p.items.map toCsvRow

end TicketSystem
