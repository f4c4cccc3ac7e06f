import TicketSystem.Schema

namespace TicketSystem

/-- The length class-validator compares with: a surrogate pair is one character and
a variation selector is none. -/
def validatorLength (s : String) : Nat :=
  s.toList.countP (fun c => c.toNat ≠ 0xFE0E ∧ c.toNat ≠ 0xFE0F)

theorem validatorLength_le (s : String) : validatorLength s ≤ s.length := by
  rw [← String.length_toList]
  exact List.countP_le_length

/-- A body `CreateTicketDto` accepts. -/
structure CreateTicketDto where
  type : TicketType
  title : String
  description : String
  severity : Nat
  impact : Nat
  attachments : Option (List Uuid) := none
  titleLength : 5 ≤ validatorLength title ∧ validatorLength title ≤ 200
  descriptionLength : 20 ≤ validatorLength description ∧ validatorLength description ≤ 5000
  severityRange : 1 ≤ severity ∧ severity ≤ 4
  impactRange : 1 ≤ impact ∧ impact ≤ 4
  attachmentsSize : ∀ ids, attachments = some ids → ids.length ≤ 10

def MAX_ATTACHMENT_BYTES : Nat := 10 * 1024 * 1024

structure CreateAttachmentDto where
  filename : String
  contentType : String
  sizeBytes : Nat
  filenameLength : validatorLength filename ≤ 255
  contentTypeLength : validatorLength contentType ≤ 127
  sizeRange : 1 ≤ sizeBytes ∧ sizeBytes ≤ MAX_ATTACHMENT_BYTES

structure AssignTicketDto where
  assigneeId : Uuid
  expectedVersion : Nat
  deriving DecidableEq, Repr

inductive TargetState where
  | enProgreso | resuelto
  deriving DecidableEq, Repr

def TargetState.status : TargetState → TicketStatus
  | .enProgreso => .enProgreso
  | .resuelto => .resuelto

structure ChangeStateDto where
  targetState : TargetState
  expectedVersion : Nat
  rootCause : Option String := none
  solution : Option String := none
  rootCauseLength : ∀ s, rootCause = some s → 20 ≤ validatorLength s
  solutionLength : ∀ s, solution = some s → 20 ≤ validatorLength s

/-- What `new Date` makes of an accepted ISO 8601 text; of a week or an ordinal date, nothing
valid. -/
inductive JsDate where
  | time (t : Time)
  | invalid
  deriving DecidableEq, Repr

structure ListTicketsQuery where
  status : Option TicketStatus := none
  priority : Option Priority := none
  assigneeId : Option String := none
  severity : Option Nat := none
  createdFrom : Option JsDate := none
  createdTo : Option JsDate := none
  q : Option String := none
  cursor : Option String := none
  limit : Option Nat := none
  assigneeIdLength : ∀ s, assigneeId = some s → validatorLength s ≤ 64
  severityRange : ∀ n, severity = some n → 1 ≤ n ∧ n ≤ 4
  qLength : ∀ s, q = some s → validatorLength s ≤ 200
  limitRange : ∀ n, limit = some n → 1 ≤ n ∧ n ≤ 100

namespace ListTicketsQuery

theorem assigneeId_left_out (s : String) (h : none = some s) : validatorLength s ≤ 64 := by
  cases h

theorem severity_left_out (n : Nat) (h : none = some n) : 1 ≤ n ∧ n ≤ 4 := by
  cases h

theorem q_left_out (s : String) (h : none = some s) : validatorLength s ≤ 200 := by
  cases h

theorem limit_left_out (n : Nat) (h : none = some n) : 1 ≤ n ∧ n ≤ 100 := by
  cases h

end ListTicketsQuery

structure ListEventsQuery where
  cursor : Option String := none
  limit : Option Nat := none
  limitRange : ∀ n, limit = some n → 1 ≤ n ∧ n ≤ 100

/-- `from` and `to` bound the time of the resolution. -/
structure ReportQuery where
  resolvedFrom : Option JsDate := none
  resolvedTo : Option JsDate := none
  priority : Option Priority := none
  assigneeId : Option String := none
  assigneeIdLength : ∀ s, assigneeId = some s → validatorLength s ≤ 64

/-- JavaScript truthiness of an optional string. -/
def truthy (s : Option String) : Option String := s.filter (· ≠ "")

theorem truthy_eq_some {s : Option String} {v : String} :
    truthy s = some v ↔ s = some v ∧ v ≠ "" := by
  simp [truthy, Option.filter_eq_some_iff]

end TicketSystem
