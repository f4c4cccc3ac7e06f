import Mathlib.Data.Rat.Defs
import TicketSystem.Prisma

namespace TicketSystem

/-- The sum matrix; 4 is the most severe and the widest impact. -/
def calculatePriority (severity impact : Nat) : Except Err Priority :=
  if severity < 1 ∨ 4 < severity then .error (.rangeError "severity debe ser un entero en 1..4")
  else if impact < 1 ∨ 4 < impact then .error (.rangeError "impact debe ser un entero en 1..4")
  else
    let score := severity + impact
    .ok (if 7 ≤ score then .critica else if 5 ≤ score then .alta
      else if 4 ≤ score then .media else .baja)

theorem calculatePriority_ok {severity impact : Nat} (hs : 1 ≤ severity ∧ severity ≤ 4)
    (hi : 1 ≤ impact ∧ impact ≤ 4) : ∃ p, calculatePriority severity impact = .ok p := by
  unfold calculatePriority
  rw [if_neg (by omega), if_neg (by omega)]
  exact ⟨_, rfl⟩

def TicketStatus.text : TicketStatus → String
  | .abierto => "abierto"
  | .enProgreso => "en_progreso"
  | .resuelto => "resuelto"

def canTransition (current next : TicketStatus) (role : Role) : Except String Unit :=
  if current = next then .error ("El ticket ya está en estado '" ++ current.text ++ "'")
  else
    let staff := role = .agente ∨ role = .administrador
    match current, next with
    | .abierto, .enProgreso =>
      if staff then .ok () else .error "Solo agente o administrador pueden iniciar el trabajo"
    | .enProgreso, .resuelto =>
      if staff then .ok () else .error "Solo agente o administrador pueden resolver"
    | .abierto, .resuelto =>
      if role = .administrador then .ok ()
      else .error "Resolver un ticket abierto (override) requiere administrador"
    | _, _ => .error ("Transición no permitida: " ++ current.text ++ " → " ++ next.text)

inductive TicketStatus.Moves : TicketStatus → TicketStatus → Prop
  | start : Moves .abierto .enProgreso
  | resolve : Moves .enProgreso .resuelto
  | override : Moves .abierto .resuelto

/-- All the state machine admits: three moves, by staff, the override by an administrator. -/
theorem canTransition_ok {current next : TicketStatus} {role : Role}
    (h : canTransition current next role = .ok ()) :
    current.Moves next ∧ role ≠ .reportante ∧
      (current = .abierto → next = .resuelto → role = .administrador) := by
  cases current <;> cases next <;> cases role <;>
    simp_all [canTransition, TicketStatus.Moves.start, TicketStatus.Moves.resolve,
      TicketStatus.Moves.override]

theorem TicketStatus.Moves.open {a b : TicketStatus} (h : a.Moves b) : a ≠ .resuelto := by
  cases h <;> decide

def decideEscalationLevel (elapsedMinutes : ℚ) (rule : SlaRule) : Nat :=
  if elapsedMinutes ≥ rule.escalationL2Minutes then 2
  else if elapsedMinutes ≥ rule.escalationL1Minutes then 1
  else 0

theorem decideEscalationLevel_le (elapsedMinutes : ℚ) (rule : SlaRule) :
    decideEscalationLevel elapsedMinutes rule ≤ 2 := by
  unfold decideEscalationLevel
  split
  next => exact le_rfl
  next => split <;> decide

inductive SlaStatus where
  | aTiempo | vencido
  deriving DecidableEq, Repr

structure SlaFields where
  slaStatus : Option SlaStatus
  slaOffByDays : Option Int
  deriving DecidableEq, Repr

def MS_PER_DAY : Int := 86400000

def computeSlaFields (slaDueAt : Option Time) (now : Time) : SlaFields :=
  match slaDueAt with
  | none => { slaStatus := none, slaOffByDays := none }
  | some due =>
    let diffMs := now - due
    { slaStatus := some (if diffMs > 0 then .vencido else .aTiempo)
      slaOffByDays := some (diffMs / MS_PER_DAY) }

/-- A reportante who asks for somebody else's ticket is told that it does not exist. -/
def requireOwnTicket (ticket : Ticket) (user : User) : Except Err Unit :=
  if user.role = .reportante ∧ ticket.reporterId ≠ user.id then
    .error (.http (.notFound "Ticket no encontrado"))
  else .ok ()

inductive Channel where
  | email | slack
  deriving DecidableEq, Repr

def resolveChannels (user : User) : List Channel :=
  (if user.notifyEmail then [.email] else []) ++
    (if user.notifySlack && user.slackUserId.any (· ≠ "") then [.slack] else [])

end TicketSystem
