import TicketSystem.Rules

namespace TicketSystem

open Interleaved

def MAX_LEVEL : Nat := 2

structure SweepResult where
  scanned : Nat
  escalated : Nat
  deriving DecidableEq, Repr

def escalateWhere (ticketId : Uuid) (currentLevel : Nat) : TicketWhere where
  id := some ticketId
  escalationLevel := some currentLevel
  statusNot := some .resuelto

def escalateUpdate (targetLevel : Nat) : TicketUpdate where
  escalationLevel := some targetLevel

def escalamientoEvent (ticketId : Uuid) (currentLevel targetLevel : Nat) (systemActorId : Uuid) :
    TicketEventCreate where
  ticketId := ticketId
  actorId := systemActorId
  eventType := .escalamiento
  payload := .escalamiento currentLevel targetLevel

def escalateOne (ticketId : Uuid) (currentLevel targetLevel : Nat) (systemActorId : Uuid) :
    Service Bool := do
  let count : Nat ←
    call (.ticketUpdateMany (escalateWhere ticketId currentLevel) (escalateUpdate targetLevel))
  if count ≠ 1 then pure false
  else do
    let _ ← call (.ticketEventCreate
      (escalamientoEvent ticketId currentLevel targetLevel systemActorId))
    pure true

def elapsedMinutes (now createdAt : Time) : ℚ := ((now - createdAt : Int) : ℚ) / 60000

/-- One candidate of a sweep: is it escalated? -/
def sweepTicket (now : Time) (systemActorId : Uuid) (t : Ticket) : Service Bool := do
  let rule : Option SlaRule ← call (.slaRuleFindUnique t.priority)
  match rule with
  | none => pure false
  | some rule =>
    let target := decideEscalationLevel (elapsedMinutes now t.createdAt) rule
    if target > t.escalationLevel then escalateOne t.id t.escalationLevel target systemActorId
    else pure false

def sweepLoop (now : Time) (systemActorId : Uuid) : List Ticket → Nat → Service Nat
  | [], escalated => pure escalated
  | t :: candidates, escalated => do
    let done ← sweepTicket now systemActorId t
    sweepLoop now systemActorId candidates (if done then escalated + 1 else escalated)

def getSystemActorId : Service Uuid := do
  let user : User ← call (.userUpsert "system@ticket-system.dev" .administrador none)
  pure user.id

def sweepWhere : TicketWhere where
  statusNot := some .resuelto
  escalationLevelLt := some MAX_LEVEL

def sweep (now : Time) : Service SweepResult := do
  let systemActorId ← getSystemActorId
  let candidates : List Ticket ← call (.ticketFindMany sweepWhere)
  let escalated ← sweepLoop now systemActorId candidates 0
  pure { scanned := candidates.length, escalated := escalated }

end TicketSystem
