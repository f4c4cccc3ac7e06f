import TicketSystem.Dto
import TicketSystem.Rules
import TicketSystem.TicketNotification

namespace TicketSystem

open Interleaved

def IDEMPOTENCY_WINDOW_MS : Int := 24 * 60 * 60 * 1000

def DEFAULT_LIMIT : Nat := 20

structure Page (ι : Type) where
  items : List ι
  nextCursor : Option Uuid
  deriving DecidableEq, Repr

structure CreateResult where
  ticket : Ticket
  created : Bool
  deriving DecidableEq, Repr

structure TicketAttachmentRef where
  id : Uuid
  filename : String
  deriving DecidableEq, Repr

structure TicketWithAttachments where
  ticket : Ticket
  attachments : List TicketAttachmentRef
  slaStatus : Option SlaStatus
  slaOffByDays : Option Int
  deriving DecidableEq, Repr

def throwHttp {α : Type} (e : HttpException) : Service α := .throw (.http e)

def Service.ofExcept {α : Type} : Except Err α → Service α
  | .ok a => .pure a
  | .error e => .throw e

def ticketNotFound : HttpException := .notFound "Ticket no encontrado"

def conflictVersion : HttpException :=
  .conflict "conflict-version" "El ticket cambió; refetch y reintenta"

def notification (ticket : Ticket) (reporter : User) (type : TicketNotifyType)
    (subject body : String) : TicketNotification where
  type := type
  ticketId := ticket.id
  recipientEmail := reporter.email
  subject := subject
  body := body

/-- Best effort: whatever goes wrong is swallowed (the log line is not modelled). -/
def notifyReporter (ticket : Ticket) (type : TicketNotifyType) (subject body : String) :
    Service Unit :=
  Prog.tryCatch
    (do
      let reporter : Option User ← call (.userFindUnique ticket.reporterId)
      match reporter with
      | none => pure ()
      | some reporter =>
        if (resolveChannels reporter).contains .email then do
          let _ ← call (.enqueue (notification ticket reporter type subject body).json)
          pure ()
        else pure ())
    (fun _ => pure ())

def lookupRecent (key : String) : Service (Option Ticket) := do
  let now : Time ← call .now
  call (.ticketFindFirst { idempotencyKey := some key,
                           createdAtGt := some (now - IDEMPOTENCY_WINDOW_MS) })

def newTicket (dto : CreateTicketDto) (user : User) (idempotencyKey : Option String)
    (priority : Priority) (slaDueAt : Option Time) : TicketCreate where
  type := dto.type
  title := dto.title
  description := dto.description
  severity := dto.severity
  impact := dto.impact
  priority := priority
  reporterId := user.id
  slaDueAt := slaDueAt
  idempotencyKey := idempotencyKey

def ticketCreadoEvent (created : Ticket) (user : User) : TicketEventCreate where
  ticketId := created.id
  actorId := user.id
  eventType := .ticketCreado
  payload := .ticketCreado created.ticketNumber created.type created.priority created.severity
    created.impact

def attachWhere (ids : List Uuid) (user : User) : AttachmentWhere where
  idIn := ids
  uploaderId := user.id
  status := .pending
  ticketId := none

def attachUpdate (created : Ticket) (now : Time) : AttachmentUpdate where
  ticketId := some created.id
  status := .attached
  attachedAt := some now
  expiresAt := none

/-- Links the uploads named in the body; an id that does not qualify is ignored. -/
def linkAttachments (dto : CreateTicketDto) (user : User) (created : Ticket) : Tx Unit :=
  match dto.attachments with
  | none => pure ()
  | some ids =>
    if ids.length > 0 then do
      let now : Time ← tx .now
      let _ ← tx (.attachmentUpdateMany (attachWhere ids user) (attachUpdate created now))
      pure ()
    else pure ()

def createTransaction (dto : CreateTicketDto) (user : User) (idempotencyKey : Option String)
    (priority : Priority) (slaDueAt : Option Time) : Tx Ticket := do
  let created : Ticket ← tx (.ticketCreate (newTicket dto user idempotencyKey priority slaDueAt))
  let _ ← tx (.ticketEventCreate (ticketCreadoEvent created user))
  linkAttachments dto user created
  pure created

/-- A unique violation is read as a lost race on the same key. -/
def recoverDuplicate (idempotencyKey : Option String) (err : Err) : Service CreateResult :=
  match truthy idempotencyKey, err with
  | some key, .prisma .P2002 => do
    let existing : Option Ticket ← call (.ticketFindFirst { idempotencyKey := some key })
    match existing with
    | some existing => pure { ticket := existing, created := false }
    | none => .throw err
  | _, _ => .throw err

def slaDueDate (sla : Option SlaRule) : Service (Option Time) :=
  match sla with
  | none => pure none
  | some sla => do
    let now : Time ← call .now
    pure (some (now + sla.timeToResolveMinutes * 60000))

def insertTicket (dto : CreateTicketDto) (user : User) (idempotencyKey : Option String) :
    Service CreateResult := do
  let priority ← Service.ofExcept (calculatePriority dto.severity dto.impact)
  let sla : Option SlaRule ← call (.slaRuleFindUnique priority)
  let slaDueAt ← slaDueDate sla
  Prog.tryCatch
    (do
      let ticket : Ticket ←
        Prog.perform (Cmd.transaction (createTransaction dto user idempotencyKey priority slaDueAt))
      pure { ticket := ticket, created := true })
    (recoverDuplicate idempotencyKey)

def create (dto : CreateTicketDto) (user : User) (idempotencyKey : Option String) :
    Service CreateResult :=
  match truthy idempotencyKey with
  | none => insertTicket dto user idempotencyKey
  | some key => do
    let existing ← lookupRecent key
    match existing with
    | some existing => pure { ticket := existing, created := false }
    | none => insertTicket dto user idempotencyKey

def listAssignee (assigneeId : Option String) (user : User) : Except Err (Option Uuid) :=
  match truthy assigneeId with
  | none => .ok none
  | some s => if s = "me" then .ok (some user.id) else (uuidArg s).map some

def dateArg : Option JsDate → Except Err (Option Time)
  | none => .ok none
  | some (.time t) => .ok (some t)
  | some .invalid => .error .prismaValidation

def listWhere (query : ListTicketsQuery) (user : User) : Except Err TicketListWhere := do
  let createdAtGte ← dateArg query.createdFrom
  let createdAtLte ← dateArg query.createdTo
  let assigneeId ← listAssignee query.assigneeId user
  pure { reporterId := if user.role = .reportante then some user.id else none
         status := query.status
         priority := query.priority
         severity := query.severity
         assigneeId := assigneeId
         createdAtGte := createdAtGte
         createdAtLte := createdAtLte
         q := truthy query.q }

/-- An empty cursor is none; the row of the cursor is skipped. -/
def cursorArg (cursor : Option String) : Except Err (Option Uuid) :=
  match truthy cursor with
  | none => .ok none
  | some s => (uuidArg s).map some

def cursorSkip (cursor : Option Uuid) : Nat := if cursor.isSome then 1 else 0

def toPage {ι : Type} (id : ι → Uuid) (limit : Nat) (items : List ι) : Page ι where
  items := items
  nextCursor := if items.length = limit then items.getLast?.map id else none

def list (query : ListTicketsQuery) (user : User) : Service (Page Ticket) := do
  let filter ← Service.ofExcept (listWhere query user)
  let cursor ← Service.ofExcept (cursorArg query.cursor)
  let limit := query.limit.getD DEFAULT_LIMIT
  let items : List Ticket ← call (.ticketFindPage filter cursor (cursorSkip cursor) limit)
  pure (toPage Ticket.id limit items)

def getForUser (id : Uuid) (user : User) : Service TicketWithAttachments := do
  let found : Option (Ticket × List Attachment) ← call (.ticketFindUniqueWithAttachments id)
  match found with
  | none => throwHttp ticketNotFound
  | some (ticket, attachments) => do
    Service.ofExcept (requireOwnTicket ticket user)
    let now : Time ← call .now
    let sla := computeSlaFields ticket.slaDueAt now
    pure { ticket := ticket
           attachments := attachments.map fun a => { id := a.id, filename := a.originalFilename }
           slaStatus := sla.slaStatus
           slaOffByDays := sla.slaOffByDays }

def events (ticketId : Uuid) (query : ListEventsQuery) (user : User) :
    Service (Page EventWithActor) := do
  let _ ← getForUser ticketId user
  let cursor ← Service.ofExcept (cursorArg query.cursor)
  let limit := query.limit.getD DEFAULT_LIMIT
  let items : List EventWithActor ←
    call (.ticketEventFindPage ticketId cursor (cursorSkip cursor) limit)
  pure (toPage (fun x => x.event.id) limit items)

def assignWhere (id : Uuid) (dto : AssignTicketDto) : TicketWhere where
  id := some id
  version := some dto.expectedVersion

def assignUpdate (dto : AssignTicketDto) : TicketUpdate where
  assigneeId := some dto.assigneeId
  versionIncrement := 1

def asignacionEvent (id : Uuid) (ticket : Ticket) (dto : AssignTicketDto) (actor : User) :
    TicketEventCreate where
  ticketId := id
  actorId := actor.id
  eventType := .asignacion
  payload := .asignacion ticket.assigneeId dto.assigneeId

def notifyAssigned (updated : Ticket) : Service Unit :=
  notifyReporter updated .assigned
    ("[" ++ updated.ticketNumber ++ "] Tu ticket está siendo atendido")
    ("Hola,\n\nUn agente fue asignado a tu ticket " ++ updated.ticketNumber ++ " — \"" ++
      updated.title ++ "\" y ya está siendo atendido.\n\n" ++
      "Ingresa al sistema para ver el detalle.\n\n— Sistema de Tickets")

def assign (id : Uuid) (dto : AssignTicketDto) (actor : User) : Service Ticket := do
  let ticket : Option Ticket ← call (.ticketFindUnique id)
  match ticket with
  | none => throwHttp ticketNotFound
  | some ticket => do
    let assignee : Option User ← call (.userFindUnique dto.assigneeId)
    if assignee.all (·.role = .reportante) then
      throwHttp (.unprocessableEntity none "El assignee debe ser un agente o administrador")
    else do
      let count : Nat ← call (.ticketUpdateMany (assignWhere id dto) (assignUpdate dto))
      if count = 0 then throwHttp conflictVersion
      else do
        let _ ← call (.ticketEventCreate (asignacionEvent id ticket dto actor))
        let updated : Ticket ← call (.ticketFindUniqueOrThrow id)
        notifyAssigned updated
        pure updated

/-- The checks made on the row that was read, in the order of the source. -/
def checkChangeState (ticket : Ticket) (dto : ChangeStateDto) (actor : User) : Except Err Unit :=
  let next := dto.targetState.status
  if next = .resuelto ∧ (truthy dto.rootCause = none ∨ truthy dto.solution = none) then
    .error (.http (.badRequest "Resolver requiere root_cause y solution"))
  else if actor.role ≠ .administrador ∧ ticket.assigneeId ≠ some actor.id then
    .error (.http (.forbidden
      "Solo el agente asignado o un administrador pueden cambiar el estado"))
  else if next = .enProgreso ∧ ticket.assigneeId = none then
    .error (.http (.unprocessableEntity (some "assignee-required") "El ticket no tiene assignee"))
  else
    match canTransition ticket.status next actor.role with
    | .error reason =>
      .error (.http (.unprocessableEntity (some "invalid-transition") reason))
    | .ok () => .ok ()

def stateWhere (id : Uuid) (ticket : Ticket) (dto : ChangeStateDto) : TicketWhere where
  id := some id
  version := some dto.expectedVersion
  status := some ticket.status

/-- `now` is only read for a resolution. -/
def stateUpdate (dto : ChangeStateDto) (now : Time) : TicketUpdate :=
  match dto.targetState with
  | .enProgreso => { status := some .enProgreso, versionIncrement := 1 }
  | .resuelto => { status := some .resuelto, versionIncrement := 1, resolvedAt := some now,
                   rootCause := dto.rootCause, solution := dto.solution }

def stateEvent (id : Uuid) (ticket : Ticket) (dto : ChangeStateDto) (actor : User) :
    TicketEventCreate where
  ticketId := id
  actorId := actor.id
  eventType := match dto.targetState with
    | .enProgreso => .cambioEstado
    | .resuelto => .resolucion
  payload := match dto.targetState with
    | .enProgreso => .cambioEstado ticket.status .enProgreso
    | .resuelto => .resolucion ticket.status .resuelto dto.rootCause dto.solution actor.id

def notifyResolved (updated : Ticket) : Service Unit :=
  notifyReporter updated .resolved
    ("[" ++ updated.ticketNumber ++ "] Tu ticket fue resuelto")
    ("Hola,\n\nTu ticket " ++ updated.ticketNumber ++ " — \"" ++ updated.title ++
      "\" fue marcado como resuelto.\n\nSolución: " ++ updated.solution.getD "" ++
      "\n\nIngresa al sistema para ver el detalle.\n\n— Sistema de Tickets")

def readClockIf (needed : Bool) : Service Time := if needed then call .now else pure 0

def changeState (id : Uuid) (dto : ChangeStateDto) (actor : User) : Service Ticket := do
  let ticket : Option Ticket ← call (.ticketFindUnique id)
  match ticket with
  | none => throwHttp ticketNotFound
  | some ticket => do
    Service.ofExcept (checkChangeState ticket dto actor)
    let now ← readClockIf (dto.targetState = .resuelto)
    let count : Nat ← call (.ticketUpdateMany (stateWhere id ticket dto) (stateUpdate dto now))
    if count = 0 then throwHttp conflictVersion
    else do
      let _ ← call (.ticketEventCreate (stateEvent id ticket dto actor))
      let updated : Ticket ← call (.ticketFindUniqueOrThrow id)
      if dto.targetState = .resuelto then notifyResolved updated else pure ()
      pure updated

def comentarioEvent (ticketId : Uuid) (actor : User) (message : String) : TicketEventCreate where
  ticketId := ticketId
  actorId := actor.id
  eventType := .comentario
  payload := .comentario actor.id message

def notifyCommented (ticket : Ticket) (message : String) : Service Unit :=
  notifyReporter ticket .commented
    ("[" ++ ticket.ticketNumber ++ "] Nuevo comentario en tu ticket")
    ("Hola,\n\nTu ticket " ++ ticket.ticketNumber ++ " — \"" ++ ticket.title ++
      "\" recibió un nuevo comentario:\n\n" ++ message ++
      "\n\nIngresa al sistema para responder.\n\n— Sistema de Tickets")

def addComment (ticketId : Uuid) (actor : User) (message : String) : Service TicketEvent := do
  let ticket : Option Ticket ← call (.ticketFindUnique ticketId)
  match ticket with
  | none => throwHttp ticketNotFound
  | some ticket =>
    if actor.role = .reportante ∧ ticket.reporterId ≠ actor.id then
      throwHttp (.forbidden "No puedes comentar un ticket que no es tuyo")
    else do
      let event : TicketEvent ← call (.ticketEventCreate (comentarioEvent ticketId actor message))
      notifyCommented ticket message
      pure event

end TicketSystem
