import TicketSystem.Lib.Page
import TicketSystem.Lib.Program
import TicketSystem.Schema
import TicketSystem.TicketNumber

namespace TicketSystem

open Relational Interleaved

inductive PrismaCode where
  | P2002 | P2023 | P2025
  deriving DecidableEq, Repr

/-- The exceptions of `@nestjs/common` the services throw, with the message or the
`type` and `detail` they are given. -/
inductive HttpException where
  | badRequest (message : String)
  | unauthorized (message : String)
  | forbidden (message : String)
  | notFound (message : String)
  | unprocessableEntity (type : Option String) (detail : String)
  | conflict (type detail : String)
  | serviceUnavailable (message : String)
  deriving DecidableEq, Repr

inductive Err where
  | prisma (code : PrismaCode)
  /-- The client refuses the arguments before it asks the database. -/
  | prismaValidation
  /-- The database refuses an argument that the client lets through. -/
  | prismaUnknownRequest
  /-- The statement failed for a reason outside the code: a lost connection, a
  timeout, a queue that refuses. -/
  | failed
  | http (e : HttpException)
  | rangeError (message : String)
  deriving DecidableEq, Repr

/-- A `where` clause on tickets; an absent field matches every row. -/
structure TicketWhere where
  id : Option Uuid := none
  version : Option Nat := none
  status : Option TicketStatus := none
  statusNot : Option TicketStatus := none
  escalationLevel : Option Nat := none
  escalationLevelLt : Option Nat := none
  idempotencyKey : Option String := none
  createdAtGt : Option Time := none

def TicketWhere.matches (q : TicketWhere) (t : Ticket) : Bool :=
  q.id.all (t.id == ·) && q.version.all (t.version == ·) && q.status.all (t.status == ·) &&
  q.statusNot.all (t.status != ·) && q.escalationLevel.all (t.escalationLevel == ·) &&
  q.escalationLevelLt.all (t.escalationLevel < ·) &&
  q.idempotencyKey.all (t.idempotencyKey == some ·) && q.createdAtGt.all (· < t.createdAt)

/-- The `data` of an update; an absent field is left as it is. -/
structure TicketUpdate where
  assigneeId : Option Uuid := none
  status : Option TicketStatus := none
  escalationLevel : Option Nat := none
  versionIncrement : Nat := 0
  rootCause : Option String := none
  solution : Option String := none
  resolvedAt : Option Time := none

def TicketUpdate.apply (d : TicketUpdate) (t : Ticket) : Ticket :=
  { t with
    assigneeId := d.assigneeId.or t.assigneeId
    status := d.status.getD t.status
    escalationLevel := d.escalationLevel.getD t.escalationLevel
    version := t.version + d.versionIncrement
    rootCause := d.rootCause.or t.rootCause
    solution := d.solution.or t.solution
    resolvedAt := d.resolvedAt.or t.resolvedAt }

/-- No update touches an indexed column. -/
def TicketUpdate.rewrite (d : TicketUpdate) : Table.Rewrite Ticket.clash where
  run := d.apply
  left _ _ := Iff.rfl
  right _ _ := Iff.rfl

structure TicketCreate where
  type : TicketType
  title : String
  description : String
  severity : Nat
  impact : Nat
  priority : Priority
  reporterId : Uuid
  slaDueAt : Option Time
  idempotencyKey : Option String

structure TicketEventCreate where
  ticketId : Uuid
  actorId : Uuid
  eventType : EventType
  payload : Payload
  deriving DecidableEq, Repr

/-- The `where` clause of the queue; `q` is sought in the title and in the description. -/
structure TicketListWhere where
  reporterId : Option Uuid := none
  status : Option TicketStatus := none
  priority : Option Priority := none
  severity : Option Nat := none
  assigneeId : Option Uuid := none
  createdAtGte : Option Time := none
  createdAtLte : Option Time := none
  q : Option String := none

def TicketListWhere.matches (ilike : String → String → Bool) (f : TicketListWhere) (t : Ticket) :
    Bool :=
  f.reporterId.all (t.reporterId == ·) && f.status.all (t.status == ·) &&
  f.priority.all (t.priority == ·) && f.severity.all (t.severity == ·) &&
  f.assigneeId.all (t.assigneeId == some ·) && f.createdAtGte.all (· ≤ t.createdAt) &&
  f.createdAtLte.all (t.createdAt ≤ ·) &&
  f.q.all (fun q => ilike q t.title || ilike q t.description)

/-- A text PostgreSQL can hold: U+0000 is in none of them. -/
def storable (s : String) : Bool := !s.toList.contains '\x00'

theorem storable_iff {s : String} : storable s = true ↔ '\x00' ∉ s.toList := by
  simp [storable]

def Priority.rank : Priority → Nat
  | .critica => 0
  | .alta => 1
  | .media => 2
  | .baja => 3

/-- `orderBy: [{ priority: 'asc' }, { createdAt: 'asc' }, { id: 'asc' }]` -/
def Ticket.queueLe (a b : Ticket) : Bool :=
  a.priority.rank < b.priority.rank || (a.priority.rank == b.priority.rank &&
    (a.createdAt < b.createdAt || (a.createdAt == b.createdAt && a.id ≤ b.id)))

/-- `orderBy: [{ createdAt: 'asc' }, { id: 'asc' }]` -/
def TicketEvent.historyLe (a b : TicketEvent) : Bool :=
  a.createdAt < b.createdAt || (a.createdAt == b.createdAt && a.id ≤ b.id)

/-- The `where` clause of the report. -/
structure ReportWhere where
  status : TicketStatus
  priority : Option Priority := none
  assigneeId : Option Uuid := none
  resolvedAtGte : Option Time := none
  resolvedAtLte : Option Time := none

def ReportWhere.matches (f : ReportWhere) (t : Ticket) : Bool :=
  t.status == f.status && f.priority.all (t.priority == ·) &&
  f.assigneeId.all (t.assigneeId == some ·) &&
  f.resolvedAtGte.all (fun x => t.resolvedAt.any (x ≤ ·)) &&
  f.resolvedAtLte.all (fun x => t.resolvedAt.any (· ≤ x))

/-- `orderBy: { id: 'asc' }` -/
def Ticket.idLe (a b : Ticket) : Bool := a.id ≤ b.id

/-- A ticket with the addresses that the report tells. -/
structure Row where
  ticket : Ticket
  reporter : Option String
  assignee : Option String
  deriving DecidableEq, Repr

/-- `include: { reporter: { select: { email } }, assignee: { select: { email } } }` -/
def Ticket.row (users : Table User User.clash) (t : Ticket) : Row where
  ticket := t
  reporter := (users.lookup User.id t.reporterId).map User.email
  assignee := t.assigneeId.bind fun id => (users.lookup User.id id).map User.email

structure EventActor where
  id : Uuid
  email : String
  role : Role
  deriving DecidableEq, Repr

structure EventWithActor where
  event : TicketEvent
  actor : Option EventActor
  deriving DecidableEq, Repr

/-- `include: { actor: { select: { id, email, role } } }` -/
def TicketEvent.withActor (users : Table User User.clash) (e : TicketEvent) : EventWithActor where
  event := e
  actor := (users.lookup User.id e.actorId).map fun u =>
    { id := u.id, email := u.email, role := u.role }

structure AttachmentCreate where
  s3Key : String
  originalFilename : String
  contentType : String
  sizeBytes : Nat
  uploaderId : Uuid
  status : AttachmentStatus
  expiresAt : Option Time

structure UserCreate where
  email : String
  role : Role := .reportante
  notifyEmail : Bool := true
  notifySlack : Bool := false
  slackUserId : Option String := none
  deriving DecidableEq, Repr

structure AttachmentWhere where
  idIn : List Uuid
  uploaderId : Uuid
  status : AttachmentStatus
  ticketId : Option Uuid

def AttachmentWhere.matches (q : AttachmentWhere) (a : Attachment) : Bool :=
  q.idIn.contains a.id && a.uploaderId == q.uploaderId && a.status == q.status &&
  a.ticketId == q.ticketId

structure AttachmentUpdate where
  ticketId : Option Uuid
  status : AttachmentStatus
  attachedAt : Option Time
  expiresAt : Option Time

def AttachmentUpdate.rewrite (d : AttachmentUpdate) : Table.Rewrite Attachment.clash where
  run a := { a with ticketId := d.ticketId, status := d.status, attachedAt := d.attachedAt,
                    expiresAt := d.expiresAt }
  left _ _ := Iff.rfl
  right _ _ := Iff.rfl

def roleRewrite (role : Role) : Table.Rewrite User.clash where
  run u := { u with role := role }
  left _ _ := Iff.rfl
  right _ _ := Iff.rfl

/-- The calls the services make: Prisma operations, the clock, random ids, the queue, the
mail service and the object store. -/
inductive Stmt where
  | now
  | randomUUID
  | ticketFindFirst (q : TicketWhere)
  | ticketFindUnique (id : Uuid)
  | ticketFindUniqueOrThrow (id : Uuid)
  | ticketFindUniqueWithAttachments (id : Uuid)
  | ticketFindMany (q : TicketWhere)
  | ticketCreate (d : TicketCreate)
  | ticketUpdateMany (q : TicketWhere) (d : TicketUpdate)
  | ticketEventCreate (d : TicketEventCreate)
  | attachmentUpdateMany (q : AttachmentWhere) (d : AttachmentUpdate)
  | slaRuleFindUnique (priority : Priority)
  | userFindUnique (id : Uuid)
  | userUpsert (email : String) (create : Role) (update : Option Role)
  | userFindByEmail (email : String)
  | userCreate (d : UserCreate)
  | attachmentCreate (d : AttachmentCreate)
  | attachmentFindUnique (id : Uuid)
  | presignPut (key contentType : String) (expiresIn : Nat)
  | presignGet (key : String) (expiresIn : Nat)
  | ticketFindPage (f : TicketListWhere) (cursor : Option Uuid) (skip take : Nat)
  | ticketEventFindPage (ticketId : Uuid) (cursor : Option Uuid) (skip take : Nat)
  | ticketFindBatch (f : ReportWhere) (cursor : Option Uuid) (skip take : Nat)
  | enqueue (body : Json)
  | receiveMessages (maxNumberOfMessages : Nat)
  | deleteMessage (messageId : String)
  | sendEmail (recipient subject body : String)
  | putObject (key : String) (body : SqsBody)

@[reducible] def Stmt.Res : Stmt → Type
  | .now => Time
  | .randomUUID => Uuid
  | .ticketFindFirst _ => Option Ticket
  | .ticketFindUnique _ => Option Ticket
  | .ticketFindUniqueOrThrow _ => Ticket
  | .ticketFindUniqueWithAttachments _ => Option (Ticket × List Attachment)
  | .ticketFindMany _ => List Ticket
  | .ticketCreate _ => Ticket
  | .ticketUpdateMany _ _ => Nat
  | .ticketEventCreate _ => TicketEvent
  | .attachmentUpdateMany _ _ => Nat
  | .slaRuleFindUnique _ => Option SlaRule
  | .userFindUnique _ => Option User
  | .userUpsert _ _ _ => User
  | .userFindByEmail _ => Option User
  | .userCreate _ => User
  | .attachmentCreate _ => Attachment
  | .attachmentFindUnique _ => Option Attachment
  | .presignPut _ _ _ => String
  | .presignGet _ _ => String
  | .ticketFindPage _ _ _ _ => List Ticket
  | .ticketEventFindPage _ _ _ _ => List EventWithActor
  | .ticketFindBatch _ _ _ _ => List Row
  | .enqueue _ => String
  | .receiveMessages _ => List SqsMessage
  | .deleteMessage _ => Unit
  | .sendEmail _ _ _ => Unit
  | .putObject _ _ => Unit

/-- What one call draws from outside the database: the clock, the default id of
the row it inserts, a signed url, the id the queue gives a message, the messages it delivers
(by their places in it), and whether (and inside a transaction, where) the call fails. -/
structure Oracle where
  now : Time := 0
  uuid : Uuid
  url : String := ""
  messageId : String := ""
  delivered : List Nat := []
  fault : Option Nat := none

def TicketCreate.row (d : TicketCreate) (o : Oracle) (n : Nat) : Ticket where
  id := o.uuid
  ticketNumber := ticketNumber n
  type := d.type
  title := d.title
  description := d.description
  severity := d.severity
  impact := d.impact
  priority := d.priority
  reporterId := d.reporterId
  slaDueAt := d.slaDueAt
  idempotencyKey := d.idempotencyKey
  createdAt := o.now

def TicketEventCreate.row (d : TicketEventCreate) (o : Oracle) : TicketEvent where
  id := o.uuid
  ticketId := d.ticketId
  actorId := d.actorId
  eventType := d.eventType
  payload := d.payload
  createdAt := o.now

def AttachmentCreate.row (d : AttachmentCreate) (o : Oracle) : Attachment where
  id := o.uuid
  s3Key := d.s3Key
  originalFilename := d.originalFilename
  contentType := d.contentType
  sizeBytes := d.sizeBytes
  uploaderId := d.uploaderId
  status := d.status
  expiresAt := d.expiresAt
  createdAt := o.now

def UserCreate.row (d : UserCreate) (o : Oracle) : User where
  id := o.uuid
  email := d.email
  role := d.role
  notifyEmail := d.notifyEmail
  notifySlack := d.notifySlack
  slackUserId := d.slackUserId

def Stmt.exec (o : Oracle) : (s : Stmt) → World → Except Err s.Res × World
  | .now, w => (.ok o.now, w)
  | .randomUUID, w => (.ok o.uuid, w)
  | .ticketFindFirst q, w => (.ok (w.tickets.find? q.matches), w)
  | .ticketFindUnique id, w => (.ok (w.ticket? id), w)
  | .ticketFindUniqueOrThrow id, w =>
    match w.ticket? id with
    | some t => (.ok t, w)
    | none => (.error (.prisma .P2025), w)
  | .ticketFindUniqueWithAttachments id, w =>
    (.ok ((w.ticket? id).map fun t =>
      (t, (w.attachments.rows.filter
        (fun a => a.ticketId == some id && a.status == .attached)).mergeSort
          (fun a b => a.createdAt ≤ b.createdAt))), w)
  | .ticketFindMany q, w => (.ok (w.tickets.rows.filter q.matches), w)
  | .ticketCreate d, w =>
    -- the default takes a sequence value before any unique index is looked at
    let w' := { w with ticketNumberSeq := w.ticketNumberSeq + 1 }
    let row := d.row o w'.ticketNumberSeq
    match w.tickets.insert? row with
    | some tickets => (.ok row, { w' with tickets := tickets })
    | none => (.error (.prisma .P2002), w')
  | .ticketUpdateMany q d, w =>
    (.ok (w.tickets.count q.matches),
      { w with tickets := w.tickets.updateMany q.matches d.rewrite })
  | .ticketEventCreate d, w =>
    match w.events.insert? (d.row o) with
    | some events => (.ok (d.row o), { w with events := events })
    | none => (.error (.prisma .P2002), w)
  | .attachmentUpdateMany q d, w =>
    (.ok (w.attachments.count q.matches),
      { w with attachments := w.attachments.updateMany q.matches d.rewrite })
  | .slaRuleFindUnique priority, w => (.ok (w.slaRules priority), w)
  | .userFindUnique id, w => (.ok (w.users.lookup User.id id), w)
  | .userUpsert email create update, w =>
    match w.users.lookup User.email email with
    | some u =>
      let role := update.getD u.role
      (.ok { u with role := role },
        { w with users := w.users.updateMany (fun v => v.email == email) (roleRewrite role) })
    | none =>
      let u : User := { id := o.uuid, email := email, role := create }
      match w.users.insert? u with
      | some users => (.ok u, { w with users := users })
      | none => (.error (.prisma .P2002), w)
  | .userFindByEmail email, w => (.ok (w.users.lookup User.email email), w)
  | .userCreate d, w =>
    match w.users.insert? (d.row o) with
    | some users => (.ok (d.row o), { w with users := users })
    | none => (.error (.prisma .P2002), w)
  | .attachmentCreate d, w =>
    match w.attachments.insert? (d.row o) with
    | some attachments => (.ok (d.row o), { w with attachments := attachments })
    | none => (.error (.prisma .P2002), w)
  | .attachmentFindUnique id, w => (.ok (w.attachments.lookup Attachment.id id), w)
  | .presignPut _ _ _, w => (.ok o.url, w)
  | .presignGet _ _, w => (.ok o.url, w)
  | .ticketFindPage f cursor skip take, w =>
    if f.q.all storable then
      (.ok (findMany Ticket.queueLe (f.matches w.ilike) (cursor.map fun id t => t.id == id) skip
        take w.tickets.rows), w)
    else (.error .prismaUnknownRequest, w)
  | .ticketEventFindPage ticketId cursor skip take, w =>
    (.ok ((findMany TicketEvent.historyLe (fun e => e.ticketId == ticketId)
      (cursor.map fun id e => e.id == id) skip take w.events.rows).map
        (TicketEvent.withActor w.users)), w)
  | .ticketFindBatch f cursor skip take, w =>
    (.ok ((findMany Ticket.idLe f.matches (cursor.map fun id t => t.id == id) skip take
      w.tickets.rows).map (Ticket.row w.users)), w)
  | .enqueue body, w =>
    (.ok o.messageId, { w with queue := w.queue ++ [⟨o.messageId, .stringify body⟩] })
  -- at least once: what was deleted may still be delivered
  | .receiveMessages maxNumberOfMessages, w =>
    (.ok ((o.delivered.filterMap (w.queue[·]?)).take maxNumberOfMessages), w)
  | .deleteMessage messageId, w => (.ok (), { w with deleted := w.deleted ++ [messageId] })
  | .sendEmail recipient subject body, w =>
    (.ok (), { w with mails := w.mails ++ [⟨recipient, subject, body⟩] })
  | .putObject key body, w =>
    (.ok (), { w with objects := w.objects.filter (·.key ≠ key) ++ [⟨key, body⟩] })

/-- Reading the clock and drawing an id cannot fail. -/
def Stmt.fallible : Stmt → Bool
  | .now | .randomUUID => false
  | _ => true

abbrev Tx : Type → Type := Prog Stmt Stmt.Res Err

/-- Run a transaction body. With `some n` its fallible statement number `n` fails, or
the commit when there is no such statement. -/
def Tx.run (o : Oracle) {α : Type} : Tx α → Option Nat → World → Except Err α × World
  | .pure a, none, w => (.ok a, w)
  | .pure _, some _, w => (.error .failed, w)
  | .throw e, _, w => (.error e, w)
  | .stmt s k, none, w => Tx.run o (k (s.exec o w).1) none (s.exec o w).2
  | .stmt s k, some n, w =>
    if s.fallible then
      match n with
      | 0 => Tx.run o (k (.error .failed)) none w
      | n + 1 => Tx.run o (k (s.exec o w).1) (some n) (s.exec o w).2
    else Tx.run o (k (s.exec o w).1) (some n) (s.exec o w).2

/-- What a request issues as one atomic step: a call on its own, or a whole transaction. -/
inductive Cmd where
  | one (s : Stmt)
  | transaction (body : Tx Ticket)

@[reducible] def Cmd.Res : Cmd → Type
  | .one s => s.Res
  | .transaction _ => Ticket

def Cmd.exec (o : Oracle) : (c : Cmd) → World → Except Err c.Res × World
  | .one s, w => if o.fault.isSome && s.fallible then (.error .failed, w) else s.exec o w
  | .transaction body, w =>
    match body.run o o.fault w with
    | (.ok a, w') => (.ok a, w')
    -- a rollback does not give the sequence value back
    | (.error e, w') => (.error e, { w with ticketNumberSeq := w'.ticketNumberSeq })

/-- A service method: it interleaves with others between its commands. -/
abbrev Service : Type → Type := Prog Cmd Cmd.Res Err

abbrev Seen := Obs Cmd Cmd.Res Err

/-- A text compared with a uuid column has to spell a UUID. -/
def uuidArg (s : String) : Except Err Uuid :=
  match Uuid.parseStr? s with
  | some id => .ok id
  | none => .error (.prisma .P2023)

def call (s : Stmt) : Service s.Res := Prog.perform (C := Cmd) (R := Cmd.Res) (.one s)

def tx (s : Stmt) : Tx s.Res := Prog.perform s

end TicketSystem
