import TicketSystem.Json
import TicketSystem.Lib.Table
import TicketSystem.Uuid

namespace TicketSystem

open Relational

/-- Milliseconds since the epoch. -/
abbrev Time := Int

inductive Role where
  | reportante | agente | administrador
  deriving DecidableEq, Repr

inductive TicketType where
  | incidente | solicitud
  deriving DecidableEq, Repr

/-- Declared from the most to the least urgent, as the Postgres enum is. -/
inductive Priority where
  | critica | alta | media | baja
  deriving DecidableEq, Repr

inductive TicketStatus where
  | abierto | enProgreso | resuelto
  deriving DecidableEq, Repr

inductive AttachmentStatus where
  | pending | attached | expired
  deriving DecidableEq, Repr

inductive EventType where
  | ticketCreado | asignacion | cambioEstado | resolucion
  | escalamiento | comentario | adjuntoAgregado | adjuntoDescargado
  deriving DecidableEq, Repr

structure User where
  id : Uuid
  email : String
  role : Role
  notifyEmail : Bool := true
  notifySlack : Bool := false
  slackUserId : Option String := none
  deriving DecidableEq, Repr

structure Ticket where
  id : Uuid
  ticketNumber : String
  type : TicketType
  title : String
  description : String
  severity : Nat
  impact : Nat
  priority : Priority
  status : TicketStatus := .abierto
  reporterId : Uuid
  assigneeId : Option Uuid := none
  escalationLevel : Nat := 0
  slaDueAt : Option Time
  version : Nat := 0
  rootCause : Option String := none
  solution : Option String := none
  resolvedAt : Option Time := none
  idempotencyKey : Option String
  createdAt : Time
  deriving DecidableEq, Repr

/-- The JSON objects the code stores in `ticket_events.payload`. -/
inductive Payload where
  | ticketCreado (ticketNumber : String) (type : TicketType) (priority : Priority)
      (severity impact : Nat)
  | asignacion (fromAssigneeId : Option Uuid) (toAssigneeId : Uuid)
  | cambioEstado (fromState toState : TicketStatus)
  | resolucion (fromState toState : TicketStatus) (rootCause solution : Option String)
      (resolvedBy : Uuid)
  | escalamiento (fromLevel toLevel : Nat)
  | comentario (actorId : Uuid) (message : String)
  | adjuntoDescargado (attachmentId : Uuid) (s3Key : String)
  deriving DecidableEq, Repr

structure TicketEvent where
  id : Uuid
  ticketId : Uuid
  actorId : Uuid
  eventType : EventType
  payload : Payload
  createdAt : Time
  deriving DecidableEq, Repr

structure SlaRule where
  timeToResolveMinutes : Int
  escalationL1Minutes : Int
  escalationL2Minutes : Int
  deriving DecidableEq, Repr

structure Attachment where
  id : Uuid
  s3Key : String
  originalFilename : String
  contentType : String
  sizeBytes : Nat
  uploaderId : Uuid
  ticketId : Option Uuid := none
  status : AttachmentStatus := .pending
  expiresAt : Option Time
  createdAt : Time
  attachedAt : Option Time := none
  deriving DecidableEq, Repr

inductive TicketNotifyType where
  | resolved | commented | assigned
  deriving DecidableEq, Repr

structure TicketNotification where
  type : TicketNotifyType
  ticketId : Uuid
  recipientEmail : String
  subject : String
  body : String
  deriving DecidableEq, Repr

structure Mail where
  recipient : String
  subject : String
  body : String
  deriving DecidableEq, Repr

structure S3Object where
  key : String
  body : SqsBody
  deriving DecidableEq, Repr

/-! The unique indexes of each table, as the pairs of rows they forbid. -/

def User.clash (a b : User) : Prop := a.id = b.id ∨ a.email = b.email

/-- `idempotency_key` admits any number of nulls. -/
def Ticket.clash (a b : Ticket) : Prop :=
  a.id = b.id ∨ a.ticketNumber = b.ticketNumber ∨
    (a.idempotencyKey.isSome ∧ a.idempotencyKey = b.idempotencyKey)

def TicketEvent.clash (a b : TicketEvent) : Prop := a.id = b.id

def Attachment.clash (a b : Attachment) : Prop := a.id = b.id ∨ a.s3Key = b.s3Key

instance : DecidableRel User.clash := fun _ _ => inferInstanceAs (Decidable (_ ∨ _))

instance : DecidableRel Ticket.clash := fun _ _ => inferInstanceAs (Decidable (_ ∨ _ ∨ _))

instance : DecidableRel TicketEvent.clash := fun _ _ => inferInstanceAs (Decidable (_ = _))

instance : DecidableRel Attachment.clash := fun _ _ => inferInstanceAs (Decidable (_ ∨ _))

instance : Std.Symm Ticket.clash where
  symm a b h := by
    rcases h with h | h | ⟨h, he⟩
    · exact .inl h.symm
    · exact .inr (.inl h.symm)
    · exact .inr (.inr ⟨he ▸ h, he.symm⟩)

instance : Std.Symm TicketEvent.clash := ⟨fun _ _ h => Eq.symm h⟩

instance : Std.Symm User.clash := ⟨fun _ _ h => h.imp Eq.symm Eq.symm⟩

instance : Std.Symm Attachment.clash := ⟨fun _ _ h => h.imp Eq.symm Eq.symm⟩

theorem Ticket.clash_of_id {a b : Ticket} (h : a.id = b.id) : a.clash b := .inl h

theorem Ticket.clash_of_key {a b : Ticket} {k : String} (ha : a.idempotencyKey = some k)
    (hb : b.idempotencyKey = some k) : a.clash b :=
  .inr (.inr ⟨by simp [ha], ha.trans hb.symm⟩)

/-- Everything the services read and write: the tables, the sequence behind
`ticket_number` (its last value), the collation (`ilike q text`), the messages the queue has
accepted and those deleted from it, and what the consumer has sent and stored. -/
structure World where
  users : Table User User.clash := Table.empty
  tickets : Table Ticket Ticket.clash := Table.empty
  events : Table TicketEvent TicketEvent.clash := Table.empty
  attachments : Table Attachment Attachment.clash := Table.empty
  slaRules : Priority → Option SlaRule := fun _ => none
  ticketNumberSeq : Nat := 0
  ilike : String → String → Bool := fun q text =>
    (text.toLower.splitOn q.toLower).length > 1
  queue : List SqsMessage := []
  deleted : List String := []
  mails : List Mail := []
  objects : List S3Object := []

def World.ticket? (w : World) (id : Uuid) : Option Ticket := w.tickets.lookup Ticket.id id

theorem World.ticket?_id {w : World} {id : Uuid} {t : Ticket} (h : w.ticket? id = some t) :
    t.id = id := Table.lookup_key h

theorem World.ticket?_mem {w : World} {id : Uuid} {t : Ticket} (h : w.ticket? id = some t) :
    t ∈ w.tickets.rows := Table.lookup_mem h

theorem World.tickets_nodup (w : World) : (w.tickets.rows.map Ticket.id).Nodup :=
  Table.nodup_keys (fun _ _ => Ticket.clash_of_id) w.tickets

theorem World.ticket?_of_mem {w : World} {t : Ticket} (h : t ∈ w.tickets.rows) :
    w.ticket? t.id = some t := Table.lookup_of_mem (fun _ _ => Ticket.clash_of_id) h

/-- A database before its first ticket: no event either, and the sequence not yet
used; any users, uploads and SLA rules. -/
structure World.Fresh (w : World) : Prop where
  tickets : w.tickets.rows = []
  events : w.events.rows = []
  seq : w.ticketNumberSeq = 0

theorem World.Fresh.ticket? {w : World} (h : w.Fresh) (id : Uuid) : w.ticket? id = none := by
  refine Table.lookup_eq_none.mpr fun t ht => ?_
  rw [h.tickets] at ht
  cases ht

end TicketSystem
