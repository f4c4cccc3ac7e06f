import TicketSystem.Prisma

namespace TicketSystem

def TicketNotifyType.text : TicketNotifyType → String
  | .resolved => "ticket.resolved"
  | .commented => "ticket.commented"
  | .assigned => "ticket.assigned"

def TICKET_NOTIFY_TYPES : List String := ["ticket.resolved", "ticket.commented", "ticket.assigned"]

/-- The object the producer enqueues. -/
def TicketNotification.json (m : TicketNotification) : Json :=
  .object [("type", .string m.type.text), ("ticketId", .string m.ticketId.text),
    ("recipientEmail", .string m.recipientEmail), ("subject", .string m.subject),
    ("body", .string m.body)]

/-- The string formats of the schema library. -/
structure Zod where
  uuid : String → Bool
  email : String → Bool

structure NotificationPayload where
  type : String
  ticketId : String
  recipientEmail : String
  subject : String
  body : String
  deriving DecidableEq, Repr

/-- What `ticketNotificationSchema.safeParse` makes of a value. -/
def safeParse (z : Zod) (raw : Json) : Option NotificationPayload := do
  let type ← (raw.string? "type").filter (TICKET_NOTIFY_TYPES.contains ·)
  let ticketId ← (raw.string? "ticketId").filter z.uuid
  let recipientEmail ← (raw.string? "recipientEmail").filter z.email
  let subject ← (raw.string? "subject").filter (1 ≤ ·.length)
  let body ← (raw.string? "body").filter (1 ≤ ·.length)
  pure { type, ticketId, recipientEmail, subject, body }

def isTicketNotification (z : Zod) (raw : Json) : Bool := (safeParse z raw).isSome

end TicketSystem
