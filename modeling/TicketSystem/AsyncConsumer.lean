import TicketSystem.TicketsService

namespace TicketSystem

open Interleaved

/-- `POST /v1/notifications/enqueue` takes any JSON body. -/
def enqueue (body : Json) : Service String := call (.enqueue body)

/-- A ticket notification is mailed; any other message is stored. -/
def processMessage (z : Zod) (messageId : String) (body : SqsBody) : Service Unit :=
  match body.parse?.bind (safeParse z) with
  | some payload => call (.sendEmail payload.recipientEmail payload.subject payload.body)
  | none => call (.putObject ("async/" ++ messageId) body)

/-- A message is deleted after it was processed; one that fails is left in the queue. -/
def handleMessage (z : Zod) (msg : SqsMessage) : Service Unit :=
  Prog.tryCatch
    (do
      processMessage z msg.messageId msg.body
      call (.deleteMessage msg.messageId))
    (fun _ => pure ())

def handleMessages (z : Zod) : List SqsMessage → Service Unit
  | [] => pure ()
  | msg :: messages => do
    handleMessage z msg
    handleMessages z messages

/-- One turn of the endless loop of a consumer; the pauses are not modelled. -/
def poll (z : Zod) (batchSize : Nat) : Service Unit := do
  let messages : List SqsMessage ←
    Prog.tryCatch (call (.receiveMessages batchSize)) (fun _ => pure [])
  handleMessages z messages

end TicketSystem
