import TicketSystem.Lib.Sequential
import TicketSystem.AsyncConsumer
import TicketSystem.AttachmentsService
import TicketSystem.CognitoService
import TicketSystem.EscalationService
import TicketSystem.ReportsService

namespace TicketSystem

open Interleaved

/-- The requests that are served at the same time: those of the API, those of the escalation
worker, the turns of the loop of a report and those of the consumers of the queue. A user is the
row the guard loaded for the request. -/
inductive Request where
  | create (dto : CreateTicketDto) (user : User) (idempotencyKey : Option String)
  | getForUser (id : Uuid) (user : User)
  | assign (id : Uuid) (dto : AssignTicketDto) (actor : User)
  | changeState (id : Uuid) (dto : ChangeStateDto) (actor : User)
  | addComment (ticketId : Uuid) (actor : User) (message : String)
  | sweep (now : Time)
  | escalateOne (ticketId : Uuid) (currentLevel targetLevel : Nat) (systemActorId : Uuid)
  | list (query : ListTicketsQuery) (user : User)
  | events (ticketId : Uuid) (query : ListEventsQuery) (user : User)
  | streamBatch (query : ReportQuery) (cursor : Option Uuid)
  | createUpload (dto : CreateAttachmentDto) (user : User)
  | getDownload (id : Uuid) (user : User)
  | exchangeCode (exchange : CodeExchange)
  | login (provider : AuthProvider) (email : String)
  | createUser (data : UserCreate)
  | enqueue (body : Json)
  | poll (z : Zod) (batchSize : Nat)

inductive Response where
  | created (r : CreateResult)
  | detail (t : TicketWithAttachments)
  | ticket (t : Ticket)
  | event (e : TicketEvent)
  | swept (r : SweepResult)
  | escalated (done : Bool)
  | page (p : Page Ticket)
  | eventPage (p : Page EventWithActor)
  | batch (p : Page Row)
  | upload (r : UploadTicket)
  | download (r : Download)
  | session (r : SessionResult)
  | user (u : User)
  | accepted (messageId : String)
  | polled
  deriving DecidableEq, Repr

def respond {α : Type} (f : α → Response) (p : Service α) : Service Response :=
  p.bind (fun a => .pure (f a))

theorem respond_alone {α : Type} (f : α → Response) (p : Service α) (os : Nat → Oracle)
    (w : World) : (respond f p).alone Cmd.exec os w =
      ((p.alone Cmd.exec os w).1.map f, (p.alone Cmd.exec os w).2) := by
  obtain ⟨_, hn⟩ := Prog.alone_bind Cmd.exec p (fun a => (.pure (f a) : Service Response)) os w
  unfold respond
  rw [hn]
  obtain ⟨r, w'⟩ := p.alone Cmd.exec os w
  cases r <;> rfl

def serve : Request → Service Response
  | .create dto user key => respond .created (create dto user key)
  | .getForUser id user => respond .detail (getForUser id user)
  | .assign id dto actor => respond .ticket (assign id dto actor)
  | .changeState id dto actor => respond .ticket (changeState id dto actor)
  | .addComment ticketId actor message => respond .event (addComment ticketId actor message)
  | .sweep now => respond .swept (sweep now)
  | .escalateOne ticketId current target actor =>
    respond .escalated (escalateOne ticketId current target actor)
  | .list query user => respond .page (list query user)
  | .events ticketId query user => respond .eventPage (events ticketId query user)
  | .streamBatch query cursor => respond .batch (streamBatch query cursor)
  | .createUpload dto user => respond .upload (createUpload dto user)
  | .getDownload id user => respond .download (getDownload id user)
  | .exchangeCode exchange => respond .session (exchangeCode exchange)
  | .login provider email => respond .session (login provider email)
  | .createUser data => respond .user (createUser data)
  | .enqueue body => respond .accepted (enqueue body)
  | .poll z batchSize => respond (fun _ => .polled) (poll z batchSize)

abbrev Executed := Entry Cmd Cmd.Res Err World

abbrev Task := Thread Cmd Cmd.Res Err Response Request

abbrev Server := Pool Cmd Cmd.Res Err Response Request World

abbrev Action := Move Request Oracle

/-- The default id of an inserted row is one no row has. -/
def Oracle.Unused (o : Oracle) (w : World) : Prop :=
  (∀ t ∈ w.tickets.rows, t.id ≠ o.uuid) ∧ (∀ e ∈ w.events.rows, e.id ≠ o.uuid) ∧
  (∀ u ∈ w.users.rows, u.id ≠ o.uuid)

instance (o : Oracle) (w : World) : Decidable (o.Unused w) := inferInstanceAs (Decidable (_ ∧ _ ∧ _))

def freshIds (s : Server) : Action → Bool
  | .run _ o => decide (o.Unused s.world)
  | _ => true

abbrev Run (ok : Server → Action → Bool) : Server → Server → Prop :=
  Reach serve Cmd.exec (fun s m => ok s m = true)

/-! ### A small installation, to compute runs on -/

namespace Sample

def reportante : User := { id := 1, email := "ana@sample", role := .reportante }

def vecina : User := { id := 2, email := "eva@sample", role := .reportante }

def agente : User := { id := 3, email := "beto@sample", role := .agente }

def suplente : User := { id := 4, email := "caro@sample", role := .agente }

def administrador : User := { id := 5, email := "dora@sample", role := .administrador }

/-- A migrated and seeded database without tickets. -/
def world : World where
  users := ⟨[reportante, vecina, agente, suplente, administrador], by decide⟩
  slaRules _ := some { timeToResolveMinutes := 240, escalationL1Minutes := 30,
                       escalationL2Minutes := 120 }

theorem world_fresh : world.Fresh := ⟨rfl, rfl, rfl⟩

def body : CreateTicketDto where
  type := .incidente
  title := "No arranca el servicio"
  description := "El servicio de pagos responde 500 desde las nueve"
  severity := 2
  impact := 2
  titleLength := by decide
  descriptionLength := by decide
  severityRange := by decide
  impactRange := by decide
  attachmentsSize := by simp

def start (v : Nat) : ChangeStateDto where
  targetState := .enProgreso
  expectedVersion := v
  rootCauseLength := by simp
  solutionLength := by simp

def solve (v : Nat) : ChangeStateDto where
  targetState := .resuelto
  expectedVersion := v
  rootCause := some "El disco de datos estaba lleno"
  solution := some "Se amplió el volumen de datos"
  rootCauseLength := by rintro _ ⟨⟩; decide
  solutionLength := by rintro _ ⟨⟩; decide

/-- Thread `i` executes `k` statements; new rows get the ids `100 + n` and up. -/
def steps (i n k : Nat) : List Action :=
  (List.range k).map fun j => .run i { uuid := 100 + n + j }

def play (ok : Server → Action → Bool) (moves : List Action) : Option Server :=
  Pool.replay serve Cmd.exec ok moves { world := world }

theorem play_run {ok : Server → Action → Bool} {moves : List Action}
    (h : (play ok moves).isSome) : Run ok { world := world } ((play ok moves).get h) :=
  Reach.of_replay (Option.some_get h).symm

def created : List Action := .arrive (.create body reportante none) :: steps 0 0 3

/-- One ticket, with id 102, created and answered. -/
def one : Server := (play (fun _ _ => true) created).get (by decide)

end Sample

end TicketSystem
