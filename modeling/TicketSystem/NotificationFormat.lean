import TicketSystem.Effects
import TicketSystem.Server

namespace TicketSystem

open Relational Interleaved

def TicketNotification.payload (m : TicketNotification) : NotificationPayload where
  type := m.type.text
  ticketId := m.ticketId.text
  recipientEmail := m.recipientEmail
  subject := m.subject
  body := m.body

def TicketNotification.mail (m : TicketNotification) : Mail where
  recipient := m.recipientEmail
  subject := m.subject
  body := m.body

section Schema

variable {z : Zod} {m : TicketNotification}

theorem text_listed (type : TicketNotifyType) : TICKET_NOTIFY_TYPES.contains type.text = true := by
  cases type <;> decide

/-- A field the schema takes is the field the producer wrote. -/
theorem safeParse_json {n : NotificationPayload} :
    safeParse z m.json = some n ↔ n = m.payload ∧ z.uuid m.ticketId.text = true ∧
      z.email m.recipientEmail = true ∧ 1 ≤ m.subject.length ∧ 1 ≤ m.body.length := by
  have htype : m.json.string? "type" = some m.type.text := rfl
  have hticket : m.json.string? "ticketId" = some m.ticketId.text := rfl
  have hemail : m.json.string? "recipientEmail" = some m.recipientEmail := rfl
  have hsubject : m.json.string? "subject" = some m.subject := rfl
  have hbody : m.json.string? "body" = some m.body := rfl
  simp only [safeParse, htype, hticket, hemail, hsubject, hbody, Option.bind_eq_bind,
    Option.bind_eq_some_iff, Option.filter_eq_some_iff]
  constructor
  · rintro ⟨_, ⟨⟨⟩, _⟩, _, ⟨⟨⟩, huuid⟩, _, ⟨⟨⟩, hmail⟩, _, ⟨⟨⟩, hs⟩, _, ⟨⟨⟩, hb⟩, ⟨⟩⟩
    exact ⟨rfl, huuid, hmail, of_decide_eq_true hs, of_decide_eq_true hb⟩
  · rintro ⟨rfl, huuid, hmail, hs, hb⟩
    exact ⟨_, ⟨rfl, text_listed _⟩, _, ⟨rfl, huuid⟩, _, ⟨rfl, hmail⟩, _, ⟨rfl, decide_eq_true hs⟩,
      _, ⟨rfl, decide_eq_true hb⟩, rfl⟩

theorem isTicketNotification_json : isTicketNotification z m.json = true ↔
    z.uuid m.ticketId.text = true ∧ z.email m.recipientEmail = true ∧
      1 ≤ m.subject.length ∧ 1 ≤ m.body.length := by
  simp only [isTicketNotification, Option.isSome_iff_exists, safeParse_json, exists_eq_left]

end Schema

inductive Notice where
  | assigned (updated : Ticket)
  | resolved (updated : Ticket)
  | commented (ticket : Ticket) (message : String)

def Notice.ticket : Notice → Ticket
  | .assigned t | .resolved t | .commented t _ => t

def Notice.type : Notice → TicketNotifyType
  | .assigned _ => .assigned
  | .resolved _ => .resolved
  | .commented _ _ => .commented

def Notice.notify : Notice → Service Unit
  | .assigned updated => notifyAssigned updated
  | .resolved updated => notifyResolved updated
  | .commented ticket message => notifyCommented ticket message

/-- Neither a subject nor a body is ever empty, whatever the title, solution or comment. -/
theorem Notice.notify_eq (x : Notice) : ∃ subject body, 1 ≤ subject.length ∧ 1 ≤ body.length ∧
    x.notify = notifyReporter x.ticket x.type subject body := by
  have bracket : 1 ≤ "[".length := by decide
  cases x with
  | assigned updated =>
    refine ⟨_, _, ?_, ?_, rfl⟩
    · simp only [String.length_append]
      omega
    · have : 1 ≤ "Hola,\n\nUn agente fue asignado a tu ticket ".length := by decide
      simp only [String.length_append]
      omega
  | resolved updated =>
    refine ⟨_, _, ?_, ?_, rfl⟩
    · simp only [String.length_append]
      omega
    · have : 1 ≤ "Hola,\n\nTu ticket ".length := by decide
      simp only [String.length_append]
      omega
  | commented ticket message =>
    refine ⟨_, _, ?_, ?_, rfl⟩
    · simp only [String.length_append]
      omega
    · have : 1 ≤ "Hola,\n\nTu ticket ".length := by decide
      simp only [String.length_append]
      omega

def World.Enqueued (w : World) (m : TicketNotification) (messageId : String) (w' : World) : Prop :=
  w' = { w with queue := w.queue ++ [⟨messageId, .stringify m.json⟩] }

/-- The mails go through `DispatchService`, which only logs them where no `SES_FROM_ADDRESS` is
set. -/
def Cmd.dispatch (fromAddress : String) (o : Oracle) :
    (c : Cmd) → World → Except Err c.Res × World
  | .one (.sendEmail recipient subject body), w =>
    if fromAddress = "" then (.ok (), w)
    else Cmd.exec o (.one (.sendEmail recipient subject body)) w
  | c, w => c.exec o w

/-- The consumer mails the message, from the address that is set, and does nothing else with it. -/
def TicketNotification.Mailed (z : Zod) (m : TicketNotification) (messageId : String) : Prop :=
  ∀ (fromAddress : String) (os : Nat → Oracle) (w : World), (∀ n, (os n).fault = none) →
    (processMessage z messageId (.stringify m.json)).alone (Cmd.dispatch fromAddress) os w =
      (.ok (), if fromAddress = "" then w else { w with mails := w.mails ++ [m.mail] })

/-- What the notification puts on the queue is recognised, and mailed to the reporter. -/
def Notice.Agrees (z : Zod) (x : Notice) (reporter : User) (os : Nat → Oracle) (w : World) : Prop :=
  ∃ m : TicketNotification, ∃ messageId, m.type = x.type ∧ m.ticketId = x.ticket.id ∧
    m.recipientEmail = reporter.email ∧
    w.Enqueued m messageId (x.notify.alone Cmd.exec os w).2 ∧
    isTicketNotification z m.json = true ∧ m.Mailed z messageId

section Agreement

variable {z : Zod} {os : Nat → Oracle} {w : World} {reporter : User}

theorem notifyReporter_alone (hf : ∀ n, (os n).fault = none) {t : Ticket}
    (hr : w.users.lookup User.id t.reporterId = some reporter) (wants : reporter.notifyEmail = true)
    (type : TicketNotifyType) (subject body : String) :
    w.Enqueued (notification t reporter type subject body) (os 1).messageId
      ((notifyReporter t type subject body).alone Cmd.exec os w).2 := by
  have hfound : Stmt.exec (os 0) (.userFindUnique t.reporterId) w = (.ok (some reporter), w) := by
    rw [Stmt.exec, hr]
  have hchannel : (resolveChannels reporter).contains .email = true := by
    simp [resolveChannels, wants]
  refine congrArg Prod.snd (Prog.alone_tryCatch_of_ok (a := ()) ?_)
  refine (call_alone (hf 0) hfound).trans ?_
  dsimp only
  rw [if_pos hchannel]
  exact call_alone (hf 1) rfl

theorem mailed_of_recognised {m : TicketNotification} (h : isTicketNotification z m.json = true)
    (messageId : String) : m.Mailed z messageId := by
  intro fromAddress os w hf
  obtain ⟨n, hn⟩ := Option.isSome_iff_exists.mp h
  obtain ⟨rfl, _⟩ := safeParse_json.mp hn
  have hparsed : (SqsBody.stringify m.json).parse?.bind (safeParse z) = some m.payload := hn
  rw [processMessage, hparsed]
  refine Prog.alone_perform ?_
  by_cases hunset : fromAddress = ""
  · rw [if_pos hunset]
    exact if_pos hunset
  · rw [if_neg hunset]
    exact (if_neg hunset).trans (Cmd.exec_one_of_ok (hf 0) _ _)

/-- A notification is recognised and mailed exactly if the schema takes the reporter's address. -/
theorem agrees_iff (uuids : ∀ s, uuidShaped s = true → z.uuid s = true)
    (hf : ∀ n, (os n).fault = none) (x : Notice)
    (hr : w.users.lookup User.id x.ticket.reporterId = some reporter)
    (wants : reporter.notifyEmail = true) :
    x.Agrees z reporter os w ↔ z.email reporter.email = true := by
  constructor
  · rintro ⟨m, _, _, _, hmail, _, recognised, _⟩
    exact hmail ▸ (isTicketNotification_json.mp recognised).2.1
  · intro accepted
    obtain ⟨subject, body, hsubject, hbody, heq⟩ := x.notify_eq
    have recognised : isTicketNotification z
        (notification x.ticket reporter x.type subject body).json = true :=
      isTicketNotification_json.mpr
        ⟨uuids _ (Uuid.shaped_text _), accepted, hsubject, hbody⟩
    exact ⟨notification x.ticket reporter x.type subject body, (os 1).messageId, rfl, rfl, rfl,
      heq ▸ notifyReporter_alone hf hr wants .., recognised, mailed_of_recognised recognised _⟩

end Agreement

/-! ### The documented patterns -/

/-- `[A-Z0-9_'+\-\.]*[A-Z0-9_+-]` in either case, with no dot at the start or after another. -/
def emailLocal (cs : List Char) : Bool :=
  cs.all (fun c => c.isAlphanum || "_'+-.".toList.contains c) &&
  cs.getLast?.any (fun c => c.isAlphanum || "_+-".toList.contains c) &&
  cs.head? != some '.' && !(cs.zip cs.tail).contains ('.', '.')

/-- `([A-Z0-9][A-Z0-9\-]*\.)+[A-Z]{2,}` in either case. -/
def emailDomain (cs : List Char) : Bool :=
  let labels := cs.splitOn '.'
  2 ≤ labels.length && labels.getLast?.any (fun l => 2 ≤ l.length && l.all Char.isAlpha) &&
  labels.dropLast.all fun l =>
    l.head?.any Char.isAlphanum && l.all fun c => c.isAlphanum || c == '-'

def emailShaped (s : String) : Bool :=
  match s.toList.splitOn '@' with
  | [user, domain] => emailLocal user && emailDomain domain
  | _ => false

def Zod.documented : Zod where
  uuid := uuidShaped
  email := emailShaped

namespace Sample

/-- The installation after the first login of somebody with this address. -/
def joined (email : String) : World :=
  ((exchangeCode (.claims (some email) none)).alone Cmd.exec (fun n => { uuid := 100 + n }) world).2

def newcomer (email : String) : User := { id := 100, email := email, role := .reportante }

def ticketOf (reporter : User) : Ticket where
  id := 102
  ticketNumber := "TKT-0001"
  type := .incidente
  title := "No arranca el servicio"
  description := "El servicio de pagos responde 500 desde las nueve"
  severity := 2
  impact := 2
  priority := .alta
  reporterId := reporter.id
  slaDueAt := none
  idempotencyKey := none
  createdAt := 0

end Sample

open Sample in
theorem agrees_newcomer :
    (Notice.commented (ticketOf (newcomer "ana@sample.com")) "Listo").Agrees .documented
      (newcomer "ana@sample.com") (fun n => { uuid := n }) (joined "ana@sample.com") :=
  (agrees_iff (fun _ h => h) (fun _ => rfl) _ rfl rfl).mpr (by decide +kernel)

open Sample in
/-- An address that a login stores, and that the schema refuses. -/
theorem stored_email_refused :
    ¬ ∀ (email : String) (groups : Option (List String)) (os os' : Nat → Oracle) (w : World)
        (x : Notice) (reporter : User), (∀ n, (os n).fault = none) → (∀ n, (os' n).fault = none) →
      ((exchangeCode (.claims (some email) groups)).alone Cmd.exec os w).2.users.lookup User.id
        x.ticket.reporterId = some reporter →
      reporter.email = email → reporter.notifyEmail = true →
      x.Agrees .documented reporter os'
        ((exchangeCode (.claims (some email) groups)).alone Cmd.exec os w).2 := by
  intro hall
  obtain ⟨m, _, _, _, hmail, _, recognised, _⟩ := hall "r&d@sample.com" none
    (fun n => { uuid := 100 + n }) (fun n => { uuid := n }) world
    (.assigned (ticketOf (newcomer "r&d@sample.com"))) (newcomer "r&d@sample.com")
    (fun _ => rfl) (fun _ => rfl) rfl rfl rfl
  have accepted : emailShaped m.recipientEmail = true :=
    (isTicketNotification_json.mp recognised).2.1
  rw [hmail] at accepted
  exact absurd accepted (by decide +kernel)

end TicketSystem
