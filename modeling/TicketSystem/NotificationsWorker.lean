import Mathlib.Data.List.Forall2
import TicketSystem.Lib.JsonText
import TicketSystem.Lib.Log
import TicketSystem.NotificationFormat

namespace TicketSystem

open Interleaved

inductive NotifyEvent where
  | ticketCreado | asignacion | cambioEstado | resolucion | escalamiento
  deriving DecidableEq, Repr

def NotifyEvent.text : NotifyEvent → String
  | .ticketCreado => "ticket_creado"
  | .asignacion => "asignacion"
  | .cambioEstado => "cambio_estado"
  | .resolucion => "resolucion"
  | .escalamiento => "escalamiento"

def NOTIFY_EVENTS : List NotifyEvent :=
  [.ticketCreado, .asignacion, .cambioEstado, .resolucion, .escalamiento]

structure NotificationMessage where
  ticketId : String
  ticketNumber : String
  title : String
  eventType : NotifyEvent
  recipientId : String
  requestId : Option String
  deriving DecidableEq, Repr

/-- What `notificationMessageSchema.parse` makes of a value; `none` is its exception. -/
def parseMessage (z : Zod) (raw : JsonText.Value) : Option NotificationMessage := do
  let text name := (raw.get? name).bind JsonText.Value.string?
  let ticketId ← (text "ticketId").filter z.uuid
  let ticketNumber ← (text "ticketNumber").filter (1 ≤ ·.length)
  let title ← (text "title").filter (1 ≤ ·.length)
  let eventType ← (text "eventType").bind fun s => NOTIFY_EVENTS.find? (·.text = s)
  let recipientId ← (text "recipientId").filter z.uuid
  let requestId ←
    match raw.get? "requestId" with
    | none => some none
    | some v => v.string?.map some
  pure { ticketId, ticketNumber, title, eventType, recipientId, requestId }

/-- `parseMessage(JSON.parse(body))` -/
def readMessage (z : Zod) (body : String) : Option NotificationMessage :=
  (JsonText.parse body.toList).bind (parseMessage z)

/-! ### The templates -/

structure EmailContent where
  subject : String
  body : String
  deriving DecidableEq, Repr

def TITLES : NotifyEvent → String
  | .ticketCreado => "Ticket creado"
  | .asignacion => "Ticket asignado"
  | .cambioEstado => "Cambio de estado"
  | .resolucion => "Ticket resuelto"
  | .escalamiento => "Ticket escalado"

def renderEmail (msg : NotificationMessage) : EmailContent :=
  let label := TITLES msg.eventType
  { subject := "[" ++ msg.ticketNumber ++ "] " ++ label ++ ": " ++ msg.title
    body := "Hola,\n\n" ++ label ++ " para el ticket " ++ msg.ticketNumber ++ " — \"" ++
      msg.title ++ "\".\n\nIngresa al sistema para ver el detalle.\n\n— Sistema de Tickets" }

def renderSlack (msg : NotificationMessage) : String :=
  let label := TITLES msg.eventType
  ":ticket: *" ++ label ++ "* — \x60" ++ msg.ticketNumber ++ "\x60 " ++ msg.title

/-! ### The worker -/

/-- What the handler asks of the database, of Amazon SES and of its logger. -/
inductive WorkerCall where
  | findUser (id : Uuid)
  | sesSend (source recipient : String) (content : EmailContent)
  | log (line : String)
  | disconnect

def WorkerCall.Res : WorkerCall → Type
  | .findUser _ => Option User
  | _ => Unit

inductive WorkerError where
  | invalid
  | failed
  deriving DecidableEq, Repr

abbrev Worker := Prog WorkerCall WorkerCall.Res WorkerError

def invoke (c : WorkerCall) : Worker c.Res := Prog.perform c

/-- `DispatchService`, with its `SES_FROM_ADDRESS`, the empty text where it is not set. -/
structure DispatchService where
  fromAddress : String

/-- Without an address to send from the mail is only logged. -/
def DispatchService.sendEmail (d : DispatchService) (recipient : String) (content : EmailContent) :
    Worker Unit :=
  if d.fromAddress = "" then
    invoke (.log ("[stub] email → " ++ recipient ++ ": " ++ content.subject))
  else do
    invoke (.sesSend d.fromAddress recipient content)
    invoke (.log ("email enviado → " ++ recipient ++ ": " ++ content.subject))

/-- Nothing is sent to Slack yet. -/
def DispatchService.sendSlack (_ : DispatchService) (slackUserId text : String) : Worker Unit :=
  invoke (.log ("[stub] slack → " ++ slackUserId ++ ": " ++ text))

def dispatchTo (d : DispatchService) (msg : NotificationMessage) (user : User) :
    Channel → Worker Unit
  | .email => d.sendEmail user.email (renderEmail msg)
  | .slack =>
    match truthy user.slackUserId with
    | some slackUserId => d.sendSlack slackUserId (renderSlack msg)
    | none => pure ()

def dispatchAll (d : DispatchService) (msg : NotificationMessage) (user : User) :
    List Channel → Worker Unit
  | [] => pure ()
  | channel :: channels => do
    dispatchTo d msg user channel
    dispatchAll d msg user channels

/-- `NotificationsService.process`; that the id is of no UUID is an error of the query. -/
def NotificationMessage.process (d : DispatchService) (msg : NotificationMessage) :
    Worker (List Channel) :=
  match Uuid.parseStr? msg.recipientId with
  | none => .throw .failed
  | some recipientId => do
    let user : Option User ← invoke (.findUser recipientId)
    match user with
    | none => pure []
    | some user => do
      let channels := resolveChannels user
      dispatchAll d msg user channels
      pure channels

structure BatchResult where
  processed : Nat
  failed : Nat
  deriving DecidableEq, Repr

/-- One turn of the loop: does the record count as processed? -/
def handleRecord (z : Zod) (d : DispatchService) (body : String) : Worker Bool :=
  Prog.tryCatch
    (match readMessage z body with
      | none => .throw .invalid
      | some msg => do
        let _ ← msg.process d
        pure true)
    (fun _ => pure false)

def handleRecords (z : Zod) (d : DispatchService) : List String → BatchResult → Worker BatchResult
  | [], result => pure result
  | body :: records, result => do
    let done ← handleRecord z d body
    handleRecords z d records
      (if done then { result with processed := result.processed + 1 }
        else { result with failed := result.failed + 1 })

/-- The handler of one batch; nothing in its loop throws, so the `finally` comes after it. -/
def handler (z : Zod) (d : DispatchService) (records : Option (List String)) :
    Worker BatchResult := do
  let result ← handleRecords z d (records.getD []) { processed := 0, failed := 0 }
  let _ ← invoke .disconnect
  pure result

structure Outgoing where
  source : String
  recipient : String
  content : EmailContent
  deriving DecidableEq, Repr

/-- What a batch has done: looked a recipient up, sent a mail, written a line to the log, or tried
in vain. -/
inductive Handling where
  | found (id : Uuid) (user : Option User)
  | unread (id : Uuid)
  | sent (mail : Outgoing)
  | unsent (mail : Outgoing)
  | logged (line : String)
  deriving DecidableEq, Repr

def handling? : Obs WorkerCall WorkerCall.Res WorkerError → Option Handling
  | ⟨.findUser id, .ok user⟩ => some (.found id user)
  | ⟨.findUser id, .error _⟩ => some (.unread id)
  | ⟨.sesSend source recipient content, .ok _⟩ => some (.sent ⟨source, recipient, content⟩)
  | ⟨.sesSend source recipient content, .error _⟩ => some (.unsent ⟨source, recipient, content⟩)
  | ⟨.log line, _⟩ => some (.logged line)
  | ⟨.disconnect, _⟩ => none

/-- Any call may fail, but not the logger. -/
def WorkerCall.Answers : (c : WorkerCall) → Except WorkerError c.Res → Prop
  | .log _, r => r.isOk = true
  | _, _ => True

namespace NotificationMessage

variable (d : DispatchService) (msg : NotificationMessage) (user : User)

def mail : Outgoing where
  source := d.fromAddress
  recipient := user.email
  content := renderEmail msg

/-- The mail, and the line that tells of it. -/
def mailing : List Handling :=
  let subject := (renderEmail msg).subject
  if d.fromAddress = "" then [.logged ("[stub] email → " ++ user.email ++ ": " ++ subject)]
  else [.sent (msg.mail d user), .logged ("email enviado → " ++ user.email ++ ": " ++ subject)]

/-- The line that stands for a message to Slack. -/
def slackLine : List Handling :=
  (truthy user.slackUserId).toList.map fun slackUserId =>
    .logged ("[stub] slack → " ++ slackUserId ++ ": " ++ renderSlack msg)

/-- All that a message comes to, by the preferences of its recipient. -/
def served : List Handling :=
  (if user.notifyEmail then msg.mailing d user else []) ++
    (if user.notifySlack then msg.slackLine user else [])

/-- What a channel comes to. -/
def servedBy : Channel → List Handling
  | .email => msg.mailing d user
  | .slack => msg.slackLine user

theorem served_eq : (resolveChannels user).flatMap (msg.servedBy d user) = msg.served d user := by
  have hslack : (if user.notifySlack && user.slackUserId.any (· ≠ "") then [Channel.slack]
      else []).flatMap (msg.servedBy d user) =
        if user.notifySlack then msg.slackLine user else [] := by
    cases user.notifySlack with
    | false => rfl
    | true =>
      cases hid : user.slackUserId with
      | none => simp [slackLine, truthy, hid]
      | some id =>
        by_cases hempty : id = ""
        · simp [slackLine, truthy, hid, hempty]
        · simp [servedBy, hempty]
  unfold resolveChannels served
  rw [List.flatMap_append, hslack]
  cases user.notifyEmail <;> simp [servedBy]

end NotificationMessage

/-- The ways a record is handled. It counts as processed when its recipient is nobody, or is served;
otherwise it is invalid, or a call failed, the last that was made for it. -/
inductive RecordFate (z : Zod) (d : DispatchService) (body : String) : List Handling → Bool → Prop
  | invalid (invalid : readMessage z body = none) : RecordFate z d body [] false
  | unnamed {msg : NotificationMessage} (valid : readMessage z body = some msg)
      (unnamed : Uuid.parseStr? msg.recipientId = none) : RecordFate z d body [] false
  | unread {msg : NotificationMessage} {id : Uuid} (valid : readMessage z body = some msg)
      (recipient : Uuid.parseStr? msg.recipientId = some id) :
      RecordFate z d body [.unread id] false
  | nobody {msg : NotificationMessage} {id : Uuid} (valid : readMessage z body = some msg)
      (recipient : Uuid.parseStr? msg.recipientId = some id) :
      RecordFate z d body [.found id none] true
  | served {msg : NotificationMessage} {id : Uuid} {user : User}
      (valid : readMessage z body = some msg)
      (recipient : Uuid.parseStr? msg.recipientId = some id) :
      RecordFate z d body (.found id (some user) :: msg.served d user) true
  | unsent {msg : NotificationMessage} {id : Uuid} {user : User}
      (valid : readMessage z body = some msg)
      (recipient : Uuid.parseStr? msg.recipientId = some id) (wanted : user.notifyEmail = true)
      (address : d.fromAddress ≠ "") :
      RecordFate z d body [.found id (some user), .unsent (msg.mail d user)] false

section Batches

variable {z : Zod} {d : DispatchService}

/-- What a piece of the worker records and returns, whatever fails. -/
abbrev WorkerLogs {α : Type} (p : Worker α) (S : List Handling → Except WorkerError α → Prop) :
    Prop :=
  p.Logs WorkerCall.Answers handling? S

/-- The logger does not fail. -/
theorem log_records (line : String) (E : WorkerError → List Handling → Prop) :
    WorkerLogs (invoke (.log line)) fun l r =>
      (∀ u, r = .ok u → l = [.logged line]) ∧ ∀ e, r = .error e → E e l := by
  refine Prog.logs_perform fun r answers => ?_
  cases r with
  | ok u => exact ⟨fun _ _ => rfl, fun e he => by cases he⟩
  | error e => cases answers

/-- Only the mail can fail, and only where there is an address to send it from. -/
theorem sendEmail_records (msg : NotificationMessage) (user : User) :
    WorkerLogs (d.sendEmail user.email (renderEmail msg)) fun l r =>
      (∀ u, r = .ok u → l = msg.mailing d user) ∧
        ∀ e, r = .error e → d.fromAddress ≠ "" ∧ l = [.unsent (msg.mail d user)] := by
  by_cases hunset : d.fromAddress = ""
  · have hcode : d.sendEmail user.email (renderEmail msg) =
        invoke (.log ("[stub] email → " ++ user.email ++ ": " ++ (renderEmail msg).subject)) :=
      if_pos hunset
    have hmailing : msg.mailing d user =
        [.logged ("[stub] email → " ++ user.email ++ ": " ++ (renderEmail msg).subject)] :=
      if_pos hunset
    rw [hcode, hmailing]
    exact log_records _ _
  · have hcode : d.sendEmail user.email (renderEmail msg) =
        (invoke (.sesSend d.fromAddress user.email (renderEmail msg))).bind fun _ =>
          invoke (.log ("email enviado → " ++ user.email ++ ": " ++ (renderEmail msg).subject)) :=
      if_neg hunset
    have hmailing : msg.mailing d user = [.sent (msg.mail d user),
        .logged ("email enviado → " ++ user.email ++ ": " ++ (renderEmail msg).subject)] :=
      if_neg hunset
    rw [hcode, hmailing]
    refine Prog.logs_perform_bind (fun u _ => ?_) fun e _ => ?_
    · refine (log_records _ fun _ _ => False).mono fun l r h => ?_
      exact ⟨fun u hu => congrArg _ (h.1 u hu), fun e he => (h.2 e he).elim⟩
    · exact ⟨fun u hu => (by cases hu), fun _ _ => ⟨hunset, rfl⟩⟩

theorem dispatchTo_records (msg : NotificationMessage) (user : User) (channel : Channel) :
    WorkerLogs (dispatchTo d msg user channel) fun l r =>
      (∀ u, r = .ok u → l = msg.servedBy d user channel) ∧ ∀ e, r = .error e →
        channel = .email ∧ d.fromAddress ≠ "" ∧ l = [.unsent (msg.mail d user)] := by
  cases channel with
  | email => exact (sendEmail_records msg user).mono fun l r h => ⟨h.1, fun e he => ⟨rfl, h.2 e he⟩⟩
  | slack =>
    unfold dispatchTo NotificationMessage.servedBy NotificationMessage.slackLine
    cases truthy user.slackUserId with
    | none => exact ⟨fun _ _ => rfl, fun e he => by cases he⟩
    | some slackUserId => exact log_records _ _

/-- The channels are served in turn, up to a mail that fails. -/
theorem dispatchAll_records (msg : NotificationMessage) (user : User) (channels : List Channel) :
    WorkerLogs (dispatchAll d msg user channels) fun l r =>
      (∀ u, r = .ok u → l = channels.flatMap (msg.servedBy d user)) ∧ ∀ e, r = .error e →
        d.fromAddress ≠ "" ∧ ∃ done rest, channels = done ++ .email :: rest ∧
          l = done.flatMap (msg.servedBy d user) ++ [.unsent (msg.mail d user)] := by
  induction channels with
  | nil => exact ⟨fun _ _ => rfl, fun e he => by cases he⟩
  | cons channel channels ih =>
    refine Prog.Logs.bind (dispatchTo_records msg user channel) (fun l u hl => ?_) fun l e hl => ?_
    · rw [hl.1 u rfl]
      refine ih.mono fun l' r h => ⟨fun u hu => ?_, fun e he => ?_⟩
      · rw [List.flatMap_cons, h.1 u hu]
      · obtain ⟨address, done, rest, rfl, rfl⟩ := h.2 e he
        refine ⟨address, channel :: done, rest, rfl, ?_⟩
        rw [List.flatMap_cons, List.append_assoc]
    · obtain ⟨rfl, address, rfl⟩ := hl.2 e rfl
      exact ⟨fun u hu => (by cases hu), fun _ _ => ⟨address, [], channels, rfl, rfl⟩⟩

/-- The mail comes first. -/
theorem resolveChannels_email {user : User} {done rest : List Channel}
    (h : resolveChannels user = done ++ .email :: rest) : user.notifyEmail = true ∧ done = [] := by
  unfold resolveChannels at h
  cases hemail : user.notifyEmail with
  | false =>
    rw [hemail] at h
    have hmem : Channel.email ∈ done ++ .email :: rest := by simp
    rw [← h] at hmem
    simp at hmem
  | true =>
    refine ⟨rfl, ?_⟩
    cases done with
    | nil => rfl
    | cons first done =>
      rw [hemail, if_pos rfl, List.singleton_append, List.cons_append, List.cons.injEq] at h
      have hmem : Channel.email ∈ done ++ .email :: rest := by simp
      rw [← h.2] at hmem
      simp at hmem

theorem process_records {body : String} {msg : NotificationMessage}
    (valid : readMessage z body = some msg) :
    WorkerLogs (msg.process d) fun l r => RecordFate z d body l r.isOk := by
  unfold NotificationMessage.process
  cases hid : Uuid.parseStr? msg.recipientId with
  | none => exact .unnamed valid hid
  | some id =>
    refine Prog.logs_perform_bind (fun (user : Option User) _ => ?_) fun e _ => .unread valid hid
    cases user with
    | none => exact .nobody valid hid
    | some user =>
      have records := dispatchAll_records (d := d) msg user (resolveChannels user)
      refine Prog.Logs.bind records (fun l u hl => ?_) fun l e hl => ?_
      · have hall : l = msg.served d user := (hl.1 u rfl).trans (msg.served_eq d user)
        show RecordFate z d body (.found id (some user) :: (l ++ [])) true
        rw [List.append_nil, hall]
        exact .served valid hid
      · obtain ⟨address, done, rest, hchannels, hl⟩ := hl.2 e rfl
        obtain ⟨wanted, rfl⟩ := resolveChannels_email hchannels
        rw [hl]
        exact .unsent valid hid wanted address

theorem handleRecord_records (body : String) :
    WorkerLogs (handleRecord z d body) fun l r =>
      ∃ done, r = .ok done ∧ RecordFate z d body l done := by
  refine Prog.Logs.tryCatch
    (T := fun l r => RecordFate z d body l r.isOk ∧ ∀ done, r = .ok done → done = true) ?_
    (fun l done hl => ?_) fun l e hl => ?_
  · cases hread : readMessage z body with
    | none => exact ⟨.invalid hread, fun done hdone => by cases hdone⟩
    | some msg =>
      refine Prog.Logs.bind (process_records hread) (fun l channels hl => ?_) fun l e hl => ?_
      · refine ⟨?_, fun done hdone => (Except.ok.inj hdone).symm⟩
        rw [List.append_nil]
        exact hl
      · exact ⟨hl, fun done hdone => by cases hdone⟩
  · exact ⟨done, rfl, hl.2 done rfl ▸ hl.1⟩
  · refine ⟨false, rfl, ?_⟩
    rw [List.append_nil]
    exact hl.1

/-- How the records of a batch are handled: each on its own, in their order. -/
structure RecordFates (z : Zod) (d : DispatchService) (records : List String)
    (fates : List (List Handling × Bool)) (l : List Handling) : Prop where
  each : List.Forall₂ (fun body fate => RecordFate z d body fate.1 fate.2) records fates
  handled : l = fates.flatMap Prod.fst

def processedOf (fates : List (List Handling × Bool)) : Nat := fates.countP fun fate => fate.2

theorem handleRecords_records (records : List String) (result : BatchResult) :
    WorkerLogs (handleRecords z d records result) fun l r =>
      ∃ fates, RecordFates z d records fates l ∧
        ∃ total, r = .ok total ∧ total.processed = result.processed + processedOf fates ∧
          total.processed + total.failed = result.processed + result.failed + records.length := by
  induction records generalizing result with
  | nil => exact ⟨[], ⟨.nil, rfl⟩, result, rfl, rfl, rfl⟩
  | cons body records ih =>
    refine Prog.Logs.bind (handleRecord_records body) (fun l done hl => ?_) fun l e hl => ?_
    · obtain ⟨done', hdone, handled⟩ := hl
      cases hdone
      refine (ih _).mono fun l' r h => ?_
      obtain ⟨fates, hfates, total, hr, hprocessed, htotal⟩ := h
      refine ⟨(l, done) :: fates, ⟨.cons handled hfates.each, ?_⟩, total, hr, ?_, ?_⟩
      · rw [List.flatMap_cons, hfates.handled]
      · rw [hprocessed, processedOf, processedOf, List.countP_cons]
        cases done with
        | true => simp only [if_true]; omega
        | false => simp
      · rw [htotal, List.length_cons]
        cases done with
        | true => simp only [if_true]; omega
        | false => simp only [Bool.false_eq_true, if_false]; omega
    · obtain ⟨_, he, _⟩ := hl
      cases he

/-- A batch of the queue, whatever its records are and whichever of its calls fail: every record is
handled, in turn and on its own; what is sent and logged for it is what the preferences of its
recipient ask for, unless the look-up or the mail fails, which counts as a failure of this record
alone. -/
theorem batch_isolated (z : Zod) (d : DispatchService) (records : Option (List String)) :
    WorkerLogs (handler z d records) fun l r =>
      ∃ fates, RecordFates z d (records.getD []) fates l ∧
        ∀ total, r = .ok total → total.processed = processedOf fates ∧
          total.processed + total.failed = (records.getD []).length := by
  refine Prog.Logs.bind (handleRecords_records (records.getD []) _) (fun l total hl => ?_)
    fun l e hl => ?_
  · obtain ⟨fates, hfates, total', htotal, hprocessed, hlength⟩ := hl
    cases htotal
    have counted : total.processed = processedOf fates ∧
        total.processed + total.failed = (records.getD []).length :=
      ⟨hprocessed.trans (Nat.zero_add _), hlength.trans (Nat.zero_add _)⟩
    refine Prog.logs_perform_bind (fun _ _ => ⟨fates, ?_, fun total' ht => ?_⟩)
      fun e _ => ⟨fates, ?_, fun total' ht => by cases ht⟩
    · show RecordFates z d (records.getD []) fates (l ++ ([] ++ []))
      rw [List.append_nil, List.append_nil]
      exact hfates
    · exact Except.ok.inj ht ▸ counted
    · show RecordFates z d (records.getD []) fates (l ++ [])
      rw [List.append_nil]
      exact hfates
  · obtain ⟨fates, hfates, total, he, _⟩ := hl
    cases he

end Batches

namespace Sample

/-- A record of the queue, as the producer writes it. -/
def record (recipientId : String) : String :=
  "\x7b\"ticketId\":\"00000000-0000-0000-0000-000000000066\",\"ticketNumber\":\"TKT-0001\"," ++
    "\"title\":\"Caída\",\"eventType\":\"asignacion\",\"recipientId\":\"" ++ recipientId ++ "\"\x7d"

/-- Ana wants mails, and Beto wants Slack too. -/
def beto : User := { agente with notifySlack := true, slackUserId := some "U3" }

/-- A text that is no record, one for nobody, one whose mail fails and one that is served. -/
def mixed : List String :=
  ["\x7b", record "00000000-0000-0000-0000-000000000009",
    record "00000000-0000-0000-0000-000000000001", record "00000000-0000-0000-0000-000000000003"]

def mixedAnswer (_ : Nat) : (c : WorkerCall) → Except WorkerError c.Res
  | .findUser id => .ok ([reportante, beto].find? fun u => u.id == id)
  | .sesSend _ recipient _ => if recipient = reportante.email then .error .failed else .ok ()
  | .log _ => .ok ()
  | .disconnect => .ok ()

theorem mixedAnswer_answers (n : Nat) (c : WorkerCall) : c.Answers (mixedAnswer n c) := by
  cases c with
  | log => rfl
  | _ => trivial

def assignedMail : EmailContent where
  subject := "[TKT-0001] Ticket asignado: Caída"
  body := "Hola,\n\nTicket asignado para el ticket TKT-0001 — \"Caída\".\n\n" ++
    "Ingresa al sistema para ver el detalle.\n\n— Sistema de Tickets"

def mixedHandled : List Handling :=
  [.found 9 none, .found 1 (some reportante),
    .unsent ⟨"tickets@sample", "ana@sample", assignedMail⟩, .found 3 (some beto),
    .sent ⟨"tickets@sample", "beto@sample", assignedMail⟩,
    .logged "email enviado → beto@sample: [TKT-0001] Ticket asignado: Caída",
    .logged "[stub] slack → U3: :ticket: *Ticket asignado* — \x60TKT-0001\x60 Caída"]

theorem mixed_handled :
    (handler .documented ⟨"tickets@sample"⟩ (some mixed)).logOf handling? mixedAnswer =
      (mixedHandled, .ok { processed := 2, failed := 2 }) := by
  decide +kernel

end Sample

open Sample in
theorem batch_isolated_mixed :
    (handler .documented ⟨"tickets@sample"⟩ (some mixed)).logOf handling? mixedAnswer =
      (mixedHandled, .ok { processed := 2, failed := 2 }) ∧
    ∃ fates, RecordFates .documented ⟨"tickets@sample"⟩ mixed fates mixedHandled ∧
      processedOf fates = 2 := by
  refine ⟨mixed_handled, ?_⟩
  -- With the records named, the handler is not run to read the statement.
  obtain ⟨records, hrecords⟩ : ∃ records, records = mixed := ⟨mixed, rfl⟩
  have isolated := (batch_isolated .documented ⟨"tickets@sample"⟩ (some records)).logOf
    mixedAnswer_answers
  rw [hrecords, mixed_handled] at isolated
  obtain ⟨fates, handled, total⟩ := isolated
  exact ⟨fates, handled, (total { processed := 2, failed := 2 } rfl).1.symm⟩

end TicketSystem
