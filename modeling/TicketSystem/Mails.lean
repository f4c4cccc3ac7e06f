import TicketSystem.Assignees
import TicketSystem.NotificationFormat

namespace TicketSystem

open Relational Interleaved

/-- What a call to the mail service was asked to send. -/
def Seen.mail? : Seen → Option Mail
  | ⟨.one (.sendEmail recipient subject body), _⟩ => some ⟨recipient, subject, body⟩
  | _ => none

/-- The entry receives a message that carries this notification. -/
def Delivers (r : Executed) (m : TicketNotification) : Prop :=
  ∃ n messages msg, r.obs = ⟨.one (.receiveMessages n), .ok messages⟩ ∧ msg ∈ messages ∧
    msg.body = .stringify m.json

/-- The entry puts a notification on the queue that is addressed to the reporter of its ticket,
who wants mail, and that tells an event committed before. -/
structure Notifies (past : List Executed) (x : Executed) (m : TicketNotification) : Prop where
  enqueued : ∃ messageId, x.obs = ⟨.one (.enqueue m.json), .ok messageId⟩
  reporter : ∃ t u, x.before.ticket? m.ticketId = some t ∧
    x.before.user? t.reporterId = some u ∧ u.email = m.recipientEmail ∧ u.notifyEmail = true
  told : ∃ y ∈ past, ∃ ev, Seen.event? y.obs = some ev ∧ ev.ticketId = m.ticketId ∧
    ev.eventType = m.type.eventType

/-- Every mail of the consumer was received as a notification of a ticket's reporter. -/
def Server.MailsNotices (s : Server) : Prop :=
  ∀ h₁ e h₂ mail, s.history = h₁ ++ e :: h₂ → Seen.mail? e.obs = some mail →
    ∃ m : TicketNotification, m.mail = mail ∧ (∃ r ∈ h₁, r.tid = e.tid ∧ Delivers r m) ∧
      ∃ a x b, h₁ = a ++ x :: b ∧ Notifies a x m

/-- No consumer of the run takes the body of an enqueue request for a ticket notification. -/
def Server.Unforged (s : Server) : Prop :=
  ∀ t ∈ s.threads, ∀ body, t.request = .enqueue body →
    ∀ t' ∈ s.threads, ∀ z batchSize, t'.request = .poll z batchSize →
      isTicketNotification z body = false

/-- The entry put this message on the queue. -/
def Enqueues (x : Executed) (msg : SqsMessage) (body : Json) : Prop :=
  x.obs = ⟨.one (.enqueue body), .ok msg.messageId⟩ ∧ msg.body = .stringify body

theorem exec_enqueue {o : Oracle} {body : Json} {w w' : World} {r : Except Err String}
    (he : Cmd.exec o (.one (.enqueue body)) w = (r, w')) {msg : SqsMessage}
    (hmsg : msg ∈ w'.queue) :
    msg ∈ w.queue ∨ r = .ok msg.messageId ∧ msg.body = .stringify body := by
  rcases Cmd.exec_one o (.enqueue body) w with hc | hc
  · cases hc.symm.trans he
    exact .inl hmsg
  · cases hc.symm.trans he
    refine (List.mem_append.mp hmsg).imp_right fun h => ?_
    cases List.mem_singleton.mp h
    exact ⟨rfl, rfl⟩

theorem Seen.mail?_eq_some {o : Seen} {mail : Mail} (h : o.mail? = some mail) :
    o.cmd = .one (.sendEmail mail.recipient mail.subject mail.body) := by
  obtain ⟨c, r⟩ := o
  cases c with
  | transaction => cases h
  | one s =>
    cases s <;> cases h
    rfl

theorem Says.queue {q : Request} {past : List Seen} {e : Executed} (h : Says q past e.obs.cmd)
    {o : Oracle} (hx : Cmd.exec o e.obs.cmd e.before = (e.obs.answer, e.after)) {msg : SqsMessage}
    (hmsg : msg ∈ e.after.queue) : msg ∈ e.before.queue ∨ ∃ body, Enqueues e msg body := by
  obtain ⟨tid, ⟨c, r⟩, before, after⟩ := e
  dsimp only at *
  have same : ∀ s : Stmt, c = .one s → (s.exec o before).2.queue = before.queue →
      msg ∈ before.queue := by
    rintro s rfl hs
    rcases Cmd.exec_one o s before with hc | hc
    · cases hc.symm.trans hx
      exact hmsg
    · rw [← hs]
      rw [hc] at hx
      exact (congrArg Prod.snd hx) ▸ hmsg
  have put : ∀ body, c = .one (.enqueue body) →
      msg ∈ before.queue ∨ ∃ body, Enqueues ⟨tid, ⟨c, r⟩, before, after⟩ msg body := by
    rintro body rfl
    refine (exec_enqueue hx hmsg).imp_right fun ⟨hr, hbody⟩ => ⟨body, ?_, hbody⟩
    rw [hr]
  cases h with
  | plain plain => exact .inl (((congrArg Prod.snd hx) ▸ (Cmd.exec_silent plain).queue) ▸ hmsg)
  | sync =>
    refine .inl (same _ rfl ?_)
    simp only [Stmt.exec]
    split
    next => rfl
    next => split <;> rfl
  | publish => exact put _ rfl
  | notify => exact put _ rfl
  | mail => exact .inl (same _ rfl rfl)

section Runs

variable {ok : Server → Action → Bool} {w : World} {s : Server}

/-- Whatever is on the queue at a moment of the run was put there before. -/
theorem Run.queued (empty : w.queue = []) (h : Run ok { world := w } s) {h₁ h₂ : List Executed}
    (hs : s.history = h₁ ++ h₂) {v : World} (hl : Linked w h₁ v) :
    ∀ msg ∈ v.queue, ∃ x ∈ h₁, ∃ body, Enqueues x msg body := by
  refine hl.invariant (I := fun m v => ∀ msg ∈ v.queue, ∃ x ∈ m, ∃ body, Enqueues x msg body)
    (by simp [empty]) ?_
  rintro a e b rfl hi msg hmsg
  have hsplit : s.history = a ++ e :: (b ++ h₂) := by simpa using hs
  obtain ⟨_, _, hsays, o, hx⟩ := h.issued serve_outbound hsplit
  rcases hsays.queue hx hmsg with hold | ⟨body, hput⟩
  · obtain ⟨x, hx, hput⟩ := hi msg hold
    exact ⟨x, List.mem_append_left _ hx, hput⟩
  · exact ⟨e, List.mem_append_right _ (List.mem_singleton_self e), body, hput⟩

theorem Run.received (h : Run ok { world := w } s) {h₁ h₂ : List Executed} {r : Executed}
    (hs : s.history = h₁ ++ r :: h₂) {n : Nat} {messages : List SqsMessage}
    (hobs : r.obs = ⟨.one (.receiveMessages n), .ok messages⟩) : messages ⊆ r.before.queue := by
  obtain ⟨o, hx⟩ := Run.executed h hs hobs
  simp only [Stmt.exec, Prod.mk.injEq, Except.ok.injEq] at hx
  rw [← hx.1]
  intro msg hmsg
  obtain ⟨i, _, hi⟩ := List.mem_filterMap.mp (List.mem_of_mem_take hmsg)
  exact List.mem_of_getElem? hi

/-- A row the request was answered was in the database then. -/
theorem Run.found (h : Run ok { world := w } s) {h₁ h₂ : List Executed} {i : Nat}
    (hs : s.history = h₁ ++ h₂) {id : Uuid} {t : Ticket} (hf : Found id t (own i h₁)) :
    ∃ a y b, h₁ = a ++ y :: b ∧ y.before.ticket? id = some t ∧ y.after = y.before := by
  rcases hf with hmem | hmem
  · obtain ⟨y, hy, _, hobs⟩ := mem_own.mp hmem
    obtain ⟨a, b, rfl⟩ := List.append_of_mem hy
    exact ⟨a, y, b, rfl, Run.read_row h (show s.history = a ++ y :: (b ++ h₂) by simpa using hs) hobs⟩
  · obtain ⟨y, hy, _, hobs⟩ := mem_own.mp hmem
    obtain ⟨a, b, rfl⟩ := List.append_of_mem hy
    obtain ⟨o, hx⟩ :=
      Run.executed h (show s.history = a ++ y :: (b ++ h₂) by simpa using hs) hobs
    refine ⟨a, y, b, rfl, ?_⟩
    rw [Stmt.exec] at hx
    split at hx
    next ht =>
      simp only [Prod.mk.injEq, Except.ok.injEq] at hx
      exact ⟨hx.1 ▸ ht, hx.2.symm⟩
    next => cases hx

/-- A ticket stays, with its reporter. -/
theorem Run.ticket_later (h : Run ok { world := w } s) {h₁ h₂ : List Executed}
    {y x : Executed} {b : List Executed} (hs : s.history = h₁ ++ y :: (b ++ x :: h₂)) {id : Uuid}
    {t : Ticket} (ht : y.before.ticket? id = some t) (hy : y.after = y.before) :
    ∃ t', x.before.ticket? id = some t' ∧ t'.reporterId = t.reporterId := by
  obtain ⟨t', ht', hevolves⟩ := Run.evolves h hs id t (hy ▸ ht)
  exact ⟨t', ht', hevolves.reporterId⟩

/-- A notification a service enqueues tells an event of its ticket, to the reporter it has then. -/
theorem Run.notifies (h : Run ok { world := w } s) {h₁ h₂ : List Executed} {x : Executed}
    (hs : s.history = h₁ ++ x :: h₂) {id : Uuid} {t : Ticket} {type : TicketNotifyType}
    {u : User} {subject body messageId : String} (tells : Tells (own x.tid h₁) id t type)
    (asked : ⟨.one (.userFindUnique t.reporterId), .ok (some u)⟩ ∈ own x.tid h₁)
    (wants : u.notifyEmail = true)
    (hobs : x.obs = ⟨.one (.enqueue (notification t u type subject body).json), .ok messageId⟩) :
    Notifies h₁ x (notification t u type subject body) := by
  obtain ⟨a, y, b, heq, ht, hy⟩ := Run.found h hs tells.found
  obtain rfl := World.ticket?_id ht
  refine ⟨⟨messageId, hobs⟩, ?_, ?_⟩
  · obtain ⟨t', ht', hreporter⟩ :=
      Run.ticket_later h (show s.history = a ++ y :: (b ++ x :: h₂) by simpa [heq] using hs) ht hy
    obtain ⟨z, hz, _, hasked⟩ := mem_own.mp asked
    obtain ⟨a', b', heq'⟩ := List.append_of_mem hz
    obtain ⟨hu, hafter⟩ :=
      Run.user_read h (show s.history = a' ++ z :: (b' ++ x :: h₂) by simpa [heq'] using hs) hasked
    have hl : Linked w (a' ++ z :: (b' ++ x :: h₂)) s.world := by
      simpa [hs, heq'] using h.linked
    obtain ⟨role, hnow, _⟩ := Run.user_tracked h
      (show s.history = (a' ++ [z]) ++ b' ++ (x :: h₂) by simpa [heq'] using hs)
      hl.at.2.at.1 (hafter ▸ hu)
    exact ⟨t', { u with role := role }, ht', hreporter ▸ hnow, rfl, wants⟩
  · obtain ⟨d, ev, hmem, hid, htype⟩ := tells.event
    obtain ⟨y, hy, _, hcreate⟩ := mem_own.mp hmem
    obtain ⟨a', b', heq'⟩ := List.append_of_mem hy
    obtain ⟨o, hx⟩ := Run.executed h
      (show s.history = a' ++ y :: (b' ++ x :: h₂) by simpa [heq'] using hs) hcreate
    refine ⟨y, hy, ev, by rw [hcreate]; rfl, ?_⟩
    rw [Stmt.exec] at hx
    split at hx
    next =>
      cases (congrArg Prod.fst hx)
      exact ⟨hid, htype⟩
    next => cases hx

/-- What the consumer takes for a notification was put on the queue by a service, not by an
enqueue request. -/
theorem Run.notice_of_parsed (h : Run ok { world := w } s) (unforged : s.Unforged)
    {h₁ h₂ : List Executed} {x : Executed} (hs : s.history = h₁ ++ x :: h₂) {t : Task}
    (ht : t ∈ s.threads) {z : Zod} {batchSize : Nat} (hq : t.request = .poll z batchSize)
    {msg : SqsMessage} {body : Json} (hput : Enqueues x msg body) {n : NotificationPayload}
    (parsed : safeParse z body = some n) :
    ∃ m : TicketNotification, body = m.json ∧ n = m.payload ∧ Notifies h₁ x m := by
  obtain ⟨t', ht', hsays, _⟩ := h.issued serve_outbound hs
  have hcmd : x.obs.cmd = .one (.enqueue body) := by rw [hput.1]
  rw [hcmd] at hsays
  generalize hq' : t'.request = q' at hsays
  cases hsays with
  | plain plain => cases plain
  | publish =>
    have forged := unforged t' (List.mem_of_getElem? ht') body hq' t ht z batchSize hq
    rw [isTicketNotification, parsed] at forged
    cases forged
  | notify tells asked wants =>
    exact ⟨_, rfl, (safeParse_json.mp parsed).1, Run.notifies h hs tells asked wants hput.1⟩

/-- Without forged messages every mail is a notification of a ticket to its reporter. -/
theorem mails_notices (empty : w.queue = []) (h : Run ok { world := w } s)
    (unforged : s.Unforged) : s.MailsNotices := by
  intro h₁ e h₂ mail hs hmail
  obtain ⟨t, ht, hsays, _⟩ := h.issued serve_outbound hs
  rw [Seen.mail?_eq_some hmail] at hsays
  generalize hq : t.request = q at hsays
  obtain ⟨recipient, subject, body⟩ := mail
  cases hsays with
  | plain plain => cases plain
  | @mail z batchSize _ messages msg n received delivered parsed =>
    obtain ⟨r, hr, htid, hobs⟩ := mem_own.mp received
    obtain ⟨b, c, rfl⟩ := List.append_of_mem hr
    have hsplit : s.history = b ++ r :: (c ++ e :: h₂) := by simpa using hs
    have hl : Linked w (b ++ r :: (c ++ e :: h₂)) s.world := hsplit ▸ h.linked
    have hqueue := Run.received h hsplit hobs delivered
    obtain ⟨x, hx, body, hput⟩ := Run.queued empty h hsplit hl.at.1 msg hqueue
    obtain ⟨a, a', rfl⟩ := List.append_of_mem hx
    rw [hput.2] at parsed
    obtain ⟨m, rfl, rfl, hm⟩ := Run.notice_of_parsed h unforged
      (show s.history = a ++ x :: (a' ++ r :: (c ++ e :: h₂)) by simpa using hsplit)
      (List.mem_of_getElem? ht) hq hput parsed
    refine ⟨m, rfl, ⟨r, hr, htid, _, messages, msg, hobs, delivered, hput.2⟩, ?_⟩
    exact ⟨a, x, a' ++ r :: c, by simp, hm⟩

end Runs

/-- Whatever is posted to the queue is no object, so no notification. -/
def plainPosts (s : Server) : Action → Bool
  | .arrive (.enqueue (.object _)) => false
  | m => freshIds s m

theorem Run.unforged {w : World} {s : Server} (h : Run plainPosts { world := w } s) :
    s.Unforged := by
  intro t ht body hbody _ _ z _ _
  obtain ⟨i, hi⟩ := List.mem_iff_getElem?.mp ht
  obtain ⟨_, _, hok⟩ := h.arrived (Nat.zero_le i) hi
  rw [hbody] at hok
  cases body with
  | object => cases hok
  | other => rfl

namespace Sample

def consuming (i n : Nat) : List Action :=
  .arrive (.poll .documented 10) ::
    (List.range 3).map fun j => .run i { uuid := 100 + n + j, delivered := [0] }

/-- Somebody joins and creates a ticket, it is commented, and the consumer takes the message. -/
def telling : List Action :=
  .arrive (.exchangeCode (.claims (some "ana@sample.com") none)) :: steps 0 0 2 ++
    [.arrive (.create body (newcomer "ana@sample.com") none)] ++ steps 1 10 3 ++
    [.arrive (.addComment 112 agente "Listo")] ++ steps 2 20 4 ++ consuming 3 30

def told : Server := (play plainPosts telling).get (by decide +kernel)

def forgery : Json :=
  .object [("type", .string "ticket.resolved"),
    ("ticketId", .string "00000000-0000-0000-0000-000000000000"),
    ("recipientEmail", .string "eva@sample.com"), ("subject", .string "Aviso"),
    ("body", .string "Ingresa tu clave")]

/-- Somebody posts a message in the form of a notification, and the consumer takes it. -/
def forged : Server :=
  (play freshIds (.arrive (.enqueue forgery) :: steps 0 0 1 ++ consuming 1 10)).get
    (by decide +kernel)

end Sample

open Sample in
theorem mails_notices_told : told.MailsNotices := by
  have hrun : Run plainPosts { world := world } told := play_run (by decide +kernel)
  exact mails_notices rfl hrun hrun.unforged

open Sample in
/-- A mail about no ticket, with nothing ever created. -/
theorem forged_mail_sent : ¬ ∀ s, Run freshIds { world := world } s → s.MailsNotices := by
  intro hall
  have hrun : Run freshIds { world := world } forged := play_run (by decide +kernel)
  obtain ⟨e, he, hsent⟩ : ∃ e ∈ forged.history, (Seen.mail? e.obs).isSome = true :=
    List.any_eq_true.mp (by decide +kernel)
  obtain ⟨mail, hmail⟩ := Option.isSome_iff_exists.mp hsent
  obtain ⟨h₁, h₂, hh⟩ := List.append_of_mem he
  obtain ⟨m, _, _, a, x, b, rfl, hm⟩ := hall _ hrun h₁ e h₂ mail hh hmail
  obtain ⟨t, _, ht, _⟩ := hm.reporter
  have hempty : ∀ e ∈ forged.history, e.before.tickets.rows = [] := by decide +kernel
  have hx := World.ticket?_mem ht
  rw [hempty x (by simp [hh])] at hx
  cases hx

end TicketSystem
