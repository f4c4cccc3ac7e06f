import TicketSystem.Contract

namespace TicketSystem

open Relational Interleaved

/-- Calls that set a role, put a message on the queue or send a mail. -/
def Stmt.outbound : Stmt → Bool
  | .userUpsert _ _ (some _) | .enqueue _ | .sendEmail _ _ _ => true
  | _ => false

def Cmd.Plain : Cmd → Prop
  | .one s => s.outbound = false
  | .transaction body => body.Only fun s => s.outbound = false

/-- No role was set, nothing put on the queue and nothing mailed; users may have been added. -/
structure World.Silent (w w' : World) : Prop where
  users : w.users.rows <+: w'.users.rows
  queue : w'.queue = w.queue
  mails : w'.mails = w.mails

theorem World.Silent.refl (w : World) : w.Silent w := ⟨List.prefix_rfl, rfl, rfl⟩

theorem World.Silent.trans {u v w : World} (h : u.Silent v) (h' : v.Silent w) : u.Silent w :=
  ⟨h.users.trans h'.users, h'.queue.trans h.queue, h'.mails.trans h.mails⟩

/-- An upsert that gives a user the role he has leaves the table as it is. -/
theorem updateMany_role {users : Table User User.clash} {email : String} {u : User}
    (h : users.lookup User.email email = some u) :
    (users.updateMany (fun v => v.email == email) (roleRewrite u.role)).rows = users.rows := by
  refine (List.map_congr_left fun v hv => ?_).trans (List.map_id _)
  unfold Table.Rewrite.at
  split
  next he =>
    have heq : v = u := Table.eq_of_clash hv (Table.lookup_mem h)
      (.inr ((beq_iff_eq.mp he).trans (Table.lookup_key h).symm))
    rw [heq]
    rfl
  next => rfl

theorem Stmt.exec_silent {o : Oracle} {s : Stmt} {w : World} (h : s.outbound = false) :
    w.Silent (s.exec o w).2 := by
  cases s with
  | enqueue | sendEmail => cases h
  | userUpsert email create update =>
    cases update with
    | some role => cases h
    | none =>
      simp only [Stmt.exec]
      split
      next u hu => exact ⟨(updateMany_role hu).symm ▸ List.prefix_rfl, rfl, rfl⟩
      next =>
        split
        next hi => exact ⟨Table.insert?_rows hi ▸ List.prefix_append _ _, rfl, rfl⟩
        next => exact .refl w
  | userCreate =>
    simp only [Stmt.exec]
    split
    next hi => exact ⟨Table.insert?_rows hi ▸ List.prefix_append _ _, rfl, rfl⟩
    next => exact .refl w
  | ticketCreate | ticketEventCreate | attachmentCreate | ticketFindUniqueOrThrow | ticketFindPage =>
    simp only [Stmt.exec]
    split
    next => exact ⟨List.prefix_rfl, rfl, rfl⟩
    next => exact ⟨List.prefix_rfl, rfl, rfl⟩
  | _ => exact ⟨List.prefix_rfl, rfl, rfl⟩

theorem Tx.run_silent {o : Oracle} {α : Type} {p : Tx α}
    (h : p.Only fun s => s.outbound = false) (f : Option Nat) (w : World) :
    w.Silent (p.run o f w).2 := by
  induction p generalizing f w with
  | pure a => cases f <;> exact .refl w
  | throw e => cases f <;> exact .refl w
  | stmt s k ih =>
    have hrun := fun f => (Stmt.exec_silent h.1).trans (ih (s.exec o w).1 (h.2 _) f (s.exec o w).2)
    cases f with
    | none => exact hrun none
    | some n =>
      simp only [Tx.run]
      split
      next =>
        cases n with
        | zero => exact ih (.error .failed) (h.2 _) none w
        | succ n => exact hrun (some n)
      next => exact hrun (some n)

theorem Cmd.exec_silent {o : Oracle} {c : Cmd} {w : World} (h : c.Plain) :
    w.Silent (c.exec o w).2 := by
  cases c with
  | one s =>
    rcases Cmd.exec_one o s w with he | he
    · rw [he]; exact .refl w
    · rw [he]; exact Stmt.exec_silent h
  | transaction body =>
    have hrun := Tx.run_silent (o := o) h o.fault w
    rw [Cmd.exec]
    split
    next he => rw [he] at hrun; exact hrun
    next => exact ⟨List.prefix_rfl, rfl, rfl⟩

def TicketNotifyType.eventType : TicketNotifyType → EventType
  | .resolved => .resolucion
  | .commented => .comentario
  | .assigned => .asignacion

/-- The request was answered this row for this id. -/
def Found (id : Uuid) (t : Ticket) (past : List Seen) : Prop :=
  ⟨.one (.ticketFindUnique id), .ok (some t)⟩ ∈ past ∨
    ⟨.one (.ticketFindUniqueOrThrow id), .ok t⟩ ∈ past

/-- The request has found its ticket and inserted the event that a notification tells. -/
structure Tells (past : List Seen) (id : Uuid) (t : Ticket) (type : TicketNotifyType) : Prop where
  found : Found id t past
  event : ∃ d e, ⟨.one (.ticketEventCreate d), .ok e⟩ ∈ past ∧ d.ticketId = id ∧
    d.eventType = type.eventType

theorem Tells.append {past more : List Seen} {id : Uuid} {t : Ticket} {type : TicketNotifyType}
    (h : Tells past id t type) : Tells (past ++ more) id t type where
  found := h.found.imp (List.mem_append_left _) (List.mem_append_left _)
  event := by
    obtain ⟨d, e, hmem, hid, htype⟩ := h.event
    exact ⟨d, e, List.mem_append_left _ hmem, hid, htype⟩

/-- The commands a request may issue after `past`, as far as roles, the queue and the mails go. -/
inductive Says : Request → List Seen → Cmd → Prop
  | plain {q : Request} {past : List Seen} {c : Cmd} (plain : c.Plain) : Says q past c
  | sync {email : String} {groups : Option (List String)} {past : List Seen} :
      Says (.exchangeCode (.claims (some email) groups)) past
        (.one (.userUpsert email (mapGroupsToRole groups) (some (mapGroupsToRole groups))))
  | publish {body : Json} {past : List Seen} : Says (.enqueue body) past (.one (.enqueue body))
  | notify {q : Request} {past : List Seen} {id : Uuid} {t : Ticket} {type : TicketNotifyType}
      {reporter : User} {subject body : String} (tells : Tells past id t type)
      (asked : ⟨.one (.userFindUnique t.reporterId), .ok (some reporter)⟩ ∈ past)
      (wants : reporter.notifyEmail = true) :
      Says q past (.one (.enqueue (notification t reporter type subject body).json))
  | mail {z : Zod} {batchSize : Nat} {past : List Seen} {messages : List SqsMessage}
      {msg : SqsMessage} {n : NotificationPayload}
      (received : ⟨.one (.receiveMessages batchSize), .ok messages⟩ ∈ past)
      (delivered : msg ∈ messages) (parsed : msg.body.parse?.bind (safeParse z) = some n) :
      Says (.poll z batchSize) past (.one (.sendEmail n.recipientEmail n.subject n.body))

def outbound : Contract Cmd Cmd.Res Err Response Request where
  answers _ _ := True
  issues := Says
  returns _ _ _ := True

section Speaking

variable {q : Request} {past : List Seen}

/-- A piece of a service that says what its request may say. -/
abbrev Speaks (q : Request) (past : List Seen) {α : Type} (p : Service α) : Prop :=
  p.Obeys (fun _ _ => True) (Says q) (fun _ _ => True) past

/-- A piece of a service that sets no role and says nothing. -/
abbrev Hushed {α : Type} (p : Service α) : Prop := p.Only Cmd.Plain

theorem Speaks.of_hushed {α : Type} {p : Service α} (h : Hushed p) : Speaks q past p :=
  (h.obeys past).mono (fun _ _ hc => .plain hc) (fun _ _ h => h)

theorem Speaks.of_looks {α : Type} {p : Service α} (h : Looks p) : Speaks q past p := by
  refine .of_hushed (h.mono fun c hc => ?_)
  cases c with
  | transaction => cases hc
  | one s => cases s <;> first | exact rfl | cases hc

theorem Speaks.bind {α β : Type} {m : Service β} {f : β → Service α} (hm : Speaks q past m)
    (hf : ∀ past b, Speaks q past (f b)) : Speaks q past (m.bind f) :=
  Prog.Obeys.bind hm (fun past b _ => hf past b) (fun _ _ _ => trivial)

theorem Speaks.respond {α : Type} {f : α → Response} {p : Service α} (h : Speaks q past p) :
    Speaks q past (respond f p) :=
  h.bind fun _ _ => trivial

theorem hushed_call {s : Stmt} (h : s.outbound = false) : Hushed (call s) := Prog.only_perform h

/-- The calls that look for a user by his id or for a page of the queue. -/
def Cmd.seeks : Cmd → Bool
  | .one (.userFindUnique _) | .one (.ticketFindPage _ _ _ _) => true
  | _ => false

/-- A piece of a service that moreover looks for neither. -/
abbrev Mute {α : Type} (p : Service α) : Prop := p.Only fun c => c.Plain ∧ c.seeks = false

theorem Mute.hushed {α : Type} {p : Service α} (h : Mute p) : Hushed p := h.mono fun _ hc => hc.1

theorem mute_call {s : Stmt} (h : s.outbound = false) (hs : (Cmd.one s).seeks = false) :
    Mute (call s) := Prog.only_perform ⟨h, hs⟩

/-- One call that says nothing, and what follows it. -/
theorem speaks_call {α : Type} {s : Stmt} {f : s.Res → Service α} (h : s.outbound = false)
    (hf : ∀ a, Speaks q (past ++ [⟨.one s, .ok a⟩]) (f a)) : Speaks q past ((call s).bind f) :=
  Prog.obeys_perform_bind.mpr ⟨.plain h, fun a _ => hf a, fun _ _ => trivial⟩

theorem notifyReporter_speaks {id : Uuid} {t : Ticket} {type : TicketNotifyType}
    (subject body : String) (tells : Tells past id t type) :
    Speaks q past (notifyReporter t type subject body) := by
  refine Prog.Obeys.tryCatch (S := fun _ _ => True) ?_ (fun _ _ _ => trivial)
    (fun _ _ _ => trivial)
  refine speaks_call rfl fun reporter => ?_
  cases reporter with
  | none => trivial
  | some reporter =>
    dsimp only
    split
    next wants =>
      refine Prog.obeys_perform_bind.mpr
        ⟨.notify tells.append (List.mem_append_right _ (List.mem_singleton_self _)) ?_,
          fun _ _ => trivial, fun _ _ => trivial⟩
      simpa [resolveChannels] using wants
    next => trivial

/-- What `assign` and `changeState` do after their checks: update, event, read-back, notification. -/
theorem Speaks.mutation {id : Uuid} {g : TicketWhere} {d : TicketUpdate} {ev : TicketEventCreate}
    {miss : Err} {rest : Ticket → Service Ticket}
    (hrest : ∀ past t e, Found id t past → ⟨.one (.ticketEventCreate ev), .ok e⟩ ∈ past →
      Speaks q past (rest t)) :
    Speaks q past
      ((call (.ticketUpdateMany g d)).bind fun count : Nat =>
        if count = 0 then .throw miss
        else (call (.ticketEventCreate ev)).bind fun _ =>
          (call (.ticketFindUniqueOrThrow id)).bind rest) := by
  refine speaks_call rfl fun (count : Nat) => ?_
  split
  next => trivial
  next =>
    refine speaks_call rfl fun e => speaks_call rfl fun t => hrest _ t e (.inr ?_) ?_
    · simp
    · simp

theorem assign_speaks (id : Uuid) (dto : AssignTicketDto) (actor : User) :
    Speaks q past (assign id dto actor) := by
  refine speaks_call rfl fun ticket => ?_
  cases ticket with
  | none => trivial
  | some ticket =>
    refine speaks_call rfl fun assignee => ?_
    split
    next => trivial
    next =>
      refine Speaks.mutation fun past t e found told => ?_
      exact (notifyReporter_speaks _ _ ⟨found, _, e, told, rfl, rfl⟩).bind fun _ _ => trivial

theorem readClockIf_hushed (needed : Bool) : Hushed (readClockIf needed) := by
  cases needed with
  | false => trivial
  | true => exact hushed_call rfl

theorem changeState_speaks (id : Uuid) (dto : ChangeStateDto) (actor : User) :
    Speaks q past (changeState id dto actor) := by
  refine speaks_call rfl fun ticket => ?_
  cases ticket with
  | none => trivial
  | some ticket =>
    refine (Speaks.of_looks (looks_ofExcept _)).bind fun past _ =>
      (Speaks.of_hushed (readClockIf_hushed _)).bind fun past now => ?_
    refine Speaks.mutation fun past t e found told => ?_
    split
    next resolved =>
      have tells : Tells past id t .resolved :=
        ⟨found, _, e, told, rfl, by simp [stateEvent, resolved, TicketNotifyType.eventType]⟩
      exact (notifyReporter_speaks _ _ tells).bind fun _ _ => trivial
    next => trivial

theorem addComment_speaks (id : Uuid) (actor : User) (message : String) :
    Speaks q past (addComment id actor message) := by
  refine speaks_call rfl fun ticket => ?_
  cases ticket with
  | none => trivial
  | some ticket =>
    dsimp only
    split
    next => trivial
    next =>
      refine speaks_call rfl fun event => ?_
      have tells : Tells (past ++ [⟨.one (.ticketFindUnique id), .ok (some ticket)⟩] ++
          [⟨.one (.ticketEventCreate (comentarioEvent id actor message)), .ok event⟩])
          id ticket .commented :=
        ⟨.inl (by simp), comentarioEvent id actor message, event, by simp, rfl, rfl⟩
      exact (notifyReporter_speaks _ _ tells).bind fun _ _ => trivial

theorem createTransaction_hushed (dto : CreateTicketDto) (user : User) (key : Option String)
    (priority : Priority) (slaDueAt : Option Time) :
    (Cmd.transaction (createTransaction dto user key priority slaDueAt)).Plain := by
  have hstmt : ∀ s : Stmt, s.outbound = false → (tx s).Only fun s => s.outbound = false :=
    fun _ h => Prog.only_perform h
  refine (hstmt _ rfl).bind fun created => (hstmt _ rfl).bind fun _ =>
    Prog.Only.bind ?_ fun _ => trivial
  unfold linkAttachments
  split
  next => trivial
  next =>
    split
    next => exact (hstmt _ rfl).bind fun _ => (hstmt _ rfl).bind fun _ => trivial
    next => trivial

theorem insertTicket_mute (dto : CreateTicketDto) (user : User) (key : Option String) :
    Mute (insertTicket dto user key) := by
  refine Prog.Only.bind ?_ fun priority => (mute_call rfl rfl).bind fun sla =>
    Prog.Only.bind ?_ fun slaDueAt => Prog.Only.tryCatch ?_ fun err => ?_
  · cases calculatePriority dto.severity dto.impact <;> trivial
  · cases sla with
    | none => trivial
    | some sla => exact (mute_call rfl rfl).bind fun _ => trivial
  · exact (Prog.only_perform ⟨createTransaction_hushed .., rfl⟩).bind fun _ => trivial
  · unfold recoverDuplicate
    split
    next =>
      refine (mute_call rfl rfl).bind fun existing => ?_
      cases existing <;> trivial
    next => trivial

theorem create_mute (dto : CreateTicketDto) (user : User) (key : Option String) :
    Mute (create dto user key) := by
  unfold create
  split
  next => exact insertTicket_mute dto user key
  next k _ =>
    refine Prog.Only.bind ((mute_call rfl rfl).bind fun _ => mute_call rfl rfl) fun existing => ?_
    cases existing with
    | some existing => trivial
    | none => exact insertTicket_mute dto user key

theorem escalateOne_mute (id : Uuid) (current target : Nat) (actor : Uuid) :
    Mute (escalateOne id current target actor) := by
  refine (mute_call rfl rfl).bind fun (count : Nat) => ?_
  split
  next => trivial
  next => exact (mute_call rfl rfl).bind fun _ => trivial

theorem sweepTicket_mute (now : Time) (actor : Uuid) (t : Ticket) :
    Mute (sweepTicket now actor t) := by
  refine (mute_call rfl rfl).bind fun rule => ?_
  cases rule with
  | none => trivial
  | some rule =>
    dsimp only
    split
    next => exact escalateOne_mute ..
    next => trivial

theorem sweepLoop_mute (now : Time) (actor : Uuid) (candidates : List Ticket) (n : Nat) :
    Mute (sweepLoop now actor candidates n) := by
  induction candidates generalizing n with
  | nil => trivial
  | cons t candidates ih => exact (sweepTicket_mute now actor t).bind fun _ => ih _

theorem sweep_mute (now : Time) : Mute (sweep now) := by
  refine Prog.Only.bind ((mute_call rfl rfl).bind fun _ => trivial) fun actor =>
    (mute_call rfl rfl).bind fun candidates => (sweepLoop_mute now actor candidates 0).bind ?_
  exact fun _ => trivial

theorem createUpload_hushed (dto : CreateAttachmentDto) (user : User) :
    Hushed (createUpload dto user) := by
  unfold createUpload
  split
  next => trivial
  next =>
    split
    next => trivial
    next =>
      exact (hushed_call rfl).bind fun _ => (hushed_call rfl).bind fun _ =>
        (hushed_call rfl).bind fun _ => (hushed_call rfl).bind fun _ => trivial

theorem getDownload_speaks (id : Uuid) (user : User) : Speaks q past (getDownload id user) := by
  refine speaks_call rfl fun att => ?_
  cases att with
  | none => trivial
  | some att =>
    refine (Speaks.of_looks (assertCanAccess_looks att user)).bind fun _ _ =>
      (Speaks.of_hushed (hushed_call rfl)).bind fun _ _ =>
        Speaks.bind (.of_hushed ?_) fun _ _ => trivial
    unfold recordDownload
    split
    next => exact (hushed_call rfl).bind fun _ => trivial
    next => trivial

theorem exchangeCode_speaks (exchange : CodeExchange) :
    Speaks (.exchangeCode exchange) past (exchangeCode exchange) := by
  unfold exchangeCode
  split
  case h_6 email groups =>
    split
    next => trivial
    next e he =>
      obtain ⟨rfl, _⟩ := truthy_eq_some.mp he
      refine Prog.obeys_perform_bind.mpr ⟨.sync, fun u _ => ?_, fun _ _ => trivial⟩
      exact Speaks.of_looks (buildSession_looks u)
  all_goals trivial

theorem processMessage_speaks {z : Zod} {batchSize : Nat} {messages : List SqsMessage}
    {msg : SqsMessage} (received : ⟨.one (.receiveMessages batchSize), .ok messages⟩ ∈ past)
    (delivered : msg ∈ messages) :
    Speaks (.poll z batchSize) past (processMessage z msg.messageId msg.body) := by
  unfold processMessage
  split
  next n parsed =>
    exact Prog.obeys_perform.mpr ⟨Says.mail received delivered parsed, fun _ _ => trivial⟩
  next => exact .of_hushed (hushed_call rfl)

/-- The messages of a turn, by induction on those that are left: what was received stays seen. -/
theorem handleMessages_speaks {z : Zod} {batchSize : Nat} {messages l : List SqsMessage}
    (received : ⟨.one (.receiveMessages batchSize), .ok messages⟩ ∈ past)
    (delivered : l ⊆ messages) : Speaks (.poll z batchSize) past (handleMessages z l) := by
  induction l generalizing past with
  | nil => trivial
  | cons msg l ih =>
    obtain ⟨hmsg, hl⟩ := List.cons_subset.mp delivered
    have hone : Speaks (.poll z batchSize) past (handleMessage z msg) :=
      Prog.Obeys.tryCatch
        ((processMessage_speaks received hmsg).bind fun _ _ => .of_hushed (hushed_call rfl))
        (fun _ _ _ => trivial) (fun _ _ _ => trivial)
    have hkept := hone.keeps (I := fun past => ⟨.one (.receiveMessages batchSize),
      .ok messages⟩ ∈ past) (fun _ _ _ h _ _ => List.mem_append_left _ h) received
    exact Prog.Obeys.bind (hkept.mono (fun _ _ h => h.1) (fun _ _ h => h))
      (fun _ _ h => ih h.2 hl) (fun _ _ _ => trivial)

theorem poll_speaks (z : Zod) (batchSize : Nat) :
    Speaks (.poll z batchSize) past (poll z batchSize) := by
  refine Prog.Obeys.bind (S := fun past r => ∀ messages, r = .ok messages → messages = [] ∨
    ⟨.one (.receiveMessages batchSize), .ok messages⟩ ∈ past) ?_ (fun past messages h => ?_)
    (fun _ _ _ => trivial)
  · have plain : Cmd.Plain (.one (.receiveMessages batchSize)) := rfl
    refine Prog.Obeys.tryCatch (S := fun past r => ∀ messages, r = .ok messages →
      ⟨.one (.receiveMessages batchSize), .ok messages⟩ ∈ past) ?_ ?_ ?_
    · refine Prog.obeys_perform.mpr ⟨Says.plain plain, fun r _ messages hr => ?_⟩
      exact hr ▸ List.mem_append_right _ (List.mem_singleton_self _)
    · exact fun past messages h m hm => .inr (h m hm)
    · exact fun past e _ m hm => .inl (Except.ok.inj hm).symm
  · rcases h messages rfl with rfl | received
    · trivial
    · exact handleMessages_speaks received (List.Subset.refl _)

end Speaking

theorem serve_speaks (q : Request) : Speaks q [] (serve q) := by
  cases q with
  | create dto user key => exact .respond (.of_hushed (create_mute dto user key).hushed)
  | getForUser id user => exact .respond (.of_looks (getForUser_looks id user))
  | assign id dto actor => exact .respond (assign_speaks id dto actor)
  | changeState id dto actor => exact .respond (changeState_speaks id dto actor)
  | addComment id actor message => exact .respond (addComment_speaks id actor message)
  | sweep now => exact .respond (.of_hushed (sweep_mute now).hushed)
  | escalateOne id current target actor =>
    exact .respond (.of_hushed (escalateOne_mute id current target actor).hushed)
  | list query user => exact .respond (.of_looks (list_looks query user))
  | events id query user => exact .respond (.of_looks (events_looks id query user))
  | streamBatch query cursor => exact .respond (.of_looks (streamBatch_looks query cursor))
  | createUpload dto user => exact .respond (.of_hushed (createUpload_hushed dto user))
  | getDownload id user => exact .respond (getDownload_speaks id user)
  | exchangeCode exchange => exact .respond (exchangeCode_speaks exchange)
  | login provider email => exact .respond (.of_looks (login_looks provider email))
  | createUser data => exact .respond (.of_hushed (hushed_call rfl))
  | enqueue body =>
    exact .respond (Prog.obeys_perform.mpr ⟨Says.publish, fun _ _ => trivial⟩)
  | poll z batchSize => exact .respond (poll_speaks z batchSize)

theorem serve_outbound : outbound.Kept serve Cmd.exec where
  answers _ _ _ := trivial
  obeys := serve_speaks

end TicketSystem
