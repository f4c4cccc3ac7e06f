import TicketSystem.Effects
import TicketSystem.Lib.Budget
import TicketSystem.Server

namespace TicketSystem

open Interleaved

/-- The queue gives no more messages than it is asked for. -/
def Cmd.Bounded : (c : Cmd) → Except Err c.Res → Prop
  | .one (.receiveMessages n), .ok messages => (show List SqsMessage from messages).length ≤ n
  | _, _ => True

/-- The candidates of a sweep. -/
def Seen.candidates : Seen → Nat
  | ⟨.one (.ticketFindMany _), .ok tickets⟩ => (show List Ticket from tickets).length
  | _ => 0

/-- The calls a request makes at most: of a sweep, three for each of its candidates, and of a turn
of a consumer, two for each message. -/
def Request.budget : Request → List Seen → Nat
  | .create _ _ key, _ => if (truthy key).isSome then 6 else 3
  | .getForUser _ _, _ => 2
  | .assign _ _ _, _ => 7
  | .changeState _ _ _, _ => 7
  | .addComment _ _ _, _ => 4
  | .sweep _, past => 2 + 3 * (past.map Seen.candidates).sum
  | .escalateOne _ _ _ _, _ => 2
  | .list _ _, _ => 1
  | .events _ _ _, _ => 3
  | .streamBatch _ _, _ => 1
  | .createUpload _ _, _ => 4
  | .getDownload _ _, _ => 4
  | .exchangeCode _, _ => 2
  | .login _ _, _ => 2
  | .createUser _, _ => 1
  | .enqueue _, _ => 1
  | .poll _ batchSize, _ => 1 + 2 * batchSize

theorem Request.budget_grows (q : Request) (past more : List Seen) :
    q.budget past ≤ q.budget (past ++ more) := by
  cases q with
  | sweep now =>
    simp only [Request.budget, List.map_append, List.sum_append]
    omega
  | _ => exact Nat.le_refl _

abbrev Calls {α : Type} (n : Nat) (p : Service α) : Prop := p.Within Cmd.Bounded n

section Bounds

variable {α β : Type} {n : Nat}

theorem calls_call {s : Stmt} {f : s.Res → Service α} (hf : ∀ a, Calls n (f a)) :
    Calls (n + 1) ((call s).bind f) :=
  Prog.within_perform_bind fun a _ => hf a

theorem calls_ofExcept {x : Except Err β} {f : β → Service α} (hf : ∀ b, Calls n (f b)) :
    Calls n ((Service.ofExcept x).bind f) := by
  cases x with
  | error e => exact Prog.within_throw n e
  | ok b => exact hf b

theorem calls_respond {f : α → Response} {p : Service α} (h : Calls n p) :
    Calls n (respond f p) :=
  h.bind (n := 0) fun a => Prog.within_pure 0 (f a)

theorem notifyReporter_calls (ticket : Ticket) (type : TicketNotifyType) (subject body : String) :
    Calls 2 (notifyReporter ticket type subject body) := by
  refine Prog.Within.tryCatch (m := 2) (n := 0) (calls_call fun reporter => ?_)
    fun _ => Prog.within_pure 0 ()
  cases reporter with
  | none => exact Prog.within_pure 1 ()
  | some reporter =>
    dsimp only
    split
    next => exact calls_call fun _ => Prog.within_pure 0 ()
    next => exact Prog.within_pure 1 ()

theorem recoverDuplicate_calls (key : Option String) (err : Err) :
    Calls (if (truthy key).isSome then 1 else 0) (recoverDuplicate key err) := by
  unfold recoverDuplicate
  cases truthy key with
  | none => exact Prog.within_throw 0 err
  | some key =>
    change Calls 1 _
    split
    next =>
      refine calls_call fun existing => ?_
      cases existing with
      | none => exact Prog.within_throw 0 _
      | some existing => exact Prog.within_pure 0 _
    next => exact Prog.within_throw 1 _

theorem insertTicket_calls (dto : CreateTicketDto) (user : User) (key : Option String) :
    Calls (3 + if (truthy key).isSome then 1 else 0) (insertTicket dto user key) := by
  refine calls_ofExcept fun priority => ?_
  have hrest : ∀ slaDueAt, Calls (1 + if (truthy key).isSome then 1 else 0)
      (Prog.tryCatch ((Prog.perform (Cmd.transaction
        (createTransaction dto user key priority slaDueAt))).bind fun ticket =>
          (.pure { ticket := ticket, created := true } : Service CreateResult))
        (recoverDuplicate key)) := fun slaDueAt =>
    Prog.Within.tryCatch (Prog.within_perform_bind fun _ _ => Prog.within_pure 0 _)
      (recoverDuplicate_calls key)
  have hdue : ∀ sla, Calls 1 (slaDueDate sla) := by
    intro sla
    cases sla with
    | none => exact Prog.within_pure 1 _
    | some sla => exact calls_call fun _ => Prog.within_pure 0 _
  refine Prog.Within.mono (calls_call fun sla => (hdue sla).bind hrest) ?_
  omega

theorem create_calls (dto : CreateTicketDto) (user : User) (key : Option String) :
    Calls (if (truthy key).isSome then 6 else 3) (create dto user key) := by
  have hinsert := insertTicket_calls dto user key
  unfold create
  cases hkey : truthy key with
  | none =>
    rw [hkey] at hinsert
    exact hinsert
  | some k =>
    rw [hkey] at hinsert
    have hlookup : Calls 2 (lookupRecent k) :=
      calls_call fun _ => Prog.within_perform (C := Cmd) (R := Cmd.Res) (.one _)
    refine hlookup.bind (n := 4) fun existing => ?_
    cases existing with
    | none => exact hinsert
    | some existing => exact Prog.within_pure 4 _

theorem getForUser_calls (id : Uuid) (user : User) : Calls 2 (getForUser id user) := by
  refine calls_call fun found => ?_
  cases found with
  | none => exact Prog.within_throw 1 _
  | some found => exact calls_ofExcept fun _ => calls_call fun _ => Prog.within_pure 0 _

/-- The event, the row that is read back and a notification. -/
theorem recorded_calls (d : TicketEventCreate) (id : Uuid) {rest : Ticket → Service Ticket}
    (hrest : ∀ t, Calls 2 (rest t)) :
    Calls 4 ((call (.ticketEventCreate d)).bind fun _ =>
      (call (.ticketFindUniqueOrThrow id)).bind rest) :=
  calls_call fun _ => calls_call hrest

theorem assign_calls (id : Uuid) (dto : AssignTicketDto) (actor : User) :
    Calls 7 (assign id dto actor) := by
  refine calls_call fun ticket => ?_
  cases ticket with
  | none => exact Prog.within_throw 6 _
  | some ticket =>
    refine calls_call fun assignee => ?_
    split
    next => exact Prog.within_throw 5 _
    next =>
      refine calls_call fun count => ?_
      split
      next => exact Prog.within_throw 4 _
      next =>
        refine recorded_calls _ id fun updated => ?_
        exact (notifyReporter_calls _ _ _ _).bind (n := 0) fun _ => Prog.within_pure 0 _

theorem readClockIf_calls (needed : Bool) : Calls 1 (readClockIf needed) := by
  unfold readClockIf
  split
  next => exact Prog.within_perform (C := Cmd) (R := Cmd.Res) (.one .now)
  next => exact Prog.within_pure 1 _

theorem changeState_calls (id : Uuid) (dto : ChangeStateDto) (actor : User) :
    Calls 7 (changeState id dto actor) := by
  refine calls_call fun ticket => ?_
  cases ticket with
  | none => exact Prog.within_throw 6 _
  | some ticket =>
    refine calls_ofExcept fun _ => (readClockIf_calls _).bind (n := 5) fun now => ?_
    refine calls_call fun count => ?_
    dsimp only
    split
    next => exact Prog.within_throw 4 _
    next =>
      refine recorded_calls _ id fun updated => ?_
      split
      next => exact (notifyReporter_calls _ _ _ _).bind (n := 0) fun _ => Prog.within_pure 0 _
      next => exact Prog.within_pure 2 _

theorem addComment_calls (id : Uuid) (actor : User) (message : String) :
    Calls 4 (addComment id actor message) := by
  refine calls_call fun ticket => ?_
  cases ticket with
  | none => exact Prog.within_throw 3 _
  | some ticket =>
    dsimp only
    split
    next => exact Prog.within_throw 3 _
    next =>
      refine calls_call fun event => ?_
      exact (notifyReporter_calls _ _ _ _).bind (n := 0) fun _ => Prog.within_pure 0 _

theorem list_calls (query : ListTicketsQuery) (user : User) : Calls 1 (list query user) :=
  calls_ofExcept fun _ => calls_ofExcept fun _ => calls_call fun _ => Prog.within_pure 0 _

theorem events_calls (id : Uuid) (query : ListEventsQuery) (user : User) :
    Calls 3 (events id query user) :=
  (getForUser_calls id user).bind (n := 1) fun _ =>
    calls_ofExcept fun _ => calls_call fun _ => Prog.within_pure 0 _

theorem streamBatch_calls (query : ReportQuery) (cursor : Option Uuid) :
    Calls 1 (streamBatch query cursor) :=
  calls_ofExcept fun _ => calls_call fun _ => Prog.within_pure 0 _

theorem createUpload_calls (dto : CreateAttachmentDto) (user : User) :
    Calls 4 (createUpload dto user) := by
  unfold createUpload
  split
  next => exact Prog.within_throw 4 _
  next =>
    split
    next => exact Prog.within_throw 4 _
    next =>
      exact calls_call fun _ => calls_call fun _ => calls_call fun _ => calls_call fun _ =>
        Prog.within_pure 0 _

theorem assertCanAccess_calls (att : Attachment) (user : User) :
    Calls 1 (assertCanAccess att user) := by
  unfold assertCanAccess
  split
  next => exact Prog.within_pure 1 ()
  next =>
    split
    next =>
      refine calls_call fun ticket => ?_
      split
      next => exact Prog.within_throw 0 _
      next => exact Prog.within_pure 0 ()
    next =>
      split
      next => exact Prog.within_throw 1 _
      next => exact Prog.within_pure 1 ()

theorem recordDownload_calls (att : Attachment) (user : User) :
    Calls 1 (recordDownload att user) := by
  unfold recordDownload
  split
  next => exact calls_call fun _ => Prog.within_pure 0 ()
  next => exact Prog.within_pure 1 ()

theorem getDownload_calls (id : Uuid) (user : User) : Calls 4 (getDownload id user) := by
  refine calls_call fun att => ?_
  cases att with
  | none => exact Prog.within_throw 3 _
  | some att =>
    refine (assertCanAccess_calls att user).bind (n := 2) fun _ => calls_call fun _ => ?_
    exact (recordDownload_calls att user).bind (n := 0) fun _ => Prog.within_pure 0 _

theorem buildSession_calls (user : User) : Calls 1 (buildSession user) :=
  calls_call fun _ => Prog.within_pure 0 _

theorem exchangeCode_calls (exchange : CodeExchange) : Calls 2 (exchangeCode exchange) := by
  cases exchange with
  | claims email groups =>
    unfold exchangeCode
    dsimp only
    split
    next => exact Prog.within_throw 2 _
    next => exact calls_call fun user => buildSession_calls user
  | _ => exact Prog.within_throw 2 _

theorem login_calls (provider : AuthProvider) (email : String) :
    Calls 2 (login provider email) := by
  cases provider with
  | cognito => exact Prog.within_throw 2 _
  | mock =>
    refine calls_call fun user => ?_
    cases user with
    | none => exact Prog.within_throw 1 _
    | some user => exact buildSession_calls user

theorem escalateOne_calls (id : Uuid) (current target : Nat) (actor : Uuid) :
    Calls 2 (escalateOne id current target actor) := by
  refine calls_call fun count => ?_
  split
  next => exact Prog.within_pure 1 _
  next => exact calls_call fun _ => Prog.within_pure 0 _

theorem sweepTicket_calls (now : Time) (actor : Uuid) (t : Ticket) :
    Calls 3 (sweepTicket now actor t) := by
  refine calls_call fun rule => ?_
  cases rule with
  | none => exact Prog.within_pure 2 _
  | some rule =>
    dsimp only
    split
    next => exact escalateOne_calls _ _ _ _
    next => exact Prog.within_pure 2 _

theorem sweepLoop_calls (now : Time) (actor : Uuid) (candidates : List Ticket) (escalated : Nat) :
    Calls (3 * candidates.length) (sweepLoop now actor candidates escalated) := by
  induction candidates generalizing escalated with
  | nil => exact Prog.within_pure 0 _
  | cons t candidates ih =>
    rw [List.length_cons, Nat.mul_succ, Nat.add_comm]
    exact (sweepTicket_calls now actor t).bind fun _ => ih _

theorem processMessage_calls (z : Zod) (messageId : String) (body : SqsBody) :
    Calls 1 (processMessage z messageId body) := by
  unfold processMessage
  split
  next => exact Prog.within_perform (C := Cmd) (R := Cmd.Res) (.one _)
  next => exact Prog.within_perform (C := Cmd) (R := Cmd.Res) (.one _)

theorem handleMessage_calls (z : Zod) (msg : SqsMessage) : Calls 2 (handleMessage z msg) := by
  refine Prog.Within.tryCatch (m := 2) (n := 0) ?_ fun _ => Prog.within_pure 0 ()
  exact (processMessage_calls z _ _).bind (n := 1) fun _ =>
    Prog.within_perform (C := Cmd) (R := Cmd.Res) (.one _)

theorem handleMessages_calls (z : Zod) (messages : List SqsMessage) :
    Calls (2 * messages.length) (handleMessages z messages) := by
  induction messages with
  | nil => exact Prog.within_pure 0 ()
  | cons msg messages ih =>
    rw [List.length_cons, Nat.mul_succ, Nat.add_comm]
    exact (handleMessage_calls z msg).bind fun _ => ih

theorem poll_calls (z : Zod) (batchSize : Nat) : Calls (1 + 2 * batchSize) (poll z batchSize) := by
  rw [Nat.add_comm]
  intro r hr
  cases r with
  | error e => exact (handleMessages_calls z []).mono (Nat.zero_le _)
  | ok messages => exact (handleMessages_calls z messages).mono (Nat.mul_le_mul_left 2 hr)

/-- A sweep gets what its candidates need once it has found them. -/
theorem sweep_thrifty (now : Time) (q : Request) (hq : q = .sweep now) :
    (respond .swept (sweep now)).Thrifty Cmd.Bounded q.budget [] := by
  subst hq
  have hloop : ∀ (a : Uuid) (l : List Ticket), Calls (3 * l.length)
      (respond .swept ((sweepLoop now a l 0).bind fun escalated =>
        .pure { scanned := l.length, escalated := escalated })) := fun a l =>
    calls_respond ((sweepLoop_calls now a l 0).bind (n := 0) fun _ => Prog.within_pure 0 _)
  have hroom : ∀ past, 2 ≤ Request.budget (.sweep now) past := fun _ => Nat.le_add_right 2 _
  refine ⟨Nat.lt_of_lt_of_le (by decide) (hroom _), fun r _ => ?_⟩
  cases r with
  | error e => exact Nat.le_trans (Nat.le_succ 1) (hroom _)
  | ok user =>
    refine ⟨Nat.lt_of_lt_of_le Nat.one_lt_two (hroom _), fun r _ => ?_⟩
    cases r with
    | error e => exact hroom _
    | ok candidates =>
      refine (hloop user.id candidates).thrifty (Request.budget_grows (.sweep now)) ?_
      simp [Request.budget, Seen.candidates]

end Bounds

theorem exec_bounded (o : Oracle) (c : Cmd) (w : World) : c.Bounded (c.exec o w).1 := by
  cases c with
  | transaction body => trivial
  | one s =>
    cases s with
    | receiveMessages n =>
      rcases Cmd.exec_one o (.receiveMessages n) w with he | he
      · rw [he]
        trivial
      · rw [he]
        exact List.length_take_le ..
    | _ => trivial

theorem serve_thrifty : (budget Cmd.Bounded Request.budget).Kept serve Cmd.exec where
  answers := exec_bounded
  obeys q := by
    have within : ∀ n, Calls n (serve q) → n ≤ q.budget [] →
        (serve q).Thrifty Cmd.Bounded q.budget [] := fun n h hn =>
      h.thrifty q.budget_grows ((Nat.zero_add n).trans_le hn)
    cases q with
    | sweep now => exact sweep_thrifty now _ rfl
    | create dto user key => exact within _ (calls_respond (create_calls dto user key)) le_rfl
    | getForUser id user => exact within _ (calls_respond (getForUser_calls id user)) le_rfl
    | assign id dto actor => exact within _ (calls_respond (assign_calls id dto actor)) le_rfl
    | changeState id dto actor =>
      exact within _ (calls_respond (changeState_calls id dto actor)) le_rfl
    | addComment id actor message =>
      exact within _ (calls_respond (addComment_calls id actor message)) le_rfl
    | escalateOne id current target actor =>
      exact within _ (calls_respond (escalateOne_calls id current target actor)) le_rfl
    | list query user => exact within _ (calls_respond (list_calls query user)) le_rfl
    | events id query user => exact within _ (calls_respond (events_calls id query user)) le_rfl
    | streamBatch query cursor =>
      exact within _ (calls_respond (streamBatch_calls query cursor)) le_rfl
    | createUpload dto user => exact within _ (calls_respond (createUpload_calls dto user)) le_rfl
    | getDownload id user => exact within _ (calls_respond (getDownload_calls id user)) le_rfl
    | exchangeCode exchange => exact within _ (calls_respond (exchangeCode_calls exchange)) le_rfl
    | login provider email => exact within _ (calls_respond (login_calls provider email)) le_rfl
    | createUser data =>
      exact within 1 (calls_respond (Prog.within_perform (C := Cmd) (R := Cmd.Res) _)) le_rfl
    | enqueue body =>
      exact within 1 (calls_respond (Prog.within_perform (C := Cmd) (R := Cmd.Res) _)) le_rfl
    | poll z batchSize => exact within _ (calls_respond (poll_calls z batchSize)) le_rfl

/-- A request makes no more calls than its budget, and has its answer by then; until it has, it can
always make the next one. -/
structure Server.WaitFree (s : Server) (i : Nat) (t : Task) : Prop where
  within : (own i s.history).length ≤ t.request.budget (own i s.history)
  answered : (own i s.history).length = t.request.budget (own i s.history) → t.result? ≠ none
  unblocked : t.result? = none → t.stopped = false →
    ∀ o, ∃ s', Step serve Cmd.exec s (.run i o) s'

/-- Whatever the others do in between, and whichever calls fail. -/
theorem requests_wait_free {ok : Server → Action → Bool} {w : World} {s : Server}
    (h : Run ok { world := w } s) {i : Nat} {t : Task} (ht : s.threads[i]? = some t) :
    s.WaitFree i t := by
  obtain ⟨within, goes_on⟩ := h.within_budget serve_thrifty ht
  refine ⟨within, fun hspent hnone => absurd hspent (goes_on hnone).ne, fun hnone hrunning o => ?_⟩
  obtain ⟨q, state, stopped⟩ := t
  cases hrunning
  cases state with
  | pure v => cases hnone
  | throw e => cases hnone
  | stmt c k => exact ⟨_, .run o ht⟩

theorem requests_wait_free_create :
    ∃ t, Sample.one.threads[0]? = some t ∧ Sample.one.WaitFree 0 t :=
  ⟨_, rfl, requests_wait_free (Sample.play_run (by decide)) rfl⟩

end TicketSystem
