import TicketSystem.Lib.Raises
import TicketSystem.Sessions

namespace TicketSystem

open Relational Interleaved

/-- Anything but a 401. -/
def Err.Admits (e : Err) : Prop := e.status ≠ 401

def Cmd.Admits (c : Cmd) : Prop := ∀ o w, ErrsWithin Err.Admits (c.exec o w).1

theorem failed_admits : Err.failed.Admits := by simp [Err.Admits, Err.status]

/-- A call fails by itself with an error of Prisma, if at all. -/
theorem Stmt.exec_prisma (o : Oracle) (s : Stmt) (w : World) :
    ErrsWithin (fun e => e = .prismaUnknownRequest ∨ ∃ code, e = .prisma code) (s.exec o w).1 := by
  cases s with
  | ticketFindUniqueOrThrow | ticketCreate | ticketEventCreate | userCreate | attachmentCreate =>
    simp only [Stmt.exec]
    split
    next => exact errsWithin_ok
    next => exact errsWithin_error (.inr ⟨_, rfl⟩)
  | userUpsert =>
    simp only [Stmt.exec]
    split
    next => exact errsWithin_ok
    next =>
      split
      next => exact errsWithin_ok
      next => exact errsWithin_error (.inr ⟨_, rfl⟩)
  | ticketFindPage =>
    simp only [Stmt.exec]
    split
    next => exact errsWithin_ok
    next => exact errsWithin_error (.inl rfl)
  | _ => exact errsWithin_ok

theorem Stmt.exec_admits (o : Oracle) (s : Stmt) (w : World) :
    ErrsWithin Err.Admits (s.exec o w).1 := by
  refine (Stmt.exec_prisma o s w).mono fun e he => ?_
  rcases he with rfl | ⟨code, rfl⟩
  · simp [Err.Admits, Err.status]
  · simp [Err.Admits, Err.status]

theorem Cmd.one_admits (s : Stmt) : (Cmd.one s).Admits := by
  intro o w
  rcases Cmd.exec_one o s w with he | he
  · rw [he]
    exact errsWithin_error failed_admits
  · rw [he]
    exact Stmt.exec_admits o s w

theorem Tx.run_admits {α : Type} {p : Tx α} {past : List (Obs Stmt Stmt.Res Err)}
    (h : p.Obeys (fun _ r => True → ErrsWithin Err.Admits r) (fun _ _ => True)
      (fun _ => ErrsWithin Err.Admits) past) (o : Oracle) (f : Option Nat) (w : World) :
    ErrsWithin Err.Admits (p.run o f w).1 := by
  induction p generalizing past f w with
  | pure a =>
    cases f with
    | none => exact errsWithin_ok
    | some n => exact errsWithin_error failed_admits
  | throw e => cases f <;> exact h
  | stmt s k ih =>
    have hrun := fun f => ih _ (h.2 _ fun _ => Stmt.exec_admits o s w) f (s.exec o w).2
    cases f with
    | none => exact hrun none
    | some n =>
      simp only [Tx.run]
      split
      next =>
        cases n with
        | zero => exact ih _ (h.2 _ fun _ => errsWithin_error failed_admits) none w
        | succ n => exact hrun (some n)
      next => exact hrun (some n)

theorem Cmd.transaction_admits {body : Tx Ticket} (h : body.Raises (fun _ => True) Err.Admits) :
    (Cmd.transaction body).Admits := by
  intro o w
  have hrun := Tx.run_admits (h []) o o.fault w
  rw [Cmd.exec]
  split
  next => exact errsWithin_ok
  next he =>
    rw [he] at hrun
    exact hrun

/-! ### The services behind the guard -/

abbrev Admits {α : Type} (p : Service α) : Prop := p.Raises Cmd.Admits Err.Admits

section Services

variable {α β : Type}

theorem admits_throwHttp {e : HttpException} (h : e.status ≠ 401) :
    Admits (throwHttp e : Service α) :=
  Prog.raises_throw h

theorem admits_call {s : Stmt} {f : s.Res → Service α} (hf : ∀ a, Admits (f a)) :
    Admits ((call s).bind f) :=
  Prog.raises_perform_bind (Cmd.one_admits s) hf

theorem admits_one (s : Stmt) : Admits (call s) := Prog.raises_perform (Cmd.one_admits s)

theorem admits_ofExcept {x : Except Err β} (hx : ErrsWithin Err.Admits x) :
    Admits (Service.ofExcept x) := by
  cases x with
  | ok b => exact Prog.raises_pure b
  | error e => exact Prog.raises_throw (hx e rfl)

theorem notifyReporter_admits (ticket : Ticket) (type : TicketNotifyType) (subject body : String) :
    Admits (notifyReporter ticket type subject body) := by
  refine Prog.Raises.tryCatch (admits_call fun reporter => ?_) fun _ _ => Prog.raises_pure ()
  cases reporter with
  | none => exact Prog.raises_pure ()
  | some reporter =>
    dsimp only
    split
    next => exact admits_call fun _ => Prog.raises_pure ()
    next => exact Prog.raises_pure ()

theorem createTransaction_admits (dto : CreateTicketDto) (user : User) (key : Option String)
    (priority : Priority) (slaDueAt : Option Time) :
    (createTransaction dto user key priority slaDueAt).Raises (fun _ => True) Err.Admits := by
  refine Prog.raises_perform_bind trivial fun created => ?_
  refine Prog.raises_perform_bind trivial fun _ => ?_
  refine Prog.Raises.bind ?_ fun _ => Prog.raises_pure created
  unfold linkAttachments
  split
  next => exact Prog.raises_pure ()
  next =>
    split
    next =>
      exact Prog.raises_perform_bind trivial fun _ => Prog.raises_perform_bind trivial fun _ =>
        Prog.raises_pure ()
    next => exact Prog.raises_pure ()

theorem recoverDuplicate_admits (key : Option String) {err : Err} (h : err.Admits) :
    Admits (recoverDuplicate key err) := by
  unfold recoverDuplicate
  split
  next =>
    refine admits_call fun existing => ?_
    cases existing with
    | none => exact Prog.raises_throw h
    | some existing => exact Prog.raises_pure _
  next => exact Prog.raises_throw h

theorem insertTicket_admits (dto : CreateTicketDto) (user : User) (key : Option String) :
    Admits (insertTicket dto user key) := by
  obtain ⟨priority, hp⟩ := calculatePriority_ok dto.severityRange dto.impactRange
  unfold insertTicket
  rw [hp]
  refine admits_call fun sla => Prog.Raises.bind ?_ fun slaDueAt => ?_
  · cases sla with
    | none => exact Prog.raises_pure none
    | some sla => exact admits_call fun _ => Prog.raises_pure _
  · refine Prog.Raises.tryCatch ?_ fun e he => recoverDuplicate_admits key he
    exact Prog.raises_perform_bind
      (Cmd.transaction_admits (createTransaction_admits dto user key priority slaDueAt))
      fun _ => Prog.raises_pure _

theorem create_admits (dto : CreateTicketDto) (user : User) (key : Option String) :
    Admits (create dto user key) := by
  unfold create
  split
  next => exact insertTicket_admits dto user key
  next k _ =>
    have hlookup : Admits (lookupRecent k) := admits_call fun _ => admits_one _
    refine hlookup.bind fun existing => ?_
    cases existing with
    | none => exact insertTicket_admits dto user key
    | some existing => exact Prog.raises_pure _

theorem requireOwnTicket_admits (ticket : Ticket) (user : User) :
    ErrsWithin Err.Admits (requireOwnTicket ticket user) := by
  unfold requireOwnTicket
  split
  next => exact errsWithin_error (by simp [Err.Admits, Err.status, HttpException.status])
  next => exact errsWithin_ok

theorem getForUser_admits (id : Uuid) (user : User) : Admits (getForUser id user) := by
  refine admits_call fun found => ?_
  cases found with
  | none => exact admits_throwHttp (by decide)
  | some found =>
    exact (admits_ofExcept (requireOwnTicket_admits found.1 user)).bind fun _ =>
      admits_call fun _ => Prog.raises_pure _

theorem uuidArg_admits (s : String) : ErrsWithin Err.Admits (uuidArg s) := by
  unfold uuidArg
  split
  next => exact errsWithin_ok
  next => exact errsWithin_error (by simp [Err.Admits, Err.status])

theorem errsWithin_map {f : α → β} {x : Except Err α} (h : ErrsWithin Err.Admits x) :
    ErrsWithin Err.Admits (x.map f) := by
  cases x with
  | ok a => exact errsWithin_ok
  | error e => exact errsWithin_error (h e rfl)

theorem errsWithin_bind {x : Except Err α} {f : α → Except Err β} (hx : ErrsWithin Err.Admits x)
    (hf : ∀ a, ErrsWithin Err.Admits (f a)) : ErrsWithin Err.Admits (x >>= f) := by
  cases x with
  | ok a => exact hf a
  | error e => exact errsWithin_error (hx e rfl)

theorem cursorArg_admits (cursor : Option String) : ErrsWithin Err.Admits (cursorArg cursor) := by
  unfold cursorArg
  split
  next => exact errsWithin_ok
  next => exact errsWithin_map (uuidArg_admits _)

theorem dateArg_admits (date : Option JsDate) : ErrsWithin Err.Admits (dateArg date) := by
  unfold dateArg
  split
  next => exact errsWithin_ok
  next => exact errsWithin_ok
  next => exact errsWithin_error (by simp [Err.Admits, Err.status])

theorem listWhere_admits (query : ListTicketsQuery) (user : User) :
    ErrsWithin Err.Admits (listWhere query user) := by
  refine errsWithin_bind (dateArg_admits _) fun _ => errsWithin_bind (dateArg_admits _) fun _ => ?_
  refine errsWithin_bind ?_ fun _ => errsWithin_ok
  unfold listAssignee
  split
  next => exact errsWithin_ok
  next =>
    split
    next => exact errsWithin_ok
    next => exact errsWithin_map (uuidArg_admits _)

theorem list_admits (query : ListTicketsQuery) (user : User) : Admits (list query user) :=
  (admits_ofExcept (listWhere_admits query user)).bind fun _ =>
    (admits_ofExcept (cursorArg_admits query.cursor)).bind fun _ =>
      admits_call fun _ => Prog.raises_pure _

theorem events_admits (id : Uuid) (query : ListEventsQuery) (user : User) :
    Admits (events id query user) :=
  (getForUser_admits id user).bind fun _ =>
    (admits_ofExcept (cursorArg_admits query.cursor)).bind fun _ =>
      admits_call fun _ => Prog.raises_pure _

theorem assign_admits (id : Uuid) (dto : AssignTicketDto) (actor : User) :
    Admits (assign id dto actor) := by
  refine admits_call fun ticket => ?_
  cases ticket with
  | none => exact admits_throwHttp (by decide)
  | some ticket =>
    refine admits_call fun assignee => ?_
    split
    next => exact admits_throwHttp (by decide)
    next =>
      refine admits_call fun count => ?_
      split
      next => exact admits_throwHttp (by decide)
      next =>
        refine admits_call fun _ => admits_call fun updated => ?_
        exact (notifyReporter_admits _ _ _ _).bind fun _ => Prog.raises_pure _

theorem checkChangeState_admits (ticket : Ticket) (dto : ChangeStateDto) (actor : User) :
    ErrsWithin Err.Admits (checkChangeState ticket dto actor) := by
  have http : ∀ e : HttpException, e.status ≠ 401 →
      ErrsWithin Err.Admits (.error (.http e) : Except Err Unit) := fun e h => errsWithin_error h
  unfold checkChangeState
  dsimp only
  split
  next => exact http _ (by decide)
  next =>
    split
    next => exact http _ (by decide)
    next =>
      split
      next => exact http _ (by decide)
      next =>
        split
        next => exact http _ (by simp [HttpException.status])
        next => exact errsWithin_ok

theorem changeState_admits (id : Uuid) (dto : ChangeStateDto) (actor : User) :
    Admits (changeState id dto actor) := by
  refine admits_call fun ticket => ?_
  cases ticket with
  | none => exact admits_throwHttp (by decide)
  | some ticket =>
    refine (admits_ofExcept (checkChangeState_admits ticket dto actor)).bind fun _ => ?_
    have hclock : ∀ needed, Admits (readClockIf needed) := by
      intro needed
      unfold readClockIf
      split
      next => exact admits_one .now
      next => exact Prog.raises_pure _
    refine (hclock _).bind fun now => admits_call fun count => ?_
    dsimp only
    split
    next => exact admits_throwHttp (by decide)
    next =>
      refine admits_call fun _ => admits_call fun updated => ?_
      split
      next => exact (notifyReporter_admits _ _ _ _).bind fun _ => Prog.raises_pure _
      next => exact Prog.raises_pure _

theorem addComment_admits (id : Uuid) (actor : User) (message : String) :
    Admits (addComment id actor message) := by
  refine admits_call fun ticket => ?_
  cases ticket with
  | none => exact admits_throwHttp (by decide)
  | some ticket =>
    dsimp only
    split
    next => exact admits_throwHttp (by decide)
    next =>
      refine admits_call fun event => ?_
      exact (notifyReporter_admits _ _ _ _).bind fun _ => Prog.raises_pure _

theorem createUpload_admits (dto : CreateAttachmentDto) (user : User) :
    Admits (createUpload dto user) := by
  unfold createUpload
  split
  next => exact admits_throwHttp (by simp [HttpException.status])
  next =>
    split
    next => exact admits_throwHttp (by decide)
    next =>
      exact admits_call fun _ => admits_call fun _ => admits_call fun _ => admits_call fun _ =>
        Prog.raises_pure _

theorem assertCanAccess_admits (att : Attachment) (user : User) :
    Admits (assertCanAccess att user) := by
  unfold assertCanAccess
  split
  next => exact Prog.raises_pure ()
  next =>
    split
    next =>
      refine admits_call fun ticket => ?_
      split
      next => exact admits_throwHttp (by decide)
      next => exact Prog.raises_pure ()
    next =>
      split
      next => exact admits_throwHttp (by decide)
      next => exact Prog.raises_pure ()

theorem getDownload_admits (id : Uuid) (user : User) : Admits (getDownload id user) := by
  refine admits_call fun att => ?_
  cases att with
  | none => exact admits_throwHttp (by decide)
  | some att =>
    refine (assertCanAccess_admits att user).bind fun _ => admits_call fun _ => ?_
    refine Prog.Raises.bind ?_ fun _ => Prog.raises_pure _
    unfold recordDownload
    split
    next => exact admits_call fun _ => Prog.raises_pure ()
    next => exact Prog.raises_pure ()

theorem streamBatch_admits (query : ReportQuery) (cursor : Option Uuid) :
    Admits (streamBatch query cursor) := by
  refine Prog.Raises.bind (admits_ofExcept ?_) fun _ => admits_call fun _ => Prog.raises_pure _
  refine errsWithin_bind (dateArg_admits _) fun _ => errsWithin_bind (dateArg_admits _) fun _ => ?_
  dsimp only
  split
  next => exact errsWithin_ok
  next => exact errsWithin_bind (errsWithin_map (uuidArg_admits _)) fun _ => errsWithin_ok

theorem respond_admits {f : α → Response} {p : Service α} (h : Admits p) : Admits (respond f p) :=
  h.bind fun a => Prog.raises_pure (f a)

end Services

/-- What a method makes of a call comes to no 401. -/
structure Welcomes (x : Except Err (Entrance Reply Request)) : Prop where
  errs : ErrsWithin Err.Admits x
  enters : ∀ q, x = .ok (.enters q) → Admits (serve q)

section Methods

variable {α : Type} {f : α → Except Err (Entrance Reply Request)} {q : Request}

theorem welcomes_error {e : HttpException} (h : e.status ≠ 401) : Welcomes (.error (.http e)) :=
  ⟨errsWithin_error h, fun _ hq => by cases hq⟩

theorem welcomes_enters (h : Admits (serve q)) : Welcomes (.ok (.enters q)) := by
  refine ⟨errsWithin_ok, ?_⟩
  rintro _ ⟨⟩
  exact h

theorem welcomes_validated {dto : Option α} (hf : ∀ d, Welcomes (f d)) :
    Welcomes (validated dto >>= f) := by
  cases dto with
  | none => exact welcomes_error (by decide)
  | some d => exact hf d

theorem welcomes_parseUuid {id : String} {f : Uuid → Except Err (Entrance Reply Request)}
    (hf : ∀ i, Welcomes (f i)) : Welcomes (parseUuid id >>= f) := by
  unfold parseUuid
  split
  next i _ => exact hf i
  next => exact welcomes_error (by decide)

theorem Handler.handle_welcomes {auth : AuthConfig} {handler : Handler} {user : User}
    (hguarded : handler.isPublic = false) : Welcomes (handler.handle auth (some user)) := by
  cases handler with
  | liveness | config | login | exchange => cases hguarded
  | me => exact ⟨errsWithin_ok, fun _ hq => by cases hq⟩
  | create dto key =>
    exact welcomes_validated fun dto =>
      welcomes_enters (respond_admits (create_admits dto user key))
  | list query =>
    exact welcomes_validated fun query => welcomes_enters (respond_admits (list_admits query user))
  | events id query =>
    exact welcomes_parseUuid fun id => welcomes_validated fun query =>
      welcomes_enters (respond_admits (events_admits id query user))
  | getOne id =>
    exact welcomes_parseUuid fun id => welcomes_enters (respond_admits (getForUser_admits id user))
  | assign id dto =>
    exact welcomes_parseUuid fun id => welcomes_validated fun dto =>
      welcomes_enters (respond_admits (assign_admits id dto user))
  | changeState id dto =>
    exact welcomes_parseUuid fun id => welcomes_validated fun dto =>
      welcomes_enters (respond_admits (changeState_admits id dto user))
  | addComment id dto =>
    exact welcomes_parseUuid fun id => welcomes_validated fun dto =>
      welcomes_enters (respond_admits (addComment_admits id user dto.message))
  | createUpload dto =>
    exact welcomes_validated fun dto =>
      welcomes_enters (respond_admits (createUpload_admits dto user))
  | download id =>
    exact welcomes_parseUuid fun id => welcomes_enters (respond_admits (getDownload_admits id user))
  | exportCsv query =>
    exact welcomes_validated fun query =>
      welcomes_enters (respond_admits (streamBatch_admits query none))
  | enqueue body => exact welcomes_enters (respond_admits (admits_one _))

theorem afterLookup_admits {auth : AuthConfig} {headers : AuthHeaders} {handler : Handler}
    (user : User) (hguarded : handler.isPublic = false) :
    Admits ((handler.afterLookup auth (some user)).bind
      ((api auth).proceed serve (.http headers handler))) := by
  have hroles :
      ErrsWithin Err.Admits (RolesGuard.canActivate handler.requiredRoles (some user)) := by
    unfold RolesGuard.canActivate
    split
    next => exact errsWithin_ok
    next => exact errsWithin_ok
    next =>
      split
      next => exact errsWithin_ok
      next => exact errsWithin_error (by simp [Err.Admits, Err.status, HttpException.status])
  have hmethod : Welcomes (handler.handle auth (some user)) := Handler.handle_welcomes hguarded
  have hentrance : Admits ((Service.ofExcept (handler.handle auth (some user))).bind
      ((api auth).proceed serve (.http headers handler))) := by
    cases hx : handler.handle auth (some user) with
    | error e => exact Prog.raises_throw (hmethod.errs e hx)
    | ok entrance =>
      cases entrance with
      | answers reply => exact Prog.raises_pure reply
      | enters q => exact (hmethod.enters q hx).bind fun _ => Prog.raises_pure _
  rw [Handler.afterLookup, Prog.bind_assoc]
  exact (admits_ofExcept hroles).bind fun _ => hentrance

end Methods

/-- A call that a guard stands before, without a subject in its token. -/
def ApiCall.Nameless (call : ApiCall) : Prop :=
  ∃ headers handler, call = .http headers handler ∧ handler.isPublic = false ∧ headers.sub? = none

/-- A call that names nobody is refused at once; one that names somebody only if he is not found. -/
structure AdmitsAs (call : ApiCall) (past : List Seen) (r : Except Err Reply) : Prop where
  nameless : call.Nameless → ∃ message, r = .error (.http (.unauthorized message))
  named : ∀ headers handler sub id, call = .http headers handler → handler.isPublic = false →
    headers.sub? = some sub → Uuid.parseStr? sub = some id →
      past.head? ≠ some ⟨.one (.userFindUnique id), .ok none⟩ → ErrsWithin Err.Admits r

def admittance : Contract Cmd Cmd.Res Err Reply ApiCall where
  answers c r := c.Admits → ErrsWithin Err.Admits r
  issues call _ _ := ¬ call.Nameless
  returns := AdmitsAs

theorem program_nameless {auth : AuthConfig} {headers : AuthHeaders} {handler : Handler}
    (hguarded : handler.isPublic = false) (hsub : headers.sub? = none) :
    ∃ message, (api auth).program serve (.http headers handler) =
      .throw (.http (.unauthorized message)) := by
  obtain ⟨message, hfront⟩ : ∃ message, (api auth).front (.http headers handler) =
      throwHttp (.unauthorized message) := front_without_sub hguarded hsub
  exact ⟨message, by rw [Gate.program, hfront]; rfl⟩

theorem named_admittance {auth : AuthConfig} {headers : AuthHeaders} {handler : Handler}
    {sub : String} {id : Uuid} (hguarded : handler.isPublic = false)
    (hsub : headers.sub? = some sub) (hid : Uuid.parseStr? sub = some id) :
    ((api auth).program serve (.http headers handler)).Obeys admittance.answers
      (fun _ _ => True) (fun past r => past.head? ≠ some ⟨.one (.userFindUnique id), .ok none⟩ →
        ErrsWithin Err.Admits r) [] := by
  rw [program_of_sub hguarded hsub hid]
  refine Prog.obeys_perform_bind.mpr ⟨trivial, fun found _ => ?_, fun e he _ => ?_⟩
  · cases found with
    | none => exact fun hhead => absurd rfl hhead
    | some user =>
      exact (afterLookup_admits user hguarded _).mono (fun _ _ _ => trivial) fun _ _ h _ => h
  · exact errsWithin_error (he (Cmd.one_admits _) e rfl)

theorem api_admittance (auth : AuthConfig) :
    admittance.Kept ((api auth).program serve) Cmd.exec where
  answers o c w h := h o w
  obeys call := by
    have unnamed : ∀ {past r}, ¬ call.Nameless → (∀ headers handler sub id,
        call = .http headers handler → handler.isPublic = false → headers.sub? = some sub →
          Uuid.parseStr? sub ≠ some id) → AdmitsAs call past r := fun hnameless hno =>
      ⟨fun h => absurd h hnameless, fun headers handler sub id hq hp hs hi =>
        absurd hi (hno headers handler sub id hq hp hs)⟩
    by_cases hnameless : call.Nameless
    · obtain ⟨headers, handler, rfl, hguarded, hsub⟩ := hnameless
      obtain ⟨message, hprogram⟩ : ∃ message, (api auth).program serve (.http headers handler) =
          .throw (.http (.unauthorized message)) := program_nameless hguarded hsub
      rw [hprogram]
      refine ⟨fun _ => ⟨message, rfl⟩, fun headers' handler' sub' id' hq _ hsub' => ?_⟩
      cases hq
      cases hsub.symm.trans hsub'
    by_cases hnamed : ∃ headers handler sub id, call = .http headers handler ∧
        handler.isPublic = false ∧ headers.sub? = some sub ∧ Uuid.parseStr? sub = some id
    · obtain ⟨headers, handler, sub, id, rfl, hguarded, hsub, hid⟩ := hnamed
      refine (named_admittance hguarded hsub hid).mono (fun _ _ _ => hnameless) fun past r h => ?_
      refine ⟨fun hn => absurd hn hnameless, fun headers' handler' sub' id' hq _ hsub' hid' => ?_⟩
      cases hq
      cases hsub.symm.trans hsub'
      cases hid.symm.trans hid'
      exact h
    · refine (Prog.obeys_any _ _).mono (fun _ _ _ => hnameless) fun _ _ _ => ?_
      exact unnamed hnameless fun headers handler sub id hq hp hs hi =>
        hnamed ⟨headers, handler, sub, id, hq, hp, hs, hi⟩

/-- The status of the answer to a call. -/
def answerStatus : Except Err Reply → Nat
  | .ok reply => reply.status
  | .error e => e.status

theorem ApiCall.reply_status (call : ApiCall) (v : Response) : (call.reply v).status < 300 := by
  have hmethod : ∀ handler : Handler, handler.status < 300 := by
    intro handler
    unfold Handler.status
    split <;> omega
  cases call with
  | job work =>
    show 200 < 300
    omega
  | http headers handler =>
    cases v with
    | created r =>
      show (if r.created then 201 else 200) < 300
      split <;> omega
    | _ => exact hmethod handler

section Runs

variable {auth : AuthConfig} {ok : ApiServer → Move ApiCall Oracle → Prop} {w : World}
  {s s' : ApiServer}

/-- What is no error is answered with a status of success. -/
theorem ApiRun.success_status (h : ApiRun auth ok { world := w } s) {j : Nat} {y : ApiThread}
    {reply : Reply} (hy : s.threads[j]? = some y) (hr : y.result? = some (.ok reply)) :
    reply.status < 300 := by
  obtain ⟨t, seat, _, hm⟩ := h.mirrored
  obtain ⟨past, _, hfront | ⟨_, _, v, _, _, _, hreply, _⟩⟩ := hm.answered hy hr
  · have hentered := hfront _ rfl
    generalize y.request = call at hentered
    cases hentered with
    | http _ handled =>
      rw [(Handler.answers_of handled).2.2]
      decide
  · rw [hreply]
    exact ApiCall.reply_status _ v

/-- Whoever names nobody is refused, without a statement. -/
theorem ApiRun.nameless_refused (h : ApiRun auth ok { world := w } s) {j : Nat} {y : ApiThread}
    (hy : s.threads[j]? = some y) (hnameless : y.request.Nameless) :
    ∃ message, y.result? = some (.error (.http (.unauthorized message))) := by
  have hobeys := h.obeys (api_admittance auth) hy
  unfold Thread.result?
  cases hstate : y.state with
  | pure reply =>
    rw [hstate] at hobeys
    obtain ⟨_, hr⟩ := AdmitsAs.nameless hobeys hnameless
    cases hr
  | throw e =>
    rw [hstate] at hobeys
    obtain ⟨message, hr⟩ := AdmitsAs.nameless hobeys hnameless
    cases hr
    exact ⟨message, rfl⟩
  | stmt c k =>
    rw [hstate] at hobeys
    exact absurd hnameless hobeys.1

variable {u : User} {role : Role} {r : SessionResult}

/-- Whoever bears the token of a session is not refused. -/
theorem ApiRun.session_admitted (h : ApiRun auth ok { world := w } s) (h' : ApiRun auth ok s s')
    (hu : s.world.user? u.id = some { u with role := role }) (hof : r.Of u)
    (hid : r.user.id < 16 ^ 32) {j : Nat} {y : ApiThread} {handler : Handler} {e : Err}
    (hj : s.threads.length ≤ j) (hy : s'.threads[j]? = some y)
    (hq : y.request = .http (authorized r.token.text) handler) (hguarded : handler.isPublic = false)
    (hr : y.result? = some (.error e)) : e.Admits := by
  have hreturns : AdmitsAs y.request (own j s'.history) (.error e) :=
    (h.trans h').returned (api_admittance auth) hy hr
  refine hreturns.named _ _ _ _ hq hguarded hof.sub? (Uuid.parseStr?_text hid) (fun hhead => ?_) e rfl
  rcases h.finds h' hu hof hid hj hy hq hguarded hhead with hfailed | ⟨v, hfound, _⟩
  · cases hfailed
  · cases hfound

/-- Whoever bears the token of a session is nobody else. -/
theorem ApiRun.session_identifies (h : ApiRun auth ok { world := w } s) (h' : ApiRun auth ok s s')
    (hu : s.world.user? u.id = some { u with role := role }) (hof : r.Of u)
    (hid : r.user.id < 16 ^ 32) {j : Nat} {y : ApiThread} {handler : Handler} {user : User}
    (hj : s.threads.length ≤ j) (hy : s'.threads[j]? = some y)
    (hq : y.request = .http (authorized r.token.text) handler) (hguarded : handler.isPublic = false)
    (huser : s'.Identified j (authorized r.token.text) user) :
    user.id = r.user.id ∧ user.email = r.user.email := by
  rcases h.finds h' hu hof hid hj hy hq hguarded huser.2 with hfailed | ⟨v, hfound, hvid, hvemail⟩
  · cases congrArg Seen.foundUser? hfailed
  · cases Option.some.inj (congrArg Seen.foundUser? hfound)
    exact ⟨hvid, hvemail⟩

end Runs

end TicketSystem
