import TicketSystem.Effects
import TicketSystem.Server

namespace TicketSystem

open Interleaved

structure Seen.Calm (o : Seen) : Prop where
  update : o.update? = none
  event : o.event? = none
  created : o.created? = none

theorem Seen.calm_of_reads {o : Seen} (h : o.cmd.reads = true) : o.Calm := by
  obtain ⟨c, r⟩ := o
  cases c with
  | transaction => simp [Cmd.reads] at h
  | one s =>
    cases s <;> first | exact ⟨rfl, rfl, rfl⟩ | simp [Cmd.reads, Stmt.reads] at h

theorem Seen.calm_of_error {c : Cmd} {e : Err} : Seen.Calm ⟨c, .error e⟩ := by
  cases c with
  | transaction => exact ⟨rfl, rfl, rfl⟩
  | one s => cases s <;> exact ⟨rfl, rfl, rfl⟩

def Seen.Failed (o : Seen) : Prop := ∃ e, o.answer = .error e

abbrev Unwritten (past : List Seen) : Prop := ∀ o ∈ past, o.Calm

def Broke (past : List Seen) (e : Err) : Prop := ∃ o ∈ past, o.answer = .error e

/-- No event is due: the last thing done was not a committed update. -/
def Settled (past : List Seen) : Prop := ∀ o, past.getLast? = some o → o.update? = none

theorem settled_nil : Settled [] := by simp [Settled]

theorem settled_snoc {past : List Seen} {o : Seen} :
    Settled (past ++ [o]) ↔ o.update? = none := by simp [Settled]

theorem settled_of_calm {past : List Seen} (h : Unwritten past) : Settled past :=
  fun o ho => (h o (List.mem_of_getLast? ho)).update

theorem calm_nil : Unwritten [] := by simp [Unwritten]

theorem calm_snoc {past : List Seen} {o : Seen} (h : Unwritten past) (ho : o.Calm) :
    Unwritten (past ++ [o]) := by
  intro p hp
  rcases List.mem_append.mp hp with hp | hp
  · exact h p hp
  · exact List.mem_singleton.mp hp ▸ ho

/-- The statements that come after the committed update of a request. -/
def Cmd.follows : Cmd → Bool
  | .one (.ticketEventCreate _) => true
  | .one (.ticketFindUniqueOrThrow _) => true
  | _ => false

/-- The row a request was answered when it first asked for its ticket. -/
def FirstRead (id : Uuid) (t : Ticket) (past : List Seen) : Prop :=
  past.head? = some ⟨.one (.ticketFindUnique id), .ok (some t)⟩

theorem FirstRead.append {id : Uuid} {t : Ticket} {past more : List Seen}
    (h : FirstRead id t past) : FirstRead id t (past ++ more) := by
  unfold FirstRead at *
  rw [List.head?_append, h]
  rfl

theorem FirstRead.unique {id : Uuid} {t t' : Ticket} {past : List Seen}
    (h : FirstRead id t past) (h' : FirstRead id t' past) : t = t' := by
  cases h.symm.trans h'
  rfl

/-- The user with this id was found, and was no reportante then. -/
def CheckedStaff (id : Uuid) (past : List Seen) : Prop :=
  ∃ u : User, ⟨.one (.userFindUnique id), .ok (some u)⟩ ∈ past ∧ u.role ≠ .reportante

/-- The conditional update a request may make after `past`, and the event it then owes. -/
inductive Intent :
    Request → List Seen → TicketWhere → TicketUpdate → TicketEventCreate → Prop
  | assign {id : Uuid} {dto : AssignTicketDto} {actor : User} {ticket : Ticket}
      {past : List Seen} (read : FirstRead id ticket past) (calm : Unwritten past)
      (staff : CheckedStaff dto.assigneeId past) :
      Intent (.assign id dto actor) past (assignWhere id dto) (assignUpdate dto)
        (asignacionEvent id ticket dto actor)
  | changeState {id : Uuid} {dto : ChangeStateDto} {actor : User} {ticket : Ticket}
      {past : List Seen} (read : FirstRead id ticket past) (calm : Unwritten past)
      (checked : checkChangeState ticket dto actor = .ok ()) (now : Time) :
      Intent (.changeState id dto actor) past (stateWhere id ticket dto) (stateUpdate dto now)
        (stateEvent id ticket dto actor)
  | escalateOne {id : Uuid} {current target : Nat} {actor : Uuid} :
      Intent (.escalateOne id current target actor) [] (escalateWhere id current)
        (escalateUpdate target) (escalamientoEvent id current target actor)
  | sweep {now : Time} {id : Uuid} {current target : Nat} {actor : Uuid} {past : List Seen}
      (settled : Settled past) (raise : current < target) (bound : target ≤ MAX_LEVEL) :
      Intent (.sweep now) past (escalateWhere id current) (escalateUpdate target)
        (escalamientoEvent id current target actor)

theorem Intent.of_assign {id : Uuid} {dto : AssignTicketDto} {actor : User} {past : List Seen}
    {g : TicketWhere} {d : TicketUpdate} {ev : TicketEventCreate}
    (h : Intent (.assign id dto actor) past g d ev) :
    ∃ ticket, FirstRead id ticket past ∧ g = assignWhere id dto ∧
      ev = asignacionEvent id ticket dto actor := by
  cases h with
  | assign read => exact ⟨_, read, rfl, rfl⟩

theorem Intent.of_changeState {id : Uuid} {dto : ChangeStateDto} {actor : User}
    {past : List Seen} {g : TicketWhere} {d : TicketUpdate} {ev : TicketEventCreate}
    (h : Intent (.changeState id dto actor) past g d ev) :
    ∃ ticket, FirstRead id ticket past ∧ checkChangeState ticket dto actor = .ok () ∧
      g = stateWhere id ticket dto ∧ ev = stateEvent id ticket dto actor := by
  cases h with
  | changeState read _ checked => exact ⟨_, read, checked, rfl, rfl⟩

/-- The events that tell no change of a ticket. -/
inductive Notes : Request → TicketEventCreate → Prop
  | comment {id : Uuid} {actor : User} {message : String} :
      Notes (.addComment id actor message) (comentarioEvent id actor message)
  | download {id : Uuid} {user : User} {att : Attachment} {ticketId : Uuid} :
      Notes (.getDownload id user) (adjuntoDescargadoEvent att ticketId user)

/-- The commands a request may issue after `past`. -/
inductive Issues : Request → List Seen → Cmd → Prop
  | reads {q : Request} {past : List Seen} {c : Cmd} (reads : c.reads = true)
      (settled : Settled past) (plain : c.follows = false) : Issues q past c
  | update {q : Request} {past : List Seen} {g : TicketWhere} {d : TicketUpdate}
      {ev : TicketEventCreate} (intent : Intent q past g d ev) :
      Issues q past (.one (.ticketUpdateMany g d))
  | event {q : Request} {past : List Seen} {g : TicketWhere} {d : TicketUpdate}
      {ev : TicketEventCreate} {o : Seen} (intent : Intent q past g d ev)
      (committed : o.update? = some (g, d)) :
      Issues q (past ++ [o]) (.one (.ticketEventCreate ev))
  | readBack {q : Request} {past : List Seen} {g : TicketWhere} {d : TicketUpdate}
      {ev : TicketEventCreate} {o p : Seen} (intent : Intent q past g d ev)
      (committed : o.update? = some (g, d)) (settled : p.update? = none) :
      Issues q (past ++ [o] ++ [p]) (.one (.ticketFindUniqueOrThrow ev.ticketId))
  | note {q : Request} {d : TicketEventCreate} {past : List Seen} (notes : Notes q d)
      (calm : Unwritten past) : Issues q past (.one (.ticketEventCreate d))
  | upload {dto : CreateAttachmentDto} {user : User} {key : String} {now : Time}
      {past : List Seen} (calm : Unwritten past) :
      Issues (.createUpload dto user) past
        (.one (.attachmentCreate (pendingAttachment dto user key now)))
  | register {data : UserCreate} {past : List Seen} (calm : Unwritten past) :
      Issues (.createUser data) past (.one (.userCreate data))
  | create {dto : CreateTicketDto} {user : User} {key : Option String} {priority : Priority}
      {slaDueAt : Option Time} {past : List Seen} (calm : Unwritten past) :
      Issues (.create dto user key) past
        (.transaction (createTransaction dto user key priority slaDueAt))

theorem Issues.intent {q : Request} {past : List Seen} {g : TicketWhere} {d : TicketUpdate}
    (h : Issues q past (.one (.ticketUpdateMany g d))) : ∃ ev, Intent q past g d ev := by
  cases h with
  | reads reads => simp [Cmd.reads, Stmt.reads] at reads
  | update intent => exact ⟨_, intent⟩

/-- The two ways a create returns: with the row it inserted, or with one found by its key. -/
inductive Creates (key : Option String) (past : List Seen) : CreateResult → Prop
  | inserted {t : Ticket} {o : Seen} (last : past.getLast? = some o)
      (row : o.created? = some t) : Creates key past { ticket := t, created := true }
  | found {t : Ticket} {g : TicketWhere} {k : String} (truthy : truthy key = some k)
      (guard : g.idempotencyKey = some k)
      (last : past.getLast? = some ⟨.one (.ticketFindFirst g), .ok (some t)⟩)
      (calm : Unwritten past) : Creates key past { ticket := t, created := false }

def Response.created? : Response → Option CreateResult
  | .created r => some r
  | _ => none

/-- A request that ends in an error wrote nothing, unless what broke came after its
update. A sweep may have escalated other tickets before it broke. -/
inductive Fails : Request → List Seen → Prop
  | calm {q : Request} {past : List Seen} (calm : Unwritten past) : Fails q past
  | after {q : Request} {past : List Seen} {o : Seen} (last : past.getLast? = some o)
      (follows : o.cmd.follows = true) (failed : o.Failed) : Fails q past
  | sweep {now : Time} {past : List Seen} : Fails (.sweep now) past

structure Ends (q : Request) (past : List Seen) (r : Except Err Response) : Prop where
  settled : Settled past
  created : ∀ v c, r = .ok v → v.created? = some c →
    ∃ dto user key, q = .create dto user key ∧ Creates key past c
  answered : ∀ v dto user key, q = .create dto user key → r = .ok v → v.created? ≠ none
  fails : ∀ e, r = .error e → Fails q past
  cause : ∀ e dto user key, q = .create dto user key → r = .error e →
    Unwritten past ∧ Broke past e

/-- An update that names its row matches one row at most. -/
def Cmd.Answers : (c : Cmd) → Except Err c.Res → Prop
  | .one (.ticketUpdateMany g _), .ok n =>
    let count : Nat := n
    g.id.isSome → count ≤ 1
  | _, _ => True

theorem exec_answers (o : Oracle) (c : Cmd) (w : World) : c.Answers (c.exec o w).1 := by
  cases c with
  | transaction => trivial
  | one s =>
    cases s with
    | ticketUpdateMany g d =>
      rcases Cmd.exec_one o (.ticketUpdateMany g d) w with he | he
      · rw [he]
        trivial
      · rw [he]
        intro hid
        obtain ⟨id, hid⟩ := Option.isSome_iff_exists.mp hid
        exact (count_matches hid w).trans_le (Bool.toNat_le _)
    | _ => trivial

def terms : Contract Cmd Cmd.Res Err Response Request where
  answers := Cmd.Answers
  issues := Issues
  returns := Ends

section Serving

variable {q : Request} {past : List Seen}

/-- A piece of a service that keeps to the terms and ends as `S` says. -/
abbrev Serves (q : Request) (past : List Seen) {α : Type} (p : Service α)
    (S : List Seen → Except Err α → Prop) : Prop :=
  p.Obeys Cmd.Answers (Issues q) S past

theorem Serves.of_reads {α : Type} {p : Service α} {S : Except Err α → Prop}
    (h : p.Obeys Cmd.Answers (fun _ c => c.reads = true ∧ c.follows = false)
      (fun _ r => S r) past)
    (settled : Settled past) : Serves q past p (fun past r => Settled past ∧ S r) := by
  refine (h.keeps (I := Settled) ?_ settled).mono ?_ ?_
  · intro past c r _ hc _
    exact settled_snoc.mpr (Seen.calm_of_reads (o := ⟨c, r⟩) hc.1).update
  · exact fun _ _ h => .reads h.1.1 h.2 h.1.2
  · exact fun _ _ h => ⟨h.2, h.1⟩

theorem notifyReporter_reads (ticket : Ticket) (type : TicketNotifyType) (subject body : String) :
    (notifyReporter ticket type subject body).Obeys Cmd.Answers
      (fun _ c => c.reads = true ∧ c.follows = false) (fun _ r => r = .ok ()) past := by
  refine Prog.Obeys.tryCatch (S := fun _ _ => True) ?_ (fun _ _ _ => rfl) (fun _ _ _ => rfl)
  refine Prog.obeys_perform_bind.mpr ⟨⟨rfl, rfl⟩, fun reporter _ => ?_, fun _ _ => trivial⟩
  cases reporter with
  | none => trivial
  | some reporter =>
    dsimp only
    split
    next =>
      exact Prog.obeys_perform_bind.mpr ⟨⟨rfl, rfl⟩, fun _ _ => trivial, fun _ _ => trivial⟩
    next => trivial

theorem Serves.ofExcept {α β : Type} {x : Except Err β} {f : β → Service α}
    {S : List Seen → Except Err α → Prop} (herror : ∀ e, x = .error e → S past (.error e))
    (hok : ∀ b, x = .ok b → Serves q past (f b) S) :
    Serves q past ((Service.ofExcept x).bind f) S := by
  cases x with
  | error e => exact herror e rfl
  | ok b => exact hok b rfl

theorem Serves.respond {α : Type} {f : α → Response} {p : Service α}
    (h : Serves q past p (fun past r => Ends q past (r.map f))) :
    Serves q past (respond f p) (Ends q) :=
  Prog.Obeys.bind h (fun _ _ hb => hb) (fun _ _ he => he)

theorem Ends.of_settled {r : Except Err Response} (settled : Settled past)
    (plain : ∀ v, r = .ok v → v.created? = none) (fails : ∀ e, r = .error e → Fails q past)
    (other : ∀ dto user key, q ≠ .create dto user key) : Ends q past r where
  settled := settled
  created v c hv hc := by simp [plain v hv] at hc
  answered v dto user key hq := absurd hq (other dto user key)
  fails := fails
  cause e dto user key hq := absurd hq (other dto user key)

theorem Ends.of_value {v : Response} (settled : Settled past) (plain : v.created? = none)
    (other : ∀ dto user key, q ≠ .create dto user key) : Ends q past (.ok v) :=
  .of_settled settled (fun _ hv => Except.ok.inj hv ▸ plain) (fun _ he => nomatch he) other

theorem Ends.of_calm {e : Err} (calm : Unwritten past)
    (other : ∀ dto user key, q ≠ .create dto user key) : Ends q past (.error e) :=
  .of_settled (settled_of_calm calm) (by simp) (fun _ _ => .calm calm) other

theorem Ends.of_follows {c : Cmd} {e : Err} (follows : c.follows = true)
    (other : ∀ dto user key, q ≠ .create dto user key) :
    Ends q (past ++ [⟨c, .error e⟩]) (.error e) :=
  .of_settled (settled_snoc.mpr Seen.calm_of_error.update) (by simp)
    (fun _ _ => .after (List.getLast?_concat ..) follows ⟨e, rfl⟩) other

/-- What follows the reads and the checks of `assign` and of `changeState`: the update
under its guard, the event, the read-back, and then `rest`. -/
theorem Serves.mutation {g : TicketWhere} {d : TicketUpdate} {ev : TicketEventCreate}
    {miss : Err} {rest : Ticket → Service Ticket} {S : List Seen → Except Err Ticket → Prop}
    (intent : Intent q past g d ev) (calm : Unwritten past)
    (hmiss : ∀ past e, Unwritten past → S past (.error e))
    (hbroke : ∀ past c e, c.follows = true → S (past ++ [⟨c, .error e⟩]) (.error e))
    (hrest : ∀ past t, Settled past → Serves q past (rest t) S) :
    Serves q past
      ((call (.ticketUpdateMany g d)).bind fun count : Nat =>
        if count = 0 then .throw miss
        else (call (.ticketEventCreate ev)).bind fun _ =>
          (call (.ticketFindUniqueOrThrow ev.ticketId)).bind rest)
      S := by
  refine Prog.obeys_perform_bind.mpr ⟨.update intent, fun count _ => ?_, fun e _ => ?_⟩
  · split
    next hc => exact hmiss _ _ (calm_snoc calm ⟨by simp [Seen.update?, hc], rfl, rfl⟩)
    next hc =>
      have committed : Seen.update? ⟨.one (.ticketUpdateMany g d), .ok count⟩ = some (g, d) := by
        simp [Seen.update?, hc]
      refine Prog.obeys_perform_bind.mpr ⟨.event intent committed, fun _ _ => ?_, fun e _ => ?_⟩
      · refine Prog.obeys_perform_bind.mpr
          ⟨.readBack intent committed rfl, fun t _ => ?_, fun e _ => hbroke _ _ e rfl⟩
        exact hrest _ t (settled_snoc.mpr rfl)
      · exact hbroke _ _ e rfl
  · exact hmiss _ e (calm_snoc calm Seen.calm_of_error)

theorem notify_serves {α : Type} {f : α → Response} (ticket : Ticket) (type : TicketNotifyType)
    (subject body : String) (a : α) (settled : Settled past) (plain : (f a).created? = none)
    (other : ∀ dto user key, q ≠ .create dto user key) :
    Serves q past ((notifyReporter ticket type subject body).bind fun _ => .pure a)
      (fun past r => Ends q past (r.map f)) :=
  Prog.Obeys.bind (Serves.of_reads (notifyReporter_reads ..) settled)
    (fun _ _ h => Ends.of_value h.1 plain other) (fun _ _ h => nomatch h.2)

theorem readClockIf_serves {id : Uuid} {t : Ticket} (needed : Bool) (read : FirstRead id t past)
    (calm : Unwritten past) :
    Serves q past (readClockIf needed)
      (fun past _ => FirstRead id t past ∧ Unwritten past) := by
  cases needed with
  | false => exact ⟨read, calm⟩
  | true =>
    refine Prog.obeys_perform.mpr ⟨.reads rfl (settled_of_calm calm) rfl, fun r _ => ?_⟩
    exact ⟨read.append, calm_snoc calm (Seen.calm_of_reads rfl)⟩

/-- What reads its ticket first, and refuses when there is none. -/
theorem Serves.findTicket {α : Type} {f : α → Response} {id : Uuid}
    {k : Option Ticket → Service α} (other : ∀ dto user key, q ≠ .create dto user key)
    (hnone : ∃ e, k none = .throw e)
    (hsome : ∀ ticket past, FirstRead id ticket past → Unwritten past →
      Serves q past (k (some ticket)) (fun past r => Ends q past (r.map f))) :
    Serves q [] ((call (.ticketFindUnique id)).bind k) (fun past r => Ends q past (r.map f)) := by
  obtain ⟨miss, hmiss⟩ := hnone
  refine Prog.obeys_perform_bind.mpr ⟨.reads rfl settled_nil rfl, fun ticket _ => ?_, fun e _ => ?_⟩
  · have calm := calm_snoc calm_nil
      (Seen.calm_of_reads (o := ⟨.one (.ticketFindUnique id), .ok ticket⟩) rfl)
    cases ticket with
    | none =>
      rw [hmiss]
      exact Ends.of_calm calm other
    | some ticket => exact hsome ticket _ rfl calm
  · exact Ends.of_calm (calm_snoc calm_nil Seen.calm_of_error) other

theorem assign_serves (id : Uuid) (dto : AssignTicketDto) (actor : User) :
    Serves (.assign id dto actor) [] (respond .ticket (assign id dto actor))
      (Ends (.assign id dto actor)) := by
  have other : ∀ dto' user key, Request.assign id dto actor ≠ .create dto' user key := by simp
  refine Serves.respond (Serves.findTicket other ⟨_, rfl⟩ fun ticket past read calm => ?_)
  refine Prog.obeys_perform_bind.mpr
    ⟨.reads rfl (settled_of_calm calm) rfl, fun assignee _ => ?_, fun e _ => ?_⟩
  swap
  · exact Ends.of_calm (calm_snoc calm Seen.calm_of_error) other
  have calm' := calm_snoc calm
    (Seen.calm_of_reads (o := ⟨.one (.userFindUnique dto.assigneeId), .ok assignee⟩) rfl)
  split
  next => exact Ends.of_calm calm' other
  next hstaff =>
    obtain ⟨u, rfl, hrole⟩ : ∃ u, assignee = some u ∧ u.role ≠ .reportante := by
      cases assignee with
      | none => exact absurd rfl hstaff
      | some u => exact ⟨u, rfl, by simpa using hstaff⟩
    refine Serves.mutation (.assign read.append calm' ⟨u, by simp, hrole⟩) calm'
      (fun _ _ hc => .of_calm hc other) (fun _ _ _ hf => .of_follows hf other)
      fun past updated hs => ?_
    exact notify_serves _ _ _ _ _ hs rfl other

theorem changeState_serves (id : Uuid) (dto : ChangeStateDto) (actor : User) :
    Serves (.changeState id dto actor) [] (respond .ticket (changeState id dto actor))
      (Ends (.changeState id dto actor)) := by
  have other : ∀ dto' user key, Request.changeState id dto actor ≠ .create dto' user key := by
    simp
  refine Serves.respond (Serves.findTicket other ⟨_, rfl⟩ fun ticket past read calm => ?_)
  refine Serves.ofExcept (fun _ _ => Ends.of_calm calm other) fun _ checked => ?_
  refine Prog.Obeys.bind (readClockIf_serves _ read calm)
    (fun past now h => ?_) (fun _ _ h => Ends.of_calm h.2 other)
  obtain ⟨read, calm⟩ := h
  refine Serves.mutation (.changeState read calm checked now) calm
    (fun _ _ hc => .of_calm hc other) (fun _ _ _ hf => .of_follows hf other)
    fun past updated hs => ?_
  split
  next => exact notify_serves _ _ _ _ _ hs rfl other
  next => exact .of_value hs rfl other

theorem settled_reads {c : Cmd} {r : Except Err c.Res} (h : c.reads = true) :
    Settled (past ++ [⟨c, r⟩]) :=
  settled_snoc.mpr (Seen.calm_of_reads h).update

theorem escalateOne_serves {id : Uuid} {current target : Nat} {actor : Uuid}
    (intent : Intent q past (escalateWhere id current) (escalateUpdate target)
      (escalamientoEvent id current target actor)) :
    Serves q past (escalateOne id current target actor) (fun past' r =>
      Settled past' ∧ (Unwritten past → ∀ e, r = .error e → Fails q past')) := by
  refine Prog.obeys_perform_bind.mpr
    ⟨.update intent, fun (count : Nat) answers => ?_, fun e _ => ?_⟩
  · have hle : count ≤ 1 := answers rfl
    split
    next hc =>
      have hc : count = 0 := by omega
      exact ⟨settled_snoc.mpr (by simp [Seen.update?, hc]), fun _ _ he => by cases he⟩
    next hc =>
      have committed : Seen.update? ⟨.one (.ticketUpdateMany (escalateWhere id current)
          (escalateUpdate target)), .ok count⟩ =
          some (escalateWhere id current, escalateUpdate target) := by
        simp [Seen.update?, not_not.mp hc]
      refine Prog.obeys_perform_bind.mpr ⟨.event intent committed, fun _ _ => ?_, fun e _ => ?_⟩
      · exact ⟨settled_snoc.mpr rfl, fun _ _ he => by cases he⟩
      · exact ⟨settled_snoc.mpr rfl,
          fun _ _ _ => .after (List.getLast?_concat ..) rfl ⟨e, rfl⟩⟩
  · exact ⟨settled_snoc.mpr rfl, fun calm _ _ => .calm (calm_snoc calm Seen.calm_of_error)⟩

theorem sweepTicket_serves (at' now : Time) (actor : Uuid) (t : Ticket) (settled : Settled past) :
    Serves (.sweep at') past (sweepTicket now actor t) (fun past _ => Settled past) := by
  refine Prog.obeys_perform_bind.mpr
    ⟨.reads rfl settled rfl, fun rule _ => ?_, fun e _ => settled_reads rfl⟩
  cases rule with
  | none => exact settled_reads rfl
  | some rule =>
    dsimp only
    split
    next raise =>
      have bound := decideEscalationLevel_le (elapsedMinutes now t.createdAt) rule
      exact (escalateOne_serves (.sweep (settled_reads rfl) raise bound)).mono (fun _ _ h => h)
        (fun _ _ h => h.1)
    next => exact settled_reads rfl

/-- The loop of a sweep, by induction on the candidates that are left. -/
theorem sweepLoop_serves (at' now : Time) (actor : Uuid) (candidates : List Ticket) (escalated : Nat)
    (settled : Settled past) :
    Serves (.sweep at') past (sweepLoop now actor candidates escalated)
      (fun past _ => Settled past) := by
  induction candidates generalizing escalated past with
  | nil => exact settled
  | cons t candidates ih =>
    exact Prog.Obeys.bind (sweepTicket_serves at' now actor t settled)
      (fun _ _ hs => ih _ hs) (fun _ _ hs => hs)

theorem sweep_serves (now : Time) :
    Serves (.sweep now) [] (respond .swept (sweep now)) (Ends (.sweep now)) := by
  have ends : ∀ past (r : Except Err SweepResult), Settled past →
      Ends (.sweep now) past (r.map .swept) := by
    intro past r hs
    refine .of_settled hs (fun v hv => ?_) (fun _ _ => .sweep) (by simp)
    cases r with
    | ok a => cases hv; rfl
    | error e => cases hv
  refine Serves.respond ?_
  refine Prog.Obeys.mono (Q := fun past _ => Settled past) ?_ (fun _ _ h => h)
    (fun past r hs => ends past r hs)
  refine Prog.Obeys.bind (S := fun past _ => Settled past) ?_ (fun past actor hs => ?_)
    (fun _ _ hs => hs)
  · exact Prog.obeys_perform_bind.mpr
      ⟨.reads rfl settled_nil rfl, fun _ _ => settled_reads rfl, fun _ _ => settled_reads rfl⟩
  · refine Prog.obeys_perform_bind.mpr
      ⟨.reads rfl hs rfl, fun candidates _ => ?_, fun _ _ => settled_reads rfl⟩
    exact Prog.Obeys.bind (sweepLoop_serves now now actor candidates 0 (settled_reads rfl))
      (fun _ _ hs => hs) (fun _ _ hs => hs)

section Create

variable {dto : CreateTicketDto} {user : User} {key : Option String}

theorem Creates.ends {c : CreateResult} (h : Creates key past c) :
    Ends (.create dto user key) past (.ok (.created c)) where
  settled := by
    intro o ho
    cases h with
    | @inserted t o' last row =>
      cases last.symm.trans ho
      obtain ⟨cmd, answer⟩ := o
      cases cmd with
      | transaction => rfl
      | one => simp [Seen.created?] at row
    | found _ _ last _ =>
      cases last.symm.trans ho
      rfl
  created v c' hv hc := by
    cases hv
    cases hc
    exact ⟨dto, user, key, rfl, h⟩
  answered v _ _ _ _ hv := by cases hv; simp [Response.created?]
  fails e he := nomatch he
  cause _ _ _ _ _ he := nomatch he

theorem Ends.of_failed {e : Err} (calm : Unwritten past) (failed : Broke past e) :
    Ends (.create dto user key) past (.error e) where
  settled := settled_of_calm calm
  created _ _ hv _ := nomatch hv
  answered _ _ _ _ _ hv := nomatch hv
  fails _ _ := .calm calm
  cause _ _ _ _ _ he := Except.error.inj he ▸ ⟨calm, failed⟩

theorem broke_snoc {c : Cmd} {e : Err} : Broke (past ++ [⟨c, .error e⟩]) e :=
  ⟨⟨c, .error e⟩, by simp, rfl⟩

theorem Broke.snoc {o : Seen} {e : Err} (h : Broke past e) : Broke (past ++ [o]) e := by
  obtain ⟨p, hp, hf⟩ := h
  exact ⟨p, List.mem_append_left _ hp, hf⟩

theorem Ends.of_error {c : Cmd} {e : Err} (calm : Unwritten past) :
    Ends (.create dto user key) (past ++ [⟨c, .error e⟩]) (.error e) :=
  .of_failed (calm_snoc calm Seen.calm_of_error) broke_snoc

theorem recoverDuplicate_serves (err : Err) (calm : Unwritten past)
    (failed : Broke past err) :
    Serves (.create dto user key) past (recoverDuplicate key err)
      (fun past r => Ends (.create dto user key) past (r.map .created)) := by
  unfold recoverDuplicate
  split
  next _ _ k truthy =>
    refine Prog.obeys_perform_bind.mpr
      ⟨.reads rfl (settled_of_calm calm) rfl, fun existing _ => ?_, fun e _ => Ends.of_error calm⟩
    have calm' := calm_snoc calm (Seen.calm_of_reads
      (o := ⟨.one (.ticketFindFirst { idempotencyKey := some k }), .ok existing⟩) rfl)
    cases existing with
    | some t => exact (Creates.found truthy rfl (List.getLast?_concat ..) calm').ends
    | none => exact Ends.of_failed calm' failed.snoc
  next => exact Ends.of_failed calm failed

theorem insertTicket_serves (calm : Unwritten past) :
    Serves (.create dto user key) past (insertTicket dto user key)
      (fun past r => Ends (.create dto user key) past (r.map .created)) := by
  obtain ⟨priority, hp⟩ := calculatePriority_ok dto.severityRange dto.impactRange
  refine Serves.ofExcept (fun e he => nomatch hp.symm.trans he) fun priority _ => ?_
  refine Prog.obeys_perform_bind.mpr
    ⟨.reads rfl (settled_of_calm calm) rfl, fun sla _ => ?_, fun e _ => Ends.of_error calm⟩
  have calm := calm_snoc calm (Seen.calm_of_reads
    (o := ⟨.one (.slaRuleFindUnique priority), .ok sla⟩) rfl)
  refine Prog.Obeys.bind (S := fun past r => Unwritten past ∧
    ∀ e, r = .error e → Broke past e) ?_ (fun past slaDueAt h => ?_)
    (fun past e h => Ends.of_failed h.1 (h.2 e rfl))
  · cases sla with
    | none => exact ⟨calm, fun _ he => nomatch he⟩
    | some sla =>
      refine Prog.obeys_perform_bind.mpr
        ⟨.reads rfl (settled_of_calm calm) rfl, fun now _ => ?_, fun e _ => ?_⟩
      · exact ⟨calm_snoc calm (Seen.calm_of_reads rfl), fun _ he => nomatch he⟩
      · exact ⟨calm_snoc calm Seen.calm_of_error, fun _ he => Except.error.inj he ▸ broke_snoc⟩
  · refine Prog.Obeys.tryCatch (S := fun past r => (∀ c, r = .ok c → Creates key past c) ∧
      ∀ e, r = .error e → Unwritten past ∧ Broke past e) ?_
      (fun past c h => (h.1 c rfl).ends) (fun past e h => ?_)
    · refine Prog.obeys_perform_bind.mpr ⟨.create h.1, fun t _ => ?_, fun e _ => ?_⟩
      · refine ⟨fun c hc => ?_, fun _ he => nomatch he⟩
        cases hc
        exact .inserted (List.getLast?_concat ..) rfl
      · exact ⟨fun _ hc => (nomatch hc), fun _ he =>
          ⟨calm_snoc h.1 Seen.calm_of_error, Except.error.inj he ▸ broke_snoc⟩⟩
    · obtain ⟨calm, failed⟩ := h.2 e rfl
      exact recoverDuplicate_serves e calm failed

theorem lookupRecent_serves (k : String) (calm : Unwritten past) :
    Serves q past (lookupRecent k) (fun past r => Unwritten past ∧
      (∀ t, r = .ok (some t) → ∃ g : TicketWhere, g.idempotencyKey = some k ∧
        past.getLast? = some ⟨.one (.ticketFindFirst g), .ok (some t)⟩) ∧
      ∀ e, r = .error e → Broke past e) := by
  refine Prog.obeys_perform_bind.mpr
    ⟨.reads rfl (settled_of_calm calm) rfl, fun now _ => ?_, fun e _ => ?_⟩
  · have calm := calm_snoc calm (Seen.calm_of_reads (o := ⟨.one .now, .ok now⟩) rfl)
    refine Prog.obeys_perform.mpr ⟨.reads rfl (settled_of_calm calm) rfl, fun r _ => ?_⟩
    refine ⟨calm_snoc calm (Seen.calm_of_reads rfl), fun t hr => ?_, fun e he => ?_⟩
    · cases hr
      exact ⟨_, rfl, List.getLast?_concat ..⟩
    · cases he
      exact broke_snoc
  · exact ⟨calm_snoc calm Seen.calm_of_error, fun _ hr => (nomatch hr),
      fun _ he => Except.error.inj he ▸ broke_snoc⟩

theorem create_serves (dto : CreateTicketDto) (user : User) (key : Option String) :
    Serves (.create dto user key) [] (respond .created (create dto user key))
      (Ends (.create dto user key)) := by
  refine Serves.respond ?_
  unfold create
  split
  next => exact insertTicket_serves calm_nil
  next k truthy =>
    refine Prog.Obeys.bind (lookupRecent_serves k calm_nil) (fun past existing h => ?_)
      (fun past e h => Ends.of_failed h.1 (h.2.2 e rfl))
    cases existing with
    | some t =>
      obtain ⟨g, guard, last⟩ := h.2.1 t rfl
      exact (Creates.found truthy guard last h.1).ends
    | none => exact insertTicket_serves h.1

end Create

/-- A service that leaves the tickets, their events and the attachments alone. -/
abbrev ReadOnly {α : Type} (p : Service α) : Prop :=
  p.Only fun c => c.reads = true ∧ c.follows = false

/-- A service that changes nothing. -/
abbrev Looks {α : Type} (p : Service α) : Prop := p.Only fun c => c.looks = true

theorem looks_call {s : Stmt} (h : s.looks = true) : Looks (call s) := Prog.only_perform h

theorem looks_ofExcept {α : Type} (x : Except Err α) : Looks (Service.ofExcept x) := by
  cases x <;> trivial

theorem Looks.readOnly {α : Type} {p : Service α} (h : Looks p) : ReadOnly p := by
  refine h.mono fun c hc => ?_
  cases c with
  | transaction => cases hc
  | one s => cases s <;> first | exact ⟨rfl, rfl⟩ | cases hc

theorem readOnly_call {s : Stmt} (h : (Cmd.one s).reads = true ∧ (Cmd.one s).follows = false) :
    ReadOnly (call s) :=
  Prog.only_perform h

theorem Serves.of_readOnly {α : Type} {p : Service α} (h : ReadOnly p) (calm : Unwritten past) :
    Serves q past p (fun past _ => Unwritten past) := by
  refine ((h.obeys past).keeps (I := Unwritten) ?_ calm).mono ?_ (fun _ _ h => h.2)
  · exact fun past c r hp hc _ => calm_snoc hp (Seen.calm_of_reads (o := ⟨c, r⟩) hc.1)
  · exact fun _ _ h => .reads h.1.1 (settled_of_calm h.2) h.1.2

theorem readOnly_serves {α : Type} {f : α → Response} {p : Service α} (h : ReadOnly p)
    (plain : ∀ a, (f a).created? = none) (other : ∀ dto user key, q ≠ .create dto user key) :
    Serves q [] (respond f p) (Ends q) := by
  refine Serves.respond ((Serves.of_readOnly h calm_nil).mono (fun _ _ h => h) ?_)
  intro past r calm
  cases r with
  | ok a => exact .of_value (settled_of_calm calm) (plain a) other
  | error e => exact .of_calm calm other

theorem getForUser_looks (id : Uuid) (user : User) : Looks (getForUser id user) := by
  refine (looks_call rfl).bind fun found => ?_
  cases found with
  | none => trivial
  | some found => exact (looks_ofExcept _).bind fun _ => (looks_call rfl).bind fun _ => trivial

theorem list_looks (query : ListTicketsQuery) (user : User) : Looks (list query user) := by
  refine (looks_ofExcept _).bind fun _ => (looks_ofExcept _).bind fun _ =>
    (looks_call rfl).bind fun _ => ?_
  trivial

theorem events_looks (ticketId : Uuid) (query : ListEventsQuery) (user : User) :
    Looks (events ticketId query user) := by
  refine (getForUser_looks ticketId user).bind fun _ => (looks_ofExcept _).bind fun _ =>
    (looks_call rfl).bind fun _ => ?_
  trivial

theorem streamBatch_looks (query : ReportQuery) (cursor : Option Uuid) :
    Looks (streamBatch query cursor) := by
  refine (looks_ofExcept _).bind fun _ => (looks_call rfl).bind fun _ => ?_
  trivial

theorem buildSession_looks (user : User) : Looks (buildSession user) := by
  refine (looks_call rfl).bind fun now => ?_
  trivial

theorem exchangeCode_readOnly (exchange : CodeExchange) : ReadOnly (exchangeCode exchange) := by
  unfold exchangeCode
  split
  case h_6 =>
    split
    next => trivial
    next => exact (readOnly_call ⟨rfl, rfl⟩).bind fun u =>
      (buildSession_looks u).readOnly
  all_goals trivial

theorem login_looks (provider : AuthProvider) (email : String) : Looks (login provider email) := by
  cases provider with
  | cognito => trivial
  | mock =>
    refine (looks_call rfl).bind fun user => ?_
    cases user with
    | none => trivial
    | some user => exact buildSession_looks user

theorem processMessage_readOnly (z : Zod) (messageId : String) (body : SqsBody) :
    ReadOnly (processMessage z messageId body) := by
  unfold processMessage
  split
  next => exact readOnly_call ⟨rfl, rfl⟩
  next => exact readOnly_call ⟨rfl, rfl⟩

theorem handleMessages_readOnly (z : Zod) (messages : List SqsMessage) :
    ReadOnly (handleMessages z messages) := by
  induction messages with
  | nil => trivial
  | cons msg messages ih =>
    refine Prog.Only.bind (Prog.Only.tryCatch ?_ fun _ => trivial) fun _ => ih
    exact (processMessage_readOnly z msg.messageId msg.body).bind fun _ => readOnly_call ⟨rfl, rfl⟩

theorem poll_readOnly (z : Zod) (batchSize : Nat) : ReadOnly (poll z batchSize) := by
  refine Prog.Only.bind ((readOnly_call ⟨rfl, rfl⟩).tryCatch fun e => ?_)
    (handleMessages_readOnly z)
  trivial

theorem Seen.calm_of_upload {d : AttachmentCreate} {r : Except Err Attachment} :
    Seen.Calm ⟨.one (.attachmentCreate d), r⟩ := ⟨rfl, rfl, rfl⟩

theorem createUpload_serves (dto : CreateAttachmentDto) (user : User) :
    Serves (.createUpload dto user) [] (respond .upload (createUpload dto user))
      (Ends (.createUpload dto user)) := by
  have other : ∀ dto' user' key, Request.createUpload dto user ≠ .create dto' user' key := by simp
  refine Serves.respond ?_
  unfold createUpload
  split
  next => exact Ends.of_calm calm_nil other
  next ext _ =>
    split
    next => exact Ends.of_calm calm_nil other
    next =>
      refine Prog.obeys_perform_bind.mpr
        ⟨.reads rfl settled_nil rfl, fun uuid _ => ?_, fun e _ => ?_⟩
      swap
      · exact Ends.of_calm (calm_snoc calm_nil Seen.calm_of_error) other
      have calm := calm_snoc calm_nil (Seen.calm_of_reads (o := ⟨.one .randomUUID, .ok uuid⟩) rfl)
      refine Prog.obeys_perform_bind.mpr
        ⟨.reads rfl (settled_of_calm calm) rfl, fun now _ => ?_, fun e _ => ?_⟩
      swap
      · exact Ends.of_calm (calm_snoc calm Seen.calm_of_error) other
      have calm := calm_snoc calm (Seen.calm_of_reads (o := ⟨.one .now, .ok now⟩) rfl)
      refine Prog.obeys_perform_bind.mpr ⟨.upload calm, fun att _ => ?_, fun e _ => ?_⟩
      swap
      · exact Ends.of_calm (calm_snoc calm Seen.calm_of_error) other
      have calm := calm_snoc calm (Seen.calm_of_upload
        (d := pendingAttachment dto user (uuid.text ++ "." ++ ext) now) (r := .ok att))
      refine Prog.obeys_perform_bind.mpr
        ⟨.reads rfl (settled_of_calm calm) rfl, fun url _ => ?_, fun e _ => ?_⟩
      · exact .of_value (settled_reads rfl) rfl other
      · exact Ends.of_calm (calm_snoc calm Seen.calm_of_error) other

theorem assertCanAccess_looks (att : Attachment) (user : User) :
    Looks (assertCanAccess att user) := by
  unfold assertCanAccess
  split
  next => trivial
  next =>
    split
    next =>
      refine (looks_call rfl).bind fun ticket => ?_
      split <;> trivial
    next => split <;> trivial

theorem recordDownload_serves {id : Uuid} (att : Attachment) (user : User)
    (calm : Unwritten past) :
    Serves (.getDownload id user) past (recordDownload att user) (fun past r =>
      Settled past ∧ ∀ e, r = .error e → Unwritten past) := by
  unfold recordDownload
  split
  next =>
    refine Prog.obeys_perform_bind.mpr ⟨.note .download calm, fun event _ => ?_, fun e _ => ?_⟩
    · exact ⟨settled_snoc.mpr rfl, fun _ he => nomatch he⟩
    · exact ⟨settled_snoc.mpr rfl, fun _ _ => calm_snoc calm Seen.calm_of_error⟩
  next => exact ⟨settled_of_calm calm, fun _ he => nomatch he⟩

theorem getDownload_serves (id : Uuid) (user : User) :
    Serves (.getDownload id user) [] (respond .download (getDownload id user))
      (Ends (.getDownload id user)) := by
  have other : ∀ dto user' key, Request.getDownload id user ≠ .create dto user' key := by simp
  refine Serves.respond ?_
  refine Prog.Obeys.bind (Serves.of_readOnly (readOnly_call ⟨rfl, rfl⟩) calm_nil)
    (fun past att calm => ?_) (fun _ _ calm => Ends.of_calm calm other)
  cases att with
  | none => exact Ends.of_calm calm other
  | some att =>
    refine Prog.Obeys.bind (Serves.of_readOnly (assertCanAccess_looks att user).readOnly calm)
      (fun past _ calm => ?_) (fun _ _ calm => Ends.of_calm calm other)
    refine Prog.Obeys.bind (Serves.of_readOnly (readOnly_call ⟨rfl, rfl⟩) calm)
      (fun past url calm => ?_) (fun _ _ calm => Ends.of_calm calm other)
    exact Prog.Obeys.bind (recordDownload_serves att user calm)
      (fun _ _ h => .of_value h.1 rfl other) (fun _ e h => Ends.of_calm (h.2 e rfl) other)

theorem createUser_serves (data : UserCreate) :
    Serves (.createUser data) [] (respond .user (createUser data)) (Ends (.createUser data)) := by
  have other : ∀ dto user key, Request.createUser data ≠ .create dto user key := by simp
  refine Serves.respond (Prog.obeys_perform.mpr ⟨.register calm_nil, fun r _ => ?_⟩)
  cases r with
  | ok u => exact .of_value (settled_snoc.mpr rfl) rfl other
  | error e => exact Ends.of_calm (calm_snoc calm_nil Seen.calm_of_error) other

theorem addComment_serves (id : Uuid) (actor : User) (message : String) :
    Serves (.addComment id actor message) [] (respond .event (addComment id actor message))
      (Ends (.addComment id actor message)) := by
  have other : ∀ dto user key, Request.addComment id actor message ≠ .create dto user key := by
    simp
  refine Serves.respond (Serves.findTicket other ⟨_, rfl⟩ fun ticket past _ calm => ?_)
  dsimp only
  split
  next => exact Ends.of_calm calm other
  next =>
    refine Prog.obeys_perform_bind.mpr ⟨.note .comment calm, fun event _ => ?_, fun e _ => ?_⟩
    · exact notify_serves _ _ _ _ _ (settled_snoc.mpr rfl) rfl other
    · exact Ends.of_calm (calm_snoc calm Seen.calm_of_error) other

theorem escalate_serves (id : Uuid) (current target : Nat) (actor : Uuid) :
    Serves (.escalateOne id current target actor) []
      (respond .escalated (escalateOne id current target actor))
      (Ends (.escalateOne id current target actor)) := by
  refine Serves.respond ((escalateOne_serves .escalateOne).mono (fun _ _ h => h) ?_)
  intro past r h
  refine .of_settled h.1 (fun v hv => ?_) (fun e he => ?_) (by simp)
  · cases r with
    | ok a => cases hv; rfl
    | error e => cases hv
  · cases r with
    | ok a => cases he
    | error e => exact h.2 calm_nil e rfl

end Serving

theorem serve_kept : terms.Kept serve Cmd.exec where
  answers := exec_answers
  obeys q := by
    cases q with
    | create dto user key => exact create_serves dto user key
    | getForUser id user =>
      exact readOnly_serves (getForUser_looks id user).readOnly (fun _ => rfl) (by simp)
    | assign id dto actor => exact assign_serves id dto actor
    | changeState id dto actor => exact changeState_serves id dto actor
    | addComment id actor message => exact addComment_serves id actor message
    | sweep now => exact sweep_serves now
    | escalateOne id current target actor => exact escalate_serves id current target actor
    | list query user => exact readOnly_serves (list_looks query user).readOnly (fun _ => rfl) (by simp)
    | events id query user =>
      exact readOnly_serves (events_looks id query user).readOnly (fun _ => rfl) (by simp)
    | streamBatch query cursor =>
      exact readOnly_serves (streamBatch_looks query cursor).readOnly (fun _ => rfl) (by simp)
    | createUpload dto user => exact createUpload_serves dto user
    | getDownload id user => exact getDownload_serves id user
    | exchangeCode exchange =>
      exact readOnly_serves (exchangeCode_readOnly exchange) (fun _ => rfl) (by simp)
    | login provider email =>
      exact readOnly_serves (login_looks provider email).readOnly (fun _ => rfl) (by simp)
    | createUser data => exact createUser_serves data
    | enqueue body => exact readOnly_serves (readOnly_call ⟨rfl, rfl⟩) (fun _ => rfl) (by simp)
    | poll z batchSize =>
      exact readOnly_serves (poll_readOnly z batchSize) (fun _ => rfl) (by simp)

end TicketSystem
