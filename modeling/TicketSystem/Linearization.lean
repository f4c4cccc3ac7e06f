import TicketSystem.Lib.Log
import TicketSystem.OptimisticLocking
import TicketSystem.Refusals
import TicketSystem.Tracker

namespace TicketSystem

open Relational Interleaved

def Ticket.item (t : Ticket) : Item where
  reporter := t.reporterId
  status := t.status
  assignee := t.assigneeId
  level := t.escalationLevel
  version := t.version
  rootCause := t.rootCause
  solution := t.solution

def World.items (w : World) (id : Uuid) : Option Item := (w.ticket? id).map Ticket.item

def ChangeStateDto.op (dto : ChangeStateDto) (id : Uuid) (actor : User) : Op :=
  match dto.targetState with
  | .enProgreso => .starts id actor dto.expectedVersion
  | .resuelto =>
    .resolves id actor dto.expectedVersion (dto.rootCause.getD "") (dto.solution.getD "")

def escalation? (g : TicketWhere) (d : TicketUpdate) : Option Op :=
  match g.id, g.escalationLevel, d.escalationLevel with
  | some id, some current, some target => some (.escalates id current target)
  | _, _, _ => none

/-- The operation that a request performs by a statement, when it is answered so. -/
def Request.op? : Request → Seen → Option Op
  | .create _ user _, o => o.created?.map fun t => .opens t.id user.id
  | .assign id dto _, o => o.update?.map fun _ => .assigns id dto.assigneeId dto.expectedVersion
  | .changeState id dto actor, o => o.update?.map fun _ => dto.op id actor
  | .escalateOne id current target _, o => o.update?.map fun _ => .escalates id current target
  | .sweep _, o => o.update?.bind fun (g, d) => escalation? g d
  | _, _ => none

def Server.op? (s : Server) (e : Executed) : Option Op :=
  (s.threads[e.tid]?).bind fun t => t.request.op? e.obs

/-- The operations of a run in the order of their statements, each with the thread it is of. -/
def Server.calls (s : Server) : List (Nat × Op) :=
  s.history.filterMap fun e => (s.op? e).map fun op => (e.tid, op)

def Server.opsOf (s : Server) (i : Nat) : List Op :=
  (s.calls.filter fun c => c.1 = i).map Prod.snd

section Views

variable {w w' : World}

theorem World.Updated.items {id : Uuid} {g : TicketWhere} {d : TicketUpdate} {t : Ticket}
    (h : w.Updated id g d w') (ht : w.ticket? id = some t) :
    w'.items = Function.update w.items id (some (d.apply t).item) := by
  funext i
  by_cases hi : i = id
  · subst hi
    obtain ⟨t', ht', _, hafter⟩ := h.row
    cases ht.symm.trans ht'
    rw [Function.update_self, World.items, hafter]
    rfl
  · rw [Function.update_of_ne hi, World.items, h.others i hi]
    rfl

theorem World.Created.items {dto : CreateTicketDto} {user : User} {o : Oracle} {t : Ticket}
    (h : w.Created dto user o t w') : w'.items = Function.update w.items t.id (some t.item) := by
  funext i
  rw [World.items, h.ticket?]
  by_cases hi : i = t.id
  · subst hi
    rw [Function.update_self, if_pos rfl]
    rfl
  · rw [Function.update_of_ne hi, if_neg (Ne.symm hi)]
    rfl

theorem items_eq (h : ∀ id, w'.ticket? id = w.ticket? id) : w'.items = w.items := by
  funext id
  rw [World.items, h]
  rfl

end Views

theorem checkChangeState_staff {ticket : Ticket} {dto : ChangeStateDto} {actor : User}
    (h : checkChangeState ticket dto actor = .ok ()) : actor.role ≠ .reportante := by
  simp only [checkChangeState] at h
  split at h
  next => cases h
  next =>
    split at h
    next => cases h
    next =>
      split at h
      next => cases h
      next =>
        split at h
        next => cases h
        next hmoves => exact (canTransition_ok hmoves).2.1

section Operations

variable {ticket row : Ticket} {id : Uuid} {dto : ChangeStateDto} {actor : User}

/-- The row is as it was when its request checked it. -/
def Ticket.Current (ticket row : Ticket) : Prop :=
  row.assigneeId = ticket.assigneeId ∧ row.status = ticket.status

theorem Checked.worksOn (h : Checked ticket dto actor) (staff : actor.role ≠ .reportante)
    (current : ticket.Current row) : actor.WorksOn row.item := by
  rcases h.owner with hadmin | hmine
  · exact .inl hadmin
  · cases hrole : actor.role with
    | reportante => exact absurd hrole staff
    | agente => exact .inr ⟨hrole, current.1.trans hmine⟩
    | administrador => exact .inl hrole

theorem start_item (h : Checked ticket dto actor) (staff : actor.role ≠ .reportante)
    (current : ticket.Current row) (hv : row.version = dto.expectedVersion)
    (target : dto.targetState = .enProgreso) (now : Time) :
    row.item.start actor dto.expectedVersion = some ((stateUpdate dto now).apply row).item := by
  have hopen : row.status = .abierto := by
    have hmoves := h.moves
    rw [target, ← current.2] at hmoves
    generalize row.status = status at hmoves
    cases hmoves
    rfl
  have hassigned : row.assigneeId ≠ none := by
    rw [current.1]
    exact h.assignee target
  have hguard : row.item.version = dto.expectedVersion ∧ row.item.status = .abierto ∧
      row.item.assignee ≠ none ∧ actor.WorksOn row.item :=
    ⟨hv, hopen, hassigned, h.worksOn staff current⟩
  rw [Item.start, if_pos hguard, stateUpdate, target]
  simp [Ticket.item, TicketUpdate.apply, hv]

theorem resolve_item (h : Checked ticket dto actor) (staff : actor.role ≠ .reportante)
    (current : ticket.Current row) (hv : row.version = dto.expectedVersion)
    (target : dto.targetState = .resuelto) (now : Time) :
    row.item.resolve actor dto.expectedVersion (dto.rootCause.getD "") (dto.solution.getD "") =
      some ((stateUpdate dto now).apply row).item := by
  obtain ⟨hcause, hsolution⟩ := h.fields target
  obtain ⟨cause, hcause⟩ := Option.ne_none_iff_exists'.mp hcause
  obtain ⟨solution, hsolution⟩ := Option.ne_none_iff_exists'.mp hsolution
  obtain ⟨hc, hcause⟩ := truthy_eq_some.mp hcause
  obtain ⟨hs, hsolution⟩ := truthy_eq_some.mp hsolution
  have hopen : row.status ≠ .resuelto := by
    rw [current.2]
    exact h.moves.open
  have hadmin : row.status = .abierto → actor.role = .administrador := by
    intro ha
    exact h.override (current.2.symm.trans ha) target
  have hguard : row.item.version = dto.expectedVersion ∧ row.item.status ≠ .resuelto ∧
      actor.WorksOn row.item ∧ (row.item.status = .abierto → actor.role = .administrador) ∧
      cause ≠ "" ∧ solution ≠ "" :=
    ⟨hv, hopen, h.worksOn staff current, hadmin, hcause, hsolution⟩
  rw [hc, hs, Option.getD_some, Option.getD_some, Item.resolve, if_pos hguard, stateUpdate, target]
  simp [Ticket.item, TicketUpdate.apply, hc, hs, hv]

theorem changeState_item (h : checkChangeState ticket dto actor = .ok ())
    (current : ticket.Current row) (hv : row.version = dto.expectedVersion) (now : Time) :
    (dto.op id actor).write (some row.item) = some ((stateUpdate dto now).apply row).item := by
  have hchecked := checkChangeState_ok h
  have staff := checkChangeState_staff h
  unfold ChangeStateDto.op
  cases target : dto.targetState with
  | enProgreso => exact start_item hchecked staff current hv target now
  | resuelto => exact resolve_item hchecked staff current hv target now

theorem changeState_op_id : (dto.op id actor).id = id := by
  unfold ChangeStateDto.op
  cases dto.targetState <;> rfl

theorem escalate_item {current target : Nat} (hopen : row.status ≠ .resuelto)
    (hlevel : row.escalationLevel = current) :
    row.item.escalate current target = some ((escalateUpdate target).apply row).item := by
  have hguard : row.item.status ≠ .resuelto ∧ row.item.level = current := ⟨hopen, hlevel⟩
  rw [Item.escalate, if_pos hguard]
  rfl

/-- The guarded update of a request is its operation, when the row is as the request checked it. -/
theorem Intent.operates {q : Request} {past : List Seen} {g : TicketWhere} {d : TicketUpdate}
    {ev : TicketEventCreate} (h : Intent q past g d ev) {o : Seen}
    (hu : Seen.update? o = some (g, d)) (hm : g.matches row = true)
    (unchanged : ∀ ticket dto actor, q = .changeState ev.ticketId dto actor →
      FirstRead ev.ticketId ticket past → ticket.Current row) :
    ∃ op, q.op? o = some op ∧ op.id = ev.ticketId ∧
      op.write (some row.item) = some (d.apply row).item := by
  cases h with
  | @assign id dto actor ticket =>
    obtain ⟨_, hv⟩ := assignWhere_matches.mp hm
    have hv : row.item.version = dto.expectedVersion := hv
    refine ⟨.assigns id dto.assigneeId dto.expectedVersion, by simp [Request.op?, hu], rfl, ?_⟩
    show row.item.assign dto.assigneeId dto.expectedVersion = _
    rw [Item.assign, if_pos hv, ← hv]
    rfl
  | @changeState id dto actor ticket _ read _ checked now =>
    obtain ⟨_, hv, _⟩ := stateWhere_matches.mp hm
    refine ⟨dto.op id actor, by simp [Request.op?, hu], changeState_op_id, ?_⟩
    exact changeState_item checked (unchanged ticket dto actor rfl read) hv now
  | @escalateOne id current target actor =>
    obtain ⟨_, hopen, hlevel⟩ := escalateWhere_matches.mp hm
    refine ⟨.escalates id current target, by simp [Request.op?, hu], rfl, ?_⟩
    exact escalate_item hopen hlevel
  | @sweep now id current target actor =>
    obtain ⟨_, hopen, hlevel⟩ := escalateWhere_matches.mp hm
    refine ⟨.escalates id current target, by simp [Request.op?, hu, escalation?, escalateWhere,
      escalateUpdate], rfl, ?_⟩
    exact escalate_item hopen hlevel

theorem Request.op?_of_unwritten {q : Request} {o : Seen} (hc : o.created? = none)
    (hu : o.update? = none) : q.op? o = none := by
  cases q <;> simp [Request.op?, hc, hu]

/-- What a statement did to the database is one operation of its request, or nothing. -/
theorem Effect.shows {q : Request} {past : List Seen} {e : Executed} (h : Effect q past e)
    (unchanged : ∀ id ticket row dto actor, q = .changeState id dto actor →
      FirstRead id ticket past → e.before.ticket? id = some row →
      row.version = dto.expectedVersion → ticket.Current row) :
    tracker.Shows (q.op? e.obs) e.before.items e.after.items := by
  cases h with
  | quiet calm kept =>
    rw [Request.op?_of_unwritten calm.created calm.update]
    exact items_eq kept.ticket?
  | @created dto user key priority slaDueAt o request _ obs write =>
    subst request
    have hop : (Request.create dto user key).op? e.obs = some (.opens o.uuid user.id) := by
      simp [Request.op?, obs, insertedTicket, newTicket, TicketCreate.row]
    rw [hop]
    refine Objects.step_eq_some.mpr ⟨_, ?_, write.items.symm⟩
    have habsent : e.before.items o.uuid = none := by
      rw [World.items, show e.before.ticket? o.uuid = none from write.absent]
      rfl
    show Op.write (.opens o.uuid user.id) (e.before.items o.uuid) = _
    rw [habsent]
    rfl
  | @updated g d ev intent obs write =>
    obtain ⟨row, hrow, hm, _⟩ := write.row
    have hcurrent : ∀ ticket dto actor, q = .changeState ev.ticketId dto actor →
        FirstRead ev.ticketId ticket past → ticket.Current row := by
      intro ticket dto actor hq hread
      refine unchanged _ ticket row dto actor hq hread hrow ?_
      obtain ⟨ticket', _, _, rfl, _⟩ := (hq ▸ intent).of_changeState
      exact (stateWhere_matches.mp hm).2.1
    obtain ⟨op, hop, hid, hwrite⟩ := intent.operates obs hm hcurrent
    rw [hop]
    have hitems : e.before.items op.id = some row.item := by
      rw [hid, World.items, hrow]
      rfl
    refine Objects.step_eq_some.mpr ⟨_, ?_, (hid ▸ write.items hrow).symm⟩
    show op.write (e.before.items op.id) = _
    rw [hitems]
    exact hwrite
  | recorded _ _ _ obs write =>
    rw [Request.op?_of_unwritten ?_ (Seen.update?_of_event obs)]
    · exact items_eq write.ticket?
    · cases hc : Seen.created? e.obs with
      | none => rfl
      | some t => cases obs.symm.trans (Seen.event?_of_created hc)
  | noted _ _ obs write =>
    rw [Request.op?_of_unwritten ?_ (Seen.update?_of_event obs)]
    · exact items_eq write.ticket?
    · cases hc : Seen.created? e.obs with
      | none => rfl
      | some t => cases obs.symm.trans (Seen.event?_of_created hc)
  | uploaded _ _ calm write =>
    rw [Request.op?_of_unwritten calm.created calm.update]
    exact items_eq write.ticket?

end Operations

/-- The operations a request has performed when it ends so. A refusal changed nothing; a failure
from outside may have come after the one change, and a sweep makes many. -/
def Request.Answered (q : Request) (ops : List Op) : Except Err Response → Prop
  | .error (.http _) => ops = []
  | .error _ => (∀ now, q ≠ .sweep now) → ops.length ≤ 1
  | .ok v =>
    match q, v with
    | .create _ user _, .created r => ops = if r.created then [.opens r.ticket.id user.id] else []
    | .assign id dto _, _ => ops = [.assigns id dto.assigneeId dto.expectedVersion]
    | .changeState id dto actor, _ => ops = [dto.op id actor]
    | .escalateOne id current target _, .escalated done =>
      ops = if done then [.escalates id current target] else []
    | .sweep _, .swept r => ops.length = r.escalated
    | _, _ => ops = []

/-- The answers of the database: a call on its own fails as a database does. -/
def Cmd.Replies (c : Cmd) (r : Except Err c.Res) : Prop :=
  c.Answers r ∧ ∀ s, c = .one s → ErrsWithin (fun e => ∀ x, e ≠ .http x) r

section Logs

variable {q : Request} {ops : List Op} {e : Err}

theorem answered_nothing (e : Err) : q.Answered [] (.error e) := by
  cases e with
  | http x => exact rfl
  | _ => exact fun _ => Nat.zero_le 1

theorem answered_failure {op : Op} (he : ∀ x, e ≠ .http x) : q.Answered [op] (.error e) := by
  cases e with
  | http x => exact absurd rfl (he x)
  | _ => exact fun _ => Nat.le_refl 1

theorem Request.op?_of_reads {c : Cmd} (h : c.reads = true) (r : Except Err c.Res) :
    q.op? ⟨c, r⟩ = none :=
  have calm : Seen.Calm ⟨c, r⟩ := Seen.calm_of_reads h
  Request.op?_of_unwritten calm.created calm.update

/-- What a piece of a service for `q` performs, and how it ends. -/
abbrev Performs (q : Request) {α : Type} (p : Service α) (S : List Op → Except Err α → Prop) :
    Prop :=
  p.Logs Cmd.Replies q.op? S

theorem Performs.respond {α : Type} {f : α → Response} {p : Service α}
    (h : Performs q p fun ops r => q.Answered ops (r.map f)) :
    Performs q (respond f p) q.Answered := by
  refine Prog.Logs.bind h (fun l a ha => ?_) fun l e he => he
  show q.Answered (l ++ []) (.ok (f a))
  rw [List.append_nil]
  exact ha

/-- A statement that performs nothing, and what follows it. -/
theorem performs_quiet {α : Type} {s : Stmt} {g : s.Res → Service α}
    {S : List Op → Except Err α → Prop} (quiet : ∀ r, q.op? ⟨.one s, r⟩ = none)
    (hok : ∀ a, Performs q (g a) S)
    (herror : ∀ e, (∀ x, e ≠ .http x) → S [] (.error e)) : Performs q ((call s).bind g) S := by
  refine Prog.logs_perform_bind (fun a _ => ?_) fun e he => ?_
  · rw [quiet]
    exact hok a
  · rw [quiet]
    exact herror e (he.2 s rfl e rfl)

/-- The same for the guarded update, which performs its operation if it matched a row. -/
theorem performs_update {α : Type} {g : TicketWhere} {d : TicketUpdate} {op : Op}
    {k : Nat → Service α} {S : List Op → Except Err α → Prop}
    (hop : ∀ o, Seen.update? o = some (g, d) → q.op? o = some op) (hid : g.id.isSome = true)
    (hmiss : Performs q (k 0) S) (hone : Performs q (k 1) fun l => S (op :: l))
    (herror : ∀ e, (∀ x, e ≠ .http x) → S [] (.error e)) :
    Performs q ((call (.ticketUpdateMany g d)).bind k) S := by
  refine Prog.logs_perform_bind (fun (count : Nat) hcount => ?_) fun e he => ?_
  · have hle : count ≤ 1 := hcount.1 hid
    by_cases hzero : count = 0
    · subst hzero
      rw [Request.op?_of_unwritten rfl rfl]
      exact hmiss
    · obtain rfl : count = 1 := by omega
      rw [hop _ rfl]
      exact hone
  · rw [Request.op?_of_unwritten rfl rfl]
    exact herror e (he.2 _ rfl e rfl)

theorem notifyReporter_performs (ticket : Ticket) (type : TicketNotifyType)
    (subject body : String) :
    Performs q (notifyReporter ticket type subject body) fun l r => l = [] ∧ r = .ok () := by
  refine Prog.Logs.tryCatch (T := fun l _ => l = []) ?_ (fun l a hl => ⟨hl, rfl⟩) fun l e hl => ?_
  · refine performs_quiet (fun r => Request.op?_of_reads rfl r) (fun reporter => ?_) fun _ _ => rfl
    cases reporter with
    | none => exact rfl
    | some reporter =>
      dsimp only
      split
      next =>
        exact performs_quiet (fun r => Request.op?_of_reads rfl r) (fun _ => rfl) fun _ _ => rfl
      next => exact rfl
  · rw [hl]
    exact ⟨rfl, rfl⟩

theorem notified_performs {α : Type} (ticket : Ticket) (type : TicketNotifyType)
    (subject body : String) (a : α) :
    Performs q ((notifyReporter ticket type subject body).bind fun _ => .pure a)
      fun l r => l = [] ∧ r = .ok a := by
  have h := notifyReporter_performs (q := q) ticket type subject body
  refine Prog.Logs.bind h (fun l _ hl => ?_) fun l e hl => ?_
  · rw [hl.1]
    exact ⟨rfl, rfl⟩
  · cases hl.2

theorem throw_performs {α : Type} {f : α → Response} (e : Err) :
    Performs q (.throw e : Service α) fun ops r => q.Answered ops (r.map f) := by
  show q.Answered [] (.error e)
  exact answered_nothing e

theorem Performs.ofExcept {α β : Type} {x : Except Err β} {k : β → Service α}
    {S : List Op → Except Err α → Prop} (herror : ∀ e, x = .error e → S [] (.error e))
    (hok : ∀ b, x = .ok b → Performs q (k b) S) :
    Performs q ((Service.ofExcept x).bind k) S := by
  cases x with
  | error e => exact herror e rfl
  | ok b => exact hok b rfl

/-- What follows the reads and the checks of `assign` and of `changeState`. -/
theorem Performs.mutation {g : TicketWhere} {d : TicketUpdate} {ev : TicketEventCreate} {op : Op}
    {miss : Err} {rest : Ticket → Service Ticket}
    (hop : ∀ o, Seen.update? o = some (g, d) → q.op? o = some op) (hid : g.id.isSome = true)
    (event : ∀ r, q.op? ⟨.one (.ticketEventCreate ev), r⟩ = none)
    (hrest : ∀ t, Performs q (rest t) fun l r => l = [] ∧ r = .ok t)
    (answered : ∀ t, q.Answered [op] (.ok (.ticket t))) :
    Performs q
      ((call (.ticketUpdateMany g d)).bind fun count : Nat =>
        if count = 0 then .throw miss
        else (call (.ticketEventCreate ev)).bind fun _ =>
          (call (.ticketFindUniqueOrThrow ev.ticketId)).bind rest)
      (fun ops r => q.Answered ops (r.map .ticket)) := by
  refine performs_update hop hid (answered_nothing miss) ?_ fun e _ => answered_nothing e
  show Performs q ((call (.ticketEventCreate ev)).bind fun _ =>
    (call (.ticketFindUniqueOrThrow ev.ticketId)).bind rest) _
  refine performs_quiet event (fun _ => ?_) fun e he => answered_failure he
  refine performs_quiet (fun r => Request.op?_of_reads rfl r) (fun t => ?_)
    fun e he => answered_failure he
  refine (hrest t).mono fun l r hl => ?_
  obtain ⟨rfl, rfl⟩ := hl
  exact answered t

theorem assign_performs (id : Uuid) (dto : AssignTicketDto) (actor : User) :
    Performs (.assign id dto actor) (respond .ticket (assign id dto actor))
      (Request.assign id dto actor).Answered := by
  refine Performs.respond ?_
  refine performs_quiet (fun r => Request.op?_of_reads rfl r) (fun ticket => ?_)
    fun e _ => answered_nothing e
  cases ticket with
  | none => exact throw_performs _
  | some ticket =>
    refine performs_quiet (fun r => Request.op?_of_reads rfl r) (fun assignee => ?_)
      fun e _ => answered_nothing e
    split
    next => exact throw_performs _
    next =>
      refine Performs.mutation (fun o hu => by simp [Request.op?, hu]) rfl (fun _ => rfl)
        (fun t => ?_) fun t => rfl
      exact notified_performs t _ _ _ t

theorem readClockIf_performs (needed : Bool) :
    Performs q (readClockIf needed) fun l _ => l = [] := by
  cases needed with
  | false => exact rfl
  | true =>
    refine Prog.logs_perform fun r _ => ?_
    rw [Request.op?_of_reads rfl r]
    rfl

theorem changeState_performs (id : Uuid) (dto : ChangeStateDto) (actor : User) :
    Performs (.changeState id dto actor) (respond .ticket (changeState id dto actor))
      (Request.changeState id dto actor).Answered := by
  refine Performs.respond ?_
  refine performs_quiet (fun r => Request.op?_of_reads rfl r) (fun ticket => ?_)
    fun e _ => answered_nothing e
  cases ticket with
  | none => exact throw_performs _
  | some ticket =>
    refine Performs.ofExcept (fun e _ => answered_nothing e) fun _ _ => ?_
    refine Prog.Logs.bind (readClockIf_performs _) (fun l now hl => ?_) fun l e hl => ?_
    · rw [hl]
      refine Performs.mutation (fun o hu => by simp [Request.op?, hu]) rfl (fun _ => rfl)
        (fun t => ?_) fun t => rfl
      split
      next => exact notified_performs t _ _ _ t
      next => exact ⟨rfl, rfl⟩
    · rw [hl]
      exact answered_nothing e

theorem escalateOne_performs {id : Uuid} {current target : Nat} (actor : Uuid)
    (hop : ∀ o, Seen.update? o = some (escalateWhere id current, escalateUpdate target) →
      q.op? o = some (.escalates id current target))
    (event : ∀ r, q.op? ⟨.one (.ticketEventCreate
      (escalamientoEvent id current target actor)), r⟩ = none) :
    Performs q (escalateOne id current target actor) fun l r =>
      (∀ done, r = .ok done → l = if done then [.escalates id current target] else []) ∧
        ∀ e, r = .error e → l.length ≤ 1 ∧ ∀ x, e ≠ .http x := by
  refine performs_update hop rfl ?_ ?_ fun e he => ?_
  · refine ⟨fun done hdone => ?_, fun e he => by cases he⟩
    cases hdone
    rfl
  · refine performs_quiet event (fun _ => ⟨fun done hdone => ?_, fun e he => by cases he⟩)
      fun e he => ⟨fun done hdone => (by cases hdone), fun e' he' => ?_⟩
    · cases hdone
      rfl
    · cases he'
      exact ⟨Nat.le_refl 1, he⟩
  · refine ⟨fun done hdone => (by cases hdone), fun e' he' => ?_⟩
    cases he'
    exact ⟨Nat.zero_le 1, he⟩

/-- A piece of a sweep escalates as many tickets as it counts, and fails as a database does. -/
abbrev Escalates (now : Time) {α : Type} (count : α → Nat) (p : Service α) : Prop :=
  Performs (.sweep now) p fun l r =>
    (∀ a, r = .ok a → l.length = count a) ∧ ErrsWithin (fun e => ∀ x, e ≠ .http x) r

theorem sweepTicket_escalates (now clock : Time) (actor : Uuid) (t : Ticket) :
    Escalates now Bool.toNat (sweepTicket clock actor t) := by
  have none_done : (∀ done, (.ok false : Except Err Bool) = .ok done →
      ([] : List Op).length = done.toNat) ∧
        ErrsWithin (fun e => ∀ x, e ≠ .http x) (.ok false : Except Err Bool) := by
    refine ⟨fun done hdone => ?_, errsWithin_ok⟩
    cases hdone
    rfl
  refine performs_quiet (fun r => Request.op?_of_reads rfl r) (fun rule => ?_)
    fun e he => ⟨fun done hdone => (by cases hdone), errsWithin_error he⟩
  cases rule with
  | none => exact none_done
  | some rule =>
    dsimp only
    split
    next =>
      refine (escalateOne_performs actor (fun o hu => ?_) fun _ => rfl).mono fun l r h => ?_
      · simp [Request.op?, hu, escalation?, escalateWhere, escalateUpdate]
      · refine ⟨fun done hdone => ?_, fun e he => (h.2 e he).2⟩
        rw [h.1 done hdone]
        cases done <;> rfl
    next => exact none_done

theorem sweepLoop_escalates (now clock : Time) (actor : Uuid) (candidates : List Ticket)
    (escalated : Nat) : Performs (.sweep now) (sweepLoop clock actor candidates escalated)
      fun l r => (∀ n, r = .ok n → escalated + l.length = n) ∧
        ErrsWithin (fun e => ∀ x, e ≠ .http x) r := by
  induction candidates generalizing escalated with
  | nil =>
    refine ⟨fun n hn => ?_, errsWithin_ok⟩
    cases hn
    rfl
  | cons t candidates ih =>
    refine Prog.Logs.bind (sweepTicket_escalates now clock actor t) (fun l done hl => ?_)
      fun l e hl => ⟨fun n hn => (by cases hn), errsWithin_error (hl.2 e rfl)⟩
    have hlength := hl.1 done rfl
    refine (ih _).mono fun l' r h => ⟨fun n hn => ?_, h.2⟩
    have htotal := h.1 n hn
    rw [List.length_append, hlength]
    cases done with
    | false =>
      simp only [Bool.toNat_false]
      simpa using htotal
    | true =>
      simp only [Bool.toNat_true]
      simp only [if_true] at htotal
      omega

theorem sweep_performs (now : Time) : Performs (.sweep now) (respond .swept (sweep now))
    (Request.sweep now).Answered := by
  refine Performs.respond ?_
  have answered_error : ∀ (ops : List Op) e, (∀ x, e ≠ .http x) →
      (Request.sweep now).Answered ops (.error e) := by
    intro ops e he
    cases e with
    | http x => exact absurd rfl (he x)
    | _ => exact fun hno => absurd rfl (hno now)
  refine Prog.Logs.bind (T := fun l _ => l = []) ?_ (fun l actor hl => ?_) fun l e hl => ?_
  · exact performs_quiet (fun r => Request.op?_of_reads rfl r) (fun _ => rfl) fun _ _ => rfl
  · rw [hl]
    refine performs_quiet (fun r => Request.op?_of_reads rfl r) (fun candidates => ?_)
      fun e _ => answered_nothing e
    refine Prog.Logs.bind (sweepLoop_escalates now now actor candidates 0) (fun l n hn => ?_)
      fun l e he => answered_error _ e (he.2 e rfl)
    have hlength := hn.1 n rfl
    show (l ++ []).length = n
    rw [List.append_nil]
    omega
  · rw [hl]
    exact answered_nothing e

theorem slaDueDate_performs (sla : Option SlaRule) :
    Performs q (slaDueDate sla) fun l _ => l = [] := by
  cases sla with
  | none => exact rfl
  | some sla =>
    exact performs_quiet (fun r => Request.op?_of_reads rfl r) (fun _ => rfl) fun _ _ => rfl

section Create

variable (dto : CreateTicketDto) (user : User) (key : Option String)

theorem found_answered (t : Ticket) : (Request.create dto user key).Answered []
    (.ok (.created { ticket := t, created := false })) := rfl

theorem recoverDuplicate_performs (err : Err) :
    Performs (.create dto user key) (recoverDuplicate key err)
      fun ops r => (Request.create dto user key).Answered ops (r.map .created) := by
  unfold recoverDuplicate
  split
  next =>
    refine performs_quiet (fun r => Request.op?_of_reads rfl r) (fun existing => ?_)
      fun e _ => answered_nothing e
    cases existing with
    | none => exact throw_performs _
    | some existing => exact found_answered dto user key existing
  next => exact answered_nothing _

theorem insertTicket_performs :
    Performs (.create dto user key) (insertTicket dto user key)
      fun ops r => (Request.create dto user key).Answered ops (r.map .created) := by
  refine Performs.ofExcept (fun e _ => answered_nothing e) fun priority _ => ?_
  refine performs_quiet (fun r => Request.op?_of_reads rfl r) (fun sla => ?_)
    fun e _ => answered_nothing e
  refine Prog.Logs.bind (slaDueDate_performs sla) (fun l slaDueAt hl => ?_) fun l e hl => ?_
  · rw [hl]
    refine Prog.Logs.tryCatch (T := fun l r => (∀ c, r = .ok c → c.created = true ∧
      l = [.opens c.ticket.id user.id]) ∧ ∀ e, r = .error e → l = []) ?_ (fun l c hc => ?_)
      fun l e he => ?_
    · refine Prog.logs_perform_bind (fun (t : Ticket) _ => ?_) fun e _ => ?_
      · refine ⟨fun c hc => ?_, fun e he => by cases he⟩
        cases hc
        exact ⟨rfl, rfl⟩
      · exact ⟨fun c hc => (by cases hc), fun _ _ => rfl⟩
    · obtain ⟨hcreated, hl⟩ := hc.1 c rfl
      show l = if c.created then [.opens c.ticket.id user.id] else []
      rw [hl, if_pos hcreated]
    · rw [he.2 e rfl]
      exact recoverDuplicate_performs dto user key e
  · rw [hl]
    exact answered_nothing e

theorem create_performs :
    Performs (.create dto user key) (respond .created (create dto user key))
      (Request.create dto user key).Answered := by
  refine Performs.respond ?_
  unfold create
  split
  next => exact insertTicket_performs dto user key
  next k _ =>
    have hlookup : Performs (.create dto user key) (lookupRecent k) fun l _ => l = [] := by
      refine performs_quiet (fun r => Request.op?_of_reads rfl r) (fun now => ?_) fun _ _ => rfl
      refine Prog.logs_perform fun r _ => ?_
      rw [Request.op?_of_reads rfl r]
      rfl
    refine Prog.Logs.bind hlookup (fun l existing hl => ?_) fun l e hl => ?_
    · rw [hl]
      cases existing with
      | none => exact insertTicket_performs dto user key
      | some existing => exact found_answered dto user key existing
    · rw [hl]
      exact answered_nothing e

end Create

/-- A service of which no statement is an operation. -/
theorem unoperated_performs {p : Service Response} (h : ∀ o, q.op? o = none)
    (answered : ∀ v, q.Answered [] (.ok v)) : Performs q p q.Answered := by
  have hnone : Performs q p fun l _ => l = [] := by
    induction p with
    | pure a => rfl
    | throw e => rfl
    | stmt c k ih =>
      intro r _
      rw [h]
      exact ih r
  refine hnone.mono fun l r hl => ?_
  rw [hl]
  cases r with
  | ok v => exact answered v
  | error e => exact answered_nothing e

theorem serve_performs (q : Request) : Performs q (serve q) q.Answered := by
  cases q with
  | create dto user key => exact create_performs dto user key
  | assign id dto actor => exact assign_performs id dto actor
  | changeState id dto actor => exact changeState_performs id dto actor
  | sweep now => exact sweep_performs now
  | escalateOne id current target actor =>
    refine Performs.respond ((escalateOne_performs actor (fun o hu => ?_) fun _ => rfl).mono ?_)
    · simp [Request.op?, hu]
    · intro l r h
      cases r with
      | ok done => exact h.1 done rfl
      | error e =>
        obtain ⟨hlength, he⟩ := h.2 e rfl
        cases e with
        | http x => exact absurd rfl (he x)
        | _ => exact fun _ => hlength
  | _ => exact unoperated_performs (fun _ => rfl) fun _ => rfl

end Logs

theorem Cmd.exec_replies (o : Oracle) (c : Cmd) (w : World) : c.Replies (c.exec o w).1 := by
  refine ⟨exec_answers o c w, fun s hs => ?_⟩
  subst hs
  rcases Cmd.exec_one o s w with he | he
  · rw [he]
    exact errsWithin_error fun x => by simp
  · rw [he]
    refine (Stmt.exec_prisma o s w).mono fun e h x => ?_
    rcases h with rfl | ⟨code, rfl⟩
    · simp
    · simp

theorem serve_logged : (logging Cmd.Replies Request.op? Request.Answered).Kept serve Cmd.exec :=
  logging_kept Cmd.exec_replies serve_performs

/-- The tickets are as the operations of the run, one after the other, leave them; each as those on
it alone do; and every answered request has performed what its answer tells. -/
structure Server.Linearizes (w : World) (s : Server) : Prop where
  replays : tracker.run (s.calls.map Prod.snd) w.items = some s.world.items
  lives : ∀ id, tracker.life ((s.calls.map Prod.snd).filter fun op => op.id = id) (w.items id) =
    some (s.world.items id)
  answered : ∀ (i : Nat) (t : Task) r, s.threads[i]? = some t → t.result? = some r →
    t.request.Answered (s.opsOf i) r

/-- What is performed after `s` is performed by requests that were not over then: an operation
takes effect between the arrival of its request and the answer. -/
def Server.Precedes (s s' : Server) : Prop :=
  ∃ later, s'.calls = s.calls ++ later ∧
    ∀ c ∈ later, ∀ t, s.threads[c.1]? = some t → ¬ t.Over

section Runs

variable {w : World} {s s' : Server}

theorem calls_ops (s : Server) : s.calls.map Prod.snd = s.history.filterMap s.op? := by
  rw [Server.calls, List.map_filterMap]
  refine List.filterMap_congr fun e _ => ?_
  cases s.op? e <;> rfl

theorem Server.opsOf_eq {i : Nat} {t : Task} (ht : s.threads[i]? = some t) :
    s.opsOf i = (own i s.history).filterMap t.request.op? := by
  unfold Server.opsOf Server.calls
  induction s.history with
  | nil => rfl
  | cons e h ih =>
    rw [own_cons, List.filterMap_append, ← ih]
    by_cases he : e.tid = i
    · have hop : s.op? e = t.request.op? e.obs := by
        rw [Server.op?, he, ht]
        rfl
      rw [if_pos he, List.filterMap_cons, List.filterMap_cons, hop]
      cases t.request.op? e.obs <;> simp [he]
    · rw [if_neg he, List.filterMap_cons]
      cases s.op? e <;> simp [he]

theorem Run.shows (h : Run notAhead { world := w } s) {e : Executed} (he : e ∈ s.history) :
    tracker.Shows (s.op? e) e.before.items e.after.items := by
  obtain ⟨h₁, h₂, hh⟩ := List.append_of_mem he
  obtain ⟨t, ht, heff⟩ := h.effect hh
  have hop : s.op? e = t.request.op? e.obs := by
    rw [Server.op?, ht]
    rfl
  rw [hop]
  refine heff.shows fun id ticket row dto actor hq hread hrow hv => ?_
  have hexp : t.request.expects? id = some dto.expectedVersion := by
    rw [hq]
    exact if_pos rfl
  exact read_current h hh ht hexp hread hrow hv

theorem Run.linearizes (h : Run notAhead { world := w } s) : s.Linearizes w := by
  have hreplay : tracker.run (s.calls.map Prod.snd) w.items = some s.world.items := by
    rw [calls_ops]
    exact h.linked.linearized fun e he => h.shows he
  refine ⟨hreplay, fun id => Objects.life_of_run hreplay id, fun i t r ht hr => ?_⟩
  rw [Server.opsOf_eq ht]
  exact h.returned serve_logged ht hr

theorem Run.precedes {ok : Server → Action → Bool} (h : Run ok { world := w } s)
    (h' : Run ok s s') : s.Precedes s' := by
  obtain ⟨later, hlater, hover⟩ := h'.later
  have hold : ∀ e ∈ s.history, s'.op? e = s.op? e := by
    intro e he
    have htid := h.tid_lt (by simp) e he
    have ht := List.getElem?_eq_getElem htid
    obtain ⟨t', ht', hq⟩ := h'.threads_keep ht
    rw [Server.op?, Server.op?, ht, ht']
    simp only [Option.bind_some, hq]
  refine ⟨later.filterMap fun e => (s'.op? e).map fun op => (e.tid, op), ?_, fun c hc t ht => ?_⟩
  · rw [Server.calls, hlater, List.filterMap_append, Server.calls]
    refine congrArg (· ++ _) (List.filterMap_congr fun e he => ?_)
    rw [hold e he]
  · obtain ⟨e, he, hop⟩ := List.mem_filterMap.mp hc
    obtain ⟨op, _, rfl⟩ := Option.map_eq_some_iff.mp hop
    exact hover e he t ht

/-- The server is a tracker of tickets with atomic operations. As long as no client guesses a
version, the statements of its requests, however they interleave, break and stop, are a sequence of
operations each allowed when it takes effect; a request performs exactly what it is answered, while
it is being served. -/
theorem tickets_linearize (h : Run notAhead { world := w } s) (h' : Run notAhead s s') :
    s'.Linearizes w ∧ s.Precedes s' :=
  have hall : Run notAhead { world := w } s' := h.trans h'
  ⟨hall.linearizes, h.precedes h'⟩

end Runs

namespace Sample

def opened : Server := (play notAhead created).get (by decide)

/-- Two race to assign the ticket, and the one it goes to starts on it. -/
def contended : List Action :=
  race ++ [.arrive (.changeState 102 (start 1) agente)] ++ steps 3 50 4

def started : Server := (opened.replay serve Cmd.exec notAhead contended).get (by decide)

theorem opened_run : Run notAhead { world := world } opened := play_run (by decide)

theorem started_run : Run notAhead opened started := Reach.of_replay (Option.some_get _).symm

end Sample

open Sample in
theorem tickets_linearize_started : (started.Linearizes world ∧ opened.Precedes started) ∧
    started.calls = [(0, .opens 102 1), (1, .assigns 102 3 0), (3, .starts 102 agente 1)] :=
  ⟨tickets_linearize opened_run started_run, by decide⟩

end TicketSystem
