import TicketSystem.Evolution
import TicketSystem.Owing

namespace TicketSystem

open Relational Interleaved

inductive Change where
  | created
  | assigned (toAssigneeId : Uuid)
  | moved (toState : TicketStatus)
  | escalated (toLevel : Nat)
  deriving DecidableEq, Repr

/-- A committed write of a ticket row, as its audit event tells it. -/
structure Mutation where
  ticketId : Uuid
  change : Change
  deriving DecidableEq, Repr

def TicketUpdate.change? (d : TicketUpdate) : Option Change :=
  match d.assigneeId, d.status, d.escalationLevel with
  | some assigneeId, _, _ => some (.assigned assigneeId)
  | none, some status, _ => some (.moved status)
  | none, none, some level => some (.escalated level)
  | none, none, none => none

def Seen.updated? (o : Seen) : Option Mutation :=
  (Seen.update? o).bind fun gd => gd.1.id.bind fun id => gd.2.change?.map fun c => ⟨id, c⟩

def Seen.mutation? (o : Seen) : Option Mutation :=
  ((Seen.created? o).map fun t => ⟨t.id, .created⟩).or (Seen.updated? o)

/-- What an event says was done; its type and its payload have to agree. -/
def eventChange? : EventType → Payload → Option Change
  | .ticketCreado, .ticketCreado _ _ _ _ _ => some .created
  | .asignacion, .asignacion _ toAssigneeId => some (.assigned toAssigneeId)
  | .cambioEstado, .cambioEstado _ toState => some (.moved toState)
  | .resolucion, .resolucion _ toState _ _ _ => some (.moved toState)
  | .escalamiento, .escalamiento _ toLevel => some (.escalated toLevel)
  | _, _ => none

def TicketEvent.mutation? (e : TicketEvent) : Option Mutation :=
  (eventChange? e.eventType e.payload).map fun c => ⟨e.ticketId, c⟩

def TicketEventCreate.mutation? (d : TicketEventCreate) : Option Mutation :=
  (eventChange? d.eventType d.payload).map fun c => ⟨d.ticketId, c⟩

@[simp] theorem TicketEventCreate.row_mutation? (d : TicketEventCreate) (o : Oracle) :
    (d.row o).mutation? = d.mutation? := rfl

def Cmd.due? : Cmd → Option Mutation
  | .one (.ticketEventCreate d) => d.mutation?
  | _ => none

def Task.due? (t : Task) : Option Mutation := (Thread.next? t).bind Cmd.due?

theorem Seen.updated?_of_update {o : Seen} (h : Seen.update? o = none) :
    Seen.updated? o = none := by
  simp [Seen.updated?, h]

/-- The event a request owes tells the update it made. -/
theorem Intent.event {q : Request} {past : List Seen} {g : TicketWhere} {d : TicketUpdate}
    {ev : TicketEventCreate} (h : Intent q past g d ev) {o : Seen}
    (ho : Seen.update? o = some (g, d)) :
    ∃ c, d.change? = some c ∧ Seen.updated? o = some ⟨ev.ticketId, c⟩ ∧
      ev.mutation? = some ⟨ev.ticketId, c⟩ := by
  have hupdated : ∀ c, d.change? = some c → Seen.updated? o = some ⟨ev.ticketId, c⟩ := by
    intro c hc
    simp [Seen.updated?, ho, h.id, hc]
  cases h with
  | assign => exact ⟨_, rfl, hupdated _ rfl, rfl⟩
  | @changeState _ dto _ _ _ _ _ _ now =>
    cases ht : dto.targetState with
    | enProgreso =>
      have hc : (stateUpdate dto now).change? = some (.moved .enProgreso) := by
        simp [stateUpdate, ht, TicketUpdate.change?]
      refine ⟨_, hc, hupdated _ hc, ?_⟩
      simp [TicketEventCreate.mutation?, stateEvent, ht, eventChange?]
    | resuelto =>
      have hc : (stateUpdate dto now).change? = some (.moved .resuelto) := by
        simp [stateUpdate, ht, TicketUpdate.change?]
      refine ⟨_, hc, hupdated _ hc, ?_⟩
      simp [TicketEventCreate.mutation?, stateEvent, ht, eventChange?]
  | escalateOne => exact ⟨_, rfl, hupdated _ rfl, rfl⟩
  | sweep => exact ⟨_, rfl, hupdated _ rfl, rfl⟩

theorem Notes.untold {q : Request} {d : TicketEventCreate} (h : Notes q d) :
    d.mutation? = none := by
  cases h <;> rfl

theorem Notes.eventType {q : Request} {d : TicketEventCreate} (h : Notes q d) :
    d.eventType ≠ .ticketCreado := by
  cases h <;> simp [comentarioEvent, adjuntoDescargadoEvent]

def owes (past : List Seen) : Option Mutation := past.getLast?.bind Seen.updated?

theorem due_event {c : Cmd} (h : c.due? ≠ none) : ∃ d, c = .one (.ticketEventCreate d) := by
  cases c with
  | transaction => exact absurd rfl h
  | one s => cases s <;> first | exact ⟨_, rfl⟩ | exact absurd rfl h

theorem mutations_owing : Owing Cmd.due? Seen.updated? where
  event := due_event
  update := Seen.updated?_of_update
  noted notes := notes.untold
  repaid intent _ ho := by
    obtain ⟨_, _, hupdated, hevent⟩ := intent.event ho
    exact hevent.trans hupdated.symm

theorem owes_of_settled {past : List Seen} (h : Settled past) : owes past = none :=
  mutations_owing.settled h

/-- The mutations the event rows tell, oldest first. -/
def World.recorded (w : World) : List Mutation := w.events.rows.filterMap TicketEvent.mutation?

/-- The mutations whose event some request has still to insert. -/
def Server.owed (s : Server) : List Mutation := s.threads.filterMap Task.due?

/-- The mutations that were committed, oldest first. -/
def Server.committed (s : Server) : List Mutation :=
  s.history.filterMap fun e => Seen.mutation? e.obs

theorem Seen.mutation?_of_calm {o : Seen} (h : o.Calm) : Seen.mutation? o = none := by
  simp [Seen.mutation?, h.created, Seen.updated?_of_update h.update]

theorem Seen.mutation?_of_update {o : Seen} {gd : TicketWhere × TicketUpdate}
    (h : Seen.update? o = some gd) : Seen.mutation? o = Seen.updated? o := by
  cases hc : Seen.created? o with
  | none => simp [Seen.mutation?, hc]
  | some t => cases (Seen.update?_of_created hc).symm.trans h

theorem Seen.mutation?_of_created {o : Seen} {t : Ticket} (h : Seen.created? o = some t) :
    Seen.mutation? o = some ⟨t.id, .created⟩ := by
  simp [Seen.mutation?, h]

theorem Seen.mutation?_of_event {o : Seen} {e : TicketEvent} (h : Seen.event? o = some e) :
    Seen.mutation? o = none := by
  cases hc : Seen.created? o with
  | none => simp [Seen.mutation?, hc, Seen.updated?_of_update (Seen.update?_of_event h)]
  | some t => cases (Seen.event?_of_created hc).symm.trans h

/-- What one executed command does to the books: nothing, a mutation with its event, a
mutation whose event is now owed, an event that was owed; or it fails to insert one. -/
inductive Books (past : List Seen) (e : Executed) : Prop
  | idle (before : owes past = none) (told : e.after.recorded = e.before.recorded)
      (after : Seen.updated? e.obs = none) (done : Seen.mutation? e.obs = none)
  | created {m : Mutation} (before : owes past = none)
      (absent : e.before.ticket? m.ticketId = none)
      (told : e.after.recorded = e.before.recorded ++ [m])
      (after : Seen.updated? e.obs = none) (done : Seen.mutation? e.obs = some m)
  | updated {m : Mutation} {g : TicketWhere} {d : TicketUpdate} (before : owes past = none)
      (cmd : e.obs.cmd = .one (.ticketUpdateMany g d)) (target : g.id = some m.ticketId)
      (told : e.after.recorded = e.before.recorded)
      (after : Seen.updated? e.obs = some m) (done : Seen.mutation? e.obs = some m)
  | recorded {m : Mutation} (before : owes past = some m)
      (told : e.after.recorded = e.before.recorded ++ [m])
      (after : Seen.updated? e.obs = none) (done : Seen.mutation? e.obs = none)
  | failed (before : owes past ≠ none) (calm : Seen.Calm e.obs)

theorem World.Recorded.recorded {ev : TicketEvent} {w w' : World} (h : w.Recorded ev w') :
    w'.recorded = w.recorded ++ ev.mutation?.toList := by
  rw [World.recorded, h.events, List.filterMap_append]
  cases hm : ev.mutation? <;> simp [World.recorded, hm]

theorem Effect.books {q : Request} {past : List Seen} {e : Executed} (h : Effect q past e) :
    Books past e := by
  cases h with
  | quiet calm kept =>
    by_cases howed : owes past = none
    · exact .idle howed (by simp [World.recorded, kept.events])
        (Seen.updated?_of_update calm.update) (Seen.mutation?_of_calm calm)
    · exact .failed howed calm
  | @created dto user key priority slaDueAt o _ first obs write =>
    refine .created (m := ⟨_, .created⟩) (owes_of_settled (settled_of_calm first)) write.absent ?_
      (Seen.updated?_of_update (Seen.update?_of_created obs)) (Seen.mutation?_of_created obs)
    rw [World.recorded, Table.insert?_rows write.events, List.filterMap_append]
    rfl
  | updated intent obs write =>
    obtain ⟨c, _, hu, _⟩ := intent.event obs
    exact .updated (owes_of_settled intent.settled) (Seen.cmd_of_update obs) intent.id
      (by simp [World.recorded, write.events]) hu ((Seen.mutation?_of_update obs).trans hu)
  | @recorded g d ev first u o intent due committed obs write =>
    obtain ⟨c, _, hu, hev⟩ := intent.event committed
    have hbefore : owes past = some ⟨ev.ticketId, c⟩ := by simp [owes, due, hu]
    have htold := write.recorded
    rw [TicketEventCreate.row_mutation?, hev] at htold
    exact .recorded hbefore htold (Seen.updated?_of_update (Seen.update?_of_event obs))
      (Seen.mutation?_of_event obs)
  | noted notes first obs write =>
    have htold := write.recorded
    rw [TicketEventCreate.row_mutation?, notes.untold] at htold
    exact .idle (owes_of_settled (settled_of_calm first)) (htold.trans (List.append_nil _))
      (Seen.updated?_of_update (Seen.update?_of_event obs)) (Seen.mutation?_of_event obs)
  | uploaded _ first calm write =>
    exact .idle (owes_of_settled (settled_of_calm first)) (by simp [World.recorded, write.events])
      (Seen.updated?_of_update calm.update) (Seen.mutation?_of_calm calm)

section Runs

variable {ok : Server → Action → Bool} {w : World} {s : Server}

theorem owed_eq (s : Server) : s.owed = s.owes Cmd.due? := by
  refine List.filterMap_congr fun t _ => ?_
  obtain ⟨q, state, stopped⟩ := t
  cases state <;> rfl

/-- What is owed changes by what the request that runs owed before and owes after. -/
theorem owed_ran {i : Nat} {q : Request} {c : Cmd} {k : Except Err c.Res → Service Response}
    (h : Run ok { world := w } s) {o : Oracle} (hok : ok s (.run i o) = true)
    (thread : s.threads[i]? = some { request := q, state := .stmt c k }) (m : Mutation) :
    (Server.owed (s.ran i q c k (Cmd.exec o c s.world))).count m + c.due?.toList.count m =
      s.owed.count m + (Seen.updated? ⟨c, (Cmd.exec o c s.world).1⟩).toList.count m := by
  have howes := Pool.owes_ran Cmd.due? thread (Cmd.exec o c s.world) m
  rw [mutations_owing.ran h hok thread] at howes
  rw [owed_eq, owed_eq]
  exact howes

theorem committed_ran (i : Nat) (q : Request) (c : Cmd)
    (k : Except Err c.Res → Service Response) (r : Except Err c.Res × World) :
    Server.committed (s.ran i q c k r) =
      s.committed ++ (Seen.mutation? ⟨c, r.1⟩).toList :=
  recorded_snoc Seen.mutation? s.history _

theorem books_ran {i : Nat} {q : Request} {c : Cmd} {k : Except Err c.Res → Service Response}
    (h : Run ok { world := w } s) {o : Oracle} (hok : ok s (.run i o) = true)
    (thread : s.threads[i]? = some { request := q, state := .stmt c k }) :
    c.due? = owes (own i s.history) ∧ Books (own i s.history)
      { tid := i, obs := ⟨c, (Cmd.exec o c s.world).1⟩, before := s.world,
        after := (Cmd.exec o c s.world).2 } := by
  have hnext : Run ok { world := w } (s.ran i q c k (Cmd.exec o c s.world)) :=
    h.next hok (.run o thread)
  obtain ⟨t, _, heff⟩ := hnext.effect rfl
  exact ⟨mutations_owing.thread h thread, heff.books⟩

theorem owed_arrive (q : Request) :
    Server.owed { s with threads := s.threads ++ [{ request := q, state := serve q }] } =
      s.owed := by
  rw [owed_eq, owed_eq, Pool.owes_arrive Cmd.due? (mutations_owing.arrival q)]

end Runs

/-- The tickets the ticket_creado events name, oldest first. -/
def World.creations (w : World) : List Uuid :=
  (w.events.rows.filter fun e => e.eventType == .ticketCreado).map TicketEvent.ticketId

theorem Intent.eventType {q : Request} {past : List Seen} {g : TicketWhere} {d : TicketUpdate}
    {ev : TicketEventCreate} (h : Intent q past g d ev) : ev.eventType ≠ .ticketCreado := by
  cases h with
  | @changeState _ dto =>
    simp only [stateEvent]
    cases dto.targetState <;> simp
  | _ => simp [asignacionEvent, escalamientoEvent]

theorem World.Recorded.creations {e : TicketEvent} {w w' : World} (h : w.Recorded e w')
    (he : e.eventType ≠ .ticketCreado) : w'.creations = w.creations := by
  simp [World.creations, h.events, he]

theorem Effect.creations {q : Request} {past : List Seen} {e : Executed} (h : Effect q past e)
    (he : e.before.creations = e.before.tickets.rows.map Ticket.id) :
    e.after.creations = e.after.tickets.rows.map Ticket.id := by
  cases h with
  | quiet _ kept => simpa [World.creations, kept.events, kept.tickets] using he
  | @created dto user key priority slaDueAt o _ _ _ write =>
    rw [Table.insert?_rows write.tickets, World.creations, Table.insert?_rows write.events,
      List.filter_append, List.map_append, List.map_append, ← he]
    rfl
  | updated _ _ write =>
    rw [write.tickets, Table.updateMany_rows, List.map_map]
    simpa [World.creations, write.events, Function.comp_def] using he
  | recorded intent _ _ _ write =>
    rw [write.creations intent.eventType, write.tickets]
    exact he
  | noted notes _ _ write =>
    rw [write.creations notes.eventType, write.tickets]
    exact he
  | uploaded _ _ _ write => simpa [World.creations, write.events, write.tickets] using he

/-- The ticket_creado events name the tickets, each once, in the order of their creation. -/
theorem Run.creations {ok : Server → Action → Bool} {w : World} {s : Server} (fresh : w.Fresh)
    (h : Run ok { world := w } s) : s.world.creations = s.world.tickets.rows.map Ticket.id := by
  refine h.linked.invariant
    (I := fun _ v => v.creations = v.tickets.rows.map Ticket.id) ?_ fun a e b he hi => ?_
  · simp [World.creations, fresh.events, fresh.tickets]
  · obtain ⟨_, _, heff⟩ := h.effect he
    exact heff.creations hi

/-! ### Atomicity of the audit under failures -/

def Request.audited : Request → Bool
  | .create _ _ _ | .assign _ _ _ | .changeState _ _ _ | .escalateOne _ _ _ _ => true
  | _ => false

/-- What follows a committed update does not fail, and no request stops while it owes an
event. Anything else may fail, and any request may stop at any other point. -/
def uninterrupted (s : Server) : Action → Bool
  | .arrive q => q.audited
  | .run i o => decide (o.Unused s.world) &&
      ((s.threads[i]?).bind Thread.next?).all fun c => !c.follows || o.fault.isNone
  | .stop i => ((s.threads[i]?).bind Task.due?).isNone

section Uninterrupted

variable {w : World} {s : Server}

theorem event_inserted {i : Nat} {q : Request} {c : Cmd}
    {k : Except Err c.Res → Service Response} {o : Oracle}
    (hok : uninterrupted s (.run i o) = true)
    (thread : s.threads[i]? = some { request := q, state := .stmt c k }) (hc : c.due? ≠ none) :
    ¬ Seen.Calm ⟨c, (Cmd.exec o c s.world).1⟩ := by
  obtain ⟨d, rfl⟩ := due_event hc
  simp only [uninterrupted, thread, Option.bind_some, Thread.next?, Option.all_some, Cmd.follows,
    Bool.not_true, Bool.false_or, Bool.and_eq_true, decide_eq_true_eq,
    Option.isNone_iff_eq_none] at hok
  exact mutations_owing.recorded hok.1 hok.2 hc

/-- What one command adds to the events and leaves owed, against what was owed and what it
committed, when it does not fail to insert an owed event. -/
theorem Books.balance {past : List Seen} {e : Executed} (h : Books past e)
    (inserted : owes past ≠ none → ¬ Seen.Calm e.obs) (m : Mutation) :
    e.after.recorded.count m + (Seen.updated? e.obs).toList.count m =
      e.before.recorded.count m + (owes past).toList.count m +
        (Seen.mutation? e.obs).toList.count m := by
  cases h with
  | idle before told after done => simp [before, told, after, done]
  | created before _ told after done => simp [before, told, after, done]
  | updated before _ _ told after done => simp [before, told, after, done]
  | recorded before told after done => simp [before, told, after, done]
  | failed before calm => exact absurd calm (inserted before)

/-- In an uninterrupted run the books balance at every moment. -/
theorem books_balance (fresh : w.Fresh) (h : Run uninterrupted { world := w } s) (m : Mutation) :
    s.world.recorded.count m + s.owed.count m = s.committed.count m := by
  have hbalance := Reach.balance Cmd.due? Seen.mutation? World.recorded mutations_owing.arrival
    (fun u i q c k o hu hok thread m => ?_) h m
  · have hnone : w.recorded = [] := by simp [World.recorded, fresh.events]
    rw [hnone, List.count_nil, Nat.zero_add] at hbalance
    rw [owed_eq]
    exact hbalance
  · obtain ⟨hdue, hbooks⟩ := books_ran hu hok thread
    have hmoved := hbooks.balance (fun howes => event_inserted hok thread (hdue ▸ howes)) m
    rw [mutations_owing.ran hu hok thread, hdue]
    exact hmoved

theorem stopped_settled (h : Run uninterrupted { world := w } s) :
    ∀ t ∈ s.threads, t.stopped = true → Task.due? t = none := by
  induction h with
  | start => simp
  | @next s s' a hr hok hstep ih =>
    intro t ht hstopped
    cases hstep with
    | arrive q =>
      rcases List.mem_append.mp ht with ht | ht
      · exact ih t ht hstopped
      · cases List.mem_singleton.mp ht
        cases hstopped
    | run o thread =>
      rcases List.mem_or_eq_of_mem_set ht with ht | rfl
      · exact ih t ht hstopped
      · cases hstopped
    | @stop i u thread =>
      rcases List.mem_or_eq_of_mem_set ht with ht | rfl
      · exact ih t ht hstopped
      · have hu : Task.due? u = none := by simpa [uninterrupted, thread] using hok
        exact hu

theorem owed_quiet (h : Run uninterrupted { world := w } s) (quiet : s.Quiet) : s.owed = [] := by
  refine List.filterMap_eq_nil_iff.mpr fun t ht => ?_
  rcases quiet t ht with hs | hn
  · exact stopped_settled h t ht hs
  · simp [Task.due?, hn]

theorem uninterrupted_audited (h : Run uninterrupted { world := w } s) {i : Nat} {t : Task}
    (ht : s.threads[i]? = some t) : t.request.audited = true := by
  obtain ⟨_, _, hok⟩ := h.arrived (Nat.zero_le _) ht
  exact hok

theorem events_tell (fresh : w.Fresh) (h : Run uninterrupted { world := w } s) :
    ∀ ev ∈ s.world.events.rows, ev.mutation?.isSome := by
  refine h.linked.invariant
    (I := fun _ v => ∀ ev ∈ v.events.rows, ev.mutation?.isSome) ?_ fun a e b he hi => ?_
  · simp [fresh.events]
  · obtain ⟨t, ht, heff⟩ := h.effect he
    cases heff with
    | quiet _ kept => rw [kept.events]; exact hi
    | created _ _ _ write =>
      rw [Table.insert?_rows write.events]
      refine List.forall_mem_append.mpr ⟨hi, ?_⟩
      simp [ticketCreadoEvent, TicketEventCreate.mutation?, eventChange?]
    | updated _ _ write => rw [write.events]; exact hi
    | recorded intent _ committed _ write =>
      obtain ⟨c, _, _, hev⟩ := intent.event committed
      rw [write.events]
      exact List.forall_mem_append.mpr ⟨hi, by simp [hev]⟩
    | noted notes _ _ _ =>
      have haudited := uninterrupted_audited h ht
      generalize t.request = q at notes haudited
      cases notes <;> cases haudited
    | uploaded _ _ _ write => rw [write.events]; exact hi

/-- What comes after a committed update succeeds, in an uninterrupted run. -/
theorem follows_succeed (h : Run uninterrupted { world := w } s) {h₁ h₂ : List Executed}
    {e : Executed} (he : s.history = h₁ ++ e :: h₂) (hf : e.obs.cmd.follows = true) :
    ¬ Seen.Failed e.obs := by
  rintro ⟨err, herr⟩
  obtain ⟨q, u, k, o, hm, t, ht, hq⟩ :=
    h.moment (show s.history = [] ++ h₁ ++ e :: h₂ from he)
  obtain ⟨t', ht', hi, _⟩ := h.issued serve_kept he
  cases ht.symm.trans ht'
  have hok := hm.admitted
  simp only [uninterrupted, hm.thread, Option.bind_some, Thread.next?, Option.all_some, hf,
    Bool.not_true, Bool.false_or, Bool.and_eq_true, decide_eq_true_eq,
    Option.isNone_iff_eq_none, hm.before] at hok
  have hx := hm.answered
  have haudited := uninterrupted_audited h ht
  generalize hpast : own e.tid h₁ = past at hi
  generalize t.request = q' at hi haudited
  generalize e.obs = obs at hi hf hx herr
  obtain ⟨c, r⟩ := obs
  cases hi with
  | reads _ _ plain => cases plain.symm.trans hf
  | update => cases hf
  | create => cases hf
  | note notes => cases notes <;> cases haudited
  | upload => cases hf
  | register => cases hf
  | @event _ _ _ _ ev =>
    have hr := (congrArg Prod.fst hx).symm.trans (eventCreate_succeeds hok.2 hok.1.2.1)
    cases herr.symm.trans hr
  | @readBack _ first g d ev u p intent committed settled =>
    have hmem : u ∈ own e.tid h₁ := by rw [hpast]; simp
    obtain ⟨row, hrow⟩ := Run.row_of_commit h he hmem committed intent.id
    rw [Cmd.exec_one_of_ok hok.2, Stmt.exec, hrow] at hx
    cases herr.symm.trans (congrArg Prod.fst hx).symm

theorem errors_change_nothing (h : Run uninterrupted { world := w } s) {i : Nat} {t : Task}
    {err : Err} (ht : s.threads[i]? = some t) (hr : Thread.result? t = some (.error err))
    {e : Executed} (he : e ∈ s.history) (htid : e.tid = i) :
    e.after.tickets = e.before.tickets := by
  have hends : Ends t.request (own i s.history) (.error err) := h.returned serve_kept ht hr
  have haudited := uninterrupted_audited h ht
  generalize t.request = q at hends haudited
  cases hends.fails err rfl with
  | calm calm =>
    have hcalm := calm e.obs (mem_own.mpr ⟨e, he, htid, rfl⟩)
    obtain ⟨h₁, h₂, hh⟩ := List.append_of_mem he
    obtain ⟨_, _, heff⟩ := h.effect hh
    cases heff with
    | quiet _ kept => exact kept.tickets
    | created _ _ obs _ => cases hcalm.created.symm.trans obs
    | updated _ obs _ => cases hcalm.update.symm.trans obs
    | recorded _ _ _ obs _ => cases hcalm.event.symm.trans obs
    | noted _ _ obs _ => cases hcalm.event.symm.trans obs
    | uploaded _ _ _ write => exact write.tickets
  | after last follows failed =>
    obtain ⟨x, hx, _, rfl⟩ := mem_own.mp (List.mem_of_getLast? last)
    obtain ⟨h₁, h₂, hh⟩ := List.append_of_mem hx
    exact absurd failed (follows_succeed h hh follows)
  | sweep => cases haudited

end Uninterrupted

/-- Mutations and events correspond one to one, and errors changed nothing. -/
structure Server.AuditAtomic (s : Server) : Prop where
  events : s.world.recorded.Perm s.committed
  telling : ∀ ev ∈ s.world.events.rows, ev.mutation?.isSome
  created : s.world.creations = s.world.tickets.rows.map Ticket.id
  errors : ∀ (i : Nat) (t : Task) err, s.threads[i]? = some t →
    Thread.result? t = some (.error err) →
    ∀ e ∈ s.history, e.tid = i → e.after.tickets = e.before.tickets

/-- Where nothing strikes between an update and its event, nor the read-back after them, the
audit is atomic whenever no request is running. -/
theorem audit_atomic {w : World} {s : Server} (fresh : w.Fresh)
    (h : Run uninterrupted { world := w } s) (quiet : s.Quiet) : s.AuditAtomic where
  events := by
    refine List.perm_iff_count.mpr fun m => ?_
    have hbalance := books_balance fresh h m
    rw [owed_quiet h quiet] at hbalance
    exact hbalance
  telling := events_tell fresh h
  created := Run.creations fresh h
  errors _ _ _ ht hr _ he htid := errors_change_nothing h ht hr he htid

def anyFailure (s : Server) : Action → Bool
  | .arrive q => q.audited
  | .run _ o => decide (o.Unused s.world)
  | .stop _ => true

namespace Sample

def assigned : List Action :=
  created ++ [.arrive (.assign 102 ⟨3, 0⟩ administrador)] ++ steps 1 10 7

/-- The event insert of an assign fails after its update was committed. -/
def torn : List Action :=
  created ++ [.arrive (.assign 102 ⟨3, 0⟩ administrador)] ++ steps 1 10 3 ++
    [.run 1 { uuid := 120, fault := some 0 }]

end Sample

open Sample in
theorem audit_atomic_assigned : ((play uninterrupted assigned).get (by decide)).AuditAtomic :=
  audit_atomic world_fresh (play_run (by decide)) (by decide)

open Sample in
theorem audit_torn : ¬ ∀ s, Run anyFailure { world := world } s → s.Quiet → s.AuditAtomic := by
  intro h
  have hrun : Run anyFailure { world := world } ((play anyFailure torn).get (by decide)) :=
    play_run (by decide)
  exact absurd (h _ hrun (by decide)).events.length_eq (by decide)

end TicketSystem
