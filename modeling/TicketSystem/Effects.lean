import TicketSystem.Lib.Sequential
import TicketSystem.TicketsService

namespace TicketSystem

open Relational Interleaved

/-- Calls that leave the tickets, their events and the attachments alone. The insert of a user
does too, but a unique index may refuse it. -/
def Stmt.reads : Stmt → Bool
  | .ticketCreate _ | .ticketUpdateMany _ _ | .ticketEventCreate _ | .attachmentUpdateMany _ _
  | .attachmentCreate _ | .userCreate _ => false
  | _ => true

def Cmd.reads : Cmd → Bool
  | .one s => s.reads
  | .transaction _ => false

/-- Calls that change nothing at all. -/
def Stmt.looks : Stmt → Bool
  | .now | .randomUUID | .ticketFindFirst _ | .ticketFindUnique _
  | .ticketFindUniqueWithAttachments _ | .ticketFindMany _ | .slaRuleFindUnique _
  | .userFindUnique _ | .userFindByEmail _ | .attachmentFindUnique _ | .presignPut _ _ _
  | .presignGet _ _ | .ticketFindPage _ _ _ _ | .ticketEventFindPage _ _ _ _
  | .ticketFindBatch _ _ _ _ | .receiveMessages _ => true
  | _ => false

def Cmd.looks : Cmd → Bool
  | .one s => s.looks
  | .transaction _ => false

structure World.Same (w w' : World) : Prop where
  tickets : w'.tickets = w.tickets
  events : w'.events = w.events
  attachments : w'.attachments = w.attachments
  seq : w'.ticketNumberSeq = w.ticketNumberSeq

theorem World.Same.refl (w : World) : w.Same w := ⟨rfl, rfl, rfl, rfl⟩

theorem World.Same.ticket? {w w' : World} (h : w.Same w') (id : Uuid) :
    w'.ticket? id = w.ticket? id := by
  simp only [World.ticket?, h.tickets]

theorem Stmt.exec_reads {o : Oracle} {s : Stmt} {w : World} (h : s.reads = true) :
    w.Same (s.exec o w).2 := by
  cases s with
  | ticketCreate | ticketUpdateMany | ticketEventCreate | attachmentUpdateMany | attachmentCreate
  | userCreate => simp [Stmt.reads] at h
  | ticketFindUniqueOrThrow | ticketFindPage =>
    simp only [Stmt.exec]
    split
    next => exact .refl w
    next => exact .refl w
  | userUpsert =>
    simp only [Stmt.exec]
    split
    next => exact ⟨rfl, rfl, rfl, rfl⟩
    next =>
      split
      next => exact ⟨rfl, rfl, rfl, rfl⟩
      next => exact .refl w
  | _ => exact ⟨rfl, rfl, rfl, rfl⟩

/-- A call on its own fails from outside, without effect, or is executed. -/
theorem Cmd.exec_one (o : Oracle) (s : Stmt) (w : World) :
    Cmd.exec o (.one s) w = (.error .failed, w) ∨ Cmd.exec o (.one s) w = s.exec o w := by
  by_cases h : (o.fault.isSome && s.fallible) = true
  · exact .inl (if_pos h)
  · exact .inr (if_neg h)

theorem Cmd.exec_struck {o : Oracle} {s : Stmt} (hf : o.fault.isSome = true)
    (hs : s.fallible = true) (w : World) : Cmd.exec o (.one s) w = (.error .failed, w) :=
  if_pos (by rw [hf, hs]; rfl)

theorem Cmd.exec_one_of_ok {o : Oracle} (hf : o.fault = none) (s : Stmt) (w : World) :
    Cmd.exec o (.one s) w = s.exec o w :=
  if_neg (by simp [hf])

/-- A call that nothing strikes, in a service that is executed alone. -/
theorem call_alone {α : Type} {s : Stmt} {f : s.Res → Service α} {os : Nat → Oracle} {w w' : World}
    {a : s.Res} (hf : (os 0).fault = none) (h : s.exec (os 0) w = (.ok a, w')) :
    ((call s).bind f).alone Cmd.exec os w = (f a).alone Cmd.exec (fun n => os (n + 1)) w' :=
  Prog.alone_bind_ok ((Cmd.exec_one_of_ok hf s w).trans h)

theorem Cmd.exec_reads {o : Oracle} {c : Cmd} {w : World} (h : c.reads = true) :
    w.Same (c.exec o w).2 := by
  cases c with
  | transaction => simp [Cmd.reads] at h
  | one s =>
    rcases Cmd.exec_one o s w with he | he
    · rw [he]; exact .refl w
    · rw [he]; exact Stmt.exec_reads h

/-- The guard and the data of an update that matched some row. -/
def Seen.update? : Seen → Option (TicketWhere × TicketUpdate)
  | ⟨.one (.ticketUpdateMany q d), .ok n⟩ =>
    let count : Nat := n
    if count = 0 then none else some (q, d)
  | _ => none

theorem Seen.cmd_of_update {o : Seen} {g : TicketWhere} {d : TicketUpdate}
    (h : Seen.update? o = some (g, d)) : o.cmd = .one (.ticketUpdateMany g d) := by
  obtain ⟨c, r⟩ := o
  cases c with
  | transaction => cases h
  | one s =>
    cases s <;> cases r <;> first | cases h | skip
    simp only [Seen.update?] at h
    split at h
    next => cases h
    next => cases h; rfl

theorem Seen.update?_of_other {c : Cmd} {r : Except Err c.Res}
    (hother : ∀ g d, c ≠ .one (.ticketUpdateMany g d)) : Seen.update? ⟨c, r⟩ = none := by
  cases hu : Seen.update? ⟨c, r⟩ with
  | none => rfl
  | some gd => exact absurd (Seen.cmd_of_update hu) (hother gd.1 gd.2)

/-- A guarded write of the row `id`, and nothing else. -/
structure World.Updated (id : Uuid) (q : TicketWhere) (d : TicketUpdate) (w w' : World) :
    Prop where
  row : ∃ t, w.ticket? id = some t ∧ q.matches t = true ∧ w'.ticket? id = some (d.apply t)
  others : ∀ i, i ≠ id → w'.ticket? i = w.ticket? i
  tickets : w'.tickets = w.tickets.updateMany q.matches d.rewrite
  events : w'.events = w.events
  attachments : w'.attachments = w.attachments
  seq : w'.ticketNumberSeq = w.ticketNumberSeq

theorem TicketWhere.matches_id {q : TicketWhere} {id : Uuid} (hq : q.id = some id) {t : Ticket}
    (h : q.matches t = true) : t.id = id := by
  simp only [TicketWhere.matches, hq, Bool.and_eq_true] at h
  simpa using h.1.1.1.1.1.1.1

@[simp] theorem TicketUpdate.at_id (d : TicketUpdate) (p : Ticket → Bool) (t : Ticket) :
    (d.rewrite.at p t).id = t.id := by
  unfold Table.Rewrite.at
  split <;> rfl

theorem updateMany_ticket? {q : TicketWhere} {d : TicketUpdate} (w : World) (i : Uuid) :
    ({ w with tickets := w.tickets.updateMany q.matches d.rewrite } : World).ticket? i =
      (w.ticket? i).map (d.rewrite.at q.matches) :=
  Table.lookup_updateMany w.tickets q.matches d.rewrite (fun _ => rfl) i

theorem count_matches {q : TicketWhere} {id : Uuid} (hq : q.id = some id) (w : World) :
    w.tickets.count q.matches = ((w.ticket? id).any q.matches).toNat :=
  Table.count_of_key (fun _ _ => Ticket.clash_of_id) w.tickets
    (fun _ h => TicketWhere.matches_id hq h)

theorem updateMany_unmatched {q : TicketWhere} {d : TicketUpdate} {w : World}
    (h : w.tickets.count q.matches = 0) :
    w.tickets.updateMany q.matches d.rewrite = w.tickets := by
  refine Table.ext_rows ?_
  have hnone := List.countP_eq_zero.mp h
  refine (List.map_congr_left fun t ht => ?_).trans (List.map_id _)
  exact if_neg (hnone t ht)

theorem exec_updateMany {o : Oracle} {q : TicketWhere} {d : TicketUpdate} {id : Uuid}
    (hq : q.id = some id) (w : World) {r : Except Err Nat} {w' : World}
    (h : Cmd.exec o (.one (.ticketUpdateMany q d)) w = (r, w')) :
    (Seen.update? ⟨.one (.ticketUpdateMany q d), r⟩ = none ∧ w.Same w') ∨
      (Seen.update? ⟨.one (.ticketUpdateMany q d), r⟩ = some (q, d) ∧ w.Updated id q d w') := by
  rcases Cmd.exec_one o (.ticketUpdateMany q d) w with he | he
  · cases he.symm.trans h
    exact .inl ⟨rfl, .refl w⟩
  · cases he.symm.trans h
    have hcount := count_matches hq w
    by_cases hzero : w.tickets.count q.matches = 0
    · refine .inl ⟨?_, updateMany_unmatched hzero, rfl, rfl, rfl⟩
      simp [Seen.update?, hzero]
    · refine .inr ⟨by simp [Seen.update?, hzero], ?_, ?_, rfl, rfl, rfl, rfl⟩
      · rw [updateMany_ticket?]
        cases ht : w.ticket? id with
        | none => rw [ht] at hcount; exact absurd hcount hzero
        | some t =>
          cases hm : q.matches t with
          | false => rw [ht] at hcount; simp [hm] at hcount; exact absurd hcount hzero
          | true => exact ⟨t, rfl, hm, by simp [Table.Rewrite.at, hm]; rfl⟩
      · intro i hi
        rw [updateMany_ticket?]
        cases ht : w.ticket? i with
        | none => rfl
        | some t =>
          have hm : ¬ q.matches t = true := fun hm =>
            hi ((World.ticket?_id ht).symm.trans (TicketWhere.matches_id hq hm))
          simp [Table.Rewrite.at, hm]

theorem updateMany_commits {o : Oracle} {q : TicketWhere} {d : TicketUpdate} {id : Uuid}
    {w : World} {t : Ticket} (hq : q.id = some id) (ht : w.ticket? id = some t)
    (hm : q.matches t = true) {n : Nat} {w' : World}
    (h : Cmd.exec o (.one (.ticketUpdateMany q d)) w = (.ok n, w')) :
    Seen.update? ⟨.one (.ticketUpdateMany q d), .ok n⟩ = some (q, d) := by
  rcases Cmd.exec_one o (.ticketUpdateMany q d) w with he | he
  · cases he.symm.trans h
  · cases he.symm.trans h
    have hcount := count_matches hq w
    rw [ht] at hcount
    simp [Seen.update?, hcount, hm]

theorem update?_exec (o : Oracle) (q : TicketWhere) (d : TicketUpdate) (w : World) :
    Seen.update? ⟨.one (.ticketUpdateMany q d), (Cmd.exec o (.one (.ticketUpdateMany q d)) w).1⟩ =
      if o.fault.isNone && w.tickets.rows.any q.matches then some (q, d) else none := by
  have hcount : w.tickets.count q.matches = 0 ↔ w.tickets.rows.any q.matches = false := by
    simp [Table.count, List.countP_eq_zero]
  cases hf : o.fault with
  | some n => simp [Cmd.exec, Stmt.fallible, hf, Seen.update?]
  | none =>
    rw [Cmd.exec_one_of_ok hf]
    by_cases hzero : w.tickets.count q.matches = 0
    · simp [Seen.update?, Stmt.exec, hzero, hcount.mp hzero]
    · have hany : w.tickets.rows.any q.matches = true := by
        simpa using fun h => hzero (hcount.mpr h)
      simp [Seen.update?, Stmt.exec, hzero, hany]

def Seen.event? : Seen → Option TicketEvent
  | ⟨.one (.ticketEventCreate _), .ok e⟩ => some e
  | _ => none

structure World.Recorded (e : TicketEvent) (w w' : World) : Prop where
  events : w'.events.rows = w.events.rows ++ [e]
  tickets : w'.tickets = w.tickets
  attachments : w'.attachments = w.attachments
  seq : w'.ticketNumberSeq = w.ticketNumberSeq

theorem World.Recorded.ticket? {e : TicketEvent} {w w' : World} (h : w.Recorded e w')
    (id : Uuid) : w'.ticket? id = w.ticket? id := by
  simp only [World.ticket?, h.tickets]

theorem exec_eventCreate {o : Oracle} {d : TicketEventCreate} (w : World)
    {r : Except Err TicketEvent} {w' : World}
    (h : Cmd.exec o (.one (.ticketEventCreate d)) w = (r, w')) :
    (∃ err, r = .error err ∧ w.Same w') ∨ (r = .ok (d.row o) ∧ w.Recorded (d.row o) w') := by
  rcases Cmd.exec_one o (.ticketEventCreate d) w with he | he
  · cases he.symm.trans h
    exact .inl ⟨_, rfl, .refl w⟩
  · rw [he, Stmt.exec] at h
    split at h
    next hi => cases h; exact .inr ⟨rfl, Table.insert?_rows hi, rfl, rfl, rfl⟩
    next => cases h; exact .inl ⟨_, rfl, .refl w⟩

/-- An event with an unused id is stored. -/
theorem exec_ticketEventCreate {o : Oracle} {w : World} (d : TicketEventCreate)
    (hid : ∀ e ∈ w.events.rows, e.id ≠ o.uuid) : ∃ events,
    Stmt.exec o (.ticketEventCreate d) w = (.ok (d.row o), { w with events := events }) ∧
      events.rows = w.events.rows ++ [d.row o] := by
  obtain ⟨events, hi⟩ : ∃ events, w.events.insert? (d.row o) = some events :=
    Table.exists_insert? hid
  refine ⟨events, ?_, Table.insert?_rows hi⟩
  simp only [Stmt.exec, hi]

theorem eventCreate_succeeds {o : Oracle} {d : TicketEventCreate} {w : World}
    (hf : o.fault = none) (hid : ∀ e ∈ w.events.rows, e.id ≠ o.uuid) :
    (Cmd.exec o (.one (.ticketEventCreate d)) w).1 = .ok (d.row o) := by
  obtain ⟨events, hexec, _⟩ := exec_ticketEventCreate d hid
  rw [Cmd.exec_one_of_ok hf, hexec]

/-- A new upload, and nothing else. -/
structure World.Uploaded (a : Attachment) (w w' : World) : Prop where
  attachments : w.attachments.insert? a = some w'.attachments
  tickets : w'.tickets = w.tickets
  events : w'.events = w.events
  seq : w'.ticketNumberSeq = w.ticketNumberSeq

theorem World.Uploaded.ticket? {a : Attachment} {w w' : World} (h : w.Uploaded a w')
    (id : Uuid) : w'.ticket? id = w.ticket? id := by
  simp only [World.ticket?, h.tickets]

theorem exec_attachmentCreate {o : Oracle} {d : AttachmentCreate} (w : World)
    {r : Except Err Attachment} {w' : World}
    (h : Cmd.exec o (.one (.attachmentCreate d)) w = (r, w')) :
    (∃ err, r = .error err ∧ w.Same w') ∨ (r = .ok (d.row o) ∧ w.Uploaded (d.row o) w') := by
  rcases Cmd.exec_one o (.attachmentCreate d) w with he | he
  · cases he.symm.trans h
    exact .inl ⟨_, rfl, .refl w⟩
  · rw [he, Stmt.exec] at h
    split at h
    next hi => cases h; exact .inr ⟨rfl, hi, rfl, rfl, rfl⟩
    next => cases h; exact .inl ⟨_, rfl, .refl w⟩

theorem exec_userCreate (o : Oracle) (d : UserCreate) (w : World) :
    w.Same (Cmd.exec o (.one (.userCreate d)) w).2 := by
  rcases Cmd.exec_one o (.userCreate d) w with he | he
  · rw [he]
    exact .refl w
  · rw [he, Stmt.exec]
    split
    next => exact ⟨rfl, rfl, rfl, rfl⟩
    next => exact .refl w

def Seen.created? : Seen → Option Ticket
  | ⟨.transaction _, .ok t⟩ => some t
  | _ => none

theorem Seen.update?_of_created {o : Seen} {t : Ticket} (h : o.created? = some t) :
    o.update? = none := by
  obtain ⟨c, r⟩ := o
  cases c with
  | transaction => rfl
  | one => simp [Seen.created?] at h

theorem Seen.update?_of_event {o : Seen} {e : TicketEvent} (h : o.event? = some e) :
    o.update? = none := by
  obtain ⟨c, r⟩ := o
  cases c with
  | transaction => rfl
  | one s => cases s <;> first | rfl | simp [Seen.event?] at h

theorem Seen.event?_of_created {o : Seen} {t : Ticket} (h : o.created? = some t) :
    o.event? = none := by
  obtain ⟨c, r⟩ := o
  cases c with
  | transaction => rfl
  | one => simp [Seen.created?] at h

theorem Seen.event?_of_update {o : Seen} {gd : TicketWhere × TicketUpdate}
    (h : o.update? = some gd) : o.event? = none := by
  obtain ⟨c, r⟩ := o
  cases c with
  | transaction => rfl
  | one s => cases s <;> first | rfl | simp [Seen.update?] at h

def insertedTicket (dto : CreateTicketDto) (user : User) (key : Option String)
    (priority : Priority) (slaDueAt : Option Time) (o : Oracle) (w : World) : Ticket :=
  (newTicket dto user key priority slaDueAt).row o (w.ticketNumberSeq + 1)

theorem exec_ticketCreate_refused {o : Oracle} {w : World} {d : TicketCreate}
    (hi : w.tickets.insert? (d.row o (w.ticketNumberSeq + 1)) = none) :
    Stmt.exec o (.ticketCreate d) w =
      (.error (.prisma .P2002), { w with ticketNumberSeq := w.ticketNumberSeq + 1 }) := by
  simp only [Stmt.exec, hi]

theorem exec_ticketCreate_stored {o : Oracle} {w : World} {d : TicketCreate}
    {tickets : Table Ticket Ticket.clash}
    (hi : w.tickets.insert? (d.row o (w.ticketNumberSeq + 1)) = some tickets) :
    Stmt.exec o (.ticketCreate d) w = (.ok (d.row o (w.ticketNumberSeq + 1)),
      { w with tickets := tickets, ticketNumberSeq := w.ticketNumberSeq + 1 }) := by
  simp only [Stmt.exec, hi]

def linkedAttachments (dto : CreateTicketDto) (user : User) (t : Ticket) (o : Oracle)
    (as : Table Attachment Attachment.clash) : Table Attachment Attachment.clash :=
  match dto.attachments with
  | none => as
  | some ids =>
    if ids.length > 0 then
      as.updateMany (attachWhere ids user).matches (attachUpdate t o.now).rewrite
    else as

/-- A committed create: one ticket, its event, its uploads linked. -/
structure World.Created (dto : CreateTicketDto) (user : User) (o : Oracle) (t : Ticket)
    (w w' : World) : Prop where
  tickets : w.tickets.insert? t = some w'.tickets
  events : w.events.insert? ((ticketCreadoEvent t user).row o) = some w'.events
  attachments : w'.attachments = linkedAttachments dto user t o w.attachments
  seq : w'.ticketNumberSeq = w.ticketNumberSeq + 1

/-- A failed create changes nothing; it may have used up a sequence value. -/
structure World.RolledBack (w w' : World) : Prop where
  tickets : w'.tickets = w.tickets
  events : w'.events = w.events
  attachments : w'.attachments = w.attachments
  seq : w.ticketNumberSeq ≤ w'.ticketNumberSeq

theorem World.RolledBack.ticket? {w w' : World} (h : w.RolledBack w') (id : Uuid) :
    w'.ticket? id = w.ticket? id := by
  simp only [World.ticket?, h.tickets]

theorem World.Same.rolledBack {w w' : World} (h : w.Same w') : w.RolledBack w' :=
  ⟨h.tickets, h.events, h.attachments, h.seq.ge⟩

theorem Stmt.exec_seq (o : Oracle) (s : Stmt) (w : World) :
    w.ticketNumberSeq ≤ (s.exec o w).2.ticketNumberSeq := by
  by_cases hr : s.reads = true
  · exact (Stmt.exec_reads hr).seq.ge
  · cases s with
    | ticketCreate =>
      simp only [Stmt.exec]
      split
      next => exact Nat.le_succ _
      next => exact Nat.le_succ _
    | ticketEventCreate | attachmentCreate | userCreate =>
      simp only [Stmt.exec]
      split
      next => exact Nat.le_refl _
      next => exact Nat.le_refl _
    | _ => first | exact Nat.le_refl _ | exact absurd rfl hr

theorem Tx.run_seq (o : Oracle) {α : Type} (p : Tx α) (f : Option Nat) (w : World) :
    w.ticketNumberSeq ≤ (p.run o f w).2.ticketNumberSeq := by
  induction p generalizing f w with
  | pure a => cases f <;> exact Nat.le_refl _
  | throw e => cases f <;> exact Nat.le_refl _
  | stmt s k ih =>
    have hrun := fun f => (s.exec_seq o w).trans (ih (s.exec o w).1 f (s.exec o w).2)
    match f with
    | none => exact hrun none
    | some n =>
      simp only [Tx.run]
      split
      next =>
        match n with
        | 0 => exact ih (.error .failed) none w
        | n + 1 => exact hrun (some n)
      next => exact hrun (some n)

/-- One failing statement, or a failing commit, fails a body that recovers from nothing;
if it had failed before, it fails as it would have. -/
theorem Tx.run_fault {o : Oracle} {α : Type} {p : Tx α} (hp : p.Strict) (n : Nat) (w : World) :
    ∃ err w', p.run o (some n) w = (.error err, w') ∧
      (err = .failed ∨ p.run o none w = (.error err, w')) := by
  induction p generalizing n w with
  | pure a => exact ⟨_, _, rfl, .inl rfl⟩
  | throw e => exact ⟨_, _, rfl, .inr rfl⟩
  | stmt s k ih =>
    have hrun : ∀ m, ∃ err w',
        Tx.run o (k (s.exec o w).1) (some m) (s.exec o w).2 = (.error err, w') ∧
          (err = .failed ∨
            Tx.run o (k (s.exec o w).1) none (s.exec o w).2 = (.error err, w')) := by
      intro m
      cases ha : (s.exec o w).1 with
      | ok a => exact ih _ (hp.2 a) m _
      | error e => rw [hp.1 e]; exact ⟨_, _, rfl, .inr rfl⟩
    simp only [Tx.run]
    split
    next =>
      match n with
      | 0 => simp only [hp.1]; exact ⟨_, _, rfl, .inl rfl⟩
      | n + 1 => exact hrun n
    next => exact hrun n

section Create

variable {dto : CreateTicketDto} {user : User} {key : Option String} {priority : Priority}
  {slaDueAt : Option Time} {o : Oracle}

/-- The transaction body, with nothing failing from outside. -/
theorem createTransaction_run (w : World) :
    Tx.run o (createTransaction dto user key priority slaDueAt) none w =
      let t := insertedTicket dto user key priority slaDueAt o w
      match w.tickets.insert? t, w.events.insert? ((ticketCreadoEvent t user).row o) with
      | some tickets, some events =>
        (.ok t, { w with tickets := tickets, events := events,
                         attachments := linkedAttachments dto user t o w.attachments,
                         ticketNumberSeq := w.ticketNumberSeq + 1 })
      | some tickets, none =>
        (.error (.prisma .P2002),
          { w with tickets := tickets, ticketNumberSeq := w.ticketNumberSeq + 1 })
      | none, _ =>
        (.error (.prisma .P2002), { w with ticketNumberSeq := w.ticketNumberSeq + 1 }) := by
  simp only [createTransaction, tx, Prog.bind_eq, Prog.perform, Prog.bind, Tx.run, Stmt.exec,
    insertedTicket]
  cases ht : w.tickets.insert?
      ((newTicket dto user key priority slaDueAt).row o (w.ticketNumberSeq + 1)) with
  | none => rfl
  | some tickets =>
    simp only [Prog.bind, Tx.run, Stmt.exec]
    cases he : w.events.insert? ((ticketCreadoEvent
        ((newTicket dto user key priority slaDueAt).row o (w.ticketNumberSeq + 1)) user).row o) with
    | none => rfl
    | some events =>
      simp only [Prog.bind, linkAttachments, linkedAttachments]
      cases dto.attachments with
      | none => rfl
      | some ids =>
        by_cases hl : ids.length > 0
        · simp only [if_pos hl]; rfl
        · simp only [if_neg hl]; rfl

theorem createTransaction_strict :
    (createTransaction dto user key priority slaDueAt).Strict := by
  refine (Prog.strict_perform _).bind fun t => (Prog.strict_perform _).bind fun _ => ?_
  refine Prog.Strict.bind ?_ fun _ => trivial
  unfold linkAttachments
  split
  next => trivial
  next =>
    split
    next => exact (Prog.strict_perform _).bind fun _ => (Prog.strict_perform _).bind fun _ => trivial
    next => trivial

/-- With nothing failing from outside only a unique index can refuse. -/
theorem createTransaction_cases (w : World) {r : Except Err Ticket} {w' : World}
    (h : Tx.run o (createTransaction dto user key priority slaDueAt) none w = (r, w')) :
    (∃ err, r = .error err ∧ w'.ticketNumberSeq = w.ticketNumberSeq + 1 ∧
      ((∃ x ∈ w.tickets.rows, x.clash (insertedTicket dto user key priority slaDueAt o w)) ∨
        ∃ e ∈ w.events.rows, e.id = o.uuid)) ∨
    (r = .ok (insertedTicket dto user key priority slaDueAt o w) ∧
      w.Created dto user o (insertedTicket dto user key priority slaDueAt o w) w') := by
  rw [createTransaction_run] at h
  dsimp only at h
  cases ht : w.tickets.insert? (insertedTicket dto user key priority slaDueAt o w) with
  | none =>
    rw [ht] at h
    cases h
    exact .inl ⟨_, rfl, rfl, .inl (Table.insert?_eq_none.mp ht)⟩
  | some tickets =>
    cases he : w.events.insert? ((ticketCreadoEvent
        (insertedTicket dto user key priority slaDueAt o w) user).row o) with
    | none =>
      rw [ht, he] at h
      cases h
      exact .inl ⟨_, rfl, rfl, .inr (Table.insert?_eq_none.mp he)⟩
    | some events =>
      rw [ht, he] at h
      cases h
      exact .inr ⟨rfl, ht, he, rfl, rfl⟩

theorem createTransaction_error (w : World) {err : Err} {w' : World}
    (h : Tx.run o (createTransaction dto user key priority slaDueAt) none w = (.error err, w')) :
    w'.ticketNumberSeq = w.ticketNumberSeq + 1 ∧
      ((∃ x ∈ w.tickets.rows, x.clash (insertedTicket dto user key priority slaDueAt o w)) ∨
        ∃ e ∈ w.events.rows, e.id = o.uuid) := by
  rcases createTransaction_cases w h with ⟨_, _, hcause⟩ | ⟨hok, _⟩
  · exact hcause
  · cases hok

theorem exec_create (w : World) {r : Except Err Ticket} {w' : World}
    (h : Cmd.exec o (.transaction (createTransaction dto user key priority slaDueAt)) w =
      (r, w')) :
    (∃ err, r = .error err ∧ w.RolledBack w') ∨
      (r = .ok (insertedTicket dto user key priority slaDueAt o w) ∧
        w.Created dto user o (insertedTicket dto user key priority slaDueAt o w) w') := by
  cases hf : o.fault with
  | some n =>
    obtain ⟨err, v, hv, _⟩ := Tx.run_fault createTransaction_strict (o := o) n w
    have hseq := Tx.run_seq o (createTransaction dto user key priority slaDueAt) (some n) w
    rw [Cmd.exec, hf, hv] at h
    rw [hv] at hseq
    cases h
    exact .inl ⟨err, rfl, rfl, rfl, rfl, hseq⟩
  | none =>
    rw [Cmd.exec, hf] at h
    cases hv : Tx.run o (createTransaction dto user key priority slaDueAt) none w with
    | mk r' v =>
      rw [hv] at h
      rcases createTransaction_cases w hv with ⟨err, rfl, hseq, _⟩ | ⟨rfl, hcreated⟩
      · cases h
        exact .inl ⟨err, rfl, rfl, rfl, rfl, hseq ▸ Nat.le_succ _⟩
      · cases h
        exact .inr ⟨rfl, hcreated⟩

end Create

section Insert

variable {dto : CreateTicketDto} {user : User} {key : Option String} {priority : Priority}

/-- What `insertTicket` does once it knows when the ticket is due. -/
def saveTicket (dto : CreateTicketDto) (user : User) (key : Option String) (priority : Priority)
    (slaDueAt : Option Time) : Service CreateResult :=
  Prog.tryCatch
    ((Prog.perform (C := Cmd) (R := Cmd.Res) (.transaction
      (createTransaction dto user key priority slaDueAt))).bind fun ticket =>
        .pure { ticket := ticket, created := true })
    (recoverDuplicate key)

theorem insertTicket_eq (hpriority : calculatePriority dto.severity dto.impact = .ok priority) :
    insertTicket dto user key = (call (.slaRuleFindUnique priority)).bind fun sla =>
      (slaDueDate sla).bind (saveTicket dto user key priority) := by
  rw [insertTicket, hpriority]
  rfl

/-- The rule of the priority is read, then the ticket is saved; which call that is and when the
ticket is due depend on nothing else in the database. -/
theorem insertTicket_saves (dto : CreateTicketDto) (user : User) (key : Option String)
    (os : Nat → Oracle) (rules : Priority → Option SlaRule) : ∃ priority n slaDueAt,
      ∀ w : World, w.slaRules = rules → (insertTicket dto user key).alone Cmd.exec os w =
        if (os 0).fault.isSome then (.error .failed, w)
        else (saveTicket dto user key priority slaDueAt).alone Cmd.exec (fun m => os (n + m)) w := by
  obtain ⟨priority, hpriority⟩ := calculatePriority_ok dto.severityRange dto.impactRange
  have hstruck : ∀ w, (os 0).fault.isSome = true →
      (insertTicket dto user key).alone Cmd.exec os w = (.error .failed, w) := by
    intro w hf
    rw [insertTicket_eq hpriority]
    exact Prog.alone_bind_of_error (Prog.alone_perform (Cmd.exec_struck hf rfl w))
  have hrun : ∀ w : World, ¬ (os 0).fault.isSome = true →
      (insertTicket dto user key).alone Cmd.exec os w =
        ((slaDueDate (w.slaRules priority)).bind (saveTicket dto user key priority)).alone Cmd.exec
          (fun m => os (m + 1)) w := by
    intro w hf
    rw [insertTicket_eq hpriority]
    exact call_alone (s := .slaRuleFindUnique priority) (by simpa using hf) rfl
  cases hrule : rules priority with
  | none =>
    refine ⟨priority, 1, none, fun w hw => ?_⟩
    split
    next hf => exact hstruck w hf
    next hf =>
      rw [hrun w hf, hw, hrule]
      simp only [Nat.add_comm 1]
      rfl
  | some rule =>
    refine ⟨priority, 2, some ((os 1).now + rule.timeToResolveMinutes * 60000), fun w hw => ?_⟩
    split
    next hf => exact hstruck w hf
    next hf =>
      have hnow : Cmd.exec (os 1) (.one .now) w = (.ok (os 1).now, w) := by
        simp [Cmd.exec, Stmt.fallible, Stmt.exec]
      have hdue : (slaDueDate (some rule)).bind (saveTicket dto user key priority) =
          (call .now).bind fun now : Time => saveTicket dto user key priority
            (some (now + rule.timeToResolveMinutes * 60000)) :=
        Prog.bind_assoc _ _ _
      rw [hrun w hf, hw, hrule, hdue]
      simp only [Nat.add_comm 2]
      exact Prog.alone_bind_ok hnow

end Insert

end TicketSystem
