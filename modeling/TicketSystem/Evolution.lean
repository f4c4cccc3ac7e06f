import TicketSystem.Mutations

namespace TicketSystem

open Relational Interleaved

/-- What an entry did to the row `id`: left it, rewrote it under a guard it satisfied, or
inserted it. -/
inductive RowEffect (q : Request) (past : List Seen) (e : Executed) (id : Uuid) : Prop
  | same (kept : e.after.ticket? id = e.before.ticket? id)
      (other : ∀ g d, Seen.update? e.obs = some (g, d) → g.id ≠ some id)
      (elsewhere : ∀ t, Seen.created? e.obs = some t → t.id ≠ id)
  | updated {g : TicketWhere} {d : TicketUpdate} {ev : TicketEventCreate} {t : Ticket}
      (intent : Intent q past g d ev) (obs : Seen.update? e.obs = some (g, d))
      (target : ev.ticketId = id) (before : e.before.ticket? id = some t)
      (guard : g.matches t = true) (after : e.after.ticket? id = some (d.apply t))
  | inserted {dto : CreateTicketDto} {user : User} {key : Option String} {priority : Priority}
      {slaDueAt : Option Time} {o : Oracle} (request : q = .create dto user key)
      (obs : Seen.created? e.obs =
        some (insertedTicket dto user key priority slaDueAt o e.before))
      (target : o.uuid = id) (before : e.before.ticket? id = none)
      (after : e.after.ticket? id =
        some (insertedTicket dto user key priority slaDueAt o e.before))

theorem World.Created.ticket? {dto : CreateTicketDto} {user : User} {o : Oracle} {t : Ticket}
    {w w' : World} (h : w.Created dto user o t w') (id : Uuid) :
    w'.ticket? id = if t.id = id then some t else w.ticket? id := by
  simp only [World.ticket?]
  rw [Table.lookup_insert? h.tickets]
  split
  next hid =>
    have hnone : w.tickets.lookup Ticket.id id = none := by
      refine Table.lookup_eq_none.mpr fun r hr he => ?_
      exact Table.not_clash_of_insert? h.tickets hr (.inl (he.trans hid.symm))
    rw [hnone]
    rfl
  next => simp

theorem World.Created.absent {dto : CreateTicketDto} {user : User} {o : Oracle} {t : Ticket}
    {w w' : World} (h : w.Created dto user o t w') : w.ticket? t.id = none := by
  cases hw : w.ticket? t.id with
  | none => rfl
  | some r =>
    have hclash : r.clash t := .inl (World.ticket?_id hw)
    exact absurd hclash (Table.not_clash_of_insert? h.tickets (World.ticket?_mem hw))

theorem Effect.row {q : Request} {past : List Seen} {e : Executed} (h : Effect q past e)
    (id : Uuid) : RowEffect q past e id := by
  cases h with
  | quiet calm kept =>
    exact .same (kept.ticket? id) (fun g d hu => nomatch hu.symm.trans calm.update)
      (fun t hc => nomatch hc.symm.trans calm.created)
  | @created dto user key priority slaDueAt o request _ obs write =>
    have hafter := write.ticket? id
    split at hafter
    next hid => exact .inserted request obs hid (hid ▸ write.absent) hafter
    next hid =>
      refine .same hafter (fun g d hu => nomatch hu.symm.trans (Seen.update?_of_created obs)) ?_
      intro t hc
      cases obs.symm.trans hc
      exact hid
  | @updated g d ev intent obs write =>
    by_cases hid : ev.ticketId = id
    · obtain ⟨t, hb, hm, ha⟩ := write.row
      exact .updated intent obs hid (hid ▸ hb) hm (hid ▸ ha)
    · refine .same (write.others id (Ne.symm hid)) (fun g' d' hu => ?_)
        (fun t hc => nomatch obs.symm.trans (Seen.update?_of_created hc))
      cases obs.symm.trans hu
      exact fun hg => hid (Option.some.inj (intent.id.symm.trans hg))
  | recorded _ _ _ obs write =>
    exact .same (write.ticket? id) (fun g d hu => nomatch hu.symm.trans (Seen.update?_of_event obs))
      (fun t hc => nomatch obs.symm.trans (Seen.event?_of_created hc))
  | noted _ _ obs write =>
    exact .same (write.ticket? id) (fun g d hu => nomatch hu.symm.trans (Seen.update?_of_event obs))
      (fun t hc => nomatch obs.symm.trans (Seen.event?_of_created hc))
  | uploaded _ _ calm write =>
    exact .same (write.ticket? id) (fun g d hu => nomatch hu.symm.trans calm.update)
      (fun t hc => nomatch hc.symm.trans calm.created)

/-- What never happens to a ticket, whatever is executed between two moments. -/
structure Ticket.Evolves (t t' : Ticket) : Prop where
  ticketNumber : t'.ticketNumber = t.ticketNumber
  reporterId : t'.reporterId = t.reporterId
  idempotencyKey : t'.idempotencyKey = t.idempotencyKey
  version : t.version ≤ t'.version
  sameVersion : t'.version = t.version → t'.assigneeId = t.assigneeId ∧ t'.status = t.status ∧
    t'.rootCause = t.rootCause ∧ t'.solution = t.solution ∧ t'.resolvedAt = t.resolvedAt
  status : t'.status = t.status ∨ t.status.Moves t'.status
  assigned : t.assigneeId.isSome → t'.assigneeId.isSome
  closed : t.status = .resuelto → t'.escalationLevel = t.escalationLevel ∧
    t'.rootCause = t.rootCause ∧ t'.solution = t.solution ∧ t'.resolvedAt = t.resolvedAt

theorem Ticket.Evolves.refl (t : Ticket) : t.Evolves t :=
  ⟨rfl, rfl, rfl, Nat.le_refl _, fun _ => ⟨rfl, rfl, rfl, rfl, rfl⟩, .inl rfl,
    fun h => h, fun _ => ⟨rfl, rfl, rfl, rfl⟩⟩

theorem TicketStatus.Moves.of_resuelto {b : TicketStatus} : ¬ TicketStatus.resuelto.Moves b :=
  fun h => h.open rfl

theorem TicketStatus.moves_trans {a b c : TicketStatus} (h : b = a ∨ a.Moves b)
    (h' : c = b ∨ b.Moves c) : c = a ∨ a.Moves c := by
  rcases h with rfl | h
  · exact h'
  · rcases h' with rfl | h'
    · exact .inr h
    · cases h with
      | start => cases h'; exact .inr .override
      | resolve => exact absurd h' TicketStatus.Moves.of_resuelto
      | override => exact absurd h' TicketStatus.Moves.of_resuelto

theorem Ticket.Evolves.trans {t u v : Ticket} (h : t.Evolves u) (h' : u.Evolves v) :
    t.Evolves v where
  ticketNumber := h'.ticketNumber.trans h.ticketNumber
  reporterId := h'.reporterId.trans h.reporterId
  idempotencyKey := h'.idempotencyKey.trans h.idempotencyKey
  version := h.version.trans h'.version
  sameVersion hv := by
    have hu : u.version = t.version := by
      have := h.version
      have := h'.version
      omega
    obtain ⟨ha, hs, hr, hso, hre⟩ := h.sameVersion hu
    obtain ⟨ha', hs', hr', hso', hre'⟩ := h'.sameVersion (hv.trans hu.symm)
    exact ⟨ha'.trans ha, hs'.trans hs, hr'.trans hr, hso'.trans hso, hre'.trans hre⟩
  status := TicketStatus.moves_trans h.status h'.status
  assigned ha := h'.assigned (h.assigned ha)
  closed hc := by
    have hu : u.status = .resuelto := by
      rcases h.status with hs | hs
      · exact hs.trans hc
      · exact absurd (hc ▸ hs) TicketStatus.Moves.of_resuelto
    obtain ⟨hl, hr, hso, hre⟩ := h.closed hc
    obtain ⟨hl', hr', hso', hre'⟩ := h'.closed hu
    exact ⟨hl'.trans hl, hr'.trans hr, hso'.trans hso, hre'.trans hre⟩

section Guards

variable {id : Uuid} {t : Ticket}

theorem assignWhere_matches {dto : AssignTicketDto} :
    (assignWhere id dto).matches t = true ↔ t.id = id ∧ t.version = dto.expectedVersion := by
  simp [TicketWhere.matches, assignWhere]

theorem stateWhere_matches {ticket : Ticket} {dto : ChangeStateDto} :
    (stateWhere id ticket dto).matches t = true ↔
      t.id = id ∧ t.version = dto.expectedVersion ∧ t.status = ticket.status := by
  simp [TicketWhere.matches, stateWhere, and_assoc]

theorem escalateWhere_matches {current : Nat} :
    (escalateWhere id current).matches t = true ↔
      t.id = id ∧ t.status ≠ .resuelto ∧ t.escalationLevel = current := by
  simp [TicketWhere.matches, escalateWhere, and_assoc]

/-- What the checks of `changeState` establish of the row that was read. -/
structure Checked (ticket : Ticket) (dto : ChangeStateDto) (actor : User) : Prop where
  fields : dto.targetState = .resuelto →
    truthy dto.rootCause ≠ none ∧ truthy dto.solution ≠ none
  owner : actor.role = .administrador ∨ ticket.assigneeId = some actor.id
  assignee : dto.targetState = .enProgreso → ticket.assigneeId ≠ none
  moves : ticket.status.Moves dto.targetState.status
  override : ticket.status = .abierto → dto.targetState = .resuelto → actor.role = .administrador

theorem TargetState.status_resuelto {s : TargetState} : s.status = .resuelto ↔ s = .resuelto := by
  cases s <;> simp [TargetState.status]

theorem TargetState.status_enProgreso {s : TargetState} :
    s.status = .enProgreso ↔ s = .enProgreso := by
  cases s <;> simp [TargetState.status]

theorem checkChangeState_ok {ticket : Ticket} {dto : ChangeStateDto} {actor : User}
    (h : checkChangeState ticket dto actor = .ok ()) : Checked ticket dto actor := by
  simp only [checkChangeState, TargetState.status_resuelto, TargetState.status_enProgreso] at h
  split at h
  next => cases h
  next hfields =>
    split at h
    next => cases h
    next howner =>
      split at h
      next => cases h
      next hassignee =>
        split at h
        next => cases h
        next hmoves =>
          obtain ⟨hmoves, _, hadmin⟩ := canTransition_ok hmoves
          refine ⟨fun hr => ?_, ?_, fun he hn => hassignee ⟨he, hn⟩, hmoves, fun ha hr => ?_⟩
          · exact ⟨fun hn => hfields ⟨hr, .inl hn⟩, fun hn => hfields ⟨hr, .inr hn⟩⟩
          · by_contra hno
            exact howner (not_or.mp hno)
          · exact hadmin ha (TargetState.status_resuelto.mpr hr)

theorem assignUpdate_evolves (dto : AssignTicketDto) (t : Ticket) :
    t.Evolves ((assignUpdate dto).apply t) where
  ticketNumber := rfl
  reporterId := rfl
  idempotencyKey := rfl
  version := Nat.le_succ _
  sameVersion h := absurd h (Nat.succ_ne_self _)
  status := .inl rfl
  assigned _ := rfl
  closed _ := ⟨rfl, rfl, rfl, rfl⟩

theorem stateUpdate_version (dto : ChangeStateDto) (now : Time) (t : Ticket) :
    ((stateUpdate dto now).apply t).version = t.version + 1 := by
  unfold stateUpdate
  split <;> rfl

theorem stateUpdate_status (dto : ChangeStateDto) (now : Time) (t : Ticket) :
    ((stateUpdate dto now).apply t).status = dto.targetState.status := by
  unfold stateUpdate
  split
  next h => rw [h]; rfl
  next h => rw [h]; rfl

theorem stateUpdate_kept (dto : ChangeStateDto) (now : Time) (t : Ticket) :
    ((stateUpdate dto now).apply t).assigneeId = t.assigneeId ∧
      ((stateUpdate dto now).apply t).escalationLevel = t.escalationLevel := by
  unfold stateUpdate
  split <;> exact ⟨rfl, rfl⟩

theorem stateUpdate_evolves {dto : ChangeStateDto} {t : Ticket} (now : Time)
    (hm : t.status.Moves dto.targetState.status) : t.Evolves ((stateUpdate dto now).apply t) where
  ticketNumber := rfl
  reporterId := rfl
  idempotencyKey := rfl
  version := by rw [stateUpdate_version]; omega
  sameVersion h := by rw [stateUpdate_version] at h; omega
  status := .inr ((stateUpdate_status dto now t).symm ▸ hm)
  assigned h := (stateUpdate_kept dto now t).1.symm ▸ h
  closed h := absurd h hm.open

theorem escalateUpdate_evolves {t : Ticket} (target : Nat) (hopen : t.status ≠ .resuelto) :
    t.Evolves ((escalateUpdate target).apply t) where
  ticketNumber := rfl
  reporterId := rfl
  idempotencyKey := rfl
  version := Nat.le_refl _
  sameVersion _ := ⟨rfl, rfl, rfl, rfl, rfl⟩
  status := .inl rfl
  assigned h := h
  closed h := absurd h hopen

/-- The row under the guard evolves: the guard of `changeState` fixes the status it checked,
and that of an escalation excludes a resolved ticket. -/
theorem Intent.evolves {q : Request} {past : List Seen} {g : TicketWhere} {d : TicketUpdate}
    {ev : TicketEventCreate} (h : Intent q past g d ev) (hm : g.matches t = true) :
    t.Evolves (d.apply t) := by
  cases h with
  | assign => exact assignUpdate_evolves _ t
  | changeState _ _ checked now =>
    obtain ⟨_, _, hs⟩ := stateWhere_matches.mp hm
    exact stateUpdate_evolves now (hs ▸ (checkChangeState_ok checked).moves)
  | escalateOne => exact escalateUpdate_evolves _ (escalateWhere_matches.mp hm).2.1
  | sweep => exact escalateUpdate_evolves _ (escalateWhere_matches.mp hm).2.1

end Guards

def World.Evolves (w w' : World) : Prop :=
  ∀ id t, w.ticket? id = some t → ∃ t', w'.ticket? id = some t' ∧ t.Evolves t'

theorem World.Evolves.refl (w : World) : w.Evolves w := fun _ t h => ⟨t, h, .refl t⟩

theorem World.Evolves.trans {u v w : World} (h : u.Evolves v) (h' : v.Evolves w) :
    u.Evolves w := by
  intro id t ht
  obtain ⟨t', ht', he⟩ := h id t ht
  obtain ⟨t'', ht'', he'⟩ := h' id t' ht'
  exact ⟨t'', ht'', he.trans he'⟩

theorem Effect.evolves {q : Request} {past : List Seen} {e : Executed} (h : Effect q past e) :
    e.before.Evolves e.after := by
  intro id t ht
  cases h.row id with
  | same kept => exact ⟨t, kept.trans ht, .refl t⟩
  | updated intent _ _ before guard after =>
    cases before.symm.trans ht
    exact ⟨_, after, intent.evolves guard⟩
  | inserted _ _ _ before _ => cases before.symm.trans ht

def Server.moments (w : World) (s : Server) : List World := w :: s.history.map Entry.after

section Runs

variable {ok : Server → Action → Bool} {w : World} {s : Server}

theorem Run.evolves_along (h : Run ok { world := w } s) {u v : World} {h₁ m h₂ : List Executed}
    (hm : s.history = h₁ ++ m ++ h₂) (hl : Linked u m v) : u.Evolves v := by
  refine hl.relates World.Evolves.refl (fun _ _ _ => World.Evolves.trans) fun e he => ?_
  obtain ⟨a, b, rfl⟩ := List.append_of_mem he
  obtain ⟨t, _, heff⟩ :=
    h.effect (show s.history = (h₁ ++ a) ++ e :: (b ++ h₂) by simpa using hm)
  exact heff.evolves

theorem Run.evolves (h : Run ok { world := w } s) {h₁ h₂ h₃ : List Executed} {e e' : Executed}
    (he : s.history = h₁ ++ e :: (h₂ ++ e' :: h₃)) : e.after.Evolves e'.before := by
  have hl : Linked w (h₁ ++ e :: (h₂ ++ e' :: h₃)) s.world := he ▸ h.linked
  have hm : s.history = (h₁ ++ [e]) ++ h₂ ++ e' :: h₃ := by simpa using he
  exact Run.evolves_along h hm hl.at.2.at.1

theorem Run.evolves_to_end (h : Run ok { world := w } s) {h₁ h₂ : List Executed} {e : Executed}
    (he : s.history = h₁ ++ e :: h₂) : e.after.Evolves s.world := by
  have hl : Linked w (h₁ ++ e :: h₂) s.world := he ▸ h.linked
  have hm : s.history = (h₁ ++ [e]) ++ h₂ ++ [] := by simpa using he
  exact Run.evolves_along h hm hl.at.2

theorem Run.moment_evolves (h : Run ok { world := w } s) {u : World} (hu : u ∈ s.moments w) :
    u.Evolves s.world := by
  rcases List.mem_cons.mp hu with rfl | hu
  · have hall : s.history = [] ++ s.history ++ [] := by simp
    exact Run.evolves_along h hall h.linked
  · obtain ⟨e, he, rfl⟩ := List.mem_map.mp hu
    obtain ⟨h₁, h₂, hh⟩ := List.append_of_mem he
    exact Run.evolves_to_end h hh

/-- A relation that composes, and that every statement keeps but the flagged ones, holds between
any two moments of a run that makes no flagged move. -/
theorem Run.moments_related {r : World → World → Prop} {flagged : Executed → Bool}
    {flags : Server → Action → Bool} (trans : ∀ u v x, r u v → r v x → r u x)
    (keeps : ∀ {q past e}, Effect q past e → flagged e = false → r e.before e.after)
    (told : ∀ {s : Server} {i : Nat} {q : Request} {c : Cmd}
      {k : Except Err c.Res → Service Response} {o : Oracle},
      s.threads[i]? = some { request := q, state := .stmt c k } →
        flagged { tid := i, obs := ⟨c, (Cmd.exec o c s.world).1⟩, before := s.world,
                  after := (Cmd.exec o c s.world).2 } = flags s (.run i o))
    (spared : ∀ s a, ok s a = true → flags s a = false) (h : Run ok { world := w } s) :
    (s.moments w).Pairwise r := by
  refine h.linked.pairwise trans fun e he => ?_
  obtain ⟨h₁, h₂, hh⟩ := List.append_of_mem he
  obtain ⟨_, _, heff⟩ := h.effect hh
  obtain ⟨q, u, k, o, hm, _⟩ := h.moment (show s.history = [] ++ h₁ ++ e :: h₂ by simpa using hh)
  have hran := told (o := o) hm.thread
  rw [hm.before, hm.answered] at hran
  exact keeps heff (hran.trans (spared _ _ hm.admitted))

theorem Run.read_row (h : Run ok { world := w } s) {h₁ h₂ : List Executed} {r : Executed}
    (he : s.history = h₁ ++ r :: h₂) {id : Uuid} {t : Ticket}
    (hobs : r.obs = ⟨.one (.ticketFindUnique id), .ok (some t)⟩) :
    r.before.ticket? id = some t ∧ r.after = r.before := by
  obtain ⟨o, hx⟩ := Run.executed h he hobs
  simp only [Stmt.exec, Prod.mk.injEq, Except.ok.injEq] at hx
  exact ⟨hx.1, hx.2.symm⟩

theorem Run.firstRead (h : Run ok { world := w } s) {h₁ h₂ : List Executed} {e : Executed}
    (he : s.history = h₁ ++ e :: h₂) {id : Uuid} {t : Ticket}
    (hr : FirstRead id t (own e.tid h₁)) :
    ∃ a r b, h₁ = a ++ r :: b ∧ r.tid = e.tid ∧
      r.obs = ⟨.one (.ticketFindUnique id), .ok (some t)⟩ ∧
      r.before.ticket? id = some t ∧ r.after = r.before := by
  obtain ⟨a, r, b, rfl, htid, hobs, _⟩ := own_head hr
  have hsplit : s.history = a ++ r :: (b ++ e :: h₂) := by simpa using he
  exact ⟨a, r, b, rfl, htid, hobs, Run.read_row h hsplit hobs⟩

/-- What a request read first is an earlier state of the row it finds later. -/
theorem Run.read_evolves (h : Run ok { world := w } s) {h₁ h₂ : List Executed} {e : Executed}
    (he : s.history = h₁ ++ e :: h₂) {id : Uuid} {t row : Ticket}
    (hr : FirstRead id t (own e.tid h₁)) (hrow : e.before.ticket? id = some row) :
    t.Evolves row := by
  obtain ⟨a, r, b, rfl, _, _, hread, hafter⟩ := h.firstRead he hr
  have hsplit : s.history = a ++ r :: (b ++ e :: h₂) := by simpa using he
  obtain ⟨row', hrow', hevolves⟩ := Run.evolves h hsplit id t (hafter ▸ hread)
  cases hrow.symm.trans hrow'
  exact hevolves

theorem Run.row_of_commit (h : Run ok { world := w } s) {h₁ h₂ : List Executed} {e : Executed}
    (he : s.history = h₁ ++ e :: h₂) {o : Seen} (ho : o ∈ own e.tid h₁) {g : TicketWhere}
    {d : TicketUpdate} (hu : Seen.update? o = some (g, d)) {id : Uuid} (hg : g.id = some id) :
    ∃ t, e.before.ticket? id = some t := by
  obtain ⟨x, hx, _, rfl⟩ := mem_own.mp ho
  obtain ⟨a, b, rfl⟩ := List.append_of_mem hx
  have hsplit : s.history = a ++ x :: (b ++ e :: h₂) := by simpa using he
  obtain ⟨t, _, heff⟩ := h.effect hsplit
  obtain ⟨ev, intent, write⟩ := heff.committed hu
  cases intent.id.symm.trans hg
  obtain ⟨_, _, _, hafter⟩ := write.row
  obtain ⟨t', ht', _⟩ := Run.evolves h hsplit _ _ hafter
  exact ⟨t', ht'⟩

end Runs

end TicketSystem
