import TicketSystem.Evolution

namespace TicketSystem

open Relational Interleaved

/-- The fields of a row agree with its status. -/
structure Ticket.WellFormed (t : Ticket) : Prop where
  resolved : t.status = .resuelto → t.resolvedAt.isSome ∧
    (∃ v, t.rootCause = some v ∧ 20 ≤ v.length) ∧ ∃ v, t.solution = some v ∧ 20 ≤ v.length
  unresolved : t.status ≠ .resuelto →
    t.resolvedAt = none ∧ t.rootCause = none ∧ t.solution = none
  attended : t.status = .enProgreso → t.assigneeId.isSome

theorem stateUpdate_resuelto {dto : ChangeStateDto} {actor : User} {ticket : Ticket}
    (row : Ticket) (hr : dto.targetState = .resuelto) (hc : Checked ticket dto actor) (now : Time) :
    ((stateUpdate dto now).apply row).resolvedAt = some now ∧
      (∃ v, ((stateUpdate dto now).apply row).rootCause = some v ∧ 20 ≤ v.length) ∧
      ∃ v, ((stateUpdate dto now).apply row).solution = some v ∧ 20 ≤ v.length := by
  obtain ⟨hroot, hsolution⟩ := hc.fields hr
  obtain ⟨root, hroot⟩ := Option.ne_none_iff_exists'.mp hroot
  obtain ⟨solution, hsolution⟩ := Option.ne_none_iff_exists'.mp hsolution
  have hroot := (truthy_eq_some.mp hroot).1
  have hsolution := (truthy_eq_some.mp hsolution).1
  simp only [stateUpdate, hr, TicketUpdate.apply, hroot, hsolution, Option.some_or,
    Option.some.injEq, exists_eq_left', true_and]
  exact ⟨(dto.rootCauseLength root hroot).trans (validatorLength_le root),
    (dto.solutionLength solution hsolution).trans (validatorLength_le solution)⟩

theorem stateUpdate_enProgreso {dto : ChangeStateDto} (row : Ticket)
    (hp : dto.targetState = .enProgreso) (now : Time) :
    ((stateUpdate dto now).apply row).resolvedAt = row.resolvedAt ∧
      ((stateUpdate dto now).apply row).rootCause = row.rootCause ∧
      ((stateUpdate dto now).apply row).solution = row.solution := by
  simp [stateUpdate, hp, TicketUpdate.apply]

section Step

variable {row : Ticket}

theorem assign_wellFormed (dto : AssignTicketDto) (h : row.WellFormed) :
    ((assignUpdate dto).apply row).WellFormed where
  resolved hs := h.resolved hs
  unresolved hs := h.unresolved hs
  attended _ := rfl

theorem escalate_wellFormed (target : Nat) (h : row.WellFormed) :
    ((escalateUpdate target).apply row).WellFormed where
  resolved hs := h.resolved hs
  unresolved hs := h.unresolved hs
  attended hs := h.attended hs

/-- The assignee that was checked on the row that was read is not gone from the row that is
written, since no request clears it. -/
theorem changeState_wellFormed {ticket : Ticket} {dto : ChangeStateDto} {actor : User}
    (now : Time) (hc : Checked ticket dto actor) (he : ticket.Evolves row)
    (hs : row.status = ticket.status) (h : row.WellFormed) :
    ((stateUpdate dto now).apply row).WellFormed := by
  have hstatus := stateUpdate_status dto now row
  cases htarget : dto.targetState with
  | enProgreso =>
    rw [htarget] at hstatus
    have hopen : row.status ≠ .resuelto := hs ▸ hc.moves.open
    obtain ⟨hre, hro, hso⟩ := stateUpdate_enProgreso row htarget now
    refine ⟨fun hr => ?_, fun _ => ?_, fun _ => ?_⟩
    · cases hstatus.symm.trans hr
    · rw [hre, hro, hso]
      exact h.unresolved hopen
    · rw [(stateUpdate_kept dto now row).1]
      exact he.assigned (Option.isSome_iff_ne_none.mpr (hc.assignee htarget))
  | resuelto =>
    rw [htarget] at hstatus
    obtain ⟨hre, hro, hso⟩ := stateUpdate_resuelto row htarget hc now
    refine ⟨fun _ => ⟨hre ▸ rfl, hro, hso⟩, fun hr => absurd hstatus hr, fun hr => ?_⟩
    cases hstatus.symm.trans hr

theorem inserted_wellFormed (dto : CreateTicketDto) (user : User) (key : Option String)
    (priority : Priority) (slaDueAt : Option Time) (o : Oracle) (w : World) :
    (insertedTicket dto user key priority slaDueAt o w).WellFormed where
  resolved h := nomatch h
  unresolved _ := ⟨rfl, rfl, rfl⟩
  attended h := nomatch h

/-- Every update keeps the fields in agreement, when what its request read is an earlier
state of the row. -/
theorem Intent.wellFormed {q : Request} {past : List Seen} {g : TicketWhere} {d : TicketUpdate}
    {ev : TicketEventCreate} (hi : Intent q past g d ev) (guard : g.matches row = true)
    (hread : ∀ ticket, FirstRead ev.ticketId ticket past → ticket.Evolves row)
    (h : row.WellFormed) : (d.apply row).WellFormed := by
  cases hi with
  | assign => exact assign_wellFormed _ h
  | changeState read _ checked now =>
    exact changeState_wellFormed now (checkChangeState_ok checked) (hread _ read)
      (stateWhere_matches.mp guard).2.2 h
  | escalateOne => exact escalate_wellFormed _ h
  | sweep => exact escalate_wellFormed _ h

theorem Intent.override {q : Request} {past : List Seen} {g : TicketWhere} {d : TicketUpdate}
    {ev : TicketEventCreate} (hi : Intent q past g d ev) (guard : g.matches row = true)
    (hopen : row.status = .abierto) (hclosed : (d.apply row).status = .resuelto) :
    ∃ dto actor, q = .changeState ev.ticketId dto actor ∧ actor.role = .administrador := by
  cases hi with
  | @changeState _ dto _ _ _ _ _ checked now =>
    have hs := (stateWhere_matches.mp guard).2.2
    have ht := TargetState.status_resuelto.mp ((stateUpdate_status dto now row).symm.trans hclosed)
    exact ⟨_, _, rfl, (checkChangeState_ok checked).override (hs.symm.trans hopen) ht⟩
  | assign => cases hopen.symm.trans hclosed
  | escalateOne => cases hopen.symm.trans hclosed
  | sweep => cases hopen.symm.trans hclosed

end Step

/-- An entry that committed a changeState to resuelto on ticket `id`. -/
def resolves (id : Uuid) (e : Executed) : Bool :=
  (Seen.update? e.obs).any fun gd => gd.1.id == some id && gd.2.status == some .resuelto

/-- The update resolves a row exactly when it writes the status resuelto, and then the row was
not resolved. -/
theorem Intent.resolves {q : Request} {past : List Seen} {g : TicketWhere} {d : TicketUpdate}
    {ev : TicketEventCreate} {row : Ticket} (hi : Intent q past g d ev)
    (guard : g.matches row = true) :
    (d.status = some .resuelto ∧ row.status ≠ .resuelto ∧ (d.apply row).status = .resuelto) ∨
      (d.status ≠ some .resuelto ∧
        ((d.apply row).status = .resuelto ↔ row.status = .resuelto)) := by
  cases hi with
  | @changeState _ dto _ _ _ _ _ checked now =>
    have hs := (stateWhere_matches.mp guard).2.2
    have hmoves := (checkChangeState_ok checked).moves
    have hopen : row.status ≠ .resuelto := hs ▸ hmoves.open
    rw [stateUpdate_status]
    cases ht : dto.targetState with
    | enProgreso => exact .inr ⟨by simp [stateUpdate, ht], by simp [TargetState.status, hopen]⟩
    | resuelto => exact .inl ⟨by simp [stateUpdate, ht], hopen, rfl⟩
  | assign => exact .inr ⟨by simp [assignUpdate], Iff.rfl⟩
  | escalateOne => exact .inr ⟨by simp [escalateUpdate], Iff.rfl⟩
  | sweep => exact .inr ⟨by simp [escalateUpdate], Iff.rfl⟩

def World.resolved (w : World) (id : Uuid) : Bool :=
  (w.ticket? id).any fun t => t.status == .resuelto

section Runs

variable {ok : Server → Action → Bool} {w : World} {s : Server}

theorem wellFormed_step (h : Run ok { world := w } s) {h₁ h₂ : List Executed} {e : Executed}
    (he : s.history = h₁ ++ e :: h₂) (hw : ∀ id t, e.before.ticket? id = some t → t.WellFormed) :
    ∀ id t, e.after.ticket? id = some t → t.WellFormed := by
  intro id t' ht'
  obtain ⟨t, ht, heff⟩ := h.effect he
  cases heff.row id with
  | same kept => exact hw id t' (kept ▸ ht')
  | inserted _ _ _ _ after =>
    cases after.symm.trans ht'
    exact inserted_wellFormed ..
  | updated intent _ target before guard after =>
    cases after.symm.trans ht'
    exact intent.wellFormed guard (fun _ hr => Run.read_evolves h he hr (target ▸ before))
      (hw id _ before)

theorem resolved_step {q : Request} {past : List Seen} {e : Executed} (heff : Effect q past e)
    (id : Uuid) : (resolves id e = true ∧ e.before.resolved id = false ∧ e.after.resolved id = true) ∨
      (resolves id e = false ∧ e.after.resolved id = e.before.resolved id) := by
  cases heff.row id with
  | same kept other =>
    refine .inr ⟨?_, by rw [World.resolved, World.resolved, kept]⟩
    cases hu : Seen.update? e.obs with
    | none => simp [resolves, hu]
    | some gd => simp [resolves, hu, other gd.1 gd.2 hu]
  | inserted _ obs _ before after =>
    refine .inr ⟨by simp [resolves, Seen.update?_of_created obs], ?_⟩
    rw [World.resolved, World.resolved, before, after]
    rfl
  | updated intent obs target before guard after =>
    have hid := target ▸ intent.id
    rcases intent.resolves guard with ⟨hd, hb, ha⟩ | ⟨hd, hiff⟩
    · exact .inl ⟨by simp [resolves, obs, hid, hd], by simp [World.resolved, before, hb],
        by simp [World.resolved, after, ha]⟩
    · exact .inr ⟨by simp [resolves, obs, hd], by simp [World.resolved, before, after, hiff]⟩

theorem resolves_count (fresh : w.Fresh) (h : Run ok { world := w } s) (id : Uuid) :
    s.history.countP (resolves id) = (s.world.resolved id).toNat := by
  refine h.linked.invariant (I := fun h v => h.countP (resolves id) = (v.resolved id).toNat) ?_ ?_
  · simp [World.resolved, fresh.ticket?]
  · intro a e b he ih
    obtain ⟨t, _, heff⟩ := h.effect he
    rcases resolved_step heff id with ⟨hr, hb, ha⟩ | ⟨hr, hsame⟩
    · simp [List.countP_append, hr, ih, hb, ha]
    · simp [List.countP_append, hr, ih, hsame]

/-- The lifecycle of a ticket, over every interleaving: its fields agree with its status in
every state; every executed statement moves it only forward; and it is resolved once. -/
theorem ticket_lifecycle (fresh : w.Fresh) (h : Run ok { world := w } s) :
    (∀ id t, s.world.ticket? id = some t → t.WellFormed) ∧
    (∀ h₁ e h₂ id t', s.history = h₁ ++ e :: h₂ → e.after.ticket? id = some t' →
      (e.before.ticket? id = none → t'.status = .abierto) ∧
      ∀ t, e.before.ticket? id = some t →
        (t'.status = t.status ∨ t.status.Moves t'.status) ∧
        (t.assigneeId.isSome → t'.assigneeId.isSome) ∧
        (t.status = .resuelto → t'.resolvedAt = t.resolvedAt ∧ t'.rootCause = t.rootCause ∧
          t'.solution = t.solution ∧ t'.escalationLevel = t.escalationLevel) ∧
        (t.status = .abierto → t'.status = .resuelto → ∃ thread dto actor,
          s.threads[e.tid]? = some thread ∧ thread.request = .changeState id dto actor ∧
          actor.role = .administrador)) ∧
    ∀ id, s.history.countP (resolves id) ≤ 1 := by
  refine ⟨?_, fun h₁ e h₂ id t' he ht' => ?_, fun id => ?_⟩
  · refine h.linked.invariant (I := fun _ v => ∀ id t, v.ticket? id = some t → t.WellFormed) ?_
      (fun a e b he => wellFormed_step h he)
    intro id t ht
    rw [fresh.ticket?] at ht
    cases ht
  · obtain ⟨thread, hthread, heff⟩ := h.effect he
    refine ⟨fun hnone => ?_, fun t ht => ?_⟩
    · cases heff.row id with
      | same kept => cases (kept.symm.trans ht').symm.trans hnone
      | updated _ _ _ before => cases before.symm.trans hnone
      | inserted _ _ _ _ after => cases after.symm.trans ht'; rfl
    · obtain ⟨t'', ht'', hev⟩ := heff.evolves id t ht
      cases ht'.symm.trans ht''
      refine ⟨hev.status, hev.assigned, fun hc => ?_, fun hopen hclosed => ?_⟩
      · obtain ⟨hl, hro, hso, hre⟩ := hev.closed hc
        exact ⟨hre, hro, hso, hl⟩
      · cases heff.row id with
        | same kept =>
          cases (kept.symm.trans ht').symm.trans ht
          cases hopen.symm.trans hclosed
        | inserted _ _ _ before => cases before.symm.trans ht
        | updated intent _ target before guard after =>
          cases before.symm.trans ht
          cases after.symm.trans ht'
          obtain ⟨dto, actor, hq, hrole⟩ := intent.override guard hopen hclosed
          exact ⟨thread, dto, actor, hthread, target ▸ hq, hrole⟩
  · rw [resolves_count fresh h]
    exact Bool.toNat_le _

namespace Sample

def wholeLife : List Action :=
  created ++ [.arrive (.assign 102 ⟨3, 0⟩ administrador)] ++ steps 1 10 7 ++
    [.arrive (.changeState 102 (start 1) agente)] ++ steps 2 20 4 ++
    [.arrive (.changeState 102 (solve 2) agente)] ++ steps 3 30 7

def closed : Server := (play (fun _ _ => true) wholeLife).get (by decide)

end Sample

open Sample in
theorem ticket_lifecycle_closed :
    (∃ t, closed.world.ticket? 102 = some t ∧ t.status = .resuelto ∧ t.WellFormed) ∧
      closed.history.countP (resolves 102) ≤ 1 := by
  have hrun : Run (fun _ _ => true) { world := world } closed := play_run (by decide)
  have h := ticket_lifecycle world_fresh hrun
  exact ⟨⟨_, rfl, by decide, h.1 102 _ rfl⟩, h.2.2 102⟩

end Runs

end TicketSystem
