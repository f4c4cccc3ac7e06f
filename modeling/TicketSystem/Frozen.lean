import TicketSystem.Lifecycle

namespace TicketSystem

open Relational Interleaved

/-- The columns of a resolved ticket that nothing may rewrite. -/
structure Ticket.Kept (t t' : Ticket) : Prop where
  status : t'.status = t.status
  assigneeId : t'.assigneeId = t.assigneeId
  escalationLevel : t'.escalationLevel = t.escalationLevel
  version : t'.version = t.version
  rootCause : t'.rootCause = t.rootCause
  solution : t'.solution = t.solution
  resolvedAt : t'.resolvedAt = t.resolvedAt

theorem Ticket.Kept.refl (t : Ticket) : t.Kept t := ⟨rfl, rfl, rfl, rfl, rfl, rfl, rfl⟩

/-- What was resolved at the first moment is as it was at the second. -/
def World.Freezes (u v : World) : Prop :=
  ∀ id t, u.ticket? id = some t → t.status = .resuelto → ∃ t', v.ticket? id = some t' ∧ t.Kept t'

theorem World.Freezes.trans {u v x : World} (h : u.Freezes v) (h' : v.Freezes x) :
    u.Freezes x := by
  intro id t ht hs
  obtain ⟨t', ht', hk⟩ := h id t ht hs
  obtain ⟨t'', ht'', hk'⟩ := h' id t' ht' (hk.status.trans hs)
  exact ⟨t'', ht'', hk'.status.trans hk.status, hk'.assigneeId.trans hk.assigneeId,
    hk'.escalationLevel.trans hk.escalationLevel, hk'.version.trans hk.version,
    hk'.rootCause.trans hk.rootCause, hk'.solution.trans hk.solution,
    hk'.resolvedAt.trans hk.resolvedAt⟩

/-- Once resolved, a ticket stays as it is over the whole run. -/
def Server.Freezes (w : World) (s : Server) : Prop := (s.moments w).Pairwise World.Freezes

/-- The guard and the data of an assign that finds a resolved row. -/
def World.reassignable (w : World) (g : TicketWhere) (d : TicketUpdate) : Bool :=
  d.assigneeId.isSome && w.tickets.rows.any fun t => g.matches t && t.status == .resuelto

def reassigned (e : Executed) : Bool :=
  (Seen.update? e.obs).any fun gd => e.before.reassignable gd.1 gd.2

/-- The next statement of a thread is the update of an assign, it finds its ticket resolved at
the version it expects, and nothing strikes it. -/
def reassigns (s : Server) : Action → Bool
  | .run i o => ((s.threads[i]?).bind Thread.next?).any fun c =>
    match c with
    | .one (.ticketUpdateMany g d) => o.fault.isNone && s.world.reassignable g d
    | _ => false
  | _ => false

def anyMove (_ : Server) (_ : Action) : Bool := true

def sparesResolved (s : Server) (a : Action) : Bool := !reassigns s a

theorem reassigned_ran {s : Server} {i : Nat} {q : Request} {c : Cmd}
    {k : Except Err c.Res → Service Response} {o : Oracle}
    (thread : s.threads[i]? = some { request := q, state := .stmt c k }) :
    reassigned { tid := i, obs := ⟨c, (Cmd.exec o c s.world).1⟩, before := s.world,
                 after := (Cmd.exec o c s.world).2 } = reassigns s (.run i o) := by
  simp only [reassigns, thread, Option.bind_some, Thread.next?, Option.any_some, reassigned]
  split
  next g d =>
    rw [update?_exec]
    by_cases hany : s.world.tickets.rows.any g.matches = true
    · cases hf : o.fault <;> simp [hany]
    · have hno : s.world.reassignable g d = false := by
        simp only [List.any_eq_true, not_exists, not_and] at hany
        simp only [World.reassignable, Bool.and_eq_false_iff, List.any_eq_false]
        exact .inr fun t ht hm => hany t ht (Bool.and_eq_true_iff.mp hm).1
      simp [hany, hno]
  next hother =>
    rw [Seen.update?_of_other hother]
    rfl

/-- Of the updates, only that of an assign can match a resolved row. -/
theorem Intent.of_resolved {q : Request} {past : List Seen} {g : TicketWhere} {d : TicketUpdate}
    {ev : TicketEventCreate} (h : Intent q past g d ev) {t : Ticket} (hm : g.matches t = true)
    (hs : t.status = .resuelto) :
    d.assigneeId.isSome ∧ (d.apply t).version = t.version + 1 := by
  cases h with
  | assign => exact ⟨rfl, rfl⟩
  | changeState _ _ checked =>
    have hopen := (checkChangeState_ok checked).moves.open
    exact absurd ((stateWhere_matches.mp hm).2.2.symm.trans hs) hopen
  | escalateOne => exact absurd hs (escalateWhere_matches.mp hm).2.1
  | sweep => exact absurd hs (escalateWhere_matches.mp hm).2.1

theorem Effect.freezes {q : Request} {past : List Seen} {e : Executed} (h : Effect q past e)
    (hno : reassigned e = false) : e.before.Freezes e.after := by
  intro id t ht hs
  cases h.row id with
  | same kept => exact ⟨t, kept.trans ht, .refl t⟩
  | inserted _ _ _ before => cases before.symm.trans ht
  | @updated g d ev _ intent obs _ before guard _ =>
    cases before.symm.trans ht
    have hassign := (intent.of_resolved guard hs).1
    have hyes : reassigned e = true := by
      simp only [reassigned, obs, Option.any_some, World.reassignable, hassign, Bool.true_and]
      exact List.any_eq_true.mpr ⟨t, World.ticket?_mem ht, by simp [guard, hs]⟩
    cases hno.symm.trans hyes

section Runs

variable {ok : Server → Action → Bool} {w : World} {s : Server}

theorem Run.freezes (h : Run sparesResolved { world := w } s) : s.Freezes w := by
  refine Run.moments_related (fun _ _ _ => World.Freezes.trans) Effect.freezes reassigned_ran
    (fun _ _ hok => ?_) h
  simpa [sparesResolved] using hok

theorem Server.Freezes.before {s' : Server} {a : Action} (h : s'.Freezes w)
    (hstep : Step serve Cmd.exec s a s') : s.Freezes w := by
  cases hstep with
  | arrive q => exact h
  | stop thread => exact h
  | run o thread =>
    simp only [Server.Freezes, Server.moments, Pool.ran, List.map_append] at h
    rw [← List.cons_append] at h
    exact (List.pairwise_append.mp h).1

/-- An assign that gets through to a resolved row moves its version. -/
theorem reassigned_thaws (h : Run ok { world := w } s) {e : Executed} (he : e ∈ s.history)
    (hre : reassigned e = true) : ¬ s.Freezes w := by
  intro hfreezes
  obtain ⟨h₁, h₂, hh⟩ := List.append_of_mem he
  obtain ⟨_, _, heff⟩ := h.effect hh
  cases hu : Seen.update? e.obs with
  | none => simp [reassigned, hu] at hre
  | some gd =>
    obtain ⟨g, d⟩ := gd
    simp only [reassigned, hu, Option.any_some, World.reassignable, Bool.and_eq_true,
      List.any_eq_true, beq_iff_eq] at hre
    obtain ⟨_, x, hx, hm, hs⟩ := hre
    obtain ⟨ev, intent, write⟩ := heff.committed hu
    obtain ⟨t, hb, _, ha⟩ := write.row
    have hid : x.id = ev.ticketId := TicketWhere.matches_id intent.id hm
    cases (World.ticket?_of_mem hx).symm.trans (hid ▸ hb)
    obtain ⟨t', ht', hkept⟩ := h.linked.adjacent hfreezes he _ x hb hs
    cases ha.symm.trans ht'
    have hmoved := (intent.of_resolved hm hs).2
    have hsame := hkept.version
    omega

/-- Resolved tickets stay as they are over a run exactly if no step of it assigns one. -/
theorem freezes_iff_spares_resolved (h : Run anyMove { world := w } s) :
    s.Freezes w ↔ Run sparesResolved { world := w } s := by
  refine h.iff_avoids (fun s a => reassigns s a = true)
    (fun s a _ hno => by simp [sparesResolved, hno]) (fun _ => Run.freezes)
    (fun _ _ _ hstep hfreezes => hfreezes.before hstep) fun s a s' hr hok hre hstep => ?_
  cases hstep with
  | arrive q => cases hre
  | stop thread => cases hre
  | run o thread =>
    exact reassigned_thaws (hr.next hok (.run o thread))
      (List.mem_append_right _ (List.mem_singleton_self _)) ((reassigned_ran thread).trans hre)

end Runs

namespace Sample

/-- The resolved ticket is commented on and swept; an assign that was shown version 2 is too late. -/
def leftAlone : List Action :=
  wholeLife ++ [.arrive (.addComment 102 reportante "Gracias")] ++ steps 4 40 4 ++
    [.arrive (.sweep 999999999)] ++ steps 5 50 2 ++
    [.arrive (.assign 102 ⟨4, 2⟩ administrador)] ++ steps 6 60 3

def resolvedOnce : Server := (play sparesResolved leftAlone).get (by decide +kernel)

/-- A resolved ticket, at version 3, is assigned to somebody else. -/
def reassignedAfter : Server :=
  (play anyMove (wholeLife ++ [.arrive (.assign 102 ⟨4, 3⟩ administrador)] ++ steps 4 40 3)).get
    (by decide +kernel)

end Sample

open Sample in
theorem freezes_resolved_once : resolvedOnce.Freezes world := by
  have hrun : Run sparesResolved { world := world } resolvedOnce := play_run (by decide +kernel)
  exact (freezes_iff_spares_resolved (hrun.mono fun _ _ _ => rfl)).mpr hrun

open Sample in
theorem resolved_ticket_reassigned : ¬ ∀ s, Run anyMove { world := world } s → s.Freezes world := by
  intro h
  have hrun : Run anyMove { world := world } reassignedAfter := play_run (by decide +kernel)
  obtain ⟨e, he, hre⟩ : ∃ e ∈ reassignedAfter.history, reassigned e = true :=
    List.any_eq_true.mp (by decide +kernel)
  exact reassigned_thaws hrun he hre (h _ hrun)

end TicketSystem
