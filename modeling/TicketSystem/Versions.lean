import TicketSystem.Evolution

namespace TicketSystem

open Relational Interleaved

/-- What a client sees of a ticket that the service may change. -/
structure Visible where
  status : TicketStatus
  assigneeId : Option Uuid
  escalationLevel : Nat
  rootCause : Option String
  solution : Option String
  resolvedAt : Option Time

def Ticket.visible (t : Ticket) : Visible where
  status := t.status
  assigneeId := t.assigneeId
  escalationLevel := t.escalationLevel
  rootCause := t.rootCause
  solution := t.solution
  resolvedAt := t.resolvedAt

def AgreeOnVersions (u v : World) : Prop :=
  ∀ id t t', u.ticket? id = some t → v.ticket? id = some t' → t.version = t'.version →
    t.visible = t'.visible

def EqualVersions (w : World) (s : Server) : Prop :=
  ∀ u ∈ s.moments w, ∀ v ∈ s.moments w, AgreeOnVersions u v

def wroteLevel (e : Executed) : Bool :=
  (Seen.update? e.obs).any fun gd => gd.2.escalationLevel.isSome

def sweepsOnly (_ : Server) : Action → Bool
  | .arrive (.escalateOne _ _ _ _) => false
  | _ => true

/-- The next statement of a thread is the update of an escalation, a row satisfies its guard,
and nothing strikes it. -/
def escalates (s : Server) : Action → Bool
  | .run i o => ((s.threads[i]?).bind Thread.next?).any fun c =>
    match c with
    | .one (.ticketUpdateMany g d) =>
      d.escalationLevel.isSome && (o.fault.isNone && s.world.tickets.rows.any g.matches)
    | _ => false
  | _ => false

def unescalated (s : Server) (a : Action) : Bool := sweepsOnly s a && !escalates s a

/-- The later row has a later version, or is the same ticket. -/
structure Ticket.Advances (t t' : Ticket) : Prop where
  version : t.version ≤ t'.version
  visible : t.version = t'.version → t.visible = t'.visible

def World.Advances (w w' : World) : Prop :=
  ∀ id t, w.ticket? id = some t → ∃ t', w'.ticket? id = some t' ∧ t.Advances t'

theorem World.Advances.refl (w : World) : w.Advances w :=
  fun _ t h => ⟨t, h, Nat.le_refl _, fun _ => rfl⟩

theorem World.Advances.trans {u v w : World} (h : u.Advances v) (h' : v.Advances w) :
    u.Advances w := by
  intro id t ht
  obtain ⟨t', ht', hv, hs⟩ := h id t ht
  obtain ⟨t'', ht'', hv', hs'⟩ := h' id t' ht'
  refine ⟨t'', ht'', hv.trans hv', fun heq => ?_⟩
  exact (hs (by omega)).trans (hs' (by omega))

theorem World.Advances.agree {u v : World} (h : u.Advances v) : AgreeOnVersions u v := by
  intro id t t' ht ht' heq
  obtain ⟨t'', ht'', hadv⟩ := h id t ht
  cases ht'.symm.trans ht''
  exact hadv.visible heq

instance : Std.Symm AgreeOnVersions where
  symm _ _ h id t t' ht ht' heq := (h id t' t ht' ht heq.symm).symm

theorem Intent.version_moves {q : Request} {past : List Seen} {g : TicketWhere}
    {d : TicketUpdate} {ev : TicketEventCreate} (h : Intent q past g d ev)
    (hd : d.escalationLevel = none) (t : Ticket) : (d.apply t).version = t.version + 1 := by
  cases h with
  | assign => rfl
  | changeState => exact stateUpdate_version _ _ t
  | escalateOne => cases hd
  | sweep => cases hd

/-- A sweep raises the level of the row it matches and leaves its version. -/
theorem Intent.sweep_raises {q : Request} {past : List Seen} {g : TicketWhere}
    {d : TicketUpdate} {ev : TicketEventCreate} (h : Intent q past g d ev)
    (hd : d.escalationLevel.isSome) (hq : ∀ id current target actor,
      q ≠ .escalateOne id current target actor) {t : Ticket} (hm : g.matches t = true) :
    (d.apply t).version = t.version ∧ t.escalationLevel < (d.apply t).escalationLevel := by
  cases h with
  | assign => cases hd
  | changeState =>
    unfold stateUpdate at hd
    split at hd <;> cases hd
  | escalateOne => exact absurd rfl (hq _ _ _ _)
  | sweep _ raise _ => exact ⟨rfl, (escalateWhere_matches.mp hm).2.2 ▸ raise⟩

theorem wroteLevel_ran {s : Server} {i : Nat} {q : Request} {c : Cmd}
    {k : Except Err c.Res → Service Response} {o : Oracle}
    (thread : s.threads[i]? = some { request := q, state := .stmt c k }) :
    wroteLevel { tid := i, obs := ⟨c, (Cmd.exec o c s.world).1⟩, before := s.world,
                 after := (Cmd.exec o c s.world).2 } = escalates s (.run i o) := by
  simp only [escalates, thread, Option.bind_some, Thread.next?, Option.any_some, wroteLevel]
  split
  next g d =>
    rw [update?_exec]
    by_cases hwrites : (o.fault.isNone && s.world.tickets.rows.any g.matches) = true
    · simp [hwrites]
    · simp [hwrites]
  next hother =>
    rw [Seen.update?_of_other hother]
    rfl

theorem Effect.advances {q : Request} {past : List Seen} {e : Executed} (h : Effect q past e)
    (hno : wroteLevel e = false) : e.before.Advances e.after := by
  intro id t ht
  cases h.row id with
  | same kept => exact ⟨t, kept.trans ht, Nat.le_refl _, fun _ => rfl⟩
  | inserted _ _ _ before => cases before.symm.trans ht
  | @updated g d ev _ intent obs _ before _ after =>
    cases before.symm.trans ht
    have hd : d.escalationLevel = none := by simpa [wroteLevel, obs] using hno
    have hv := intent.version_moves hd t
    exact ⟨_, after, by omega, fun heq => by omega⟩

section Runs

variable {w : World} {s : Server}

theorem Run.equal_versions (h : Run unescalated { world := w } s) : EqualVersions w s := by
  have hpairs : (s.moments w).Pairwise World.Advances := by
    refine Run.moments_related (fun _ _ _ => World.Advances.trans) Effect.advances wroteLevel_ran
      (fun _ _ hok => ?_) h
    simp only [unescalated, Bool.and_eq_true, Bool.not_eq_true'] at hok
    exact hok.2
  intro u hu v hv
  exact (hpairs.imp World.Advances.agree).forall_of_forall
    (fun x _ => (World.Advances.refl x).agree) hu hv

/-- Before and after an escalation the ticket has one version and two levels. -/
theorem escalation_splits_version (h : Run sweepsOnly { world := w } s) {e : Executed}
    (he : e ∈ s.history) (hesc : wroteLevel e = true) : ¬ EqualVersions w s := by
  intro heq
  obtain ⟨h₁, h₂, hh⟩ := List.append_of_mem he
  obtain ⟨thread, hthread, heff⟩ := h.effect hh
  have hq : ∀ id current target actor,
      thread.request ≠ .escalateOne id current target actor := by
    rintro id current target actor hq
    obtain ⟨u, _, hok⟩ := h.arrived (Nat.zero_le _) hthread
    rw [hq] at hok
    cases hok
  cases heff with
  | quiet calm _ => simp [wroteLevel, calm.update] at hesc
  | created _ _ obs _ => simp [wroteLevel, Seen.update?_of_created obs] at hesc
  | recorded _ _ _ obs _ => simp [wroteLevel, Seen.update?_of_event obs] at hesc
  | noted _ _ obs _ => simp [wroteLevel, Seen.update?_of_event obs] at hesc
  | uploaded _ _ calm _ => simp [wroteLevel, calm.update] at hesc
  | @updated g d ev intent obs write =>
    obtain ⟨t, hb, hm, ha⟩ := write.row
    have hd : d.escalationLevel.isSome := by simpa [wroteLevel, obs] using hesc
    obtain ⟨hv, hlt⟩ := intent.sweep_raises hd hq hm
    have hsame := heq _ (h.linked.before_mem he) _ (List.mem_cons_of_mem _
      (List.mem_map_of_mem he)) _ t _ hb ha hv.symm
    have hlevel : t.escalationLevel = (d.apply t).escalationLevel :=
      congrArg Visible.escalationLevel hsame
    omega

/-- What agrees over a run agreed over every shorter one. -/
theorem EqualVersions.before {s' : Server} {a : Action} (heq : EqualVersions w s')
    (hstep : Step serve Cmd.exec s a s') : EqualVersions w s := by
  cases hstep with
  | arrive q => exact heq
  | stop thread => exact heq
  | @run i q c k o thread =>
    have hmem : ∀ u ∈ s.moments w,
        u ∈ Server.moments w (s.ran i q c k (Cmd.exec o c s.world)) := by
      intro u hu
      simp only [Server.moments, Pool.ran, List.map_append, List.mem_cons, List.mem_append] at hu ⊢
      exact hu.imp_right .inl
    exact fun u hu v hv => heq u (hmem u hu) v (hmem v hv)

/-- Equal version means equal ticket, over a run, exactly if no step of it writes an
escalation. -/
theorem equal_versions_iff_unescalated (h : Run sweepsOnly { world := w } s) :
    EqualVersions w s ↔ Run unescalated { world := w } s := by
  refine h.iff_avoids (fun s a => escalates s a = true)
    (fun s a hok hno => by simp [unescalated, hok, hno]) (fun _ => Run.equal_versions)
    (fun _ _ _ hstep heq => heq.before hstep) fun s a s' hr hok hesc hstep => ?_
  cases hstep with
  | arrive q => cases hesc
  | stop thread => cases hesc
  | run o thread =>
    exact escalation_splits_version (hr.next hok (.run o thread))
      (List.mem_append_right _ (List.mem_singleton_self _)) ((wroteLevel_ran thread).trans hesc)

namespace Sample

/-- A sweep ten minutes after a ticket was created finds it, and leaves it at its level. -/
def unswept : Server :=
  (play unescalated (created ++ [.arrive (.sweep 600000)] ++ steps 1 10 3)).get (by decide)

/-- Forty minutes after a ticket was created a sweep escalates it. -/
def escalation : List Action := created ++ [.arrive (.sweep 2400000)] ++ steps 1 10 5

def escalated : Server := (play sweepsOnly escalation).get (by decide +kernel)

end Sample

theorem equal_versions_of_unswept : EqualVersions Sample.world Sample.unswept := by
  have hrun : Run unescalated { world := Sample.world } Sample.unswept :=
    Sample.play_run (by decide)
  have hsweeps : Run sweepsOnly { world := Sample.world } Sample.unswept :=
    hrun.mono fun _ _ h => (Bool.and_eq_true_iff.mp h).1
  exact (equal_versions_iff_unescalated hsweeps).mpr hrun

open Sample in
theorem escalation_without_version :
    ¬ ∀ s, Run sweepsOnly { world := world } s → EqualVersions world s := by
  intro h
  have hrun : Run sweepsOnly { world := world } escalated := play_run (by decide +kernel)
  obtain ⟨e, he, hesc⟩ : ∃ e ∈ escalated.history, wroteLevel e = true :=
    List.any_eq_true.mp (by decide +kernel)
  exact escalation_splits_version hrun he hesc (h _ hrun)

end Runs

end TicketSystem
