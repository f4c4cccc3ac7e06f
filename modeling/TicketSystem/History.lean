import TicketSystem.Audit

namespace TicketSystem

open Relational Interleaved

/-- The part of a row that its history tells. -/
structure Told where
  assigneeId : Option Uuid := none
  status : TicketStatus := .abierto
  escalationLevel : Nat := 0
  deriving DecidableEq, Repr

def Told.apply (r : Told) : Change → Told
  | .created => r
  | .assigned toAssigneeId => { r with assigneeId := some toAssigneeId }
  | .moved toState => { r with status := toState }
  | .escalated toLevel => { r with escalationLevel := toLevel }

def replay (changes : List Change) : Told := changes.foldl Told.apply {}

theorem replay_snoc (changes : List Change) (c : Change) :
    replay (changes ++ [c]) = (replay changes).apply c := by
  simp [replay, List.foldl_append]

def Ticket.told (t : Ticket) : Told where
  assigneeId := t.assigneeId
  status := t.status
  escalationLevel := t.escalationLevel

def changesOf (id : Uuid) (ms : List Mutation) : List Change :=
  (ms.filter fun m => m.ticketId == id).map Mutation.change

@[simp] theorem changesOf_append (id : Uuid) (l l' : List Mutation) :
    changesOf id (l ++ l') = changesOf id l ++ changesOf id l' := by
  simp [changesOf]

@[simp] theorem changesOf_nil (id : Uuid) : changesOf id [] = [] := rfl

theorem changesOf_single (id : Uuid) (m : Mutation) :
    changesOf id [m] = if m.ticketId = id then [m.change] else [] := by
  by_cases h : m.ticketId = id <;> simp [changesOf, h]

/-- What a ticket's events say, in the order they were inserted in. -/
def World.historyOf (w : World) (id : Uuid) : List Change :=
  (w.events.rows.filter fun e => e.ticketId == id).filterMap fun e =>
    eventChange? e.eventType e.payload

theorem historyOf_eq (w : World) (id : Uuid) : w.historyOf id = changesOf id w.recorded := by
  unfold World.historyOf World.recorded
  induction w.events.rows with
  | nil => rfl
  | cons e l ih =>
    cases hc : eventChange? e.eventType e.payload with
    | none =>
      by_cases he : e.ticketId = id <;>
        simpa [he, hc, changesOf, TicketEvent.mutation?] using ih
    | some c =>
      by_cases he : e.ticketId = id <;>
        simpa [he, hc, changesOf, TicketEvent.mutation?] using ih

theorem Intent.told {q : Request} {past : List Seen} {g : TicketWhere} {d : TicketUpdate}
    {ev : TicketEventCreate} (h : Intent q past g d ev) {c : Change} (hc : d.change? = some c)
    (t : Ticket) : (d.apply t).told = t.told.apply c := by
  cases h with
  | assign => cases hc; rfl
  | @changeState _ dto _ _ _ _ _ _ now =>
    cases ht : dto.targetState <;> simp only [stateUpdate, ht] at hc ⊢ <;> cases hc <;> rfl
  | escalateOne => cases hc; rfl
  | sweep => cases hc; rfl

/-- What an entry adds to the changes of ticket `id` is what it did to its row. -/
theorem RowEffect.change {q : Request} {past : List Seen} {e : Executed} {id : Uuid}
    (h : RowEffect q past e id) :
    (changesOf id (Seen.mutation? e.obs).toList = [] ∧
        e.after.ticket? id = e.before.ticket? id) ∨
      (∃ t t' c, changesOf id (Seen.mutation? e.obs).toList = [c] ∧
        e.before.ticket? id = some t ∧ e.after.ticket? id = some t' ∧
        t'.told = t.told.apply c) ∨
      (∃ t', changesOf id (Seen.mutation? e.obs).toList = [.created] ∧
        e.before.ticket? id = none ∧ e.after.ticket? id = some t' ∧ t'.told = {}) := by
  cases h with
  | same kept other elsewhere =>
    refine .inl ⟨?_, kept⟩
    cases hm : Seen.mutation? e.obs with
    | none => rfl
    | some m =>
      have hid : m.ticketId ≠ id := by
        cases hc : Seen.created? e.obs with
        | some t =>
          cases (Seen.mutation?_of_created hc).symm.trans hm
          exact elsewhere t hc
        | none =>
          simp only [Seen.mutation?, hc, Option.map_none, Option.none_or, Seen.updated?,
            Option.bind_eq_some_iff, Option.map_eq_some_iff] at hm
          obtain ⟨gd, hu, i, hi, c, _, rfl⟩ := hm
          rintro rfl
          exact other gd.1 gd.2 hu hi
      rw [Option.toList_some, changesOf_single, if_neg hid]
  | updated intent obs target before _ after =>
    obtain ⟨c, hc, hu, _⟩ := intent.event obs
    refine .inr (.inl ⟨_, _, c, ?_, before, after, intent.told hc _⟩)
    rw [Seen.mutation?_of_update obs, hu, Option.toList_some, changesOf_single, if_pos target]
  | inserted _ obs target before after =>
    refine .inr (.inr ⟨_, ?_, before, after, rfl⟩)
    rw [Seen.mutation?_of_created obs, Option.toList_some, changesOf_single]
    exact if_pos target

section Runs

variable {ok : Server → Action → Bool} {w : World} {s : Server}

/-- A row is what its committed mutations replay to, and there is a row for each. -/
theorem Run.replays (fresh : w.Fresh) (h : Run ok { world := w } s) (id : Uuid) :
    (∀ t, s.world.ticket? id = some t → replay (changesOf id s.committed) = t.told) ∧
      (s.world.ticket? id = none → changesOf id s.committed = []) := by
  refine h.linked.invariant (I := fun h v =>
    (∀ t, v.ticket? id = some t →
      replay (changesOf id (h.filterMap fun e => Seen.mutation? e.obs)) = t.told) ∧
    (v.ticket? id = none → changesOf id (h.filterMap fun e => Seen.mutation? e.obs) = [])) ?_ ?_
  · refine ⟨fun t ht => ?_, fun _ => rfl⟩
    rw [fresh.ticket?] at ht
    cases ht
  · rintro a e b he ⟨hsome, hnone⟩
    obtain ⟨t, _, heff⟩ := h.effect he
    have happend : (a ++ [e]).filterMap (fun x => Seen.mutation? x.obs) =
        a.filterMap (fun x => Seen.mutation? x.obs) ++ (Seen.mutation? e.obs).toList := by
      cases hm : Seen.mutation? e.obs <;> simp [hm]
    rw [happend, changesOf_append]
    rcases (heff.row id).change with ⟨hc, hkept⟩ | ⟨t, t', c, hc, hb, ha, htold⟩ |
      ⟨t', hc, hb, ha, htold⟩
    · rw [hc, hkept, List.append_nil]
      exact ⟨hsome, hnone⟩
    · rw [hc, replay_snoc, hsome t hb, ha]
      exact ⟨fun x hx => by cases hx; exact htold.symm, fun hx => nomatch hx⟩
    · rw [hc, replay_snoc, hnone hb, ha]
      exact ⟨fun x hx => by cases hx; exact htold.symm, fun hx => nomatch hx⟩

end Runs

/-- Nothing fails, and no request updates a ticket while another still owes an event of it. -/
def exclusive (s : Server) : Action → Bool
  | .arrive _ => true
  | .run i o => decide (o.Unused s.world) && o.fault.isNone &&
      ((s.threads[i]?).bind Thread.next?).all fun c =>
        match c with
        | .one (.ticketUpdateMany g _) => s.owed.all fun m => g.id != some m.ticketId
        | _ => true
  | .stop _ => false

section Exclusive

variable {w : World} {s : Server}

theorem changesOf_perm {l l' : List Mutation} {b a : Option Mutation}
    (h : ∀ m, l'.count m + b.toList.count m = l.count m + a.toList.count m) (id : Uuid) :
    (changesOf id l' ++ changesOf id b.toList).Perm (changesOf id l ++ changesOf id a.toList) := by
  have hperm : (l' ++ b.toList).Perm (l ++ a.toList) :=
    List.perm_iff_count.mpr fun m => by simpa using h m
  rw [← changesOf_append, ← changesOf_append]
  exact (hperm.filter _).map _

theorem update_alone {i : Nat} {q : Request} {c : Cmd} {k : Except Err c.Res → Service Response}
    {o : Oracle} (hok : exclusive s (.run i o) = true)
    (thread : s.threads[i]? = some { request := q, state := .stmt c k }) {g : TicketWhere}
    {d : TicketUpdate} {id : Uuid} (hg : g.id = some id)
    (hc : c = .one (.ticketUpdateMany g d)) : changesOf id s.owed = [] := by
  subst hc
  simp only [exclusive, thread, Option.bind_some, Thread.next?, Option.all_some,
    Bool.and_eq_true, List.all_eq_true] at hok
  refine List.map_eq_nil_iff.mpr (List.filter_eq_nil_iff.mpr fun m hm he => ?_)
  have hne := hok.2 m hm
  rw [hg, beq_iff_eq.mp he] at hne
  simp at hne

theorem eq_of_perm_short {α : Type} {l l' : List α} (h : l'.Perm l) (hl : l.length ≤ 1) :
    l' = l := by
  match l, hl with
  | [], _ => exact h.eq_nil
  | [a], _ => exact List.perm_singleton.mp h

/-- What one command does to the changes of one ticket: those told, then the one owed, stay the
committed ones. -/
theorem Books.order {past : List Seen} {e : Executed} (h : Books past e) {id : Uuid}
    {owed owed' committed : List Change}
    (howed : (owed' ++ changesOf id (owes past).toList).Perm
      (owed ++ changesOf id (Seen.updated? e.obs).toList))
    (horder : changesOf id e.before.recorded ++ owed = committed) (hone : owed.length ≤ 1)
    (absent : e.before.ticket? id = none → committed = [])
    (alone : ∀ g d, g.id = some id → e.obs.cmd = .one (.ticketUpdateMany g d) → owed = [])
    (inserted : owes past ≠ none → ¬ Seen.Calm e.obs) :
    changesOf id e.after.recorded ++ owed' =
        committed ++ changesOf id (Seen.mutation? e.obs).toList ∧ owed'.length ≤ 1 := by
  rw [← horder]
  cases h with
  | idle before told after done =>
    simp only [before, after, Option.toList_none, changesOf_nil, List.append_nil] at howed
    rw [told, done, eq_of_perm_short howed hone]
    exact ⟨by simp, hone⟩
  | @created m before missing told after done =>
    simp only [before, after, Option.toList_none, changesOf_nil, List.append_nil] at howed
    rw [told, done, eq_of_perm_short howed hone, changesOf_append]
    refine ⟨?_, hone⟩
    -- nothing can be owed of a ticket that was not there
    by_cases hid : m.ticketId = id
    · rw [absent (hid ▸ missing), List.append_eq_nil_iff] at horder
      simp [horder.1, horder.2]
    · simp [changesOf_single, hid]
  | @updated m g d before cmd target told after done =>
    simp only [before, after, Option.toList_none, Option.toList_some, changesOf_nil,
      List.append_nil, changesOf_single] at howed
    rw [told, done, Option.toList_some, changesOf_single]
    by_cases hid : m.ticketId = id
    · have hnone := alone g d (hid ▸ target) cmd
      rw [if_pos hid, hnone, List.nil_append] at howed
      rw [if_pos hid, hnone, List.append_nil, List.perm_singleton.mp howed]
      exact ⟨rfl, by simp⟩
    · rw [if_neg hid, List.append_nil] at howed
      rw [if_neg hid, List.append_nil, eq_of_perm_short howed hone]
      exact ⟨rfl, hone⟩
  | @recorded m before told after done =>
    simp only [before, after, Option.toList_none, Option.toList_some, changesOf_nil,
      List.append_nil, changesOf_single] at howed
    rw [told, done, changesOf_append, changesOf_single, Option.toList_none, changesOf_nil,
      List.append_nil]
    by_cases hid : m.ticketId = id
    · rw [if_pos hid] at howed ⊢
      have hall := eq_of_perm_short howed hone
      have hlen := congrArg List.length hall
      have hnone : owed' = [] := by
        rw [← List.length_eq_zero_iff]
        simp only [List.length_append, List.length_singleton] at hlen
        omega
      rw [hnone, List.nil_append] at hall
      rw [hnone, ← hall]
      exact ⟨by simp, by simp⟩
    · rw [if_neg hid, List.append_nil] at howed
      rw [if_neg hid, List.append_nil, eq_of_perm_short howed hone]
      exact ⟨rfl, hone⟩
  | failed before calm => exact absurd calm (inserted before)

/-- In an exclusive run the events of a ticket and the one that is still owed, in this order,
tell its committed mutations. -/
theorem history_in_order (fresh : w.Fresh) (h : Run exclusive { world := w } s) (id : Uuid) :
    changesOf id s.world.recorded ++ changesOf id s.owed = changesOf id s.committed ∧
      (changesOf id s.owed).length ≤ 1 := by
  induction h with
  | start => simp [World.recorded, Server.owed, Server.committed, fresh.events, changesOf]
  | @next s s' a hr hok hstep ih =>
    cases hstep with
    | arrive q => rw [owed_arrive]; exact ih
    | stop thread => cases hok
    | @run i q c k o thread =>
      obtain ⟨hdue, hbooks⟩ := books_ran hr hok thread
      have howed := changesOf_perm (fun m => owed_ran hr hok thread m) id
      rw [hdue] at howed
      rw [committed_ran, changesOf_append]
      refine hbooks.order howed ih.1 ih.2 (Run.replays fresh hr id).2
        (fun g d hg hc => update_alone hok thread hg hc) fun hne => ?_
      simp only [exclusive, Bool.and_eq_true, decide_eq_true_eq, Option.isNone_iff_eq_none] at hok
      exact mutations_owing.recorded hok.1.1 hok.1.2 (hdue ▸ hne)

theorem never_stopped (h : Run exclusive { world := w } s) :
    ∀ t ∈ s.threads, t.stopped = false := by
  induction h with
  | start => simp
  | next _ hok hstep ih =>
    intro t ht
    cases hstep with
    | arrive q =>
      rcases List.mem_append.mp ht with ht | ht
      · exact ih t ht
      · cases List.mem_singleton.mp ht
        rfl
    | run o thread =>
      rcases List.mem_or_eq_of_mem_set ht with ht | rfl
      · exact ih t ht
      · rfl
    | stop thread => cases hok

end Exclusive

def Server.HistoryReplays (s : Server) : Prop :=
  ∀ id t, s.world.ticket? id = some t → replay (s.world.historyOf id) = t.told

/-- Where no request updates a ticket while another owes an event of it, the histories replay
to the rows whenever no request is running. -/
theorem history_replays {w : World} {s : Server} (fresh : w.Fresh)
    (h : Run exclusive { world := w } s) (quiet : s.Quiet) : s.HistoryReplays := by
  intro id t ht
  have howed : s.owed = [] := by
    refine List.filterMap_eq_nil_iff.mpr fun t ht => ?_
    rcases quiet t ht with hs | hn
    · cases (never_stopped h t ht).symm.trans hs
    · simp [Task.due?, hn]
  have horder := (history_in_order fresh h id).1
  rw [howed, changesOf_nil, List.append_nil] at horder
  rw [historyOf_eq, horder]
  exact (Run.replays fresh h id).1 t ht

/-- The version of a ticket that a response shows. -/
def Response.shows? : Response → Option (Uuid × Nat)
  | .created r => some (r.ticket.id, r.ticket.version)
  | .detail d => some (d.ticket.id, d.ticket.version)
  | .ticket t => some (t.id, t.version)
  | _ => none

/-- Who asks, and the ticket and version that an assign or a changeState sends. -/
def Request.sends? : Request → Option (User × Uuid × Nat)
  | .assign id dto actor => some (actor, id, dto.expectedVersion)
  | .changeState id dto actor => some (actor, id, dto.expectedVersion)
  | _ => none

def Request.user? : Request → Option User
  | .create _ user _ => some user
  | .getForUser _ user => some user
  | .assign _ _ actor => some actor
  | .changeState _ _ actor => some actor
  | .addComment _ actor _ => some actor
  | _ => none

/-- Every assign and changeState sends a version its user was shown in an earlier response;
nothing fails. -/
def honestClients (s : Server) : Action → Bool
  | .arrive q => q.sends?.all fun sent => s.threads.any fun t =>
    t.request.user? == some sent.1 &&
      match Thread.result? t with
      | some (.ok r) => r.shows? == some sent.2
      | _ => false
  | .run _ o => decide (o.Unused s.world) && o.fault.isNone
  | .stop _ => false

namespace Sample

/-- A second assign is served whole between the update and the event of the first. -/
def overlapped : List Action :=
  created ++ [.arrive (.getForUser 102 administrador)] ++ steps 1 10 2 ++
    [.arrive (.assign 102 ⟨3, 0⟩ administrador)] ++ steps 2 20 3 ++
    [.arrive (.getForUser 102 administrador)] ++ steps 3 30 2 ++
    [.arrive (.assign 102 ⟨4, 1⟩ administrador)] ++ steps 4 40 7 ++ steps 2 50 4

end Sample

open Sample in
theorem history_replays_assigned : ((play exclusive assigned).get (by decide)).HistoryReplays :=
  history_replays world_fresh (play_run (by decide)) (by decide)

open Sample in
theorem history_out_of_order :
    ¬ ∀ s, Run honestClients { world := world } s → s.Quiet → s.HistoryReplays := by
  intro h
  have hrun : Run honestClients { world := world }
    ((play honestClients overlapped).get (by decide)) := play_run (by decide)
  exact absurd (h _ hrun (by decide) 102 _ rfl) (by decide)

end TicketSystem
