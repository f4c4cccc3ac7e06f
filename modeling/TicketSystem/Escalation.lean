import Mathlib.Data.List.Nodup
import TicketSystem.Evolution
import TicketSystem.Owing

namespace TicketSystem

open Relational Interleaved

/-- The levels of a ticket climb from `a` to `b` by these steps, without a gap. -/
inductive Ladder : Nat → List (Nat × Nat) → Nat → Prop
  | nil {a : Nat} : Ladder a [] a
  | cons {a b c : Nat} {l : List (Nat × Nat)} (rise : a < b) (rest : Ladder b l c) :
      Ladder a ((a, b) :: l) c

namespace Ladder

variable {a b c : Nat} {l : List (Nat × Nat)}

theorem snoc (h : Ladder a l b) (rise : b < c) : Ladder a (l ++ [(b, c)]) c := by
  induction h with
  | nil => exact .cons rise .nil
  | cons first _ ih => exact .cons first (ih rise)

theorem length_le (h : Ladder a l b) : a + l.length ≤ b := by
  induction h with
  | nil => exact le_rfl
  | cons rise _ ih => rw [List.length_cons]; omega

theorem le_from (h : Ladder a l b) {x : Nat × Nat} (hx : x ∈ l) : a ≤ x.1 := by
  induction h with
  | nil => cases hx
  | cons rise _ ih =>
    rcases List.mem_cons.mp hx with rfl | hx
    · exact le_rfl
    · exact rise.le.trans (ih hx)

theorem pairwise (h : Ladder a l b) : l.Pairwise fun x y => x.1 < y.1 := by
  induction h with
  | nil => exact .nil
  | cons rise rest ih =>
    exact List.pairwise_cons.mpr ⟨fun y hy => rise.trans_le (rest.le_from hy), ih⟩

end Ladder

def sortByFrom (l : List (Nat × Nat)) : List (Nat × Nat) :=
  l.mergeSort fun x y => decide (x.1 ≤ y.1)

/-- A ladder can be read off its steps in any order. -/
theorem sortByFrom_of_perm {a b : Nat} {l l' : List (Nat × Nat)} (h : Ladder a l b)
    (hp : l'.Perm l) : sortByFrom l' = l := by
  have hsorted : (sortByFrom l').Pairwise fun x y => decide (x.1 ≤ y.1) = true :=
    List.pairwise_mergeSort (fun x y z hxy hyz => by simp at *; omega)
      (fun x y => by simp; omega) l'
  have hl : l.Pairwise fun x y => decide (x.1 ≤ y.1) = true :=
    h.pairwise.imp fun hxy => decide_eq_true hxy.le
  have hperm : (sortByFrom l').Perm l := (List.mergeSort_perm l' _).trans hp
  refine hperm.eq_of_pairwise (fun x y hx hy hxy hyx => ?_) hsorted hl
  have heq : x.1 = y.1 := le_antisymm (of_decide_eq_true hxy) (of_decide_eq_true hyx)
  have hnodup : (l.map Prod.fst).Nodup := List.pairwise_map.mpr (h.pairwise.imp fun hxy => hxy.ne)
  exact List.inj_on_of_nodup_map hnodup (hperm.mem_iff.mp hx) hy heq

structure Raise where
  ticketId : Uuid
  fromLevel : Nat
  toLevel : Nat
  deriving DecidableEq, Repr

def Payload.levels : Payload → Nat × Nat
  | .escalamiento fromLevel toLevel => (fromLevel, toLevel)
  | _ => (0, 0)

/-- The raise an escalamiento event tells. -/
def raiseOf? (ticketId : Uuid) (eventType : EventType) (payload : Payload) : Option Raise :=
  if eventType = .escalamiento then some ⟨ticketId, payload.levels.1, payload.levels.2⟩ else none

def World.raises (w : World) : List Raise :=
  w.events.rows.filterMap fun e => raiseOf? e.ticketId e.eventType e.payload

/-- The escalamiento events of a ticket, by their levels. -/
def World.escalations (w : World) (id : Uuid) : List (Nat × Nat) :=
  (w.events.rows.filter fun e => e.ticketId == id && e.eventType == .escalamiento).map fun e =>
    e.payload.levels

def TicketEventCreate.raise? (d : TicketEventCreate) : Option Raise :=
  raiseOf? d.ticketId d.eventType d.payload

def Cmd.raise? : Cmd → Option Raise
  | .one (.ticketEventCreate d) => d.raise?
  | _ => none

/-- The raise a committed update made. -/
def Seen.raise? (o : Seen) : Option Raise :=
  (Seen.update? o).bind fun gd =>
    match gd.1.id, gd.1.escalationLevel, gd.2.escalationLevel with
    | some id, some fromLevel, some toLevel => some ⟨id, fromLevel, toLevel⟩
    | _, _, _ => none

def raised (past : List Seen) : Option Raise := past.getLast?.bind Seen.raise?

theorem Seen.raise?_of_update {o : Seen} (h : Seen.update? o = none) : Seen.raise? o = none := by
  simp [Seen.raise?, h]

theorem Cmd.raise?_event {c : Cmd} (h : c.raise? ≠ none) : ∃ d, c = .one (.ticketEventCreate d) := by
  cases c with
  | transaction => exact absurd rfl h
  | one s => cases s <;> first | exact ⟨_, rfl⟩ | exact absurd rfl h

theorem Notes.raise? {q : Request} {d : TicketEventCreate} (h : Notes q d) : d.raise? = none := by
  cases h <;> rfl

/-- The event a request owes tells the raise it made. -/
theorem Intent.raise? {q : Request} {past : List Seen} {g : TicketWhere} {d : TicketUpdate}
    {ev : TicketEventCreate} (h : Intent q past g d ev) {o : Seen}
    (ho : Seen.update? o = some (g, d)) : Seen.raise? o = ev.raise? := by
  cases h with
  | assign => simp [Seen.raise?, ho, assignWhere, TicketEventCreate.raise?, asignacionEvent, raiseOf?]
  | @changeState _ dto =>
    cases ht : dto.targetState <;>
      simp [Seen.raise?, ho, stateWhere, TicketEventCreate.raise?, stateEvent, raiseOf?, ht]
  | escalateOne =>
    simp [Seen.raise?, ho, escalateWhere, escalateUpdate, TicketEventCreate.raise?,
      escalamientoEvent, raiseOf?, Payload.levels]
  | sweep =>
    simp [Seen.raise?, ho, escalateWhere, escalateUpdate, TicketEventCreate.raise?,
      escalamientoEvent, raiseOf?, Payload.levels]

theorem raises_owing : Owing Cmd.raise? Seen.raise? where
  event := Cmd.raise?_event
  update := Seen.raise?_of_update
  noted notes := notes.raise?
  repaid intent _ ho := (intent.raise? ho).symm

theorem raised_of_settled {past : List Seen} (h : Settled past) : raised past = none :=
  raises_owing.settled h

/-- Only sweeps, and escalations on their own, owe a raise. -/
theorem Issues.of_raise {q : Request} {past : List Seen} {c : Cmd} (h : Issues q past c)
    (hc : c.raise? ≠ none) : (∃ now, q = .sweep now) ∨
      ∃ id current target actor, q = .escalateOne id current target actor := by
  cases h with
  | reads reads => exact absurd (raises_owing.other (by rintro d rfl; cases reads)) hc
  | event intent committed =>
    cases intent with
    | assign => exact absurd rfl hc
    | @changeState _ dto =>
      refine absurd ?_ hc
      cases ht : dto.targetState <;>
        simp [Cmd.raise?, TicketEventCreate.raise?, stateEvent, raiseOf?, ht]
    | escalateOne => exact .inr ⟨_, _, _, _, rfl⟩
    | sweep => exact .inl ⟨_, rfl⟩
  | note notes => exact absurd notes.raise? hc
  | _ => exact absurd rfl hc

theorem World.Recorded.raises {e : TicketEvent} {w w' : World} (h : w.Recorded e w') :
    w'.raises = w.raises ++ (raiseOf? e.ticketId e.eventType e.payload).toList := by
  rw [World.raises, h.events, List.filterMap_append]
  cases hr : raiseOf? e.ticketId e.eventType e.payload <;> simp [World.raises, hr]

/-- A command records the raise that its request had made before it, unless it fails to. -/
theorem Effect.raises {q : Request} {past : List Seen} {e : Executed} (h : Effect q past e)
    (hdone : Seen.Calm e.obs → raised past = none) :
    e.after.raises = e.before.raises ++ (raised past).toList := by
  cases h with
  | quiet calm kept => simp [World.raises, kept.events, hdone calm]
  | created _ first _ write =>
    rw [raised_of_settled (settled_of_calm first), World.raises, Table.insert?_rows write.events,
      List.filterMap_append]
    rfl
  | updated intent _ write =>
    simp [World.raises, write.events, raised_of_settled intent.settled]
  | recorded intent due committed _ write =>
    rw [due, raised, List.getLast?_concat, Option.bind_some, intent.raise? committed]
    exact write.raises
  | noted notes first _ write =>
    rw [raised_of_settled (settled_of_calm first), write.raises]
    exact congrArg (fun r => _ ++ Option.toList r) notes.raise?
  | uploaded _ first _ write =>
    simp [World.raises, write.events, raised_of_settled (settled_of_calm first)]

def Raise.levels (r : Raise) : Nat × Nat := (r.fromLevel, r.toLevel)

/-- The raises of one ticket. -/
def climbs (id : Uuid) (l : List Raise) : List (Nat × Nat) :=
  (l.filter fun r => r.ticketId == id).map Raise.levels

theorem escalations_eq (w : World) (id : Uuid) : w.escalations id = climbs id w.raises := by
  simp only [World.escalations, World.raises, climbs]
  induction w.events.rows with
  | nil => rfl
  | cons e l ih =>
    by_cases htype : e.eventType = .escalamiento
    · by_cases hid : e.ticketId = id <;>
        simp [raiseOf?, htype, hid, ih, Raise.levels]
    · simpa [raiseOf?, htype] using ih

/-- The change of a ticket's level, as the worlds around an entry show it. -/
def levelChange? (id : Uuid) (e : Executed) : Option (Nat × Nat) :=
  match e.before.ticket? id, e.after.ticket? id with
  | some t, some t' =>
    if t.escalationLevel = t'.escalationLevel then none
    else some (t.escalationLevel, t'.escalationLevel)
  | _, _ => none

def Request.escalatesOne : Request → Bool
  | .escalateOne _ _ _ _ => true
  | _ => false

/-- What an entry did to the level of one ticket: nothing, or a raise; or the ticket is new. -/
inductive Climb (e : Executed) (id : Uuid) : Prop
  | level {t t' : Ticket} (before : e.before.ticket? id = some t)
      (after : e.after.ticket? id = some t') (same : t'.escalationLevel = t.escalationLevel)
      (closed : t.status = .resuelto → t'.status = .resuelto)
      (raised : climbs id (Seen.raise? e.obs).toList = [])
  | raise {t t' : Ticket} (before : e.before.ticket? id = some t)
      (after : e.after.ticket? id = some t') (rise : t.escalationLevel < t'.escalationLevel)
      (bound : t'.escalationLevel ≤ MAX_LEVEL) (unresolved : t.status ≠ .resuelto)
      (raised : climbs id (Seen.raise? e.obs).toList = [(t.escalationLevel, t'.escalationLevel)])
  | absent (before : e.before.ticket? id = none)
      (after : ∀ t, e.after.ticket? id = some t → t.escalationLevel = 0)
      (raised : climbs id (Seen.raise? e.obs).toList = [])

theorem Effect.climb {q : Request} {past : List Seen} {e : Executed} (h : Effect q past e)
    (hq : q.escalatesOne = false) (id : Uuid) : Climb e id := by
  cases h.row id with
  | same kept other =>
    have hraised : climbs id (Seen.raise? e.obs).toList = [] := by
      cases hr : Seen.raise? e.obs with
      | none => rfl
      | some r =>
        obtain ⟨gd, hu, hr⟩ := Option.bind_eq_some_iff.mp hr
        split at hr
        next id' _ _ hid _ _ =>
          cases hr
          have hne : id' ≠ id := fun heq => other gd.1 gd.2 hu (heq ▸ hid)
          simp [climbs, hne]
        next => cases hr
    cases hb : e.before.ticket? id with
    | none => exact .absent hb (fun t ht => by rw [kept, hb] at ht; cases ht) hraised
    | some t => exact .level hb (kept.trans hb) rfl (fun hs => hs) hraised
  | inserted _ obs _ before after =>
    refine .absent before (fun t ht => ?_) ?_
    · cases after.symm.trans ht
      rfl
    · rw [Seen.raise?_of_update (Seen.update?_of_created obs)]
      rfl
  | @updated g d ev t intent obs target before guard after =>
    cases intent with
    | assign =>
      exact .level before after rfl (fun hs => hs) (by simp [Seen.raise?, obs, assignUpdate, climbs])
    | @changeState _ dto _ _ _ _ _ checked now =>
      have hopen := (checkChangeState_ok checked).moves.open
      have hs := (stateWhere_matches.mp guard).2.2
      have hnone : (stateUpdate dto now).escalationLevel = none := by
        unfold stateUpdate
        split <;> rfl
      exact .level before after (stateUpdate_kept dto now t).2
        (fun hres => absurd (hs.symm.trans hres) hopen)
        (by simp [Seen.raise?, obs, hnone, climbs])
    | escalateOne => cases hq
    | @sweep _ id' current level _ _ _ rise bound =>
      obtain ⟨_, hstatus, hlevel⟩ := escalateWhere_matches.mp guard
      have hid : id' = id := target
      refine .raise before after (hlevel ▸ rise) bound hstatus ?_
      simp [Seen.raise?, obs, climbs, Raise.levels, escalateWhere, escalateUpdate,
        TicketUpdate.apply, hlevel, hid]

/-- Nothing fails and nothing stops, and levels are raised by sweeps only. -/
def sweeping (s : Server) : Action → Bool
  | .arrive q => !q.escalatesOne
  | .run _ o => decide (o.Unused s.world) && o.fault.isNone
  | .stop _ => false

def Server.Swept (s : Server) : Prop :=
  ∀ t ∈ s.threads, ∀ now, t.request = .sweep now → Thread.next? t = none

/-- The raises that were committed, oldest first. -/
def Server.raises (s : Server) : List Raise := recorded Seen.raise? s.history

section Runs

variable {ok : Server → Action → Bool} {w : World} {s : Server}

theorem sweeping_request (h : Run sweeping { world := w } s) {i : Nat} {t : Task}
    (ht : s.threads[i]? = some t) : t.request.escalatesOne = false := by
  obtain ⟨_, _, hok⟩ := h.arrived (Nat.zero_le _) ht
  simpa [sweeping] using hok

/-- Raises in the event table and raises about to be recorded are the raises committed. -/
theorem Run.raises_balance (h : Run sweeping { world := w } s) (r : Raise) :
    s.world.raises.count r + (s.owes Cmd.raise?).count r =
      w.raises.count r + s.raises.count r := by
  refine h.balance Cmd.raise? Seen.raise? World.raises raises_owing.arrival
    (fun u i q c k o hu hok thread r => ?_) r
  have hdue : c.raise? = raised (own i u.history) := raises_owing.thread hu thread
  have hnext : Run sweeping { world := w } (u.ran i q c k (Cmd.exec o c u.world)) :=
    hu.next hok (.run o thread)
  rw [raises_owing.ran hu hok thread]
  simp only [sweeping, Bool.and_eq_true, decide_eq_true_eq, Option.isNone_iff_eq_none] at hok
  obtain ⟨t, _, heff⟩ := hnext.effect rfl
  have htold := heff.raises fun calm => by
    by_contra hraised
    exact raises_owing.recorded hok.1 hok.2 (hdue ▸ hraised) calm
  change (Cmd.exec o c u.world).2.raises = u.world.raises ++ _ at htold
  rw [htold, hdue, List.count_append]

theorem owes_swept (h : Run sweeping { world := w } s) (swept : s.Swept) :
    s.owes Cmd.raise? = [] := by
  refine List.filterMap_eq_nil_iff.mpr fun t ht => ?_
  obtain ⟨i, ht'⟩ := List.mem_iff_getElem?.mp ht
  have hobeys := h.obeys serve_kept ht'
  have hone := sweeping_request h ht'
  have hdone := swept t ht
  obtain ⟨q, state, stopped⟩ := t
  cases state with
  | pure a => rfl
  | throw e => rfl
  | stmt c k =>
    by_contra hraise
    have hissues : Issues q (own i s.history) c := hobeys.1
    rcases hissues.of_raise hraise with ⟨now, rfl⟩ | ⟨_, _, _, _, rfl⟩
    · cases hdone now rfl
    · cases hone

/-- Whenever no sweep is in flight, the events tell the raises that were committed. -/
theorem Run.escalations (fresh : w.Fresh) (h : Run sweeping { world := w } s) (swept : s.Swept)
    (id : Uuid) : (s.world.escalations id).Perm (climbs id s.raises) := by
  have hperm : s.world.raises.Perm s.raises := by
    refine List.perm_iff_count.mpr fun r => ?_
    have hbalance := h.raises_balance r
    rw [owes_swept h swept] at hbalance
    simpa [World.raises, fresh.events] using hbalance
  rw [escalations_eq]
  exact (hperm.filter _).map _

theorem Run.climb (h : Run sweeping { world := w } s) {h₁ h₂ : List Executed} {e : Executed}
    (he : s.history = h₁ ++ e :: h₂) (id : Uuid) : Climb e id := by
  obtain ⟨t, ht, heff⟩ := h.effect he
  exact heff.climb (sweeping_request h ht) id

theorem climbs_snoc (id : Uuid) (h : List Executed) (e : Executed) :
    climbs id (recorded Seen.raise? (h ++ [e])) =
      climbs id (recorded Seen.raise? h) ++ climbs id (Seen.raise? e.obs).toList := by
  simp [recorded_snoc, climbs]

/-- The raises of a ticket lead from level 0 to the level it has. -/
theorem Run.ladder (fresh : w.Fresh) (h : Run sweeping { world := w } s) (id : Uuid) :
    (∀ t, s.world.ticket? id = some t →
      Ladder 0 (climbs id s.raises) t.escalationLevel ∧ t.escalationLevel ≤ MAX_LEVEL) ∧
    (s.world.ticket? id = none → climbs id s.raises = []) := by
  refine h.linked.invariant (I := fun h₁ v =>
    (∀ t, v.ticket? id = some t → Ladder 0 (climbs id (recorded Seen.raise? h₁)) t.escalationLevel ∧
      t.escalationLevel ≤ MAX_LEVEL) ∧
    (v.ticket? id = none → climbs id (recorded Seen.raise? h₁) = [])) ?_ fun h₁ e h₂ he hi => ?_
  · exact ⟨fun t ht => (nomatch (fresh.ticket? id).symm.trans ht), fun _ => rfl⟩
  · rw [climbs_snoc]
    cases Run.climb h he id with
    | level before after same _ raised =>
      rw [raised, List.append_nil]
      refine ⟨fun t ht => ?_, fun hnone => nomatch hnone.symm.trans after⟩
      cases after.symm.trans ht
      exact same ▸ hi.1 _ before
    | raise before after rise bound _ raised =>
      rw [raised]
      refine ⟨fun t ht => ?_, fun hnone => nomatch hnone.symm.trans after⟩
      cases after.symm.trans ht
      exact ⟨(hi.1 _ before).1.snoc rise, bound⟩
    | absent before after raised =>
      rw [raised, List.append_nil, hi.2 before]
      refine ⟨fun t ht => ?_, fun _ => rfl⟩
      rw [after t ht]
      exact ⟨.nil, Nat.zero_le _⟩

/-- The raises of a ticket are the changes of its level, in the order they were made. -/
theorem Run.levelChanges (h : Run sweeping { world := w } s) (id : Uuid) :
    s.history.filterMap (levelChange? id) = climbs id s.raises := by
  refine h.linked.invariant (I := fun h₁ _ =>
    h₁.filterMap (levelChange? id) = climbs id (recorded Seen.raise? h₁)) rfl fun h₁ e h₂ he hi => ?_
  rw [climbs_snoc, List.filterMap_append, hi]
  refine congrArg _ ?_
  cases Run.climb h he id with
  | level before after same _ raised => simp [raised, levelChange?, before, after, same]
  | raise before after rise _ _ raised => simp [raised, levelChange?, before, after, rise.ne]
  | absent before _ raised => simp [raised, levelChange?, before]

/-- A ticket's level never falls, and stays when the ticket is resolved. -/
structure Ticket.Rises (t t' : Ticket) : Prop where
  level : t.escalationLevel ≤ t'.escalationLevel
  resolved : t.status = .resuelto →
    t'.status = .resuelto ∧ t'.escalationLevel = t.escalationLevel

def World.Rises (u v : World) : Prop :=
  ∀ id t, u.ticket? id = some t → ∃ t', v.ticket? id = some t' ∧ t.Rises t'

theorem World.Rises.trans {u v x : World} (h : u.Rises v) (h' : v.Rises x) : u.Rises x := by
  intro id t ht
  obtain ⟨t', ht', hr⟩ := h id t ht
  obtain ⟨t'', ht'', hr'⟩ := h' id t' ht'
  refine ⟨t'', ht'', hr.level.trans hr'.level, fun hs => ?_⟩
  obtain ⟨hs', hl⟩ := hr.resolved hs
  obtain ⟨hs'', hl'⟩ := hr'.resolved hs'
  exact ⟨hs'', hl'.trans hl⟩

theorem Run.rises (h : Run sweeping { world := w } s) :
    (s.moments w).Pairwise World.Rises := by
  refine h.linked.pairwise (r := World.Rises) (fun _ _ _ => World.Rises.trans) fun e he => ?_
  obtain ⟨h₁, h₂, hh⟩ := List.append_of_mem he
  intro id t ht
  cases Run.climb h hh id with
  | level before after same closed =>
    cases before.symm.trans ht
    exact ⟨_, after, same.ge, fun hs => ⟨closed hs, same⟩⟩
  | raise before after rise _ unresolved =>
    cases before.symm.trans ht
    exact ⟨_, after, rise.le, fun hs => absurd hs unresolved⟩
  | absent before => cases before.symm.trans ht

/-- Levels are bounded and never fall, a resolved ticket keeps its own, and whenever no sweep
is in flight the escalamiento events of a ticket, sorted, are the changes of its level one by
one, from 0 to the level it has. -/
structure Server.Escalates (w : World) (s : Server) : Prop where
  bounded : ∀ u ∈ s.moments w, ∀ id t, u.ticket? id = some t → t.escalationLevel ≤ 2
  rises : (s.moments w).Pairwise World.Rises
  chain : s.Swept → ∀ id t, s.world.ticket? id = some t →
    Ladder 0 (sortByFrom (s.world.escalations id)) t.escalationLevel
  once : s.Swept → ∀ id,
    sortByFrom (s.world.escalations id) = s.history.filterMap (levelChange? id)
  few : s.Swept → ∀ id, (s.world.escalations id).length ≤ 2

theorem Run.bounded (fresh : w.Fresh) (h : Run sweeping { world := w } s) :
    ∀ u ∈ s.moments w, ∀ id t, u.ticket? id = some t → t.escalationLevel ≤ MAX_LEVEL := by
  refine h.linked.always (I := fun u => ∀ id t, u.ticket? id = some t →
    t.escalationLevel ≤ MAX_LEVEL) (fun id t ht => ?_) fun e he hi id t ht => ?_
  · cases (fresh.ticket? id).symm.trans ht
  · obtain ⟨h₁, h₂, hh⟩ := List.append_of_mem he
    cases Run.climb h hh id with
    | level before after same =>
      cases after.symm.trans ht
      exact same ▸ hi id _ before
    | raise _ after _ bound =>
      cases after.symm.trans ht
      exact bound
    | absent _ after => exact (after t ht).trans_le (Nat.zero_le _)

theorem Run.sorted (fresh : w.Fresh) (h : Run sweeping { world := w } s) (swept : s.Swept)
    (id : Uuid) : sortByFrom (s.world.escalations id) = climbs id s.raises := by
  have hperm := Run.escalations fresh h swept id
  cases ht : s.world.ticket? id with
  | none =>
    have hnil := (Run.ladder fresh h id).2 ht
    rw [hnil, List.perm_nil] at hperm
    rw [hperm, hnil]
    exact List.mergeSort_nil
  | some t => exact sortByFrom_of_perm ((Run.ladder fresh h id).1 t ht).1 hperm

theorem Run.few (fresh : w.Fresh) (h : Run sweeping { world := w } s) (swept : s.Swept)
    (id : Uuid) : (s.world.escalations id).length ≤ 2 := by
  rw [(Run.escalations fresh h swept id).length_eq]
  cases ht : s.world.ticket? id with
  | none => simp [(Run.ladder fresh h id).2 ht]
  | some t =>
    obtain ⟨hladder, hbound⟩ := (Run.ladder fresh h id).1 t ht
    have hlength := hladder.length_le
    have hmax : MAX_LEVEL = 2 := rfl
    omega

theorem escalation_climbs (fresh : w.Fresh) (h : Run sweeping { world := w } s) :
    s.Escalates w where
  bounded := Run.bounded fresh h
  rises := Run.rises h
  chain swept id t ht := by
    rw [Run.sorted fresh h swept id]
    exact ((Run.ladder fresh h id).1 t ht).1
  once swept id := (Run.sorted fresh h swept id).trans (Run.levelChanges h id).symm
  few swept id := Run.few fresh h swept id

end Runs

namespace Sample

/-- Two sweeps with clocks of their own overlap on one ticket: the first raises it to level 1
between the read and the update of the second, and a third raises it to level 2. -/
def overlapping : List Action :=
  created ++ [.arrive (.sweep 2400000), .arrive (.sweep 2500000)] ++ steps 2 10 3 ++
    steps 1 20 5 ++ steps 2 30 1 ++ [.arrive (.sweep 9000000)] ++ steps 3 40 5

def sweptTwice : Server := (play sweeping overlapping).get (by decide +kernel)

end Sample

open Sample in
theorem escalation_climbs_overlapped : sweptTwice.Escalates world ∧ sweptTwice.Swept := by
  refine ⟨escalation_climbs world_fresh (play_run (by decide +kernel)), fun t ht _ _ => ?_⟩
  have hover : ∀ t ∈ sweptTwice.threads, (Thread.next? t).isNone := by decide +kernel
  exact Option.isNone_iff_eq_none.mp (hover t ht)

end TicketSystem
