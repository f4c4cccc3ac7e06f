import Mathlib.Algebra.Order.Field.Basic
import Mathlib.Algebra.Order.Ring.Cast
import Mathlib.Data.Rat.Cast.Order
import TicketSystem.Effects
import TicketSystem.Server

namespace TicketSystem

open Relational Interleaved

/-- No rule is about a resolved ticket, or about a priority without one. -/
def sweptLevel (rules : Priority → Option SlaRule) (now : Time) (t : Ticket) : Nat :=
  if t.status = .resuelto then t.escalationLevel
  else
    match rules t.priority with
    | none => t.escalationLevel
    | some rule =>
      max t.escalationLevel (decideEscalationLevel (elapsedMinutes now t.createdAt) rule)

def Ticket.swept (rules : Priority → Option SlaRule) (now : Time) (t : Ticket) : Ticket :=
  { t with escalationLevel := sweptLevel rules now t }

def Ticket.rises (rules : Priority → Option SlaRule) (now : Time) (t : Ticket) : Bool :=
  t.escalationLevel < sweptLevel rules now t

section Level

variable {rules : Priority → Option SlaRule} {now later : Time} {t : Ticket}

/-- The level is monotone in time, whatever the thresholds. -/
theorem decideEscalationLevel_mono {a b : ℚ} (h : a ≤ b) (rule : SlaRule) :
    decideEscalationLevel a rule ≤ decideEscalationLevel b rule := by
  unfold decideEscalationLevel
  by_cases hb₂ : b ≥ rule.escalationL2Minutes
  · rw [if_pos hb₂]
    exact decideEscalationLevel_le a rule
  · have ha₂ : ¬ a ≥ rule.escalationL2Minutes := fun ha => hb₂ (ha.trans h)
    rw [if_neg hb₂, if_neg ha₂]
    by_cases ha₁ : a ≥ rule.escalationL1Minutes
    · rw [if_pos ha₁, if_pos (ha₁.trans h)]
    · rw [if_neg ha₁]
      exact Nat.zero_le _

theorem elapsedMinutes_mono (h : now ≤ later) (createdAt : Time) :
    elapsedMinutes now createdAt ≤ elapsedMinutes later createdAt := by
  unfold elapsedMinutes
  have hms : ((now - createdAt : Int) : ℚ) ≤ ((later - createdAt : Int) : ℚ) :=
    Int.cast_le.mpr (Int.sub_le_sub_right h createdAt)
  exact div_le_div_of_nonneg_right hms (by norm_num)

theorem le_sweptLevel (rules : Priority → Option SlaRule) (now : Time) (t : Ticket) :
    t.escalationLevel ≤ sweptLevel rules now t := by
  unfold sweptLevel
  split
  next => exact le_rfl
  next =>
    split
    next => exact le_rfl
    next => exact le_max_left _ _

theorem swept_of_not_rises (h : ¬ t.rises rules now = true) : t.swept rules now = t := by
  have hlevel : sweptLevel rules now t = t.escalationLevel := by
    have hle := le_sweptLevel rules now t
    simp only [Ticket.rises, decide_eq_true_eq] at h
    omega
  rw [Ticket.swept, hlevel]

/-- A later sweep makes up for the earlier one. -/
theorem swept_swept (h : now ≤ later) : (t.swept rules now).swept rules later =
    t.swept rules later := by
  have hlevel : sweptLevel rules later (t.swept rules now) = sweptLevel rules later t := by
    unfold sweptLevel Ticket.swept sweptLevel
    dsimp only
    split
    next => rfl
    next =>
      cases hrule : rules t.priority with
      | none => rfl
      | some rule =>
        have hmono := decideEscalationLevel_mono (elapsedMinutes_mono h t.createdAt) rule
        dsimp only
        omega
  rw [Ticket.swept, hlevel]
  rfl

theorem not_rises_swept : ¬ (t.swept rules now).rises rules now = true := by
  have hsame : (t.swept rules now).swept rules now = t.swept rules now := swept_swept le_rfl
  have hlevel := congrArg Ticket.escalationLevel hsame
  simp only [Ticket.rises, decide_eq_true_eq]
  exact hlevel.le.not_gt

/-- Only a candidate of the sweep can rise. -/
theorem sweepWhere_of_rises (h : t.rises rules now = true) : sweepWhere.matches t = true := by
  simp only [Ticket.rises, decide_eq_true_eq] at h
  have hopen : t.status ≠ .resuelto := by
    intro hstatus
    simp [sweptLevel, hstatus] at h
  have hlow : t.escalationLevel < MAX_LEVEL := by
    unfold sweptLevel at h
    rw [if_neg hopen] at h
    cases hrule : rules t.priority with
    | none => simp [hrule] at h
    | some rule =>
      have hle := decideEscalationLevel_le (elapsedMinutes now t.createdAt) rule
      rw [hrule] at h
      dsimp only at h
      unfold MAX_LEVEL
      omega
  simp [TicketWhere.matches, sweepWhere, hopen, hlow]

theorem open_of_sweepWhere (h : sweepWhere.matches t = true) : t.status ≠ .resuelto := by
  simp only [TicketWhere.matches, sweepWhere, Option.all_none, Option.all_some, Bool.true_and,
    Bool.and_true, Bool.and_eq_true, bne_iff_ne] at h
  exact h.1

end Level

/-- No call is struck, and the ids that are drawn are new. -/
structure Undisturbed (os : Nat → Oracle) (w : World) : Prop where
  fault : ∀ n, (os n).fault = none
  event : ∀ n, ∀ e ∈ w.events.rows, e.id ≠ (os n).uuid
  user : ∀ n, ∀ u ∈ w.users.rows, u.id ≠ (os n).uuid
  distinct : ∀ m n, (os m).uuid = (os n).uuid → m = n

/-- What an event tells, but for its id and its time. -/
def TicketEvent.told (e : TicketEvent) : TicketEventCreate where
  ticketId := e.ticketId
  actorId := e.actorId
  eventType := e.eventType
  payload := e.payload

def Ticket.raiseEvent (rules : Priority → Option SlaRule) (now : Time) (actor : Uuid)
    (t : Ticket) : TicketEventCreate :=
  escalamientoEvent t.id t.escalationLevel (sweptLevel rules now t) actor

/-- The tickets `ts` are swept, and nothing else is done but to record it. -/
structure Raises (now : Time) (actor : Uuid) (ts : List Ticket) (w w' : World) : Prop where
  tickets : w'.tickets.rows = w.tickets.rows.map fun u =>
    if u.id ∈ ts.map Ticket.id then u.swept w.slaRules now else u
  events : ∃ added, w'.events.rows = w.events.rows ++ added ∧ added.map TicketEvent.told =
    (ts.filter (Ticket.rises w.slaRules now)).map (Ticket.raiseEvent w.slaRules now actor)
  rest : w' = { w with tickets := w'.tickets, events := w'.events }

section Loop

variable {now : Time} {actor : Uuid} {os : Nat → Oracle} {w w' w'' : World} {t : Ticket}

theorem Raises.rules {ts : List Ticket} (h : Raises now actor ts w w') :
    w'.slaRules = w.slaRules := by
  rw [h.rest]

theorem Raises.nil (w : World) : Raises now actor [] w w where
  tickets := by simp
  events := ⟨[], by simp, rfl⟩
  rest := rfl

theorem Raises.cons {ts : List Ticket} (h : Raises now actor [t] w w')
    (hs : Raises now actor ts w' w'') : Raises now actor (t :: ts) w w'' where
  tickets := by
    rw [hs.tickets, h.tickets, h.rules, List.map_map]
    refine List.map_congr_left fun u _ => ?_
    have hid : ∀ v : Ticket, (v.swept w.slaRules now).id = v.id := fun _ => rfl
    by_cases hu : u.id = t.id
    · simp [hu, hid, swept_swept]
    · simp [hu]
  events := by
    obtain ⟨first, hfirst, htold⟩ := h.events
    obtain ⟨rest, hrest, htold'⟩ := hs.events
    refine ⟨first ++ rest, by rw [hrest, hfirst, List.append_assoc], ?_⟩
    rw [h.rules] at htold'
    rw [List.map_append, htold, htold', ← List.map_append, ← List.filter_append,
      List.singleton_append]
  rest := by
    rw [hs.rest, h.rest]

/-- The update of `escalateOne` finds the ticket as the sweep has read it. -/
theorem exec_raise {o : Oracle} (ht : w.ticket? t.id = some t) (hopen : t.status ≠ .resuelto)
    (target : Nat) : Stmt.exec o
      (.ticketUpdateMany (escalateWhere t.id t.escalationLevel) (escalateUpdate target)) w =
      (.ok 1, { w with
        tickets := w.tickets.updateMany (escalateWhere t.id t.escalationLevel).matches
          (escalateUpdate target).rewrite }) := by
  have hmatch : (escalateWhere t.id t.escalationLevel).matches t = true := by
    simp [TicketWhere.matches, escalateWhere, hopen]
  have hcount : w.tickets.count (escalateWhere t.id t.escalationLevel).matches = 1 := by
    rw [count_matches rfl, ht, Option.any_some, hmatch]
    rfl
  rw [Stmt.exec, hcount]

theorem raise_rows (ht : w.ticket? t.id = some t) (hopen : t.status ≠ .resuelto) :
    (w.tickets.updateMany (escalateWhere t.id t.escalationLevel).matches
      (escalateUpdate (sweptLevel w.slaRules now t)).rewrite).rows =
      w.tickets.rows.map fun u =>
        if u.id ∈ [t].map Ticket.id then u.swept w.slaRules now else u := by
  rw [Table.updateMany_rows]
  refine List.map_congr_left fun u hu => ?_
  by_cases hid : u.id = t.id
  · have hsame : u = t := by
      have hfound := World.ticket?_of_mem hu
      rw [hid, ht] at hfound
      exact (Option.some.inj hfound).symm
    subst hsame
    have hmatch : (escalateWhere u.id u.escalationLevel).matches u = true := by
      simp [TicketWhere.matches, escalateWhere, hopen]
    simp only [Table.Rewrite.at, hmatch, if_true, List.map_singleton, List.mem_singleton]
    rfl
  · have hmatch : (escalateWhere t.id t.escalationLevel).matches u = false := by
      simp [TicketWhere.matches, escalateWhere, hid]
    simp [Table.Rewrite.at, hmatch, hid]

theorem Undisturbed.shift (h : Undisturbed os w) (k : Nat) :
    Undisturbed (fun n => os (n + k)) w where
  fault n := h.fault (n + k)
  event n := h.event (n + k)
  user n := h.user (n + k)
  distinct m n hmn := by
    have heq := h.distinct (m + k) (n + k) hmn
    omega

/-- Nothing rises: the ticket stays as it is. -/
theorem Raises.quiet (actor : Uuid) (ht : w.ticket? t.id = some t)
    (h : ¬ t.rises w.slaRules now = true) : Raises now actor [t] w w where
  tickets := by
    refine ((List.map_congr_left fun u hu => ?_).trans (List.map_id _)).symm
    split
    next hid =>
      have hfound := World.ticket?_of_mem hu
      rw [List.mem_singleton.mp hid, ht] at hfound
      rw [← Option.some.inj hfound]
      exact swept_of_not_rises h
    next => rfl
  events := ⟨[], by simp, by simp [h]⟩
  rest := rfl

/-- The update and its event. -/
theorem escalateOne_then (actor : Uuid) {α : Type} (f : Bool → Service α) (h : Undisturbed os w)
    (ht : w.ticket? t.id = some t) (hopen : t.status ≠ .resuelto)
    (hrises : t.rises w.slaRules now = true) : ∃ w',
    ((escalateOne t.id t.escalationLevel (sweptLevel w.slaRules now t) actor).bind f).alone
      Cmd.exec os w = (f true).alone Cmd.exec (fun n => os (n + 2)) w' ∧
    Undisturbed (fun n => os (n + 2)) w' ∧ Raises now actor [t] w w' := by
  have hraise := exec_raise (o := os 0) ht hopen (sweptLevel w.slaRules now t)
  generalize hw₁ : ({ w with
    tickets := w.tickets.updateMany (escalateWhere t.id t.escalationLevel).matches
      (escalateUpdate (sweptLevel w.slaRules now t)).rewrite } : World) = w₁ at hraise
  have hevents : w₁.events = w.events := by rw [← hw₁]
  obtain ⟨events, hrow, hrows⟩ :=
    exec_ticketEventCreate (o := os 1) (w := w₁) (t.raiseEvent w.slaRules now actor)
      (hevents ▸ h.event 1)
  rw [hevents] at hrows
  refine ⟨{ w₁ with events := events }, ?_, ?_, ?_⟩
  · unfold escalateOne
    rw [Prog.bind_eq, Prog.bind_assoc, call_alone (h.fault 0) hraise]
    simp only [ne_eq, not_true_eq_false, if_false]
    rw [Prog.bind_eq, Prog.bind_assoc]
    exact call_alone (h.fault 1) hrow
  · have hshift := h.shift 2
    refine ⟨hshift.fault, fun n e he => ?_, fun n u hu => ?_, hshift.distinct⟩
    · rcases List.mem_append.mp (hrows ▸ he) with he | he
      · exact hshift.event n e he
      · cases List.mem_singleton.mp he
        intro hid
        have heq := h.distinct 1 (n + 2) hid
        omega
    · rw [← hw₁] at hu
      exact hshift.user n u hu
  · constructor
    · rw [← hw₁]
      exact raise_rows ht hopen
    · refine ⟨_, hrows, ?_⟩
      simp only [List.filter_cons, hrises, if_true, List.filter_nil]
      rfl
    · rw [← hw₁]

theorem sweepTicket_then (now : Time) (actor : Uuid) {α : Type} (f : Bool → Service α)
    (h : Undisturbed os w) (ht : w.ticket? t.id = some t) (hopen : t.status ≠ .resuelto) : ∃ os' w',
    ((sweepTicket now actor t).bind f).alone Cmd.exec os w =
      (f (t.rises w.slaRules now)).alone Cmd.exec os' w' ∧
    Undisturbed os' w' ∧ Raises now actor [t] w w' := by
  have hrule : Stmt.exec (os 0) (.slaRuleFindUnique t.priority) w =
      (.ok (w.slaRules t.priority), w) := rfl
  unfold sweepTicket
  rw [Prog.bind_eq, Prog.bind_assoc, call_alone (h.fault 0) hrule]
  by_cases hrises : t.rises w.slaRules now = true
  · have hlt := hrises
    simp only [Ticket.rises, decide_eq_true_eq] at hlt
    cases hr : w.slaRules t.priority with
    | none => simp [sweptLevel, hopen, hr] at hlt
    | some rule =>
      have hlevel : sweptLevel w.slaRules now t =
          max t.escalationLevel (decideEscalationLevel (elapsedMinutes now t.createdAt) rule) := by
        simp [sweptLevel, hopen, hr]
      have htarget : decideEscalationLevel (elapsedMinutes now t.createdAt) rule =
          sweptLevel w.slaRules now t := by omega
      obtain ⟨w', hrun, hun, hraises⟩ := escalateOne_then actor f (h.shift 1) ht hopen
        hrises
      refine ⟨_, w', ?_, hun, hraises⟩
      simp only [htarget, hrises]
      rw [if_pos hlt]
      exact hrun
  · have hquiet := Raises.quiet actor ht hrises
    refine ⟨_, w, ?_, h.shift 1, hquiet⟩
    have hfalse : t.rises w.slaRules now = false := by simpa using hrises
    rw [hfalse]
    cases hr : w.slaRules t.priority with
    | none => rfl
    | some rule =>
      have hle : ¬ decideEscalationLevel (elapsedMinutes now t.createdAt) rule >
          t.escalationLevel := by
        simp only [Ticket.rises, sweptLevel, hopen, hr, if_false, decide_eq_false_iff_not] at hfalse
        omega
      simp only [if_neg hle]
      rfl

/-- Each candidate is as it was read when its turn comes: the turns before are other tickets'. -/
theorem sweepLoop_alone (now : Time) (actor : Uuid) {candidates : List Ticket}
    (h : Undisturbed os w)
    (hread : ∀ t ∈ candidates, w.ticket? t.id = some t ∧ t.status ≠ .resuelto)
    (hnodup : (candidates.map Ticket.id).Nodup) (escalated : Nat) : ∃ w',
    (sweepLoop now actor candidates escalated).alone Cmd.exec os w =
      (.ok (escalated + (candidates.filter (Ticket.rises w.slaRules now)).length), w') ∧
    Raises now actor candidates w w' := by
  induction candidates generalizing os w escalated with
  | nil => exact ⟨w, rfl, .nil w⟩
  | cons t rest ih =>
    obtain ⟨ht, hopen⟩ := hread t List.mem_cons_self
    rw [List.map_cons, List.nodup_cons] at hnodup
    obtain ⟨os', w₁, hrun, hun, hfirst⟩ := sweepTicket_then now actor
      (fun done => sweepLoop now actor rest (if done then escalated + 1 else escalated)) h ht hopen
    have hread₁ : ∀ u ∈ rest, w₁.ticket? u.id = some u ∧ u.status ≠ .resuelto := by
      intro u hu
      obtain ⟨hfound, hu'⟩ := hread u (List.mem_cons_of_mem _ hu)
      have hother : u.id ∉ [t].map Ticket.id := by
        intro hid
        exact hnodup.1 (List.mem_singleton.mp hid ▸ List.mem_map_of_mem hu)
      have hmem : u ∈ w₁.tickets.rows := by
        rw [hfirst.tickets]
        exact List.mem_map.mpr ⟨u, World.ticket?_mem hfound, if_neg hother⟩
      exact ⟨World.ticket?_of_mem hmem, hu'⟩
    obtain ⟨w', hloop, hraises⟩ := ih hun hread₁ hnodup.2
      (if t.rises w.slaRules now then escalated + 1 else escalated)
    refine ⟨w', ?_, hfirst.cons hraises⟩
    have hturn : (sweepLoop now actor (t :: rest) escalated).alone Cmd.exec os w =
        (sweepLoop now actor rest (if t.rises w.slaRules now then escalated + 1
          else escalated)).alone Cmd.exec os' w₁ := hrun
    rw [hturn, hloop, hfirst.rules]
    cases hrises : t.rises w.slaRules now with
    | false => simp [hrises]
    | true =>
      simp only [hrises, if_true, List.filter_cons, List.length_cons]
      rw [Nat.add_assoc, Nat.add_comm 1]

end Loop

def SYSTEM_EMAIL : String := "system@ticket-system.dev"

section Sweep

variable {now later : Time} {os : Nat → Oracle} {w w' : World}

/-- The system user is found, or inserted with a new id. -/
theorem getSystemActorId_then {α : Type} (f : Uuid → Service α) (h : Undisturbed os w) :
    ∃ actor users, (getSystemActorId.bind f).alone Cmd.exec os w =
      (f actor).alone Cmd.exec (fun n => os (n + 1)) { w with users := users } ∧
    Undisturbed (fun n => os (n + 1)) { w with users := users } ∧
    users.lookup User.email SYSTEM_EMAIL ≠ none ∧
    (w.users.lookup User.email SYSTEM_EMAIL ≠ none → users = w.users) := by
  have hshift := h.shift 1
  unfold getSystemActorId
  rw [Prog.bind_eq, Prog.bind_assoc]
  cases hu : w.users.lookup User.email SYSTEM_EMAIL with
  | some u =>
    have hsame : w.users.updateMany (fun v => v.email == SYSTEM_EMAIL) (roleRewrite u.role) =
        w.users := by
      refine Table.ext_rows ((List.map_congr_left fun v hv => ?_).trans (List.map_id _))
      by_cases hemail : v.email = SYSTEM_EMAIL
      · have hv' := Table.eq_of_clash hv (Table.lookup_mem hu)
          (.inr (hemail.trans (Table.lookup_key hu).symm))
        rw [hv']
        simp [Table.Rewrite.at, roleRewrite]
      · simp [Table.Rewrite.at, hemail]
    have hexec : Stmt.exec (os 0) (.userUpsert SYSTEM_EMAIL .administrador none) w =
        (.ok u, w) := by
      simp only [Stmt.exec, hu, Option.getD_none, hsame]
    refine ⟨u.id, w.users, call_alone (h.fault 0) hexec, hshift, by simp [hu], fun _ => rfl⟩
  | none =>
    obtain ⟨users, hinsert⟩ : ∃ users, w.users.insert?
        { id := (os 0).uuid, email := SYSTEM_EMAIL, role := .administrador } = some users := by
      refine Table.exists_insert? ?_
      rintro v hv (hid | hemail)
      · exact h.user 0 v hv hid
      · exact Table.lookup_eq_none.mp hu v hv hemail
    have hexec : Stmt.exec (os 0) (.userUpsert SYSTEM_EMAIL .administrador none) w =
        (.ok { id := (os 0).uuid, email := SYSTEM_EMAIL, role := .administrador },
          { w with users := users }) := by
      simp only [Stmt.exec, hu, hinsert]
    refine ⟨(os 0).uuid, users, call_alone (h.fault 0) hexec, ?_, ?_, fun hno => absurd rfl hno⟩
    · refine ⟨hshift.fault, hshift.event, fun n v hv => ?_, hshift.distinct⟩
      rcases List.mem_append.mp (Table.insert?_rows hinsert ▸ hv) with hv | hv
      · exact hshift.user n v hv
      · cases List.mem_singleton.mp hv
        intro hid
        have heq := h.distinct 0 (n + 1) hid
        omega
    · rw [Table.lookup_insert? hinsert, hu]
      simp

/-- What a sweep does to the database and answers. -/
structure Swept (now : Time) (w w' : World) (r : SweepResult) : Prop where
  tickets : w'.tickets.rows = w.tickets.rows.map (Ticket.swept w.slaRules now)
  events : ∃ actor added, w'.events.rows = w.events.rows ++ added ∧
    added.map TicketEvent.told = (w.tickets.rows.filter (Ticket.rises w.slaRules now)).map
      (Ticket.raiseEvent w.slaRules now actor)
  escalated : r.escalated = (w.tickets.rows.filter (Ticket.rises w.slaRules now)).length
  actor : w'.users.lookup User.email SYSTEM_EMAIL ≠ none
  users : w.users.lookup User.email SYSTEM_EMAIL ≠ none → w'.users = w.users
  rest : w' = { w with users := w'.users, tickets := w'.tickets, events := w'.events }

/-- The candidates are the tickets that can rise; no other would be touched. -/
theorem Raises.of_candidates {actor : Uuid}
    (h : Raises now actor (w.tickets.rows.filter sweepWhere.matches) w w') :
    w'.tickets.rows = w.tickets.rows.map (Ticket.swept w.slaRules now) := by
  rw [h.tickets]
  refine List.map_congr_left fun u hu => ?_
  split
  next => rfl
  next hid =>
    refine (swept_of_not_rises fun hrises => hid ?_).symm
    exact List.mem_map_of_mem (List.mem_filter.mpr ⟨hu, sweepWhere_of_rises hrises⟩)

theorem filter_candidates (rules : Priority → Option SlaRule) (now : Time)
    (rows : List Ticket) : (rows.filter sweepWhere.matches).filter (Ticket.rises rules now) =
      rows.filter (Ticket.rises rules now) := by
  rw [List.filter_filter]
  refine List.filter_congr fun t _ => ?_
  cases hrises : t.rises rules now with
  | false => rfl
  | true => simp [sweepWhere_of_rises hrises]

theorem sweep_alone (h : Undisturbed os w) (now : Time) :
    ∃ r w', (sweep now).alone Cmd.exec os w = (.ok r, w') ∧ Swept now w w' r := by
  unfold sweep
  obtain ⟨actor, users, hrun, hun, hactor, husers⟩ := getSystemActorId_then (fun actor =>
    (call (.ticketFindMany sweepWhere)).bind fun candidates : List Ticket =>
      (sweepLoop now actor candidates 0).bind fun escalated =>
        .pure (SweepResult.mk candidates.length escalated)) h
  generalize hw₁ : ({ w with users := users } : World) = w₁ at hrun hun
  have htickets : w₁.tickets = w.tickets := by rw [← hw₁]
  have hrules : w₁.slaRules = w.slaRules := by rw [← hw₁]
  have hread : ∀ t ∈ w₁.tickets.rows.filter sweepWhere.matches,
      w₁.ticket? t.id = some t ∧ t.status ≠ .resuelto := by
    intro t ht
    obtain ⟨hmem, hmatch⟩ := List.mem_filter.mp ht
    exact ⟨World.ticket?_of_mem hmem, open_of_sweepWhere hmatch⟩
  have hnodup : ((w₁.tickets.rows.filter sweepWhere.matches).map Ticket.id).Nodup :=
    w₁.tickets_nodup.sublist (List.filter_sublist.map Ticket.id)
  obtain ⟨w', hloop, hraises⟩ := sweepLoop_alone now actor (hun.shift 1) hread hnodup 0
  obtain ⟨n, hend⟩ := Prog.alone_bind_of_ok hloop (f := fun escalated =>
    .pure (SweepResult.mk (w₁.tickets.rows.filter sweepWhere.matches).length escalated))
  refine ⟨⟨(w₁.tickets.rows.filter sweepWhere.matches).length,
    0 + ((w₁.tickets.rows.filter sweepWhere.matches).filter (Ticket.rises w₁.slaRules now)).length⟩,
    w', ?_, ?_⟩
  · refine (hrun.trans ?_).trans hend
    exact call_alone (hun.fault 0) rfl
  · have hrest := hraises.rest
    refine ⟨?_, ?_, ?_, ?_, fun hpresent => ?_, ?_⟩
    · rw [hraises.of_candidates, htickets, hrules]
    · obtain ⟨added, hevents, htold⟩ := hraises.events
      rw [filter_candidates, htickets, hrules] at htold
      exact ⟨actor, added, by rw [hevents, ← hw₁], htold⟩
    · rw [filter_candidates, htickets, hrules, Nat.zero_add]
    · rw [hrest, ← hw₁]
      exact hactor
    · rw [hrest, ← hw₁]
      exact husers hpresent
    · rw [hrest, ← hw₁]

theorem Swept.rules {r : SweepResult} (h : Swept now w w' r) : w'.slaRules = w.slaRules := by
  rw [h.rest]

/-- A second sweep at the same time finds nothing to do. -/
theorem Swept.again {r r' : SweepResult} {w'' : World} (h : Swept now w w' r)
    (h' : Swept now w' w'' r') : w'' = w' ∧ r'.escalated = 0 := by
  have hsettled : ∀ t ∈ w'.tickets.rows, ¬ t.rises w'.slaRules now = true := by
    intro t ht
    rw [h.tickets] at ht
    obtain ⟨u, _, rfl⟩ := List.mem_map.mp ht
    rw [h.rules]
    exact not_rises_swept
  have hnone : w'.tickets.rows.filter (Ticket.rises w'.slaRules now) = [] :=
    List.filter_eq_nil_iff.mpr hsettled
  have htickets : w''.tickets = w'.tickets := by
    refine Table.ext_rows (h'.tickets.trans ?_)
    exact (List.map_congr_left fun t ht => swept_of_not_rises (hsettled t ht)).trans
      (List.map_id _)
  have hevents : w''.events = w'.events := by
    obtain ⟨actor, added, hrows, htold⟩ := h'.events
    rw [hnone, List.map_nil, List.map_eq_nil_iff] at htold
    exact Table.ext_rows (by rw [hrows, htold, List.append_nil])
  refine ⟨?_, by rw [h'.escalated, hnone, List.length_nil]⟩
  rw [h'.rest, htickets, hevents, h'.users h.actor]

/-- After an earlier sweep a sweep leaves what it would have left without it. -/
theorem Swept.absorbs {r r₁ r₂ : SweepResult} {w₁ w₂ : World} (h : Swept now w w' r)
    (hle : now ≤ later) (h₁ : Swept later w' w₁ r₁) (h₂ : Swept later w w₂ r₂) :
    w₁.tickets = w₂.tickets := by
  refine Table.ext_rows ?_
  rw [h₁.tickets, h₂.tickets, h.tickets, h.rules, List.map_map]
  exact List.map_congr_left fun t _ => swept_swept hle

/-- A sweep brings every ticket to the level its rule asks for at that time, whatever was left
before; to sweep again changes nothing, and to sweep later what sweeping only then would. -/
theorem sweep_heals (w : World) (now : Time) (os : Nat → Oracle) (h : Undisturbed os w) :
    ∃ r w', (sweep now).alone Cmd.exec os w = (.ok r, w') ∧ Swept now w w' r ∧
      (∀ os', Undisturbed os' w' → ∃ r', (sweep now).alone Cmd.exec os' w' = (.ok r', w') ∧
        r'.escalated = 0) ∧
      ∀ later, now ≤ later → ∀ os₁ os₂, Undisturbed os₁ w' → Undisturbed os₂ w →
        ∃ r₁ w₁ r₂ w₂, (sweep later).alone Cmd.exec os₁ w' = (.ok r₁, w₁) ∧
          (sweep later).alone Cmd.exec os₂ w = (.ok r₂, w₂) ∧ w₁.tickets = w₂.tickets := by
  obtain ⟨r, w', hrun, hswept⟩ := sweep_alone h now
  refine ⟨r, w', hrun, hswept, fun os' h' => ?_, fun later hle os₁ os₂ h₁ h₂ => ?_⟩
  · obtain ⟨r', w'', hrun', hswept'⟩ := sweep_alone h' now
    obtain ⟨rfl, hzero⟩ := hswept.again hswept'
    exact ⟨r', hrun', hzero⟩
  · obtain ⟨r₁, w₁, hrun₁, hswept₁⟩ := sweep_alone h₁ later
    obtain ⟨r₂, w₂, hrun₂, hswept₂⟩ := sweep_alone h₂ later
    exact ⟨r₁, w₁, r₂, w₂, hrun₁, hrun₂, hswept.absorbs hle hswept₁ hswept₂⟩

end Sweep

theorem Sample.one_undisturbed : Undisturbed (fun n => { uuid := 1000 + n }) one.world where
  fault _ := rfl
  event n e he := by
    have hsmall : ∀ e ∈ one.world.events.rows, e.id < 1000 := by decide +kernel
    exact (Nat.lt_of_lt_of_le (hsmall e he) (Nat.le_add_right 1000 n)).ne
  user n u hu := by
    have hsmall : ∀ u ∈ one.world.users.rows, u.id < 1000 := by decide +kernel
    exact (Nat.lt_of_lt_of_le (hsmall u hu) (Nat.le_add_right 1000 n)).ne
  distinct m n h := Nat.add_left_cancel h

/-- One ticket, an hour after it was created. -/
theorem sweep_heals_one : ∃ r w', (sweep 3600000).alone Cmd.exec (fun n => { uuid := 1000 + n })
    Sample.one.world = (.ok r, w') ∧ Swept 3600000 Sample.one.world w' r := by
  obtain ⟨r, w', hrun, hswept, _⟩ :=
    sweep_heals Sample.one.world 3600000 _ Sample.one_undisturbed
  exact ⟨r, w', hrun, hswept⟩

end TicketSystem
