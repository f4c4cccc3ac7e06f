import Mathlib.Data.List.Nodup
import TicketSystem.Evolution

namespace TicketSystem

open Relational Interleaved

/-- The version an assign or a changeState of ticket `id` carries. -/
def Request.expects? (id : Uuid) : Request → Option Nat
  | .assign i dto _ => if i = id then some dto.expectedVersion else none
  | .changeState i dto _ => if i = id then some dto.expectedVersion else none
  | _ => none

/-- The version carried by the assign or changeState whose update of ticket `id` an entry
committed. -/
def Server.carries (s : Server) (id : Uuid) (e : Executed) : Option Nat :=
  if (Seen.update? e.obs).isSome then (s.threads[e.tid]?).bind (fun t => t.request.expects? id)
  else none

theorem carries_eq_some {s : Server} {id : Uuid} {e : Executed} {v : Nat} :
    s.carries id e = some v ↔ (Seen.update? e.obs).isSome ∧
      ∃ t, s.threads[e.tid]? = some t ∧ t.request.expects? id = some v := by
  unfold Server.carries
  split
  next hu => simp [hu, Option.bind_eq_some_iff]
  next hu => simp [hu]

/-- The guard of a versioned update is the version its request carries, and the update moves
the version by one; no other update looks at the version or moves it. -/
inductive Versioned (q : Request) (id : Uuid) (g : TicketWhere) (d : TicketUpdate) : Prop
  | guarded {v : Nat} (expects : q.expects? id = some v)
      (guard : ∀ t, g.matches t = true → t.version = v)
      (moves : ∀ t, (d.apply t).version = t.version + 1)
  | free (expects : ∀ i, q.expects? i = none) (keeps : ∀ t, (d.apply t).version = t.version)

theorem Intent.versioned {q : Request} {past : List Seen} {g : TicketWhere} {d : TicketUpdate}
    {ev : TicketEventCreate} (h : Intent q past g d ev) : Versioned q ev.ticketId g d := by
  cases h with
  | assign =>
    exact .guarded (if_pos rfl) (fun t hm => (assignWhere_matches.mp hm).2) (fun t => rfl)
  | changeState =>
    exact .guarded (if_pos rfl) (fun t hm => (stateWhere_matches.mp hm).2.1)
      (fun t => stateUpdate_version _ _ t)
  | escalateOne => exact .free (fun i => rfl) (fun t => rfl)
  | sweep => exact .free (fun i => rfl) (fun t => rfl)

theorem Intent.expects_target {q : Request} {past : List Seen} {g : TicketWhere}
    {d : TicketUpdate} {ev : TicketEventCreate} (h : Intent q past g d ev) {id : Uuid} {v : Nat}
    (he : q.expects? id = some v) : ev.ticketId = id := by
  cases h with
  | assign =>
    simp only [Request.expects?] at he
    split at he
    next hid => exact hid
    next => cases he
  | changeState =>
    simp only [Request.expects?] at he
    split at he
    next hid => exact hid
    next => cases he
  | escalateOne => cases he
  | sweep => cases he

theorem Intent.matches_row {q : Request} {past : List Seen} {g : TicketWhere}
    {d : TicketUpdate} {ev : TicketEventCreate} (h : Intent q past g d ev) {v : Nat}
    {row : Ticket} (hexp : q.expects? ev.ticketId = some v) (hid : row.id = ev.ticketId)
    (hv : row.version = v)
    (hstatus : ∀ ticket, FirstRead ev.ticketId ticket past → row.status = ticket.status) :
    g.matches row = true := by
  cases h with
  | assign =>
    have he := Option.some.inj ((if_pos rfl).symm.trans hexp)
    exact assignWhere_matches.mpr ⟨hid, hv.trans he.symm⟩
  | changeState read =>
    have he := Option.some.inj ((if_pos rfl).symm.trans hexp)
    exact stateWhere_matches.mpr ⟨hid, hv.trans he.symm, hstatus _ read⟩
  | escalateOne => cases hexp
  | sweep => cases hexp

theorem Notes.expects? {q : Request} {d : TicketEventCreate} (h : Notes q d) (id : Uuid) :
    q.expects? id = none := by
  cases h <;> rfl

section Runs

variable {ok : Server → Action → Bool} {w : World} {s : Server}

def World.version (w : World) (id : Uuid) : Nat := (w.ticket? id).elim 0 Ticket.version

theorem World.version_eq {w : World} {id : Uuid} {t : Ticket} (h : w.ticket? id = some t) :
    w.version id = t.version := by
  simp [World.version, h]

/-- One entry: a versioned commit appends the version it carried, anything else keeps the
version of the row. -/
theorem carries_step {e : Executed} {t : Task}
    (ht : s.threads[e.tid]? = some t) {past : List Seen} (heff : Effect t.request past e)
    (id : Uuid) :
    (s.carries id e = none ∧ e.after.version id = e.before.version id) ∨
      (s.carries id e = some (e.before.version id) ∧
        e.after.version id = e.before.version id + 1) := by
  have hcarries : ∀ g d, Seen.update? e.obs = some (g, d) →
      s.carries id e = t.request.expects? id := by
    intro g d hu
    simp [Server.carries, hu, ht]
  cases heff.row id with
  | same kept other =>
    refine .inl ⟨?_, by simp only [World.version, kept]⟩
    cases hu : Seen.update? e.obs with
    | none => simp [Server.carries, hu]
    | some gd =>
      obtain ⟨g, d⟩ := gd
      obtain ⟨ev, intent, _⟩ := heff.committed hu
      cases hexp : t.request.expects? id with
      | none => rw [hcarries g d hu, hexp]
      | some v =>
        have htarget := intent.expects_target hexp
        exact absurd (htarget ▸ intent.id) (other g d hu)
  | updated intent obs target before guard after =>
    rw [World.version_eq before, World.version_eq after, hcarries _ _ obs]
    cases target ▸ intent.versioned with
    | guarded expects guarded moves =>
      exact .inr ⟨guarded _ guard ▸ expects, moves _⟩
    | free expects keeps => exact .inl ⟨expects id, keeps _⟩
  | inserted _ obs _ before after =>
    refine .inl ⟨by simp [Server.carries, Seen.update?_of_created obs], ?_⟩
    rw [World.version_eq after, World.version, before]
    rfl

/-- The commits of assign and changeState on a ticket carried 0, 1, 2, … in this order, up to
its version. -/
theorem Run.commits_carry (fresh : w.Fresh) (h : Run ok { world := w } s) (id : Uuid)
    {h₁ h₂ : List Executed} {u : World} (he : s.history = h₁ ++ h₂) (hl : Linked w h₁ u) :
    h₁.filterMap (s.carries id) = List.range (u.version id) := by
  refine hl.invariant (I := fun h v => h.filterMap (s.carries id) = List.range (v.version id))
    ?_ ?_
  · simp [World.version, fresh.ticket?]
  · rintro a e b rfl ih
    obtain ⟨t, ht, heff⟩ := h.effect (show s.history = a ++ e :: (b ++ h₂) by simpa using he)
    rcases carries_step ht heff id with ⟨hc, hv⟩ | ⟨hc, hv⟩
    · simp [List.filterMap_append, hc, ih, hv]
    · simp [List.filterMap_append, hc, ih, hv, List.range_succ]

theorem Run.uncommitted (h : Run ok { world := w } s) {i : Nat}
    {t : Task} (ht : s.threads[i]? = some t) {id : Uuid}
    {v : Nat} (hexp : t.request.expects? id = some v)
    (hno : ∀ e ∈ s.history, e.tid = i → s.carries id e = none) {e : Executed}
    (he : e ∈ s.history) (htid : e.tid = i) :
    e.after.tickets = e.before.tickets ∧ e.after.events = e.before.events := by
  have hnone : ∀ x ∈ s.history, x.tid = i → Seen.update? x.obs = none := by
    intro x hx hi
    have hc := hno x hx hi
    cases hu : Seen.update? x.obs with
    | none => rfl
    | some gd => simp [Server.carries, hu, hi, ht, hexp] at hc
  obtain ⟨h₁, h₂, hh⟩ := List.append_of_mem he
  obtain ⟨t', ht', heff⟩ := h.effect hh
  cases ht.symm.trans (htid ▸ ht')
  cases heff with
  | quiet _ kept => exact ⟨kept.tickets, kept.events⟩
  | created request _ _ _ => rw [request] at hexp; cases hexp
  | updated _ obs _ => cases (hnone e he htid).symm.trans obs
  | @recorded g d ev first u o intent due committed obs write =>
    have hu : u ∈ own e.tid h₁ := by rw [due]; simp
    obtain ⟨x, hx, hxi, rfl⟩ := mem_own.mp hu
    have hmem : x ∈ s.history := by rw [hh]; exact List.mem_append_left _ hx
    cases (hnone x hmem (hxi.trans htid)).symm.trans committed
  | noted notes _ _ _ => rw [notes.expects?] at hexp; cases hexp
  | uploaded request _ _ _ => rw [request] at hexp; cases hexp

/-! ### Requests that race for one version -/

def Seen.reached : Seen → Bool
  | ⟨.one (.ticketUpdateMany _ _), .ok _⟩ => true
  | _ => false

theorem reached_iff {o : Seen} :
    Seen.reached o = true ↔ ∃ g d n, o = ⟨.one (.ticketUpdateMany g d), .ok n⟩ := by
  constructor
  · intro h
    obtain ⟨c, r⟩ := o
    cases c with
    | transaction => simp [Seen.reached] at h
    | one s =>
      cases s <;> cases r <;> first | exact ⟨_, _, _, rfl⟩ | simp [Seen.reached] at h
  · rintro ⟨g, d, n, rfl⟩
    rfl

theorem reached_of_update {o : Seen} (h : (Seen.update? o).isSome) : Seen.reached o = true := by
  obtain ⟨c, r⟩ := o
  cases c with
  | transaction => simp [Seen.update?] at h
  | one s => cases s <;> cases r <;> first | rfl | simp [Seen.update?] at h

/-- An entry in which an assign or a changeState of ticket `id` got to its conditional update. -/
def Server.reaches (s : Server) (id : Uuid) (e : Executed) : Bool :=
  Seen.reached e.obs && (s.threads[e.tid]?).any (fun t => (t.request.expects? id).isSome)

/-- Every assign and changeState of ticket `id` that arrives carries version `v`. -/
def racing (id : Uuid) (v : Nat) (_ : Server) : Action → Bool
  | .arrive q => (q.expects? id).all (· == v)
  | _ => true

theorem range_append_eq {v n : Nat} {l : List Nat} (h : List.range v ++ l = List.range n)
    (hl : ∀ x ∈ l, x = v) : (l = [] ∧ n = v) ∨ (l = [v] ∧ n = v + 1) := by
  have hlen := congrArg List.length h
  have hnodup : (List.range v ++ l).Nodup := h ▸ List.nodup_range
  simp only [List.length_append, List.length_range] at hlen
  match l, hl, hlen, (List.nodup_append.mp hnodup).2.1 with
  | [], _, hlen, _ => exact .inl ⟨rfl, by simpa using hlen.symm⟩
  | [x], hl, hlen, _ => exact .inr ⟨by rw [hl x (by simp)], by simpa using hlen.symm⟩
  | x :: y :: l, hl, _, hn =>
    have hxy : x ≠ y := (List.pairwise_cons.mp hn).1 y (by simp)
    exact absurd ((hl x (by simp)).trans (hl y (by simp)).symm) hxy

section Race

variable {s' : Server} {id : Uuid} {v : Nat} {segment : List Executed}

/-- In a race the versioned requests that execute anything arrived in it, with version `v`. -/
theorem race_threads (h' : Run (racing id v) s s')
    (hover : ∀ t ∈ s.threads, (t.request.expects? id).isSome → t.Over)
    (hseg : s'.history = s.history ++ segment) {e : Executed} (he : e ∈ segment)
    {t : Task} (ht : s'.threads[e.tid]? = some t) {u : Nat}
    (hexp : t.request.expects? id = some u) : u = v ∧ s.threads.length ≤ e.tid := by
  rcases Nat.lt_or_ge e.tid s.threads.length with hlt | hge
  · obtain ⟨t', ht', hq⟩ := h'.threads_keep (List.getElem?_eq_getElem hlt)
    cases ht.symm.trans ht'
    have hov := hover _ (List.getElem_mem hlt) (by rw [← hq, hexp]; rfl)
    have hown := (h'.over_stays (List.getElem?_eq_getElem hlt) hov).2
    rw [hseg, own_append, List.append_right_eq_self] at hown
    have hmem : e.obs ∈ own e.tid segment := mem_own.mpr ⟨e, he, rfl, rfl⟩
    rw [hown] at hmem
    cases hmem
  · obtain ⟨_, _, hok⟩ := h'.arrived hge ht
    rw [racing, hexp] at hok
    exact ⟨by simpa using hok, hge⟩

theorem race_carries (fresh : w.Fresh) (h : Run (fun _ _ => true) { world := w } s)
    (h' : Run (racing id v) s s') (hv : s.world.version id = v)
    (hseg : s'.history = s.history ++ segment) {m rest : List Executed} {u : World}
    (hm : segment = m ++ rest) (hl : Linked s.world m u) :
    List.range v ++ m.filterMap (s'.carries id) = List.range (u.version id) := by
  have hall : Run (fun _ _ => true) { world := w } s' := h.trans (h'.mono fun _ _ _ => rfl)
  have hmid : s'.history = (s.history ++ m) ++ rest := by rw [hseg, hm, List.append_assoc]
  have hw := Run.commits_carry fresh hall id hmid (linked_append.mpr ⟨_, h.linked, hl⟩)
  have hs := Run.commits_carry fresh hall id hseg h.linked
  rw [List.filterMap_append, hs, hv] at hw
  exact hw

/-- In a race without a commit no request has got to its conditional update: the row still
has the version, and the status, that its guard asks for. -/
theorem race_reached (fresh : w.Fresh) (h : Run (fun _ _ => true) { world := w } s)
    (h' : Run (racing id v) s s') {t₀ : Ticket}
    (hrow : s.world.ticket? id = some t₀) (hv : t₀.version = v)
    (hover : ∀ t ∈ s.threads, (t.request.expects? id).isSome → t.Over)
    (hseg : s'.history = s.history ++ segment)
    (hnone : segment.filterMap (s'.carries id) = []) :
    ∀ e ∈ segment, s'.reaches id e = false := by
  intro e he
  by_contra hreach
  have hall : Run (fun _ _ => true) { world := w } s' := h.trans (h'.mono fun _ _ _ => rfl)
  have hlink := h'.linked_segment hseg
  have hversion : ∀ m rest u, segment = m ++ rest → Linked s.world m u → u.version id = v := by
    intro m rest u hm hl
    have hc := race_carries fresh h h' (World.version_eq hrow ▸ hv) hseg hm hl
    have hmnone : m.filterMap (s'.carries id) = [] := by
      rw [hm, List.filterMap_append] at hnone
      exact (List.append_eq_nil_iff.mp hnone).1
    rw [hmnone, List.append_nil] at hc
    simpa using (congrArg List.length hc).symm
  obtain ⟨m, rest, hm⟩ := List.append_of_mem he
  have hmid : Linked s.world m e.before := (hm ▸ hlink).at.1
  have hhist : s'.history = (s.history ++ m) ++ e :: rest := by
    rw [hseg, hm, List.append_assoc]
  obtain ⟨row, hrow', hev⟩ := Run.evolves_along hall hhist hmid id t₀ hrow
  have hrowv : row.version = v := World.version_eq hrow' ▸ hversion m _ _ hm hmid
  obtain ⟨t, ht, hi, o, hx⟩ := hall.issued serve_kept hhist
  obtain ⟨hguarded, hsome⟩ := Bool.and_eq_true_iff.mp (Bool.not_eq_false _ ▸ hreach)
  obtain ⟨u, hexp⟩ := Option.isSome_iff_exists.mp (by simpa [ht] using hsome)
  obtain ⟨rfl, hge⟩ := race_threads h' hover hseg he ht hexp
  have hcarries : s'.carries id e = none := by
    rw [hm, List.filterMap_append, List.append_eq_nil_iff] at hnone
    exact List.filterMap_eq_nil_iff.mp hnone.2 e (by simp)
  obtain ⟨g, d, n, hobs⟩ := reached_iff.mp hguarded
  rw [hobs] at hi hx
  obtain ⟨ev, intent⟩ := Issues.intent hi
  have htarget := intent.expects_target hexp
  have hmatch : g.matches row = true := by
    refine intent.matches_row (htarget ▸ hexp) (htarget ▸ World.ticket?_id hrow') hrowv ?_
    intro ticket hread
    have hbefore : own e.tid s.history = [] := by
      refine List.eq_nil_iff_forall_not_mem.mpr fun x hx => ?_
      obtain ⟨y, hy, hyi, _⟩ := mem_own.mp hx
      have := h.tid_lt (by simp) y hy
      omega
    have hevolves := Run.read_evolves hall hhist hread (htarget ▸ hrow')
    rw [own_append, hbefore, List.nil_append] at hread
    obtain ⟨a, r, b, rfl, _, hr, _⟩ := own_head hread
    have hsplit : s'.history = (s.history ++ a) ++ r :: (b ++ e :: rest) := by simp [hhist]
    have hread' := (Run.read_row hall hsplit hr).1
    have htv := hversion a (r :: (b ++ e :: rest)) r.before (by simp [hm]) hmid.at.1
    rw [World.version_eq (htarget ▸ hread')] at htv
    exact (hevolves.sameVersion (hrowv.trans htv.symm)).2.1
  have hx' : Cmd.exec o (.one (.ticketUpdateMany g d)) e.before = (.ok n, e.after) := by
    rw [hx]
  have hcommit := updateMany_commits (htarget ▸ intent.id) hrow' hmatch hx'
  rw [← hobs] at hcommit
  simp [Server.carries, hcommit, ht, hexp] at hcarries

end Race

/-- Optimistic locking loses no update. The version of a ticket is the number of commits of
assign and changeState on it; no two of them carried one version; a request that does not
commit writes nothing; and of the requests that race for the current version, when any gets
to its update, exactly one commits. -/
theorem optimistic_locking_loses_no_update (fresh : w.Fresh)
    (h : Run (fun _ _ => true) { world := w } s) :
    (∀ id t, s.world.ticket? id = some t →
      t.version = s.history.countP (fun e => (s.carries id e).isSome)) ∧
    (∀ id v, s.history.countP (fun e => s.carries id e == some v) ≤ 1) ∧
    (∀ (i : Nat) (t : Task) id v, s.threads[i]? = some t →
      t.request.expects? id = some v →
      (∀ e ∈ s.history, e.tid = i → s.carries id e = none) →
      ∀ e ∈ s.history, e.tid = i →
        e.after.tickets = e.before.tickets ∧ e.after.events = e.before.events) ∧
    (∀ (s' : Server) id (v : Nat) t₀ segment, s.world.ticket? id = some t₀ → t₀.version = v →
      (∀ t ∈ s.threads, (t.request.expects? id).isSome → t.Over) →
      Run (racing id v) s s' → s'.history = s.history ++ segment →
      ∃ t, s'.world.ticket? id = some t ∧
        if segment.any (s'.reaches id) then
          segment.countP (fun e => (s'.carries id e).isSome) = 1 ∧ t.version = v + 1
        else segment.countP (fun e => (s'.carries id e).isSome) = 0 ∧ t.version = v) := by
  have hcarry := fun id => Run.commits_carry fresh h id (List.append_nil s.history).symm h.linked
  refine ⟨fun id t ht => ?_, fun id v => ?_, fun i t id v ht hexp hno e he htid =>
    Run.uncommitted h ht hexp hno he htid, ?_⟩
  · rw [← World.version_eq ht, ← List.length_filterMap_eq_countP, hcarry, List.length_range]
  · rw [← List.count_filterMap, hcarry]
    exact List.nodup_iff_count_le_one.mp List.nodup_range v
  · intro s' id v t₀ segment hrow hv hover h' hseg
    have hall : Run (fun _ _ => true) { world := w } s' := h.trans (h'.mono fun _ _ _ => rfl)
    have hlink := h'.linked_segment hseg
    have hend : s'.history = s.history ++ segment ++ [] := by simpa using hseg
    obtain ⟨t, ht, _⟩ := Run.evolves_along hall hend hlink id t₀ hrow
    have hc := race_carries fresh h h' (World.version_eq hrow ▸ hv) hseg
      (List.append_nil segment).symm hlink
    have hcarried : ∀ x ∈ segment.filterMap (s'.carries id), x = v := by
      intro x hx
      obtain ⟨e, he, hce⟩ := List.mem_filterMap.mp hx
      obtain ⟨_, t, ht, hexp⟩ := carries_eq_some.mp hce
      exact (race_threads h' hover hseg he ht hexp).1
    refine ⟨t, ht, ?_⟩
    rw [← List.length_filterMap_eq_countP]
    rw [World.version_eq ht] at hc
    rcases range_append_eq hc hcarried with ⟨hnil, hv'⟩ | ⟨hone, hv'⟩
    · have hnot := race_reached fresh h h' hrow hv hover hseg hnil
      rw [if_neg (by simpa using hnot), hnil]
      exact ⟨rfl, hv'⟩
    · rw [if_pos ?_, hone]
      · exact ⟨rfl, hv'⟩
      · obtain ⟨e, he, hce⟩ := List.mem_filterMap.mp (hone ▸ List.mem_singleton_self v)
        obtain ⟨hu, t, ht, hexp⟩ := carries_eq_some.mp hce
        refine List.any_eq_true.mpr ⟨e, he, ?_⟩
        simp [Server.reaches, reached_of_update hu, ht, hexp]

namespace Sample

/-- Two assigns of the ticket read version 0 before either writes. -/
def race : List Action :=
  [.arrive (.assign 102 ⟨3, 0⟩ administrador), .arrive (.assign 102 ⟨4, 0⟩ administrador)] ++
    steps 1 10 2 ++ steps 2 20 2 ++ steps 1 30 5 ++ steps 2 40 1

def raced : Server := (one.replay serve Cmd.exec (racing 102 0) race).get (by decide)

end Sample

open Sample in
theorem optimistic_locking_two_assigns :
    raced.history.countP (fun e => raced.carries 102 e == some 0) ≤ 1 ∧
      ∃ t, raced.world.ticket? 102 = some t ∧ t.version = 1 := by
  have h : Run (fun _ _ => true) { world := world } one := play_run (by decide)
  have h' : Run (racing 102 0) one raced := Reach.of_replay (Option.some_get _).symm
  have hall := h.trans (h'.mono fun _ _ _ => rfl)
  obtain ⟨segment, hseg, _⟩ := h'.grows
  obtain ⟨t, ht, hv⟩ := (optimistic_locking_loses_no_update world_fresh h).2.2.2 raced 102 0
    _ segment rfl rfl (by decide) h' hseg
  refine ⟨(optimistic_locking_loses_no_update world_fresh hall).2.1 102 0, t, ht, ?_⟩
  have hdrop : segment = raced.history.drop one.history.length := by rw [hseg, List.drop_left]
  have hany : segment.any (raced.reaches 102) = true := by rw [hdrop]; decide
  rw [if_pos hany] at hv
  exact hv.2

/-! ### What a request checked, when it commits -/

def Payload.fromState? : Payload → Option TicketStatus
  | .cambioEstado fromState _ => some fromState
  | .resolucion fromState _ _ _ _ => some fromState
  | _ => none

/-- What a committed changeState and a committed assign relied on is true of the row just
before their update, as is what their event says of it. -/
def Server.CheckedAtCommit (s : Server) : Prop :=
  ∀ h₁ e h₂ t id row, s.history = h₁ ++ e :: h₂ → s.threads[e.tid]? = some t →
    (Seen.update? e.obs).isSome → e.before.ticket? id = some row →
    (∀ dto actor, t.request = .changeState id dto actor →
      (actor.role = .administrador ∨ row.assigneeId = some actor.id) ∧
        ∀ x ∈ h₂, x.tid = e.tid → ∀ ev, Seen.event? x.obs = some ev →
          ev.payload.fromState? = some row.status) ∧
    (∀ dto actor, t.request = .assign id dto actor →
      ∀ x ∈ h₂, x.tid = e.tid → ∀ ev, Seen.event? x.obs = some ev →
        ev.payload = .asignacion row.assigneeId dto.assigneeId)

/-- No assign or changeState reads a row whose version is behind the one it carries. -/
def notAhead (s : Server) : Action → Bool
  | .run i _ => (s.threads[i]?).all fun t =>
    match t.next? with
    | some (.one (.ticketFindUnique id)) => (t.request.expects? id).all fun v =>
      (s.world.ticket? id).all fun row => decide (v ≤ row.version)
    | _ => true
  | _ => true

/-- A request that was not ahead of the row it read, and whose version the row has when it
writes, finds the row as it read it. -/
theorem read_current (h : Run notAhead { world := w } s) {h₁ h₂ : List Executed} {e : Executed}
    (he : s.history = h₁ ++ e :: h₂) {t : Task}
    (ht : s.threads[e.tid]? = some t) {id : Uuid} {v : Nat}
    (hexp : t.request.expects? id = some v) {ticket row : Ticket}
    (hread : FirstRead id ticket (own e.tid h₁)) (hrow : e.before.ticket? id = some row)
    (hv : row.version = v) : row.assigneeId = ticket.assigneeId ∧ row.status = ticket.status := by
  have hevolves := Run.read_evolves h he hread hrow
  obtain ⟨a, r, b, rfl, htid, hobs, hbefore, _⟩ := Run.firstRead h he hread
  obtain ⟨q, u, k, o, hm, t', ht', hq⟩ :=
    h.moment (show s.history = [] ++ a ++ r :: (b ++ e :: h₂) by simpa using he)
  rw [htid] at ht'
  cases ht.symm.trans ht'
  have hadmitted := hm.admitted
  have hcmd : r.obs.cmd = .one (.ticketFindUnique id) := by rw [hobs]
  simp only [notAhead, hm.thread, Thread.next?, hcmd, Option.all_some, ← hq, hexp, hm.before,
    hbefore, decide_eq_true_eq] at hadmitted
  have hle := hevolves.version
  obtain ⟨ha, hs, _⟩ := hevolves.sameVersion (by omega)
  exact ⟨ha, hs⟩

theorem firstRead_same {i : Nat} {h₁ m : List Executed} {id : Uuid} {ticket ticket' : Ticket}
    {first : List Seen} {u : Seen} (hread : FirstRead id ticket (own i h₁))
    (hread' : FirstRead id ticket' first) (hdue : own i (h₁ ++ m) = first ++ [u]) :
    ticket' = ticket := by
  have hleft : FirstRead id ticket' (first ++ [u]) := hread'.append
  rw [← hdue, own_append] at hleft
  exact hleft.unique hread.append

theorem later_event (h : Run ok { world := w } s) {h₁ h₂ : List Executed} {e x : Executed}
    (he : s.history = h₁ ++ e :: h₂) {t : Task}
    (ht : s.threads[e.tid]? = some t) {id : Uuid} {v : Nat}
    (hexp : t.request.expects? id = some v) (hx : x ∈ h₂) (htid : x.tid = e.tid)
    {ev : TicketEvent} (hev : Seen.event? x.obs = some ev) :
    ∃ m first u g d evc o, Intent t.request first g d evc ∧
      own e.tid (h₁ ++ m) = first ++ [u] ∧ ev = evc.row o := by
  obtain ⟨a, b, rfl⟩ := List.append_of_mem hx
  obtain ⟨t', ht', heff⟩ :=
    h.effect (show s.history = (h₁ ++ e :: a) ++ x :: b by simpa using he)
  cases ht.symm.trans (htid ▸ ht')
  cases heff with
  | quiet calm _ => cases hev.symm.trans calm.event
  | created _ _ obs _ => cases hev.symm.trans (Seen.event?_of_created obs)
  | updated _ obs _ => cases hev.symm.trans (Seen.event?_of_update obs)
  | recorded intent due _ obs _ =>
    cases hev.symm.trans obs
    exact ⟨e :: a, _, _, _, _, _, _, intent, htid ▸ due, rfl⟩
  | noted notes _ _ _ => rw [notes.expects?] at hexp; cases hexp
  | uploaded request _ _ _ => rw [request] at hexp; cases hexp

/-- As long as nobody sends a version ahead of the row it reads, what a mutation checked, and
what its event records, still holds when it commits. -/
theorem checked_at_commit (h : Run notAhead { world := w } s) : s.CheckedAtCommit := by
  intro h₁ e h₂ t id row he ht hu hrow
  obtain ⟨gd, hu⟩ := Option.isSome_iff_exists.mp hu
  obtain ⟨g, d⟩ := gd
  obtain ⟨t', ht', heff⟩ := h.effect he
  cases ht.symm.trans ht'
  have hguard : ∀ ev, Intent t.request (own e.tid h₁) g d ev → ev.ticketId = id →
      g.matches row = true := by
    intro ev intent htarget
    cases heff.row id with
    | same _ other => exact absurd (htarget ▸ intent.id) (other g d hu)
    | updated _ obs _ before guard _ =>
      cases obs.symm.trans hu
      cases hrow.symm.trans before
      exact guard
    | inserted _ obs _ _ _ => cases hu.symm.trans (Seen.update?_of_created obs)
  obtain ⟨ev, intent, _⟩ := heff.committed hu
  refine ⟨fun dto actor hq => ?_, fun dto actor hq => ?_⟩
  · have hexp : t.request.expects? id = some dto.expectedVersion := by rw [hq]; exact if_pos rfl
    obtain ⟨ticket, hread, hchecked, rfl, rfl⟩ := (hq ▸ intent).of_changeState
    obtain ⟨_, hv, hstatus⟩ := stateWhere_matches.mp (hguard _ intent rfl)
    obtain ⟨hassignee, _⟩ := read_current h he ht hexp hread hrow hv
    refine ⟨hassignee ▸ (checkChangeState_ok hchecked).owner, fun x hx htid ev' hev => ?_⟩
    obtain ⟨m, first, u, g', d', evc, o, intent', hdue, rfl⟩ :=
      later_event h he ht hexp hx htid hev
    obtain ⟨ticket', hread', _, _, rfl⟩ := (hq ▸ intent').of_changeState
    cases firstRead_same hread hread' hdue
    simp only [TicketEventCreate.row, stateEvent]
    cases dto.targetState <;> simp [Payload.fromState?, hstatus]
  · have hexp : t.request.expects? id = some dto.expectedVersion := by rw [hq]; exact if_pos rfl
    obtain ⟨ticket, hread, rfl, rfl⟩ := (hq ▸ intent).of_assign
    obtain ⟨_, hv⟩ := assignWhere_matches.mp (hguard _ intent rfl)
    obtain ⟨hassignee, _⟩ := read_current h he ht hexp hread hrow hv
    intro x hx htid ev' hev
    obtain ⟨m, first, u, g', d', evc, o, intent', hdue, rfl⟩ :=
      later_event h he ht hexp hx htid hev
    obtain ⟨ticket', hread', _, rfl⟩ := (hq ▸ intent').of_assign
    cases firstRead_same hread hread' hdue
    simp [TicketEventCreate.row, asignacionEvent, hassignee]

namespace Sample

def honest : Server := (play notAhead (created ++ race)).get (by decide)

/-- The agent sends the version the ticket is going to have, and loses the ticket between the
check and the write. -/
def ahead : List Action :=
  created ++ [.arrive (.assign 102 ⟨3, 0⟩ administrador)] ++ steps 1 10 7 ++
    [.arrive (.changeState 102 (start 2) agente)] ++ steps 2 20 1 ++
    [.arrive (.assign 102 ⟨4, 1⟩ administrador)] ++ steps 3 30 7 ++ steps 2 40 3

def overtaken : Server := (play freshIds ahead).get (by decide)

end Sample

theorem checked_at_commit_of_race : Sample.honest.CheckedAtCommit :=
  checked_at_commit (Sample.play_run (by decide))

open Sample in
theorem changeState_by_former_assignee :
    ¬ ∀ s, Run freshIds { world := world } s → s.CheckedAtCommit := by
  intro h
  have hrun : Run freshIds { world := world } overtaken := play_run (by decide)
  have hsplit : overtaken.history = overtaken.history.take 18 ++ overtaken.history[18] ::
    overtaken.history.drop 19 := by simp
  have hc := (h overtaken hrun _ _ _ overtaken.threads[2] 102 _ hsplit rfl rfl rfl).1 (start 2)
    agente rfl
  exact absurd hc.1 (by decide)

end Runs

end TicketSystem
