import TicketSystem.CreateTicketPage
import TicketSystem.Idempotency

namespace TicketSystem

open Relational Interleaved

/-- Where a call is: on its way, lost, refused by the validation, or served as request `i`. -/
inductive Transit where
  | sent
  | lost
  | refused
  | served (i : Nat)
  deriving DecidableEq, Repr

structure Attempt where
  call : CreateCall
  transit : Transit := .sent
  deriving DecidableEq, Repr

/-- One form, the calls its submits have made, oldest first, and the server. -/
structure Session where
  user : User
  page : CreateTicketPage
  attempts : List Attempt := []
  server : Server

/-- A submit draws a key. A call is delivered or lost, once. The page is answered for its last
call, or gives it up: whatever becomes of that call later, the page does not learn of it. -/
inductive Event where
  | submit (generated : String)
  | deliver (a : Nat)
  | lose (a : Nat)
  | answer
  | giveUp
  | server (m : Action)

def Session.answer? (s : Session) (a : Attempt) : Option (Except SubmitError Ticket) :=
  match a.transit with
  | .refused => some (.error .invalid)
  | .served i =>
    match (s.server.threads[i]?).bind Thread.result? with
    | some (.ok (.created c)) => some (.ok c.ticket)
    | some (.error e) => some (.error (.api e))
    | _ => none
  | _ => none

def Session.setTransit (s : Session) (a : Nat) (attempt : Attempt) (t : Transit) : Session :=
  { s with attempts := s.attempts.set a { attempt with transit := t } }

def Session.next (s : Session) : Event → Option Session
  | .submit generated =>
    -- the form is not on the page once a ticket is shown
    if s.page.created.isSome then none
    else
      let (page, sent) := s.page.onSubmit generated
      some { s with page := page, attempts := s.attempts ++ sent.toList.map fun c => { call := c } }
  | .deliver a =>
    match s.attempts[a]? with
    | some { call, transit := .sent } =>
      match call.body.validate with
      | none => some (s.setTransit a { call := call } .refused)
      | some dto =>
        ((s.server.next serve Cmd.exec (.arrive (.create dto s.user (some call.key)))).map
          fun server => { s.setTransit a { call := call } (.served s.server.threads.length) with
                            server := server })
    | _ => none
  | .lose a =>
    match s.attempts[a]? with
    | some { call, transit := .sent } => some (s.setTransit a { call := call } .lost)
    | _ => none
  | .answer =>
    if s.page.submitting then
      (s.attempts.getLast?.bind s.answer?).map fun r => { s with page := s.page.settle r }
    else none
  | .giveUp =>
    if s.page.submitting then some { s with page := s.page.settle (.error .network) } else none
  | .server m => (s.server.next serve Cmd.exec m).map fun server => { s with server := server }

inductive Plays (ok : Session → Event → Bool) (s₀ : Session) : Session → Prop
  | start : Plays ok s₀ s₀
  | next {s s' : Session} {e : Event} : Plays ok s₀ s → ok s e = true → s.next e = some s' →
      Plays ok s₀ s'

def Session.replay (ok : Session → Event → Bool) : List Event → Session → Option Session
  | [], s => some s
  | e :: es, s => if ok s e then (s.next e).bind (replay ok es) else none

theorem Plays.of_replay {ok : Session → Event → Bool} {s₀ s s' : Session} {es : List Event}
    (h : s.replay ok es = some s') (h₀ : Plays ok s₀ s) : Plays ok s₀ s' := by
  induction es generalizing s with
  | nil => cases Option.some.inj h; exact h₀
  | cons e es ih =>
    simp only [Session.replay] at h
    split at h
    next hok =>
      obtain ⟨v, hv, h⟩ := Option.bind_eq_some_iff.mp h
      exact ih h (h₀.next hok hv)
    next => cases h

/-- A generated key has not been seen before, and nobody else comes to use it. -/
def freshKeys (s : Session) : Event → Bool
  | .submit generated =>
    generated != "" && s.attempts.all (·.call.key != generated) &&
      s.server.threads.all (·.request.idempotencyKey != some generated)
  | .server (.arrive q) => s.attempts.all fun a => q.idempotencyKey != some a.call.key
  | _ => true

/-- Nothing will come of a call any more, and it has created no ticket. -/
def Session.spent (s : Session) (a : Attempt) : Bool :=
  match a.transit with
  | .sent => false
  | .lost | .refused => true
  | .served i =>
    (s.server.threads[i]?).any (fun t => decide t.Over) &&
      (own i s.server.history).all (fun o => (Seen.created? o).isNone)

/-- The user submits again only after calls that are spent. -/
def resubmitsSpent (s : Session) (e : Event) : Bool :=
  freshKeys s e &&
    match e with
    | .submit generated => (s.page.onSubmit generated).2.isNone || s.attempts.all s.spent
    | _ => true

def Session.ForForm (s : Session) (t : Ticket) : Prop :=
  ∃ a ∈ s.attempts, t.idempotencyKey = some a.call.key

theorem forForm_of_key {s : Session} {t : Ticket} {k : String} (hk : t.idempotencyKey = some k)
    (hs : k ∈ s.attempts.map fun a => a.call.key) : s.ForForm t := by
  obtain ⟨a, ha, rfl⟩ := List.mem_map.mp hs
  exact ⟨a, ha, hk⟩

/-- One ticket at most for the form, and the one that the page shows. -/
structure Session.ExactlyOnce (s : Session) : Prop where
  once : ∀ t ∈ s.server.world.tickets.rows, ∀ t' ∈ s.server.world.tickets.rows,
    s.ForForm t → s.ForForm t' → t = t'
  shown : ∀ t, s.page.created = some t →
    ∃ row ∈ s.server.world.tickets.rows, s.ForForm row ∧ row.id = t.id

/-- The five things an event can do: change the page alone, send a call, settle the fate of a
call on its way, hand it to the server, or let the server move. -/
inductive Session.Moves (s : Session) : Event → Session → Prop
  | page {e : Event} {p : CreateTicketPage}
      (created : ∀ t, p.created = some t → s.page.created = some t ∨
        ∃ (i : Nat) (a : Attempt), s.attempts[i]? = some a ∧ s.answer? a = some (.ok t)) :
      Moves s e { s with page := p }
  | sent {generated : String} {p : CreateTicketPage} {c : CreateCall}
      (call : s.page.onSubmit generated = (p, some c)) (key : c.key = generated)
      (created : p.created = none) :
      Moves s (.submit generated)
        { s with page := p, attempts := s.attempts ++ [{ call := c }] }
  | settled {e : Event} {a : Nat} {c : CreateCall} {t : Transit}
      (sent : s.attempts[a]? = some { call := c }) (fate : t = .lost ∨ t = .refused) :
      Moves s e (s.setTransit a { call := c } t)
  | delivered {a : Nat} {c : CreateCall} {dto : CreateTicketDto} {server : Server}
      (sent : s.attempts[a]? = some { call := c })
      (step : Step serve Cmd.exec s.server (.arrive (.create dto s.user (some c.key))) server) :
      Moves s (.deliver a)
        { s.setTransit a { call := c } (.served s.server.threads.length) with server := server }
  | served {m : Action} {server : Server} (step : Step serve Cmd.exec s.server m server) :
      Moves s (.server m) { s with server := server }

theorem Session.next_moves {s s' : Session} {e : Event} (h : s.next e = some s') :
    s.Moves e s' := by
  cases e with
  | submit generated =>
    simp only [Session.next] at h
    split at h
    next => cases h
    next hshown =>
      have hnone : s.page.created = none := Option.not_isSome_iff_eq_none.mp hshown
      obtain ⟨p, hp, hcall | hcall⟩ := s.page.onSubmit_cases generated
      · rw [hcall] at h
        cases Option.some.inj h
        simp only [Option.toList_none, List.map_nil, List.append_nil]
        exact .page fun t ht => .inl (hp ▸ ht)
      · rw [hcall] at h
        cases Option.some.inj h
        exact .sent hcall rfl (hp.trans hnone)
  | deliver a =>
    simp only [Session.next] at h
    split at h
    next call hsent =>
      split at h
      next => cases Option.some.inj h; exact .settled hsent (.inr rfl)
      next dto _ =>
        obtain ⟨server, hserver, rfl⟩ := Option.map_eq_some_iff.mp h
        exact .delivered hsent (Pool.next_step hserver)
    next => cases h
  | lose a =>
    simp only [Session.next] at h
    split at h
    next call hsent => cases Option.some.inj h; exact .settled hsent (.inl rfl)
    next => cases h
  | answer =>
    simp only [Session.next] at h
    split at h
    next =>
      obtain ⟨r, hr, rfl⟩ := Option.map_eq_some_iff.mp h
      obtain ⟨a, hlast, hanswer⟩ := Option.bind_eq_some_iff.mp hr
      obtain ⟨i, hi⟩ := List.mem_iff_getElem?.mp (List.mem_of_getLast? hlast)
      refine .page fun t ht => (CreateTicketPage.settle_created ht).imp id fun hok => ?_
      exact ⟨i, a, hi, hok ▸ hanswer⟩
    next => cases h
  | giveUp =>
    simp only [Session.next] at h
    split at h
    next =>
      cases Option.some.inj h
      exact .page fun t ht => .inl ht
    next => cases h
  | server m =>
    obtain ⟨server, hserver, rfl⟩ := Option.map_eq_some_iff.mp h
    exact .served (Pool.next_step hserver)

structure Session.Sound (w : World) (s : Session) : Prop where
  run : Run (fun _ _ => true) { world := w } s.server
  keys : ∀ (i j : Nat) (a b : Attempt), s.attempts[i]? = some a → s.attempts[j]? = some b →
    a.call.key = b.call.key → i = j
  served : ∀ (i : Nat) (a : Attempt) (n : Nat), s.attempts[i]? = some a → a.transit = .served n →
    ∃ (t : Task) (dto : CreateTicketDto), s.server.threads[n]? = some t ∧
      t.request = .create dto s.user (some a.call.key)
  carried : ∀ (i : Nat) (a : Attempt) (n : Nat) (t : Task), s.attempts[i]? = some a →
    s.server.threads[n]? = some t → t.request.idempotencyKey = some a.call.key → a.transit = .served n
  shown : ∀ t, s.page.created = some t →
    ∃ (i : Nat) (a : Attempt), s.attempts[i]? = some a ∧ s.answer? a = some (.ok t)

/-- All calls but the last are spent. -/
def Session.LastAlone (s : Session) : Prop :=
  ∀ (i : Nat) (a : Attempt), s.attempts[i]? = some a → i + 1 < s.attempts.length → s.spent a = true

theorem answer?_step {s : Session} {m : Action} {server : Server}
    (step : Step serve Cmd.exec s.server m server) {a : Attempt} {r : Except SubmitError Ticket}
    (h : s.answer? a = some r) : { s with server := server }.answer? a = some r := by
  obtain ⟨call, transit⟩ := a
  cases transit with
  | sent | lost => cases h
  | refused => exact h
  | served i =>
    simp only [Session.answer?] at h ⊢
    cases hb : (s.server.threads[i]?).bind Thread.result? with
    | none => rw [hb] at h; cases h
    | some x =>
      obtain ⟨t, ht, hx⟩ := Option.bind_eq_some_iff.mp hb
      obtain ⟨t', ht', _, hx'⟩ := step.result_stays ht hx
      rw [hb] at h
      rw [ht', Option.bind_some, hx']
      exact h

theorem spent_step {s : Session} {m : Action} {server : Server}
    (step : Step serve Cmd.exec s.server m server) {a : Attempt} (h : s.spent a = true) :
    { s with server := server }.spent a = true := by
  obtain ⟨call, transit⟩ := a
  cases transit with
  | sent => cases h
  | lost | refused => rfl
  | served i =>
    simp only [Session.spent, Bool.and_eq_true, Option.any_eq_true, decide_eq_true_eq] at h ⊢
    obtain ⟨⟨t, ht, hover⟩, hown⟩ := h
    have hreach : Reach serve Cmd.exec (fun _ _ => True) s.server server :=
      .next .start trivial step
    obtain ⟨hover', hsame⟩ := hreach.over_stays ht hover
    exact ⟨hover', hsame ▸ hown⟩

theorem getElem?_setTransit {s : Session} {a : Nat} {c : CreateCall} {t : Transit} {i : Nat}
    {x : Attempt} (h : (s.setTransit a { call := c } t).attempts[i]? = some x) :
    (i = a ∧ x = { call := c, transit := t }) ∨ (i ≠ a ∧ s.attempts[i]? = some x) :=
  getElem?_set_cases h

theorem shown_setTransit {s : Session} {a : Nat} {c : CreateCall} {t : Transit}
    (sent : s.attempts[a]? = some { call := c }) {r : Except SubmitError Ticket}
    (h : ∃ (i : Nat) (x : Attempt), s.attempts[i]? = some x ∧ s.answer? x = some r) :
    ∃ (i : Nat) (x : Attempt), (s.setTransit a { call := c } t).attempts[i]? = some x ∧
      s.answer? x = some r := by
  obtain ⟨i, x, hx, hanswer⟩ := h
  refine ⟨i, x, ?_, hanswer⟩
  have hi : a ≠ i := by
    rintro rfl
    cases sent.symm.trans hx
    cases hanswer
  simpa [Session.setTransit, List.getElem?_set_ne hi] using hx

section Sound

variable {w : World} {s s' : Session}

theorem keys_setTransit {a : Nat} {c : CreateCall} {t : Transit}
    (sent : s.attempts[a]? = some { call := c })
    (h : ∀ (i j : Nat) (x y : Attempt), s.attempts[i]? = some x → s.attempts[j]? = some y →
      x.call.key = y.call.key → i = j) (i j : Nat) (x y : Attempt)
    (hx : (s.setTransit a { call := c } t).attempts[i]? = some x)
    (hy : (s.setTransit a { call := c } t).attempts[j]? = some y)
    (hk : x.call.key = y.call.key) : i = j := by
  rcases getElem?_setTransit hx with ⟨rfl, rfl⟩ | ⟨_, hold⟩
  · rcases getElem?_setTransit hy with ⟨rfl, rfl⟩ | ⟨_, hold'⟩
    · rfl
    · exact h _ j _ y sent hold' hk
  · rcases getElem?_setTransit hy with ⟨rfl, rfl⟩ | ⟨_, hold'⟩
    · exact h i _ x _ hold sent hk
    · exact h i j x y hold hold' hk

theorem sound_page (h : s.Sound w) {p : CreateTicketPage}
    (created : ∀ t, p.created = some t → s.page.created = some t ∨
      ∃ (i : Nat) (a : Attempt), s.attempts[i]? = some a ∧ s.answer? a = some (.ok t)) :
    Session.Sound w { s with page := p } :=
  ⟨h.run, h.keys, h.served, h.carried, fun t ht => (created t ht).elim (h.shown t) id⟩

theorem sound_sent (h : s.Sound w) {generated : String} {p : CreateTicketPage} {c : CreateCall}
    (fresh : freshKeys s (.submit generated) = true) (key : c.key = generated)
    (created : p.created = none) :
    Session.Sound w { s with page := p, attempts := s.attempts ++ [{ call := c }] } := by
  simp only [freshKeys, Bool.and_eq_true, List.all_eq_true, bne_iff_ne] at fresh
  obtain ⟨⟨_, hattempts⟩, hthreads⟩ := fresh
  refine ⟨h.run, ?_, ?_, ?_, ?_⟩
  · intro i j x y hx hy hk
    rcases getElem?_concat_cases hx with hx | ⟨rfl, rfl⟩
    · rcases getElem?_concat_cases hy with hy | ⟨rfl, rfl⟩
      · exact h.keys i j x y hx hy hk
      · exact absurd (hk.trans key) (hattempts x (List.mem_of_getElem? hx))
    · rcases getElem?_concat_cases hy with hy | ⟨rfl, rfl⟩
      · exact absurd (hk.symm.trans key) (hattempts y (List.mem_of_getElem? hy))
      · rfl
  · intro i x n hx ht
    rcases getElem?_concat_cases hx with hx | ⟨rfl, rfl⟩
    · exact h.served i x n hx ht
    · cases ht
  · intro i x n t hx ht hk
    rcases getElem?_concat_cases hx with hx | ⟨rfl, rfl⟩
    · exact h.carried i x n t hx ht hk
    · rw [key] at hk
      exact absurd hk (hthreads t (List.mem_of_getElem? ht))
  · intro t ht
    rw [created] at ht
    cases ht

theorem sound_settled (h : s.Sound w) {a : Nat} {c : CreateCall} {t : Transit}
    (sent : s.attempts[a]? = some { call := c }) (fate : t = .lost ∨ t = .refused) :
    Session.Sound w (s.setTransit a { call := c } t) := by
  refine ⟨h.run, keys_setTransit sent h.keys, ?_, ?_, ?_⟩
  · intro i x n hx hn
    rcases getElem?_setTransit hx with ⟨_, rfl⟩ | ⟨_, hx⟩
    · rcases fate with rfl | rfl <;> cases hn
    · exact h.served i x n hx hn
  · intro i x n u hx hu hk
    rcases getElem?_setTransit hx with ⟨_, rfl⟩ | ⟨_, hx⟩
    · cases h.carried a _ n u sent hu hk
    · exact h.carried i x n u hx hu hk
  · exact fun v hv => shown_setTransit sent (h.shown v hv)

theorem sound_served (h : s.Sound w) {m : Action} {server : Server}
    (fresh : freshKeys s (.server m) = true) (step : Step serve Cmd.exec s.server m server) :
    Session.Sound w { s with server := server } := by
  have hreach : Run (fun _ _ => true) s.server server := .next .start rfl step
  refine ⟨h.run.trans hreach, h.keys, ?_, ?_, ?_⟩
  · intro i x n hx hn
    obtain ⟨t, dto, ht, hq⟩ := h.served i x n hx hn
    obtain ⟨t', ht', hq'⟩ := hreach.threads_keep ht
    exact ⟨t', dto, ht', hq'.trans hq⟩
  · intro i x n t' hx ht' hk
    rcases step.thread_before ht' with ⟨t, ht, hq⟩ | ⟨_, rfl⟩
    · exact h.carried i x n t hx ht (hq ▸ hk)
    · simp only [freshKeys, List.all_eq_true, bne_iff_ne] at fresh
      exact absurd hk (fresh x (List.mem_of_getElem? hx))
  · intro t ht
    obtain ⟨i, x, hx, hanswer⟩ := h.shown t ht
    exact ⟨i, x, hx, answer?_step step hanswer⟩

theorem sound_delivered (h : s.Sound w) {a : Nat} {c : CreateCall} {dto : CreateTicketDto}
    {server : Server} (sent : s.attempts[a]? = some { call := c })
    (step : Step serve Cmd.exec s.server (.arrive (.create dto s.user (some c.key))) server) :
    Session.Sound w { s.setTransit a { call := c } (.served s.server.threads.length) with
                        server := server } := by
  have hreach : Run (fun _ _ => true) s.server server := .next .start rfl step
  refine ⟨h.run.trans hreach, keys_setTransit sent h.keys, ?_, ?_, ?_⟩
  · intro i x n hx hn
    rcases getElem?_setTransit hx with ⟨_, rfl⟩ | ⟨_, hx⟩
    · cases hn
      cases step
      exact ⟨_, dto, List.getElem?_concat_length, rfl⟩
    · obtain ⟨t, dto', ht, hq⟩ := h.served i x n hx hn
      obtain ⟨t', ht', hq'⟩ := hreach.threads_keep ht
      exact ⟨t', dto', ht', hq'.trans hq⟩
  · intro i x n t' hx ht' hk
    rcases step.thread_before ht' with ⟨t, ht, hq⟩ | ⟨rfl, harrive⟩
    · rcases getElem?_setTransit hx with ⟨_, rfl⟩ | ⟨_, hx⟩
      · cases h.carried a _ n t sent ht (hq ▸ hk)
      · exact h.carried i x n t hx ht (hq ▸ hk)
    · rcases getElem?_setTransit hx with ⟨_, rfl⟩ | ⟨hi, hx⟩
      · rfl
      · have hkey : some c.key = some x.call.key := by
          rw [← hk, ← (Move.arrive.inj harrive)]
          rfl
        exact absurd (h.keys a i _ x sent hx (Option.some.inj hkey)).symm hi
  · intro t ht
    obtain ⟨i, x, hx, hanswer⟩ := shown_setTransit sent (h.shown t ht)
    exact ⟨i, x, hx, answer?_step step hanswer⟩

theorem Session.Moves.sound {e : Event} (hm : s.Moves e s') (fresh : freshKeys s e = true)
    (h : s.Sound w) : s'.Sound w := by
  cases hm with
  | page created => exact sound_page h created
  | sent _ key created => exact sound_sent h fresh key created
  | settled sent fate => exact sound_settled h sent fate
  | delivered sent step => exact sound_delivered h sent step
  | served step => exact sound_served h fresh step

theorem Session.Moves.lastAlone {e : Event} (hm : s.Moves e s')
    (ok : resubmitsSpent s e = true) (h : s.LastAlone) : s'.LastAlone := by
  have hset : ∀ {a : Nat} {c : CreateCall} {t : Transit}, s.attempts[a]? = some { call := c } →
      ∀ (i : Nat) (x : Attempt), (s.setTransit a { call := c } t).attempts[i]? = some x →
        i + 1 < (s.setTransit a { call := c } t).attempts.length → s.spent x = true := by
    intro a c t sent i x hx hlast
    simp only [Session.setTransit, List.length_set] at hlast
    rcases getElem?_setTransit hx with ⟨rfl, rfl⟩ | ⟨_, hx⟩
    · cases h _ _ sent hlast
    · exact h i x hx hlast
  cases hm with
  | page => exact h
  | settled sent => exact hset sent
  | delivered sent step => exact fun i x hx hlast => spent_step step (hset sent i x hx hlast)
  | served step => exact fun i x hx hlast => spent_step step (h i x hx hlast)
  | sent call =>
    simp only [resubmitsSpent, call, Option.isNone_some, Bool.false_or, Bool.and_eq_true,
      List.all_eq_true] at ok
    intro i x hx hlast
    rcases getElem?_concat_cases hx with hx | ⟨rfl, _⟩
    · exact ok.2 x (List.mem_of_getElem? hx)
    · simp at hlast

/-- A ticket under the key of a call was stored by the request the call became. -/
theorem Session.Sound.inserted (h : s.Sound w) (fresh : w.Fresh) {i : Nat} {a : Attempt}
    (ha : s.attempts[i]? = some a) {row : Ticket} (hrow : row ∈ s.server.world.tickets.rows)
    (hk : row.idempotencyKey = some a.call.key) :
    ∃ n t, a.transit = .served n ∧ s.server.Inserted n t := by
  obtain ⟨e, he, t, hobs, hevolves⟩ := Run.origin fresh h.run hrow
  obtain ⟨h₁, h₂, hh⟩ := List.append_of_mem he
  obtain ⟨task, dto, user, key, o, htask, hq, hkey, _, _⟩ := Run.creates h.run hh hobs
  have hcarries : task.request.idempotencyKey = some a.call.key := by
    rw [hq]
    exact hkey.symm.trans (hevolves.idempotencyKey.symm.trans hk)
  exact ⟨e.tid, t, h.carried i a e.tid task ha htask hcarries, e, he, rfl, hobs⟩

theorem not_inserted_of_spent {a : Attempt} (h : s.spent a = true) {n : Nat}
    (ha : a.transit = .served n) (t : Ticket) : ¬ s.server.Inserted n t := by
  rintro ⟨e, he, htid, hobs⟩
  simp only [Session.spent, ha, Bool.and_eq_true, List.all_eq_true] at h
  have hnone := h.2 e.obs (mem_own.mpr ⟨e, he, htid, rfl⟩)
  rw [hobs] at hnone
  cases hnone

theorem Session.Sound.shown_row (h : s.Sound w) {t : Ticket} (ht : s.page.created = some t) :
    ∃ row ∈ s.server.world.tickets.rows, s.ForForm row ∧ row.id = t.id := by
  obtain ⟨i, a, ha, hanswer⟩ := h.shown t ht
  have hmem := List.mem_of_getElem? ha
  cases htransit : a.transit with
  | sent | lost | refused => simp [Session.answer?, htransit] at hanswer
  | served n =>
    obtain ⟨task, dto, htask, hq⟩ := h.served i a n ha htransit
    simp only [Session.answer?, htransit, htask, Option.bind_some] at hanswer
    split at hanswer
    next c hr =>
      obtain ⟨_, _, _, hreq, hreturned⟩ := Run.returned_create h.run htask hr
      cases hq.symm.trans hreq
      cases Except.ok.inj (Option.some.inj hanswer)
      obtain ⟨row, hrow, hevolves⟩ := hreturned.row
      exact ⟨row, World.ticket?_mem hrow,
        ⟨a, hmem, hevolves.idempotencyKey.trans (hreturned.key rfl)⟩, World.ticket?_id hrow⟩
    next => cases hanswer
    next => cases hanswer

/-- When the calls before the last are spent, the tickets of the form are one. -/
theorem Session.Sound.exactlyOnce (h : s.Sound w) (fresh : w.Fresh) (alone : s.LastAlone) :
    s.ExactlyOnce where
  once t ht t' ht' := by
    rintro ⟨a, ha, hk⟩ ⟨a', ha', hk'⟩
    have hlast : ∀ (x : Attempt) (row : Ticket), row ∈ s.server.world.tickets.rows →
        row.idempotencyKey = some x.call.key → ∀ i, s.attempts[i]? = some x →
        i + 1 = s.attempts.length := by
      intro x row hrow hkey i hi
      obtain ⟨n, t, htransit, hins⟩ := h.inserted fresh hi hrow hkey
      have hlen := (List.getElem?_eq_some_iff.mp hi).1
      by_contra hne
      exact not_inserted_of_spent (alone i x hi (by omega)) htransit t hins
    obtain ⟨i, hi⟩ := List.mem_iff_getElem?.mp ha
    obtain ⟨j, hj⟩ := List.mem_iff_getElem?.mp ha'
    have hij : i = j := by
      have := hlast a t ht hk i hi
      have := hlast a' t' ht' hk' j hj
      omega
    subst hij
    cases Option.some.inj (hi.symm.trans hj)
    exact World.ticket_of_key ht ht' hk hk'
  shown _ ht := h.shown_row ht

end Sound

/-- A form that has been filled in and not submitted yet, on a server nobody has used. -/
def Session.fresh (user : User) (form : CreateForm) (w : World) : Session where
  user := user
  page := { form := form }
  server := { world := w }

theorem fresh_sound (user : User) (form : CreateForm) (w : World) :
    (Session.fresh user form w).Sound w where
  run := .start
  keys _ _ _ _ h := nomatch h
  served _ _ _ h := nomatch h
  carried _ _ _ _ h := nomatch h
  shown _ h := nomatch h

theorem Plays.sound {user : User} {form : CreateForm} {w : World} {s : Session}
    {ok : Session → Event → Bool} (hok : ∀ s e, ok s e = true → freshKeys s e = true)
    (h : Plays ok (Session.fresh user form w) s) : s.Sound w := by
  induction h with
  | start => exact fresh_sound user form w
  | next _ he hn ih => exact (Session.next_moves hn).sound (hok _ _ he) ih

/-- The page shows a ticket of the form in every run, and where the user submits again only
after calls that are spent, there is no other. -/
theorem exactly_once {user : User} {form : CreateForm} {w : World} {s : Session}
    (fresh : w.Fresh) (h : Plays resubmitsSpent (Session.fresh user form w) s) :
    s.ExactlyOnce := by
  have hsound : s.Sound w := h.sound fun s e he => (Bool.and_eq_true_iff.mp he).1
  refine hsound.exactlyOnce fresh ?_
  clear hsound
  induction h with
  | start => exact fun _ _ h => nomatch h
  | next _ he hn ih => exact (Session.next_moves hn).lastAlone he ih

namespace Sample

def form : CreateForm where
  title := "Caído"
  description := "No arranca el servidor"

def servedCall (i : Nat) : List Event :=
  .deliver i :: (steps i (10 * i) 5).map Event.server

/-- The first call is lost on its way; the second succeeds. -/
def lostCall : List Event :=
  [.submit "clave-1", .lose 0, .giveUp, .submit "clave-2", .deliver 1] ++
    (steps 0 0 5).map Event.server ++ [.answer]

def playForm (ok : Session → Event → Bool) (es : List Event) : Option Session :=
  (Session.fresh reportante form world).replay ok es

theorem playForm_plays {ok : Session → Event → Bool} {es : List Event} (h : (playForm ok es).isSome) :
    Plays ok (Session.fresh reportante form world) ((playForm ok es).get h) :=
  Plays.of_replay (Option.some_get h).symm .start

/-- The first call is served, its response is lost, and the user submits again. -/
def doubled : Session :=
  (playForm freshKeys (.submit "clave-1" :: servedCall 0 ++ [.giveUp, .submit "clave-2"] ++
    servedCall 1 ++ [.answer])).get (by decide)

end Sample

open Sample in
theorem exactly_once_after_lost_call :
    ((playForm resubmitsSpent lostCall).get (by decide)).ExactlyOnce :=
  exactly_once world_fresh (playForm_plays (by decide))

open Sample in
theorem twice_after_lost_response : ¬ ∀ s, Plays freshKeys
    (Session.fresh reportante form world) s → s.ExactlyOnce := by
  intro h
  have hplays : Plays freshKeys (Session.fresh reportante form world) doubled :=
    playForm_plays (by decide)
  have hkeys : doubled.attempts.map (fun a => a.call.key) = ["clave-1", "clave-2"] := by decide
  have hrows : doubled.server.world.tickets.rows.map (fun t => (t.id, t.idempotencyKey)) =
      [(104, some "clave-1"), (114, some "clave-2")] := by decide
  have first : (104, some "clave-1") ∈
      doubled.server.world.tickets.rows.map (fun t => (t.id, t.idempotencyKey)) := by simp [hrows]
  have second : (114, some "clave-2") ∈
      doubled.server.world.tickets.rows.map (fun t => (t.id, t.idempotencyKey)) := by simp [hrows]
  obtain ⟨t, ht, heq⟩ := List.mem_map.mp first
  obtain ⟨t', ht', heq'⟩ := List.mem_map.mp second
  obtain ⟨hid, hk⟩ := Prod.mk.inj heq
  obtain ⟨hid', hk'⟩ := Prod.mk.inj heq'
  have hone := (h doubled hplays).once t ht t' ht' (forForm_of_key hk (by simp [hkeys]))
    (forForm_of_key hk' (by simp [hkeys]))
  have hne : (104 : Uuid) ≠ 114 := by decide
  exact hne (hid.symm.trans ((congrArg Ticket.id hone).trans hid'))

end TicketSystem
