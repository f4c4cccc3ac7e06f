import TicketSystem.Lib.Machine
import TicketSystem.Lib.Pool

namespace Interleaved

/-- What a client does for its user, what it asks for, and what it makes of an answer (none, when
the network fails). Both may send calls. The moment, how long the history of the pool is, is given
to be recorded only. -/
structure Ui (σ ι κ Q ε α : Type) where
  act : (moment : Nat) → σ → ι → Option (σ × List κ)
  request : κ → Q
  settle : (moment : Nat) → σ → κ → Except (Option ε) α → σ × List κ

/-- What has become of a call: thread `n` serves it, or it has been settled. -/
inductive Fate where
  | sent
  | served (n : Nat)
  | over
  deriving DecidableEq, Repr

/-- A call of a client. When it was sent is recorded only. -/
structure Sent (κ : Type) where
  call : κ
  since : Nat
  fate : Fate := .sent

def Sent.live {κ : Type} (c : Sent κ) : Bool := c.fate ≠ .over

/-- A client with its calls, oldest first, and the pool that serves it and others. -/
structure Client (σ κ C : Type) (R : C → Type) (ε α Q W : Type) where
  ui : σ
  calls : List (Sent κ) := []
  server : Pool C R ε α Q W

inductive ClientMove (ι Q O : Type) where
  | act (i : ι)
  | deliver (i : Nat)
  | answer (i : Nat)
  | fail (i : Nat)
  | server (m : Move Q O)

variable {σ ι κ C : Type} {R : C → Type} {ε α Q W O : Type}

namespace Client

def send (s : Client σ κ C R ε α Q W) (r : σ × List κ) : Client σ κ C R ε α Q W :=
  { s with
    ui := r.1
    calls := s.calls ++ r.2.map fun call => { call := call, since := s.server.history.length } }

def fly (s : Client σ κ C R ε α Q W) (i : Nat) (c : Sent κ) (fate : Fate) :
    Client σ κ C R ε α Q W :=
  { s with calls := s.calls.set i { c with fate := fate } }

def settle (U : Ui σ ι κ Q ε α) (s : Client σ κ C R ε α Q W) (i : Nat) (c : Sent κ)
    (r : Except (Option ε) α) : Client σ κ C R ε α Q W :=
  (s.fly i c .over).send (U.settle s.server.history.length s.ui c.call r)

def next (U : Ui σ ι κ Q ε α) (program : Q → Prog C R ε α)
    (exec : O → (c : C) → W → Except ε (R c) × W) (s : Client σ κ C R ε α Q W) :
    ClientMove ι Q O → Option (Client σ κ C R ε α Q W)
  | .act i => (U.act s.server.history.length s.ui i).map s.send
  | .deliver i =>
    match s.calls[i]? with
    | some { call, since, fate := .sent } =>
      (s.server.next program exec (.arrive (U.request call))).map fun server =>
        { s.fly i { call, since } (.served s.server.threads.length) with server := server }
    | _ => none
  | .answer i =>
    match s.calls[i]? with
    | some { call, since, fate := .served n } =>
      ((s.server.threads[n]?).bind Thread.result?).map fun r =>
        s.settle U i { call, since } (r.mapError some)
    | _ => none
  | .fail i =>
    match s.calls[i]? with
    | some c => if c.live then some (s.settle U i c (.error none)) else none
    | none => none
  | .server m => (s.server.next program exec m).map fun server => { s with server := server }

/-- The calls on their way. -/
def onTheirWay (s : Client σ κ C R ε α Q W) : List (Sent κ) := s.calls.filter Sent.live

end Client

/-- A thread that serves the call has answered so. -/
def Sent.AnsweredBy (c : Sent κ) (s : Pool C R ε α Q W) (v : α) : Prop :=
  ∃ n t, c.fate = .served n ∧ s.threads[n]? = some t ∧ t.result? = some (.ok v)

section Moves

variable (U : Ui σ ι κ Q ε α) (program : Q → Prog C R ε α)
  (exec : O → (c : C) → W → Except ε (R c) × W)

inductive Client.Moves (s : Client σ κ C R ε α Q W) : Client σ κ C R ε α Q W → Prop
  | acted {i : ι} {r : σ × List κ} (act : U.act s.server.history.length s.ui i = some r) :
      Moves s (s.send r)
  | delivered {i : Nat} {c : Sent κ} {server : Pool C R ε α Q W} (call : s.calls[i]? = some c)
      (sent : c.fate = .sent)
      (step : Step program exec s.server (.arrive (U.request c.call)) server) :
      Moves s { s.fly i c (.served s.server.threads.length) with server := server }
  | settled {i : Nat} {c : Sent κ} {r : Except (Option ε) α} (call : s.calls[i]? = some c)
      (live : c.live = true) (answer : ∀ v, r = .ok v → c.AnsweredBy s.server v) :
      Moves s (s.settle U i c r)
  | served {m : Move Q O} {server : Pool C R ε α Q W}
      (step : Step program exec s.server m server) : Moves s { s with server := server }

variable {U program exec}

theorem Client.next_moves {s s' : Client σ κ C R ε α Q W} {m : ClientMove ι Q O}
    (h : s.next U program exec m = some s') : s.Moves U program exec s' := by
  cases m with
  | act i =>
    obtain ⟨r, hr, rfl⟩ := Option.map_eq_some_iff.mp h
    exact .acted hr
  | deliver i =>
    simp only [Client.next] at h
    split at h
    next call since hc =>
      obtain ⟨server, hserver, rfl⟩ := Option.map_eq_some_iff.mp h
      exact .delivered hc rfl (Pool.next_step hserver)
    next => cases h
  | answer i =>
    simp only [Client.next] at h
    split at h
    next call since n hc =>
      obtain ⟨r, hr, rfl⟩ := Option.map_eq_some_iff.mp h
      obtain ⟨t, ht, hr⟩ := Option.bind_eq_some_iff.mp hr
      refine .settled (c := { call, since, fate := .served n }) hc rfl fun v hv => ?_
      cases r with
      | ok a => cases hv; exact ⟨n, t, rfl, ht, hr⟩
      | error e => cases hv
    next => cases h
  | fail i =>
    simp only [Client.next] at h
    split at h
    next c hc =>
      split at h
      next hlive => cases Option.some.inj h; exact .settled hc hlive fun v hv => nomatch hv
      next => cases h
    next => cases h
  | server m =>
    obtain ⟨server, hserver, rfl⟩ := Option.map_eq_some_iff.mp h
    exact .served (Pool.next_step hserver)

end Moves

/-! ### A client with one call at a time -/

def Sent.new (call : κ) (s : Pool C R ε α Q W) : Sent κ :=
  { call := call, since := s.history.length }

/-- What is known of a call on its way: its thread serves its request, and has executed nothing
since before it was sent. -/
structure Sent.Tracked (request : κ → Q) (s : Pool C R ε α Q W) (c : Sent κ) : Prop where
  since : c.since ≤ s.history.length
  serves : ∀ n, c.fate = .served n → ∃ t, s.threads[n]? = some t ∧ t.request = request c.call
  after : ∀ n, c.fate = .served n → ∀ (i : Nat) (e : Entry C R ε W), s.history[i]? = some e →
    e.tid = n → c.since ≤ i

section Tracked

variable {program : Q → Prog C R ε α} {exec : O → (c : C) → W → Except ε (R c) × W}
  {request : κ → Q} {s s' : Pool C R ε α Q W} {c : Sent κ} {m : Move Q O}

theorem Step.history_grows (h : Step program exec s m s') {i : Nat} {e : Entry C R ε W}
    (he : s'.history[i]? = some e) : s.history[i]? = some e ∨ s.history.length ≤ i := by
  cases h with
  | arrive q => exact .inl he
  | stop thread => exact .inl he
  | run o thread =>
    rcases getElem?_concat_cases he with he | ⟨hi, _⟩
    · exact .inl he
    · exact .inr (Nat.le_of_eq hi.symm)

theorem Step.history_keeps (h : Step program exec s m s') {i : Nat} {e : Entry C R ε W}
    (he : s.history[i]? = some e) : s'.history[i]? = some e := by
  cases h with
  | arrive q => exact he
  | stop thread => exact he
  | run o thread =>
    rw [Pool.ran, List.getElem?_append_left (List.getElem?_eq_some_iff.mp he).1]
    exact he

theorem Step.history_le (h : Step program exec s m s') :
    s.history.length ≤ s'.history.length := by
  cases h with
  | arrive q => exact Nat.le_refl _
  | stop thread => exact Nat.le_refl _
  | run o thread => simp [Pool.ran]

theorem Step.threads_le (h : Step program exec s m s') :
    s.threads.length ≤ s'.threads.length := by
  cases h with
  | arrive q => simp
  | stop thread => simp
  | run o thread => simp [Pool.ran]

theorem Reach.threads_le {ok : Pool C R ε α Q W → Move Q O → Prop}
    (h : Reach program exec ok s s') : s.threads.length ≤ s'.threads.length := by
  induction h with
  | start => exact Nat.le_refl _
  | next _ _ step ih => exact Nat.le_trans ih step.threads_le

theorem Step.tids (h : Step program exec s m s')
    (tids : ∀ e ∈ s.history, e.tid < s.threads.length) :
    ∀ e ∈ s'.history, e.tid < s'.threads.length :=
  (Reach.next (.start : Reach program exec (fun _ _ => True) s s) trivial h).tid_lt tids

theorem Sent.tracked_new (call : κ) (s : Pool C R ε α Q W) :
    (Sent.new call s).Tracked request s where
  since := Nat.le_refl _
  serves _ h := nomatch h
  after _ h := nomatch h

theorem Sent.Tracked.step (hc : c.Tracked request s) (step : Step program exec s m s') :
    c.Tracked request s' where
  since := Nat.le_trans hc.since step.history_le
  serves n hn := by
    obtain ⟨t, ht, hq⟩ := hc.serves n hn
    obtain ⟨t', ht', hq'⟩ := step.thread_keeps ht
    exact ⟨t', ht', hq'.trans hq⟩
  after n hn i e he htid := by
    rcases step.history_grows he with he | hi
    · exact hc.after n hn i e he htid
    · exact Nat.le_trans hc.since hi

theorem Sent.Tracked.delivered (hc : c.Tracked request s)
    (tids : ∀ e ∈ s.history, e.tid < s.threads.length)
    (step : Step program exec s (.arrive (request c.call)) s') :
    Sent.Tracked request s' { c with fate := .served s.threads.length } := by
  cases step
  refine ⟨hc.since, ?_, ?_⟩
  · rintro _ ⟨⟩
    exact ⟨_, List.getElem?_concat_length, rfl⟩
  · rintro _ ⟨⟩ i e he htid
    exact absurd htid (Nat.ne_of_lt (tids e (List.mem_of_getElem? he)))

end Tracked

/-- What is said of a client with its only call on its way, and the pool, that goes on being true
whatever happens next; the client sends no other call meanwhile. -/
structure Ui.Sequential (U : Ui σ ι κ Q ε α) (program : Q → Prog C R ε α)
    (exec : O → (c : C) → W → Except ε (R c) × W)
    (J : σ → Option (Sent κ) → Pool C R ε α Q W → Prop) : Prop where
  act : ∀ {u i r c s}, J u c s → U.act s.history.length u i = some r →
    (r.2 = [] ∧ J r.1 c s) ∨ (c = none ∧ ∃ k, r.2 = [k] ∧ J r.1 (some (.new k s)) s)
  delivered : ∀ {u c s s'}, J u (some c) s → c.fate = .sent →
    Step program exec s (.arrive (U.request c.call)) s' →
    J u (some { c with fate := .served s.threads.length }) s'
  settle : ∀ {u c r s}, J u (some c) s → c.Tracked U.request s →
    (∀ v, r = .ok v → c.AnsweredBy s v) →
    let next := U.settle s.history.length u c.call r
    (next.2 = [] ∧ J next.1 none s) ∨ ∃ k, next.2 = [k] ∧ J next.1 (some (.new k s)) s
  server : ∀ {u c s m s'}, J u c s → Step program exec s m s' → J u c s'

/-- The client has this call on its way, or none. -/
structure Client.Holds (U : Ui σ ι κ Q ε α)
    (J : σ → Option (Sent κ) → Pool C R ε α Q W → Prop) (s : Client σ κ C R ε α Q W)
    (c : Option (Sent κ)) : Prop where
  only : s.onTheirWay = c.toList
  told : J s.ui c s.server
  tracked : ∀ x, c = some x → x.Tracked U.request s.server
  tids : ∀ e ∈ s.server.history, e.tid < s.server.threads.length

section Calls

variable {U : Ui σ ι κ Q ε α} {program : Q → Prog C R ε α}
  {exec : O → (c : C) → W → Except ε (R c) × W}
  {J : σ → Option (Sent κ) → Pool C R ε α Q W → Prop} {s s' : Client σ κ C R ε α Q W}
  {c : Option (Sent κ)}

theorem Client.send_onTheirWay (r : σ × List κ) :
    (s.send r).onTheirWay = s.onTheirWay ++ r.2.map fun call => .new call s.server := by
  rw [Client.onTheirWay, Client.send, List.filter_append]
  congr 1
  refine List.filter_eq_self.mpr fun c hc => ?_
  obtain ⟨k, _, rfl⟩ := List.mem_map.mp hc
  rfl

/-- The only call on its way is the one that is settled or delivered. -/
theorem Client.fly_onTheirWay (honly : s.onTheirWay = c.toList) {i : Nat} {x : Sent κ}
    (hx : s.calls[i]? = some x) (hlive : x.live = true) (fate : Fate) :
    c = some x ∧ (s.fly i x fate).onTheirWay =
      if Sent.live { x with fate := fate } then [{ x with fate := fate }] else [] := by
  obtain ⟨hlt, hget⟩ := List.getElem?_eq_some_iff.mp hx
  have hsplit : s.calls = s.calls.take i ++ x :: s.calls.drop (i + 1) := by
    rw [← hget, ← List.drop_eq_getElem_cons hlt, List.take_append_drop]
  have hfilter : s.onTheirWay = (s.calls.take i).filter Sent.live ++
      x :: (s.calls.drop (i + 1)).filter Sent.live := by
    rw [Client.onTheirWay]
    conv_lhs => rw [hsplit]
    rw [List.filter_append, List.filter_cons_of_pos hlive]
  rw [honly] at hfilter
  obtain ⟨hbefore, rfl, hafter⟩ : (s.calls.take i).filter Sent.live = [] ∧ c = some x ∧
      (s.calls.drop (i + 1)).filter Sent.live = [] := by
    cases c with
    | none => simp at hfilter
    | some c =>
      cases hbefore : (s.calls.take i).filter Sent.live with
      | nil =>
        rw [hbefore] at hfilter
        obtain ⟨rfl, hafter⟩ := List.cons.inj hfilter
        exact ⟨rfl, rfl, hafter.symm⟩
      | cons y ys => simp [hbefore] at hfilter
  refine ⟨rfl, ?_⟩
  rw [Client.onTheirWay, Client.fly, List.set_eq_take_append_cons_drop, if_pos hlt,
    List.filter_append, hbefore, List.filter_cons, hafter]
  rfl

theorem Client.Holds.acted (h : s.Holds U J c) (hJ : U.Sequential program exec J) {i : ι}
    {r : σ × List κ} (act : U.act s.server.history.length s.ui i = some r) :
    ∃ c', (s.send r).Holds U J c' := by
  rcases hJ.act h.told act with ⟨hnone, hj⟩ | ⟨rfl, k, hone, hj⟩
  · refine ⟨c, ?_, hj, h.tracked, h.tids⟩
    rw [Client.send_onTheirWay, h.only, hnone]
    exact List.append_nil _
  · refine ⟨some (.new k s.server), ?_, hj, ?_, h.tids⟩
    · rw [Client.send_onTheirWay, h.only, hone]
      rfl
    · rintro _ ⟨⟩
      exact Sent.tracked_new k s.server

theorem Client.Holds.delivered (h : s.Holds U J c) (hJ : U.Sequential program exec J) {i : Nat}
    {x : Sent κ} {server : Pool C R ε α Q W} (call : s.calls[i]? = some x) (sent : x.fate = .sent)
    (step : Step program exec s.server (.arrive (U.request x.call)) server) :
    Client.Holds U J { s.fly i x (.served s.server.threads.length) with server := server }
      (some { x with fate := .served s.server.threads.length }) := by
  obtain ⟨rfl, hfly⟩ := s.fly_onTheirWay h.only call (by simp [Sent.live, sent])
    (.served s.server.threads.length)
  refine ⟨?_, hJ.delivered h.told sent step, ?_, step.tids h.tids⟩
  · rw [if_pos (by simp [Sent.live])] at hfly
    exact hfly
  · rintro _ ⟨⟩
    exact (h.tracked x rfl).delivered h.tids step

theorem Client.Holds.settled (h : s.Holds U J c) (hJ : U.Sequential program exec J) {i : Nat}
    {x : Sent κ} {r : Except (Option ε) α} (call : s.calls[i]? = some x) (live : x.live = true)
    (answer : ∀ v, r = .ok v → x.AnsweredBy s.server v) :
    ∃ c', (s.settle U i x r).Holds U J c' := by
  obtain ⟨rfl, hfly⟩ := s.fly_onTheirWay h.only call live .over
  rw [if_neg (by simp [Sent.live])] at hfly
  rcases hJ.settle h.told (h.tracked x rfl) answer with ⟨hnone, hj⟩ | ⟨k, hone, hj⟩
  · refine ⟨none, ?_, hj, nofun, h.tids⟩
    rw [Client.settle, Client.send_onTheirWay, hfly, hnone]
    rfl
  · refine ⟨some (.new k s.server), ?_, hj, ?_, h.tids⟩
    · rw [Client.settle, Client.send_onTheirWay, hfly, hone]
      rfl
    · rintro _ ⟨⟩
      exact Sent.tracked_new k s.server

theorem Client.Moves.holds (hm : s.Moves U program exec s') (hJ : U.Sequential program exec J)
    (h : s.Holds U J c) : ∃ c', s'.Holds U J c' := by
  cases hm with
  | acted act => exact h.acted hJ act
  | delivered call sent step => exact ⟨_, h.delivered hJ call sent step⟩
  | settled call live answer => exact h.settled hJ call live answer
  | served step =>
    exact ⟨c, h.only, hJ.server h.told step, fun x hx => (h.tracked x hx).step step,
      step.tids h.tids⟩

/-- A client with one call at a time can be reasoned about as if nothing interleaved: what each of
its own steps keeps, and each step of the pool, holds in all its runs. -/
theorem Client.runs_hold {ok : Client σ κ C R ε α Q W → ClientMove ι Q O → Bool}
    (hJ : U.Sequential program exec J) (h0 : s.Holds U J c)
    (hs : Reactive.Runs (Client.next U program exec) ok s s') : ∃ c', s'.Holds U J c' :=
  hs.invariant (I := fun s => ∃ c, s.Holds U J c) ⟨c, h0⟩ fun _ _ _ ⟨_, h⟩ _ hnext =>
    (Client.next_moves hnext).holds hJ h

end Calls

/-! ### A client with many calls at a time -/

/-- What is said of a client and the pool, and of each of its calls, that goes on being true
whatever happens next. -/
structure Ui.Concurrent (U : Ui σ ι κ Q ε α) (program : Q → Prog C R ε α)
    (exec : O → (c : C) → W → Except ε (R c) × W) (J : σ → Pool C R ε α Q W → Prop)
    (K : Sent κ → Pool C R ε α Q W → Prop) : Prop where
  act : ∀ {u i r s}, J u s → U.act s.history.length u i = some r →
    J r.1 s ∧ ∀ k ∈ r.2, K (.new k s) s
  delivered : ∀ {c s s'}, K c s → c.fate = .sent →
    Step program exec s (.arrive (U.request c.call)) s' →
    K { c with fate := .served s.threads.length } s'
  ends : ∀ {c s}, K c s → K { c with fate := .over } s
  settle : ∀ {u c r s}, J u s → K c s → c.Tracked U.request s →
    (∀ v, r = .ok v → c.AnsweredBy s v) →
    let next := U.settle s.history.length u c.call r
    J next.1 s ∧ ∀ k ∈ next.2, K (.new k s) s
  server : ∀ {u s m s'}, J u s → Step program exec s m s' → J u s'
  waits : ∀ {c s m s'}, K c s → Step program exec s m s' → K c s'

structure Client.Keeps (U : Ui σ ι κ Q ε α) (J : σ → Pool C R ε α Q W → Prop)
    (K : Sent κ → Pool C R ε α Q W → Prop) (s : Client σ κ C R ε α Q W) : Prop where
  told : J s.ui s.server
  calls : ∀ c ∈ s.calls, c.Tracked U.request s.server ∧ K c s.server
  tids : ∀ e ∈ s.server.history, e.tid < s.server.threads.length

section Keeps

variable {U : Ui σ ι κ Q ε α} {program : Q → Prog C R ε α}
  {exec : O → (c : C) → W → Except ε (R c) × W} {J : σ → Pool C R ε α Q W → Prop}
  {K : Sent κ → Pool C R ε α Q W → Prop} {s s' : Client σ κ C R ε α Q W}

theorem Sent.Tracked.over {request : κ → Q} {p : Pool C R ε α Q W} {c : Sent κ}
    (hc : c.Tracked request p) : Sent.Tracked request p { c with fate := .over } :=
  ⟨hc.since, nofun, nofun⟩

theorem Client.Keeps.send (h : s.Keeps U J K) {r : σ × List κ} (hui : J r.1 s.server)
    (hsent : ∀ k ∈ r.2, K (.new k s.server) s.server) : (s.send r).Keeps U J K := by
  refine ⟨hui, fun c hc => ?_, h.tids⟩
  rcases List.mem_append.mp hc with hc | hc
  · exact h.calls c hc
  · obtain ⟨k, hk, rfl⟩ := List.mem_map.mp hc
    exact ⟨Sent.tracked_new k s.server, hsent k hk⟩

theorem Client.Moves.keeps (hm : s.Moves U program exec s')
    (hJ : U.Concurrent program exec J K) (h : s.Keeps U J K) : s'.Keeps U J K := by
  cases hm with
  | acted act =>
    obtain ⟨hui, hsent⟩ := hJ.act h.told act
    exact h.send hui hsent
  | @delivered i c server call sent step =>
    have hstays : ∀ x ∈ s.calls, x.Tracked U.request server ∧ K x server := fun x hx =>
      ⟨(h.calls x hx).1.step step, hJ.waits (h.calls x hx).2 step⟩
    refine ⟨hJ.server h.told step, fun x hx => ?_, step.tids h.tids⟩
    rcases List.mem_or_eq_of_mem_set hx with hx | rfl
    · exact hstays x hx
    · have hc := h.calls c (List.mem_of_getElem? call)
      exact ⟨hc.1.delivered h.tids step, hJ.delivered hc.2 sent step⟩
  | @settled i c r call live answer =>
    have hc := h.calls c (List.mem_of_getElem? call)
    obtain ⟨hui, hsent⟩ := hJ.settle h.told hc.2 hc.1 answer
    refine Client.Keeps.send (s := s.fly i c .over) ⟨h.told, fun x hx => ?_, h.tids⟩ hui hsent
    rcases List.mem_or_eq_of_mem_set hx with hx | rfl
    · exact h.calls x hx
    · exact ⟨hc.1.over, hJ.ends hc.2⟩
  | served step =>
    exact ⟨hJ.server h.told step,
      fun x hx => ⟨(h.calls x hx).1.step step, hJ.waits (h.calls x hx).2 step⟩, step.tids h.tids⟩

/-- What each of its own steps keeps, and each step of the pool, holds in all runs of a client,
however many calls it has on their way. -/
theorem Client.runs_keep {ok : Client σ κ C R ε α Q W → ClientMove ι Q O → Bool}
    (hJ : U.Concurrent program exec J K) (h0 : s.Keeps U J K)
    (hs : Reactive.Runs (Client.next U program exec) ok s s') : s'.Keeps U J K :=
  hs.invariant (I := Client.Keeps U J K) h0 fun _ _ _ h _ hnext =>
    (Client.next_moves hnext).keeps hJ h

end Keeps

end Interleaved
