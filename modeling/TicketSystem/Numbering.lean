import TicketSystem.Idempotency
import TicketSystem.Outbound

namespace TicketSystem

open Relational Interleaved

/-- With unused default ids the calls of a read-only piece that seeks nothing fail from outside
only. -/
theorem exec_reads_error {o : Oracle} {c : Cmd} {w : World} (hreads : c.reads = true)
    (hplain : c.follows = false) (hseeks : c.seeks = false) (hun : o.Unused w) {err : Err}
    (h : (c.exec o w).1 = .error err) : err = .failed := by
  cases c with
  | transaction => cases hreads
  | one s =>
    rcases Cmd.exec_one o s w with he | he
    · cases (congrArg Prod.fst he).symm.trans h
      rfl
    · have h := (congrArg Prod.fst he).symm.trans h
      cases s with
      | ticketCreate | ticketUpdateMany | ticketEventCreate | attachmentUpdateMany
      | attachmentCreate | userCreate => cases hreads
      | ticketFindUniqueOrThrow => cases hplain
      | ticketFindPage => cases hseeks
      | userUpsert email create update =>
        simp only [Stmt.exec] at h
        split at h
        next => cases h
        next hnone =>
          split at h
          next => cases h
          next hi =>
            obtain ⟨x, hx, hc⟩ := Table.insert?_eq_none.mp hi
            rcases hc with hc | hc
            · exact absurd hc (hun.2.2 x hx)
            · exact absurd hc (Table.lookup_eq_none.mp hnone x hx)
      | _ => cases h

/-- A transaction that fails, and not from outside, has met a row that a unique index keeps. -/
theorem exec_create_error {dto : CreateTicketDto} {user : User} {key : Option String}
    {priority : Priority} {slaDueAt : Option Time} {o : Oracle} {w w' : World} {err : Err}
    (h : Cmd.exec o (.transaction (createTransaction dto user key priority slaDueAt)) w =
      (.error err, w')) :
    err = .failed ∨ (w'.ticketNumberSeq = w.ticketNumberSeq + 1 ∧
      ((∃ x ∈ w.tickets.rows, x.clash (insertedTicket dto user key priority slaDueAt o w)) ∨
        ∃ e ∈ w.events.rows, e.id = o.uuid)) := by
  simp only [Cmd.exec] at h
  cases hf : o.fault with
  | none =>
    rw [hf] at h
    split at h
    next => cases h
    next hv =>
      cases h
      have hcause := createTransaction_error w hv
      exact .inr hcause
  | some n =>
    obtain ⟨err', v, hv, hcause⟩ := Tx.run_fault createTransaction_strict (o := o) n w
    rw [hf, hv] at h
    cases h
    refine hcause.imp id fun hnone => ?_
    have hcause := createTransaction_error w hnone
    exact hcause

/-- A transaction that is struck before its first statement meets no row. -/
theorem exec_create_struck {dto : CreateTicketDto} {user : User} {key : Option String}
    {priority : Priority} {slaDueAt : Option Time} {o : Oracle} {w w' : World} {err : Err}
    (hf : o.fault = some 0)
    (h : Cmd.exec o (.transaction (createTransaction dto user key priority slaDueAt)) w =
      (.error err, w')) : err = .failed := by
  simp only [Cmd.exec, hf, createTransaction, tx, Prog.bind_eq, Prog.perform, Prog.bind, Tx.run,
    Stmt.fallible, if_true] at h
  cases h
  rfl

def Cmd.commits : Cmd → Bool
  | .transaction _ => true
  | .one _ => false

/-- A create looks for no user and for no page. -/
def unsought : Contract Cmd Cmd.Res Err Response Request where
  answers _ _ := True
  issues q _ c := ∀ dto user key, q = .create dto user key → c.seeks = false
  returns _ _ _ := True

theorem serve_unsought : unsought.Kept serve Cmd.exec where
  answers _ _ _ := trivial
  obeys q := by
    by_cases h : ∃ dto user key, q = .create dto user key
    · obtain ⟨dto, user, key, rfl⟩ := h
      have honly : Mute (respond .created (create dto user key)) :=
        (create_mute dto user key).bind fun _ => trivial
      exact (honly.obeys []).mono (fun _ _ hc _ _ _ _ => hc.2) (fun _ _ h => h)
    · refine (Prog.obeys_any _ []).mono (fun _ _ _ dto user key hq => ?_) (fun _ _ h => h)
      exact absurd ⟨dto, user, key, hq⟩ h

/-- A statement of a create fails from outside, or it is the transaction, which meets a row
with the number or with the key of the ticket it inserts. -/
theorem Issues.create_error {dto : CreateTicketDto} {user : User} {key : Option String}
    {past : List Seen} {c : Cmd} {o : Oracle} {w w' : World} {err : Err}
    (h : Issues (.create dto user key) past c) (hseeks : c.seeks = false) (hun : o.Unused w)
    (hx : Cmd.exec o c w = (.error err, w')) :
    err = .failed ∨ (c.commits = true ∧ Unwritten past ∧ o.fault ≠ some 0 ∧
      w'.ticketNumberSeq = w.ticketNumberSeq + 1 ∧ ∃ y ∈ w.tickets.rows,
        y.ticketNumber = ticketNumber (w.ticketNumberSeq + 1) ∨
          ∃ k, key = some k ∧ y.idempotencyKey = some k) := by
  cases h with
  | reads reads _ plain => exact .inl (exec_reads_error reads plain hseeks hun (congrArg Prod.fst hx))
  | update intent => cases intent
  | event intent => cases intent
  | readBack intent => cases intent
  | note notes => cases notes
  | create calm =>
    by_cases hf : o.fault = some 0
    · exact .inl (exec_create_struck hf hx)
    · refine (exec_create_error hx).imp_right ?_
      rintro ⟨hnext, ⟨y, hy, hc⟩ | ⟨ev, hev, hid⟩⟩
      · refine ⟨rfl, calm, hf, hnext, y, hy, ?_⟩
        rcases hc with hid | hnumber | ⟨hsome, hkey⟩
        · exact absurd hid (hun.1 y hy)
        · exact .inl hnumber
        · obtain ⟨k, hk⟩ := Option.isSome_iff_exists.mp hsome
          exact .inr ⟨k, hkey.symm.trans hk, hk⟩
      · exact absurd hid (hun.2.1 ev hev)

/-- Every ticket carries the number of a sequence value that was taken. -/
def World.NumbersTaken (w : World) : Prop :=
  ∀ t ∈ w.tickets.rows, ∃ m, 1 ≤ m ∧ m ≤ w.ticketNumberSeq ∧ t.ticketNumber = ticketNumber m

theorem Effect.seq {q : Request} {past : List Seen} {e : Executed} (h : Effect q past e) :
    e.before.ticketNumberSeq ≤ e.after.ticketNumberSeq := by
  cases h with
  | quiet _ kept => exact kept.seq
  | created _ _ _ write => rw [write.seq]; omega
  | updated _ _ write => exact write.seq.ge
  | recorded _ _ _ _ write => exact write.seq.ge
  | noted _ _ _ write => exact write.seq.ge
  | uploaded _ _ _ write => exact write.seq.ge

theorem World.NumbersTaken.mono {w w' : World} (h : w.NumbersTaken)
    (ht : w'.tickets = w.tickets) (hs : w.ticketNumberSeq ≤ w'.ticketNumberSeq) :
    w'.NumbersTaken := by
  intro t hrow
  obtain ⟨m, hm, hle, hn⟩ := h t (ht ▸ hrow)
  exact ⟨m, hm, hle.trans hs, hn⟩

theorem Effect.numbersTaken {q : Request} {past : List Seen} {e : Executed}
    (h : Effect q past e) (ht : e.before.NumbersTaken) : e.after.NumbersTaken := by
  cases h with
  | quiet _ kept => exact ht.mono kept.tickets kept.seq
  | created _ _ _ write =>
    intro t hrow
    rw [Table.insert?_rows write.tickets] at hrow
    rw [write.seq]
    rcases List.mem_append.mp hrow with hrow | hrow
    · obtain ⟨m, hm, hle, hn⟩ := ht t hrow
      exact ⟨m, hm, by omega, hn⟩
    · cases List.mem_singleton.mp hrow
      exact ⟨e.before.ticketNumberSeq + 1, by omega, le_rfl, rfl⟩
  | @updated g d ev _ _ write =>
    intro t hrow
    rw [write.tickets, Table.updateMany_rows] at hrow
    obtain ⟨x, hx, rfl⟩ := List.mem_map.mp hrow
    obtain ⟨m, hm, hle, hn⟩ := ht x hx
    refine ⟨m, hm, write.seq.symm ▸ hle, ?_⟩
    rw [← hn]
    unfold Table.Rewrite.at
    split <;> rfl
  | recorded _ _ _ _ write => exact ht.mono write.tickets write.seq.ge
  | noted _ _ _ write => exact ht.mono write.tickets write.seq.ge
  | uploaded _ _ _ write => exact ht.mono write.tickets write.seq.ge

section Runs

variable {ok : Server → Action → Bool} {w : World} {s : Server}

theorem Run.numbersTaken (fresh : w.Fresh) (h : Run ok { world := w } s) :
    s.world.NumbersTaken := by
  refine h.linked.invariant (I := fun _ v => v.NumbersTaken) ?_ fun a e b he hi => ?_
  · intro t hrow
    rw [fresh.tickets] at hrow
    cases hrow
  · obtain ⟨_, _, heff⟩ := h.effect he
    exact heff.numbersTaken hi

theorem Run.seq_le (h : Run ok { world := w } s) {h₁ h₂ : List Executed} {e : Executed}
    (he : s.history = h₁ ++ e :: h₂) : e.after.ticketNumberSeq ≤ s.world.ticketNumberSeq := by
  have hl : Linked w (h₁ ++ e :: h₂) s.world := he ▸ h.linked
  refine hl.at.2.relates (r := fun u v => u.ticketNumberSeq ≤ v.ticketNumberSeq)
    (fun _ => le_rfl) (fun _ _ _ => le_trans) fun x hx => ?_
  obtain ⟨a, b, rfl⟩ := List.append_of_mem hx
  have hsplit : s.history = (h₁ ++ e :: a) ++ x :: b := by simpa using he
  obtain ⟨_, _, heff⟩ := h.effect hsplit
  exact heff.seq

end Runs

/-- No request but `i` carries the key. -/
def Server.KeyAlone (s : Server) (i : Nat) (key : Option String) : Prop :=
  ∀ (j : Nat) (t : Task) k, s.threads[j]? = some t → key = some k →
    t.request.idempotencyKey = some k → j = i

/-- The numbers taken so far are told apart, and every create with a key of its own that has
finished, and that nothing struck from outside, has inserted a new ticket. -/
structure Server.Numbered (s : Server) : Prop where
  determines : ∀ m n, 1 ≤ m → m ≤ s.world.ticketNumberSeq → 1 ≤ n →
    n ≤ s.world.ticketNumberSeq → ticketNumber m = ticketNumber n → m = n
  taken : s.world.NumbersTaken
  distinct : (s.world.tickets.rows.map Ticket.ticketNumber).Nodup
  unfailing : ∀ (i : Nat) (t : Task) dto user key, s.threads[i]? = some t →
    t.request = .create dto user key → s.KeyAlone i key →
    Thread.result? t ≠ some (.error (.prisma .P2002))
  inserts : ∀ (i : Nat) (t : Task) dto user key r, s.threads[i]? = some t →
    t.request = .create dto user key → s.KeyAlone i key → Thread.result? t = some r →
    (∀ o ∈ own i s.history, o.answer ≠ .error .failed) →
    ∃ row, r = .ok (.created { ticket := row, created := true }) ∧ s.Inserted i row

section Alone

variable {w : World} {s : Server}

theorem committed_by {ok : Server → Action → Bool} (h : Run ok { world := w } s) {i : Nat}
    {key : Option String} (alone : s.KeyAlone i key) {k : String} (hkey : key = some k)
    {e : Executed} (he : e ∈ s.history) {t : Ticket} (hobs : Seen.created? e.obs = some t)
    (hk : t.idempotencyKey = some k) : e.tid = i := by
  obtain ⟨h₁, h₂, hh⟩ := List.append_of_mem he
  obtain ⟨task, dto, user, key', o, htask, hq, hkey', _, _⟩ := Run.creates h hh hobs
  have hcarries : task.request.idempotencyKey = some k := by
    rw [hq]
    exact hkey'.symm.trans hk
  exact alone e.tid task k htask hkey hcarries

/-- A statement of a create that was not failed from outside: the moment it was executed at, and
the row its transaction met there. -/
theorem Run.create_failed {ok : Server → Action → Bool}
    (fresh : ∀ s a, ok s a = true → freshIds s a = true) (h : Run ok { world := w } s) {i : Nat}
    {t : Task} {dto : CreateTicketDto} {user : User} {key : Option String}
    (ht : s.threads[i]? = some t) (hq : t.request = .create dto user key) {x : Seen}
    (hx : x ∈ own i s.history) {err : Err} (herr : x.answer = .error err) :
    err = .failed ∨ ∃ h₁ e h₂ u k o, s.history = h₁ ++ e :: h₂ ∧ e.tid = i ∧
      Reach.Moment serve Cmd.exec (fun s m => ok s m = true) { world := w } h₁ e
        (.create dto user key) u k o ∧
      e.obs.cmd.commits = true ∧ Unwritten (own e.tid u.history) ∧ o.fault ≠ some 0 ∧
      e.after.ticketNumberSeq = u.world.ticketNumberSeq + 1 ∧ ∃ y ∈ u.world.tickets.rows,
        y.ticketNumber = ticketNumber (u.world.ticketNumberSeq + 1) ∨
          ∃ k, key = some k ∧ y.idempotencyKey = some k := by
  obtain ⟨e, he, rfl, rfl⟩ := mem_own.mp hx
  obtain ⟨h₁, h₂, hh⟩ := List.append_of_mem he
  obtain ⟨q, u, k, o, hm, t', ht', rfl⟩ :=
    h.moment (show s.history = [] ++ h₁ ++ e :: h₂ from hh)
  cases ht.symm.trans ht'
  rw [hq] at hm
  have hissues : Issues (.create dto user key) (own e.tid u.history) e.obs.cmd :=
    (hm.reach.obeys serve_kept hm.thread).1
  have hseeks : e.obs.cmd.seeks = false :=
    (hm.reach.obeys serve_unsought hm.thread).1 dto user key rfl
  have hun : o.Unused u.world := of_decide_eq_true (fresh u _ hm.admitted)
  have hanswered := hm.answered
  rw [← hm.before, herr] at hanswered
  refine (hissues.create_error hseeks hun hanswered).imp_right fun hrow => ?_
  exact ⟨h₁, e, h₂, u, k, o, hh, rfl, hm, hrow⟩

/-- Up to the value 9999, a create with a key of its own is only ever answered with errors
from outside. -/
theorem error_from_outside (fresh : w.Fresh) (h : Run freshIds { world := w } s)
    (bound : s.world.ticketNumberSeq ≤ 9999) {i : Nat} {t : Task} {dto : CreateTicketDto}
    {user : User} {key : Option String} (ht : s.threads[i]? = some t)
    (hq : t.request = .create dto user key) (alone : s.KeyAlone i key) {x : Seen}
    (hx : x ∈ own i s.history) {err : Err} (herr : x.answer = .error err) : err = .failed := by
  refine (Run.create_failed (fun _ _ hok => hok) h ht hq hx herr).resolve_right ?_
  rintro ⟨h₁, e, h₂, u, k, o, hh, rfl, hm, _, calm, _, hnext, y, hy, hclash⟩
  have hseq := Run.seq_le h hh
  rcases hclash with hnumber | ⟨k, hkey, hk⟩
  · obtain ⟨m, _, hle, hm'⟩ := Run.numbersTaken fresh hm.reach y hy
    have := ticketNumber_injective (by omega) (by omega) (hm'.symm.trans hnumber)
    omega
  · obtain ⟨e', he', row, hobs, hevolves⟩ := Run.origin fresh hm.reach hy
    have hpast' : u.history = h₁ := hm.history
    have hin : e' ∈ s.history := by
      rw [hh, ← hpast']
      exact List.mem_append_left _ he'
    have htid := committed_by h alone hkey hin hobs (hevolves.idempotencyKey.symm.trans hk)
    exact Server.not_inserted_of_unwritten calm row ⟨e', he', htid, hobs⟩

theorem create_inserts (fresh : w.Fresh) (h : Run freshIds { world := w } s)
    (bound : s.world.ticketNumberSeq ≤ 9999) {i : Nat} {t : Task} {dto : CreateTicketDto}
    {user : User} {key : Option String} (ht : s.threads[i]? = some t)
    (hq : t.request = .create dto user key) (alone : s.KeyAlone i key)
    {r : Except Err Response} (hr : Thread.result? t = some r)
    (calm : ∀ o ∈ own i s.history, o.answer ≠ .error .failed) :
    ∃ row, r = .ok (.created { ticket := row, created := true }) ∧ s.Inserted i row := by
  have hends : Ends t.request (own i s.history) r := h.returned serve_kept ht hr
  cases r with
  | error err =>
    obtain ⟨_, o, ho, herr⟩ := hends.cause err dto user key hq rfl
    cases error_from_outside fresh h bound ht hq alone ho herr
    exact absurd herr (calm o ho)
  | ok v =>
    have hsome := hends.answered v dto user key hq rfl
    cases v with
    | created c =>
      obtain ⟨_, _, _, hreq, hreturned⟩ := Run.returned_create h ht hr
      cases hq.symm.trans hreq
      obtain ⟨row, created⟩ := c
      cases created with
      | true => exact ⟨row, rfl, (hreturned.stored rfl).1⟩
      | false =>
        obtain ⟨hno, k, htruthy, hkey⟩ := hreturned.found rfl
        obtain ⟨found, hfound, hevolves⟩ := hreturned.row
        obtain ⟨e, he, t', hobs, ht'⟩ := Run.origin fresh h (World.ticket?_mem hfound)
        have htid := committed_by h alone (truthy_eq_some.mp htruthy).1 he hobs
          (ht'.idempotencyKey.symm.trans (hevolves.idempotencyKey.trans hkey))
        exact absurd ⟨e, he, htid, hobs⟩ (hno t')
    | _ => exact absurd rfl hsome

/-- The numbers serve as long as the sequence has not gone beyond 9999, and no longer. -/
theorem numbered_iff (fresh : w.Fresh) (h : Run freshIds { world := w } s) :
    s.Numbered ↔ s.world.ticketNumberSeq ≤ 9999 := by
  constructor
  · intro hn
    refine ticketNumber_new_iff.mp fun m hm hlt heq => ?_
    have := hn.determines m _ hm hlt.le (by omega) le_rfl heq
    omega
  · intro bound
    refine ⟨fun m n _ hm _ hn => ticketNumber_injective (by omega) (by omega),
      Run.numbersTaken fresh h,
      Table.nodup_keys (fun _ _ hn => .inr (.inl hn)) s.world.tickets, ?_, ?_⟩
    · intro i t dto user key ht hq alone hr
      have hends : Ends t.request (own i s.history) (.error (.prisma .P2002)) :=
        h.returned serve_kept ht hr
      obtain ⟨_, o, ho, herr⟩ := hends.cause _ dto user key hq rfl
      cases error_from_outside fresh h bound ht hq alone ho herr
    · exact fun i t dto user key r ht hq alone hr => create_inserts fresh h bound ht hq alone hr

end Alone

/-- Two more creates, the first of them with a key, while the other one goes on. -/
def Sample.createdThree : List Action :=
  created ++ [.arrive (.create body vecina (some "k")), .arrive (.create body reportante none)] ++
    steps 1 10 2 ++ steps 2 20 3 ++ steps 1 30 3

open Sample in
theorem numbered_three : ((play freshIds createdThree).get (by decide +kernel)).Numbered :=
  (numbered_iff world_fresh (play_run (by decide +kernel))).mpr (by decide +kernel)

/-! ### Ten thousand creates -/

namespace Sample

structure Filled (s : Server) (n : Nat) : Prop where
  seq : s.world.ticketNumberSeq = n
  rules : s.world.slaRules = world.slaRules
  users : s.world.users = world.users
  tickets : s.world.tickets.rows.map (fun t => (t.id, t.ticketNumber)) =
    (List.range n).map fun m => (100 + m, ticketNumber (m + 1))
  events : s.world.events.rows.map TicketEvent.id = (List.range n).map (100 + ·)

theorem filled_zero : Filled { world := world } 0 := ⟨rfl, rfl, rfl, rfl, rfl⟩

def oracle (n : Nat) : Oracle := { uuid := 100 + n }

theorem Filled.row {s : Server} {n : Nat} (h : Filled s n) {x : Ticket}
    (hx : x ∈ s.world.tickets.rows) :
    ∃ m < n, x.id = 100 + m ∧ x.ticketNumber = ticketNumber (m + 1) := by
  have hmem : (x.id, x.ticketNumber) ∈
      s.world.tickets.rows.map (fun t => (t.id, t.ticketNumber)) := List.mem_map_of_mem hx
  rw [h.tickets] at hmem
  obtain ⟨m, hm, heq⟩ := List.mem_map.mp hmem
  obtain ⟨hid, hnumber⟩ := Prod.mk.inj heq
  exact ⟨m, List.mem_range.mp hm, hid.symm, hnumber.symm⟩

theorem Filled.unused {s : Server} {n : Nat} (h : Filled s n) : (oracle n).Unused s.world := by
  refine ⟨fun x hx => ?_, fun e he => ?_, ?_⟩
  · obtain ⟨m, hm, hid, _⟩ := h.row hx
    have hne : 100 + m ≠ 100 + n := by omega
    exact hid ▸ hne
  · have hmem : e.id ∈ s.world.events.rows.map TicketEvent.id := List.mem_map_of_mem he
    rw [h.events] at hmem
    obtain ⟨m, hm, hid⟩ := List.mem_map.mp hmem
    have hlt := List.mem_range.mp hm
    have hne : 100 + m ≠ 100 + n := by omega
    exact hid ▸ hne
  · rw [h.users]
    have hlow : ∀ u ∈ world.users.rows, u.id < 100 := by decide
    intro u hu heq
    have hlt : 100 + n < 100 := lt_of_eq_of_lt heq.symm (hlow u hu)
    omega

theorem last_runs {s₀ s : Server} {ts : List Task} {q : Request} {c : Cmd}
    {k : Except Err c.Res → Service Response} {o : Oracle} (h : Run freshIds s₀ s)
    (threads : s.threads = ts ++ [{ request := q, state := .stmt c k }])
    (hun : o.Unused s.world) :
    ∃ s', Run freshIds s₀ s' ∧ s'.world = (Cmd.exec o c s.world).2 ∧
      s'.threads = ts ++ [{ request := q, state := k (Cmd.exec o c s.world).1 }] := by
  have hok : freshIds s (.run ts.length o) = true := decide_eq_true hun
  have thread : s.threads[ts.length]? = some { request := q, state := .stmt c k } := by
    rw [threads]
    exact List.getElem?_concat_length
  exact ⟨_, h.next hok (.run o thread), rfl, by simp [Pool.ran, threads]⟩

abbrev transaction : Cmd :=
  .transaction (createTransaction body reportante none .media (some 14400000))

def nextRow (n : Nat) (w : World) : Ticket :=
  insertedTicket body reportante none .media (some 14400000) (oracle n) w

/-- One more create, served alone, ends as its transaction does. -/
theorem create_alone {s : Server} {n : Nat} (h : Run freshIds { world := world } s)
    (hs : Filled s n) : ∃ s', Run freshIds { world := world } s' ∧
      s'.world = (Cmd.exec (oracle n) transaction s.world).2 ∧
      ∃ t ∈ s'.threads, t.request = .create body reportante none ∧
        Thread.result? t = some ((Cmd.exec (oracle n) transaction s.world).1.map fun row =>
          .created { ticket := row, created := true }) := by
  have hrule : s.world.slaRules .media = some ⟨240, 30, 120⟩ := by rw [hs.rules]; rfl
  have hsla : Cmd.exec (oracle n) (.one (.slaRuleFindUnique .media)) s.world =
      (.ok (some ⟨240, 30, 120⟩), s.world) := by
    rw [Cmd.exec_one_of_ok rfl, Stmt.exec, hrule]
  have harrive : Run freshIds { world := world }
      { s with threads := s.threads ++ [{ request := .create body reportante none,
                                           state := serve (.create body reportante none) }] } :=
    h.next rfl (.arrive _)
  obtain ⟨s₁, h₁, hw₁, ht₁⟩ := last_runs (c := .one (.slaRuleFindUnique .media)) harrive rfl
    hs.unused
  rw [hsla] at hw₁ ht₁
  have hw₁ : s₁.world = s.world := hw₁
  obtain ⟨s₂, h₂, hw₂, ht₂⟩ := last_runs (c := .one .now) (o := oracle n) h₁ ht₁
    (hw₁ ▸ hs.unused)
  have hw₂ : s₂.world = s.world := hw₂.trans hw₁
  obtain ⟨s₃, h₃, hw₃, ht₃⟩ := last_runs (c := transaction) (o := oracle n) h₂ ht₂
    (hw₂ ▸ hs.unused)
  rw [hw₂] at hw₃ ht₃
  refine ⟨s₃, h₃, hw₃, _, by rw [ht₃]; exact List.mem_append_right _ List.mem_cons_self, rfl, ?_⟩
  generalize (Cmd.exec (oracle n) transaction s.world).1 = r
  cases r <;> rfl

theorem exec_transaction (n : Nat) (w : World) :
    Cmd.exec (oracle n) transaction w =
      match w.tickets.insert? (nextRow n w),
        w.events.insert? ((ticketCreadoEvent (nextRow n w) reportante).row (oracle n)) with
      | some tickets, some events =>
        (.ok (nextRow n w), { w with tickets := tickets, events := events,
                                     ticketNumberSeq := w.ticketNumberSeq + 1 })
      | _, _ => (.error (.prisma .P2002), { w with ticketNumberSeq := w.ticketNumberSeq + 1 }) := by
  have hfault : (oracle n).fault = none := rfl
  have hrun : Tx.run (oracle n)
      (createTransaction body reportante none .media (some 14400000)) none w = _ :=
    createTransaction_run w
  rw [Cmd.exec, hfault, hrun]
  unfold nextRow
  dsimp only
  cases w.tickets.insert?
      (insertedTicket body reportante none .media (some 14400000) (oracle n) w) with
  | none => rfl
  | some tickets =>
    cases w.events.insert? ((ticketCreadoEvent (insertedTicket body reportante none .media
        (some 14400000) (oracle n) w) reportante).row (oracle n)) with
    | none => rfl
    | some events => rfl

theorem filled_succ {s : Server} {n : Nat} (h : Run freshIds { world := world } s)
    (hs : Filled s n) (hn : n + 1 ≤ 9999) :
    ∃ s', Run freshIds { world := world } s' ∧ Filled s' (n + 1) := by
  obtain ⟨s', h', hw, _⟩ := create_alone h hs
  refine ⟨s', h', ?_⟩
  have hx := exec_transaction n s.world
  cases ht : s.world.tickets.insert? (nextRow n s.world) with
  | none =>
    obtain ⟨x, hx, hc⟩ := Table.insert?_eq_none.mp ht
    obtain ⟨m, hm, _, hnumber⟩ := hs.row hx
    rcases hc with hid | hnum | ⟨hsome, hkey⟩
    · exact absurd hid (hs.unused.1 x hx)
    · have hnum : ticketNumber (m + 1) = ticketNumber (n + 1) := by
        rw [← hnumber, hnum, ← hs.seq]
        rfl
      have := ticketNumber_injective (by omega) hn hnum
      omega
    · rw [hkey] at hsome
      cases hsome
  | some tickets =>
    cases he : s.world.events.insert?
        ((ticketCreadoEvent (nextRow n s.world) reportante).row (oracle n)) with
    | none =>
      obtain ⟨e, he, hid⟩ := Table.insert?_eq_none.mp he
      exact absurd hid (hs.unused.2.1 e he)
    | some events =>
      rw [ht, he] at hx
      rw [hx] at hw
      refine ⟨?_, ?_, ?_, ?_, ?_⟩
      · rw [hw, ← hs.seq]
      · rw [hw]; exact hs.rules
      · rw [hw]; exact hs.users
      · rw [hw]
        simp only [Table.insert?_rows ht, List.map_append, hs.tickets, List.range_succ]
        simp [nextRow, insertedTicket, TicketCreate.row, oracle, hs.seq]
      · rw [hw]
        simp only [Table.insert?_rows he, List.map_append, hs.events, List.range_succ]
        rfl

theorem filled {n : Nat} (hn : n ≤ 9999) :
    ∃ s, Run freshIds { world := world } s ∧ Filled s n := by
  induction n with
  | zero => exact ⟨_, .start, filled_zero⟩
  | succ n ih =>
    obtain ⟨s, h, hs⟩ := ih (by omega)
    exact filled_succ h hs hn

/-- The create after the 9999th takes the number of the 1000th. -/
theorem create_refused : ∃ s, Run freshIds { world := world } s ∧ ∃ t ∈ s.threads,
    t.request = .create body reportante none ∧
      Thread.result? t = some (.error (.prisma .P2002)) := by
  obtain ⟨s, h, hs⟩ := filled (n := 9999) le_rfl
  obtain ⟨s', h', _, t, ht, hq, hr⟩ := create_alone h hs
  refine ⟨s', h', t, ht, hq, ?_⟩
  have hrow : (100 + 999, ticketNumber (999 + 1)) ∈
      s.world.tickets.rows.map (fun t => (t.id, t.ticketNumber)) := by
    rw [hs.tickets]
    exact List.mem_map.mpr ⟨999, List.mem_range.mpr (by omega), rfl⟩
  obtain ⟨x, hx, heq⟩ := List.mem_map.mp hrow
  have hnone : s.world.tickets.insert? (nextRow 9999 s.world) = none := by
    refine Table.insert?_eq_none.mpr ⟨x, hx, .inr (.inl ?_)⟩
    have hnumber : x.ticketNumber = ticketNumber (10000 / 10) := (Prod.mk.inj heq).2
    rw [hnumber, ticketNumber_div (by omega)]
    change _ = ticketNumber (s.world.ticketNumberSeq + 1)
    rw [hs.seq]
  rw [hr, exec_transaction, hnone]
  rfl

end Sample

open Sample in
theorem numbers_run_out : ¬ ∀ s, Run freshIds { world := world } s → s.Numbered := by
  intro hall
  obtain ⟨s, h, t, ht, hq, hr⟩ := create_refused
  obtain ⟨i, hi⟩ := List.mem_iff_getElem?.mp ht
  exact (hall s h).unfailing i t body reportante none hi hq (fun _ _ _ _ hk => nomatch hk) hr

end TicketSystem
