import TicketSystem.Audit

namespace TicketSystem

open Relational Interleaved

def Request.idempotencyKey : Request → Option String
  | .create _ _ key => key
  | _ => none

/-- A committed create stored the user's ticket, under the key of its request. -/
theorem Effect.creates {q : Request} {past : List Seen} {e : Executed} (h : Effect q past e)
    {t : Ticket} (hc : Seen.created? e.obs = some t) :
    ∃ dto user key o, q = .create dto user key ∧ t.idempotencyKey = key ∧
      t.reporterId = user.id ∧ e.before.Created dto user o t e.after := by
  cases h with
  | quiet calm _ => cases hc.symm.trans calm.created
  | created request _ obs write =>
    cases obs.symm.trans hc
    exact ⟨_, _, _, _, request, rfl, rfl, write⟩
  | updated _ obs _ => cases obs.symm.trans (Seen.update?_of_created hc)
  | recorded _ _ _ obs _ => cases obs.symm.trans (Seen.event?_of_created hc)
  | noted _ _ obs _ => cases obs.symm.trans (Seen.event?_of_created hc)
  | uploaded _ _ calm _ => cases hc.symm.trans calm.created

theorem World.Created.stored {dto : CreateTicketDto} {user : User} {o : Oracle} {t : Ticket}
    {w w' : World} (h : w.Created dto user o t w') : w'.ticket? t.id = some t := by
  rw [h.ticket?, if_pos rfl]

theorem World.Created.unclashed {dto : CreateTicketDto} {user : User} {o : Oracle} {t : Ticket}
    {w w' : World} (h : w.Created dto user o t w') {x : Ticket} (hx : x ∈ w.tickets.rows) :
    ¬ x.clash t := Table.not_clash_of_insert? h.tickets hx

/-- Only an upload and the commit of a create touch the attachments. -/
theorem Effect.attachments {q : Request} {past : List Seen} {e : Executed}
    (h : Effect q past e) (hq : ∀ dto user, q ≠ .createUpload dto user)
    (hc : Seen.created? e.obs = none) : e.after.attachments = e.before.attachments := by
  cases h with
  | quiet _ kept => exact kept.attachments
  | created _ _ obs _ => cases obs.symm.trans hc
  | updated _ _ write => exact write.attachments
  | recorded _ _ _ _ write => exact write.attachments
  | noted _ _ _ write => exact write.attachments
  | uploaded request _ _ _ => exact absurd request (hq _ _)

theorem World.ticket_of_key {w : World} {t t' : Ticket} {k : String}
    (ht : t ∈ w.tickets.rows) (ht' : t' ∈ w.tickets.rows) (hk : t.idempotencyKey = some k)
    (hk' : t'.idempotencyKey = some k) : t = t' :=
  Table.eq_of_clash ht ht' (Ticket.clash_of_key hk hk')

section Runs

variable {ok : Server → Action → Bool} {w : World} {s : Server}

theorem Run.creates (h : Run ok { world := w } s) {h₁ h₂ : List Executed} {e : Executed}
    (he : s.history = h₁ ++ e :: h₂) {t : Ticket} (hc : Seen.created? e.obs = some t) :
    ∃ task dto user key o, s.threads[e.tid]? = some task ∧ task.request = .create dto user key ∧
      t.idempotencyKey = key ∧ t.reporterId = user.id ∧
      e.before.Created dto user o t e.after := by
  obtain ⟨task, htask, heff⟩ := h.effect he
  obtain ⟨dto, user, key, o, hq, hkey, hreporter, write⟩ := heff.creates hc
  exact ⟨task, dto, user, key, o, htask, hq, hkey, hreporter, write⟩

theorem Run.created_row (h : Run ok { world := w } s) {e : Executed} (he : e ∈ s.history)
    {t : Ticket} (hc : Seen.created? e.obs = some t) :
    ∃ row, s.world.ticket? t.id = some row ∧ t.Evolves row := by
  obtain ⟨h₁, h₂, hh⟩ := List.append_of_mem he
  obtain ⟨_, _, _, _, _, _, _, _, _, write⟩ := Run.creates h hh hc
  exact Run.evolves_to_end h hh _ _ write.stored

/-- After a create with a key has committed no other one does. -/
theorem Run.key_taken (h : Run ok { world := w } s) {h₁ h₂ h₃ : List Executed}
    {e e' : Executed} (he : s.history = h₁ ++ e :: (h₂ ++ e' :: h₃)) {t t' : Ticket} {k : String}
    (hc : Seen.created? e.obs = some t) (hc' : Seen.created? e'.obs = some t')
    (hk : t.idempotencyKey = some k) : t'.idempotencyKey ≠ some k := by
  intro hk'
  obtain ⟨_, _, _, _, _, _, _, _, _, write⟩ := Run.creates h he hc
  have hlate : s.history = (h₁ ++ e :: h₂) ++ e' :: h₃ := by simpa using he
  obtain ⟨_, _, _, _, _, _, _, _, _, write'⟩ := Run.creates h hlate hc'
  obtain ⟨row, hrow, hevolves⟩ := Run.evolves h he _ _ write.stored
  have hkey : row.idempotencyKey = some k := hevolves.idempotencyKey.trans hk
  exact write'.unclashed (World.ticket?_mem hrow) (Ticket.clash_of_key hkey hk')

theorem Run.commit_unique (h : Run ok { world := w } s) {e e' : Executed} (he : e ∈ s.history)
    (he' : e' ∈ s.history) {t t' : Ticket} {k : String} (hc : Seen.created? e.obs = some t)
    (hc' : Seen.created? e'.obs = some t') (hk : t.idempotencyKey = some k)
    (hk' : t'.idempotencyKey = some k) : e.tid = e'.tid := by
  obtain ⟨h₁, h₂, hh⟩ := List.append_of_mem he
  rw [hh] at he'
  rcases List.mem_append.mp he' with hin | hin
  · obtain ⟨a, b, rfl⟩ := List.append_of_mem hin
    have hsplit : s.history = a ++ e' :: (b ++ e :: h₂) := by simpa using hh
    exact absurd hk (Run.key_taken h hsplit hc' hc hk')
  · rcases List.mem_cons.mp hin with rfl | hin
    · rfl
    · obtain ⟨a, b, rfl⟩ := List.append_of_mem hin
      exact absurd hk' (Run.key_taken h hh hc hc' hk)

/-- Every ticket of a run was stored by a create of that run. -/
theorem Run.origin (fresh : w.Fresh) (h : Run ok { world := w } s) {row : Ticket}
    (hrow : row ∈ s.world.tickets.rows) :
    ∃ e ∈ s.history, ∃ t, Seen.created? e.obs = some t ∧ t.Evolves row := by
  suffices ∀ id row, s.world.ticket? id = some row →
      ∃ e ∈ s.history, ∃ t, Seen.created? e.obs = some t ∧ t.Evolves row from
    this _ row (World.ticket?_of_mem hrow)
  clear hrow row
  refine h.linked.invariant (I := fun past v => ∀ id row, v.ticket? id = some row →
    ∃ e ∈ past, ∃ t, Seen.created? e.obs = some t ∧ t.Evolves row) ?_ fun h₁ e h₂ he hi => ?_
  · intro id row hrow
    cases (fresh.ticket? id).symm.trans hrow
  · intro id row hrow
    obtain ⟨_, _, heff⟩ := h.effect he
    have old : ∀ t, e.before.ticket? id = some t → t.Evolves row →
        ∃ x ∈ h₁ ++ [e], ∃ t, Seen.created? x.obs = some t ∧ t.Evolves row := by
      intro t ht hevolves
      obtain ⟨x, hx, t', hc, ht'⟩ := hi id t ht
      exact ⟨x, List.mem_append_left _ hx, t', hc, ht'.trans hevolves⟩
    cases heff.row id with
    | same kept => exact old row (kept.symm.trans hrow) (.refl row)
    | updated intent _ _ before guard after =>
      cases after.symm.trans hrow
      exact old _ before (intent.evolves guard)
    | inserted _ obs _ _ after =>
      cases after.symm.trans hrow
      exact ⟨e, by simp, _, obs, .refl _⟩

theorem Run.found_row (h : Run ok { world := w } s) {e : Executed} (he : e ∈ s.history)
    {g : TicketWhere} {t : Ticket} (hobs : e.obs = ⟨.one (.ticketFindFirst g), .ok (some t)⟩) :
    g.matches t = true ∧ ∃ row, s.world.ticket? t.id = some row ∧ t.Evolves row := by
  obtain ⟨h₁, h₂, hh⟩ := List.append_of_mem he
  obtain ⟨o, hx⟩ := Run.executed h hh hobs
  simp only [Stmt.exec, Prod.mk.injEq, Except.ok.injEq] at hx
  have hrow := World.ticket?_of_mem (Table.find?_mem hx.1)
  exact ⟨Table.find?_holds hx.1, Run.evolves_to_end h hh _ _ (hx.2 ▸ hrow)⟩

theorem TicketWhere.matches_key {g : TicketWhere} {k : String} (hg : g.idempotencyKey = some k)
    {t : Ticket} (h : g.matches t = true) : t.idempotencyKey = some k := by
  simp only [TicketWhere.matches, hg, Bool.and_eq_true] at h
  simpa using h.1.2

def Server.Inserted (s : Server) (i : Nat) (t : Ticket) : Prop :=
  ∃ e ∈ s.history, e.tid = i ∧ Seen.created? e.obs = some t

theorem Server.not_inserted_of_unwritten {i : Nat} (h : Unwritten (own i s.history)) (t : Ticket) :
    ¬ s.Inserted i t := by
  rintro ⟨e, he, htid, hc⟩
  cases (h e.obs (mem_own.mpr ⟨e, he, htid, rfl⟩)).created.symm.trans hc

/-- What a create returns is a row of the table: the one it has stored, or, having stored
none, the one found under its key. -/
structure Server.Returned (s : Server) (i : Nat) (user : User) (key : Option String)
    (c : CreateResult) : Prop where
  row : ∃ row, s.world.ticket? c.ticket.id = some row ∧ c.ticket.Evolves row
  stored : c.created = true →
    s.Inserted i c.ticket ∧ c.ticket.idempotencyKey = key ∧ c.ticket.reporterId = user.id
  found : c.created = false →
    (∀ t, ¬ s.Inserted i t) ∧ ∃ k, truthy key = some k ∧ c.ticket.idempotencyKey = some k

theorem Run.returned_create (h : Run ok { world := w } s) {i : Nat} {t : Task}
    (ht : s.threads[i]? = some t) {c : CreateResult}
    (hr : Thread.result? t = some (.ok (.created c))) :
    ∃ dto user key, t.request = .create dto user key ∧ s.Returned i user key c := by
  have hends : Ends t.request (own i s.history) (.ok (.created c)) := h.returned serve_kept ht hr
  obtain ⟨dto, user, key, hq, hcreates⟩ := hends.created _ c rfl rfl
  refine ⟨dto, user, key, hq, ?_⟩
  cases hcreates with
  | inserted last row =>
    obtain ⟨e, he, rfl, rfl⟩ := mem_own.mp (List.mem_of_getLast? last)
    obtain ⟨h₁, h₂, hh⟩ := List.append_of_mem he
    obtain ⟨task, _, _, _, _, htask, hq', hkey, hreporter, _⟩ := Run.creates h hh row
    cases ht.symm.trans htask
    cases hq.symm.trans hq'
    exact ⟨Run.created_row h he row, fun _ => ⟨⟨e, he, rfl, row⟩, hkey, hreporter⟩,
      fun hf => nomatch hf⟩
  | found truthy guard last calm =>
    obtain ⟨e, he, _, hobs⟩ := mem_own.mp (List.mem_of_getLast? last)
    obtain ⟨hm, hrow⟩ := Run.found_row h he hobs
    exact ⟨hrow, fun hf => (nomatch hf), fun _ =>
      ⟨Server.not_inserted_of_unwritten calm, _, truthy, TicketWhere.matches_key guard hm⟩⟩

theorem Server.Returned.key {i : Nat} {user : User} {key : Option String} {c : CreateResult}
    (h : s.Returned i user key c) {k : String} (hk : key = some k) :
    c.ticket.idempotencyKey = some k := by
  cases hc : c.created with
  | true => exact (h.stored hc).2.1.trans hk
  | false =>
    obtain ⟨_, k', htruthy, hkey⟩ := h.found hc
    obtain ⟨hk', _⟩ := truthy_eq_some.mp htruthy
    cases hk.symm.trans hk'
    exact hkey

end Runs

/-- A key is the key of one ticket, which one request stored and all of them return. -/
structure Server.OncePerKey (w : World) (s : Server) (k : String) : Prop where
  ticket : ∀ u ∈ s.moments w, ∀ v ∈ s.moments w, ∀ t ∈ u.tickets.rows, ∀ t' ∈ v.tickets.rows,
    t.idempotencyKey = some k → t'.idempotencyKey = some k → t.id = t'.id
  event : ∀ t ∈ s.world.tickets.rows, t.idempotencyKey = some k →
    s.world.creations.count t.id = 1
  creator : ∀ (i j : Nat) (t t' : Task) c c', s.threads[i]? = some t → s.threads[j]? = some t' →
    t.request.idempotencyKey = some k → t'.request.idempotencyKey = some k →
    Thread.result? t = some (.ok (.created c)) → Thread.result? t' = some (.ok (.created c')) →
    c.created = true → c'.created = true → i = j
  answer : ∀ (i : Nat) (t : Task) c, s.threads[i]? = some t →
    t.request.idempotencyKey = some k → Thread.result? t = some (.ok (.created c)) →
    ∃ row ∈ s.world.tickets.rows, row.idempotencyKey = some k ∧ row.id = c.ticket.id
  flag : ∀ (i : Nat) (t : Task) c, s.threads[i]? = some t →
    t.request.idempotencyKey = some k → Thread.result? t = some (.ok (.created c)) →
    (c.created = true ↔ ∃ row, s.Inserted i row)
  attachments : ∀ (i : Nat) (t : Task), s.threads[i]? = some t →
    t.request.idempotencyKey = some k → (∀ row, ¬ s.Inserted i row) →
    ∀ e ∈ s.history, e.tid = i → e.after.attachments = e.before.attachments

section Once

variable {ok : Server → Action → Bool} {w : World} {s : Server}

theorem Run.one_ticket (h : Run ok { world := w } s) {k : String} {u v : World}
    (hu : u ∈ s.moments w) (hv : v ∈ s.moments w) {t t' : Ticket} (ht : t ∈ u.tickets.rows)
    (ht' : t' ∈ v.tickets.rows) (hk : t.idempotencyKey = some k)
    (hk' : t'.idempotencyKey = some k) : t.id = t'.id := by
  obtain ⟨row, hrow, hevolves⟩ := Run.moment_evolves h hu _ _ (World.ticket?_of_mem ht)
  obtain ⟨row', hrow', hevolves'⟩ := Run.moment_evolves h hv _ _ (World.ticket?_of_mem ht')
  have heq : row = row' := World.ticket_of_key (World.ticket?_mem hrow) (World.ticket?_mem hrow')
    (hevolves.idempotencyKey.trans hk) (hevolves'.idempotencyKey.trans hk')
  calc t.id = row.id := (World.ticket?_id hrow).symm
    _ = row'.id := by rw [heq]
    _ = t'.id := World.ticket?_id hrow'

theorem Run.one_event (fresh : w.Fresh) (h : Run ok { world := w } s) {t : Ticket}
    (ht : t ∈ s.world.tickets.rows) : s.world.creations.count t.id = 1 := by
  rw [Run.creations fresh h]
  exact s.world.tickets_nodup.count.trans (if_pos (List.mem_map_of_mem ht))

/-- One ticket per idempotency key, in every run, whatever fails in it. -/
theorem one_ticket_per_key (fresh : w.Fresh) (h : Run ok { world := w } s) (k : String) :
    s.OncePerKey w k where
  ticket _ hu _ hv _ ht _ ht' := Run.one_ticket h hu hv ht ht'
  event _ ht _ := Run.one_event fresh h ht
  creator i j t t' c c' ht ht' hq hq' hr hr' hc hc' := by
    obtain ⟨dto, user, key, hreq, hreturned⟩ := Run.returned_create h ht hr
    obtain ⟨dto', user', key', hreq', hreturned'⟩ := Run.returned_create h ht' hr'
    rw [hreq] at hq
    rw [hreq'] at hq'
    obtain ⟨⟨e, he, rfl, hobs⟩, hkey, _⟩ := hreturned.stored hc
    obtain ⟨⟨e', he', rfl, hobs'⟩, hkey', _⟩ := hreturned'.stored hc'
    exact Run.commit_unique h he he' hobs hobs' (hkey.trans hq) (hkey'.trans hq')
  answer i t c ht hq hr := by
    obtain ⟨dto, user, key, hreq, hreturned⟩ := Run.returned_create h ht hr
    rw [hreq] at hq
    obtain ⟨row, hrow, hevolves⟩ := hreturned.row
    exact ⟨row, World.ticket?_mem hrow, hevolves.idempotencyKey.trans (hreturned.key hq),
      World.ticket?_id hrow⟩
  flag i t c ht _ hr := by
    obtain ⟨dto, user, key, _, hreturned⟩ := Run.returned_create h ht hr
    constructor
    · exact fun hc => ⟨_, (hreturned.stored hc).1⟩
    · rintro ⟨row, hrow⟩
      by_contra hc
      exact (hreturned.found (Bool.eq_false_iff.mpr hc)).1 row hrow
  attachments i t ht hk hno e he htid := by
    obtain ⟨h₁, h₂, hh⟩ := List.append_of_mem he
    obtain ⟨t', ht', heff⟩ := h.effect hh
    cases ht.symm.trans (htid ▸ ht')
    refine heff.attachments (fun dto user hq => ?_)
      (Option.eq_none_iff_forall_ne_some.mpr fun row hrow => hno row ⟨e, he, htid, hrow⟩)
    rw [hq] at hk
    cases hk

end Once

namespace Sample

def keyed (user : User) : Request := .create body user (some "clave")

/-- Both requests look the key up before either commits; the second loses the race. -/
def keyRace : List Action :=
  [.arrive (keyed reportante), .arrive (keyed reportante)] ++ steps 0 0 2 ++ steps 1 10 2 ++
    steps 0 20 3 ++ steps 1 30 4

/-- A second user reuses the key of the first. -/
def reused : Server :=
  (play freshIds (.arrive (keyed reportante) :: steps 0 0 5 ++
    .arrive (keyed vecina) :: steps 1 10 2)).get (by decide)

end Sample

open Sample in
theorem one_ticket_per_key_race :
    ((play freshIds keyRace).get (by decide)).OncePerKey world "clave" :=
  one_ticket_per_key world_fresh (play_run (by decide)) "clave"

/-! ### Whose ticket a repeated key returns -/

/-- No request but `i` has stored, for somebody else than `user`, a ticket under the key. -/
def Server.Unclaimed (s : Server) (i : Nat) (user : User) (key : Option String) : Prop :=
  ∀ e ∈ s.history, e.tid ≠ i → ∀ t k, Seen.created? e.obs = some t → truthy key = some k →
    t.idempotencyKey = some k → t.reporterId = user.id

theorem requireOwnTicket_iff {t : Ticket} {user : User} (hu : user.role = .reportante) :
    requireOwnTicket t user = .ok () ↔ t.reporterId = user.id := by
  unfold requireOwnTicket
  split
  next h => simp [h.2]
  next h =>
    have hown : t.reporterId = user.id := by
      by_contra hne
      exact h ⟨hu, hne⟩
    simp [hown]

section Owner

variable {ok : Server → Action → Bool} {w : World} {s : Server} {i : Nat} {user : User}
  {key : Option String} {c : CreateResult}

theorem unclaimed_of_own (h : Run ok { world := w } s) (hreturned : s.Returned i user key c)
    (hown : c.ticket.reporterId = user.id) : s.Unclaimed i user key := by
  intro e he _ t k hc htruthy hk
  obtain ⟨row, hrow, hevolves⟩ := hreturned.row
  obtain ⟨row', hrow', hevolves'⟩ := Run.created_row h he hc
  have hkey : c.ticket.idempotencyKey = some k := hreturned.key (truthy_eq_some.mp htruthy).1
  have heq : row = row' := World.ticket_of_key (World.ticket?_mem hrow) (World.ticket?_mem hrow')
    (hevolves.idempotencyKey.trans hkey) (hevolves'.idempotencyKey.trans hk)
  calc t.reporterId = row'.reporterId := hevolves'.reporterId.symm
    _ = row.reporterId := by rw [heq]
    _ = c.ticket.reporterId := hevolves.reporterId
    _ = user.id := hown

theorem own_of_unclaimed (fresh : w.Fresh) (h : Run ok { world := w } s)
    (hreturned : s.Returned i user key c) (hun : s.Unclaimed i user key) :
    c.ticket.reporterId = user.id := by
  cases hc : c.created with
  | true => exact (hreturned.stored hc).2.2
  | false =>
    obtain ⟨hno, k, htruthy, hkey⟩ := hreturned.found hc
    obtain ⟨row, hrow, hevolves⟩ := hreturned.row
    obtain ⟨e, he, t, hobs, ht⟩ := Run.origin fresh h (World.ticket?_mem hrow)
    have hother : e.tid ≠ i := fun htid => hno t ⟨e, he, htid, hobs⟩
    have htkey : t.idempotencyKey = some k :=
      ht.idempotencyKey.symm.trans (hevolves.idempotencyKey.trans hkey)
    calc c.ticket.reporterId = row.reporterId := hevolves.reporterId.symm
      _ = t.reporterId := ht.reporterId
      _ = user.id := hun e he hother t k hobs htruthy htkey

/-- A create returns the user's own ticket, one that `getForUser` would show, exactly when no
other request has used the key for another reporter. -/
theorem own_ticket_iff_unclaimed (fresh : w.Fresh) (h : Run ok { world := w } s) {t : Task}
    {dto : CreateTicketDto} (ht : s.threads[i]? = some t) (hq : t.request = .create dto user key)
    (hr : Thread.result? t = some (.ok (.created c))) :
    (c.ticket.reporterId = user.id ↔ s.Unclaimed i user key) ∧
      (user.role = .reportante →
        (requireOwnTicket c.ticket user = .ok () ↔ s.Unclaimed i user key)) := by
  obtain ⟨_, _, _, hreq, hreturned⟩ := Run.returned_create h ht hr
  cases hq.symm.trans hreq
  have hiff : c.ticket.reporterId = user.id ↔ s.Unclaimed i user key :=
    ⟨unclaimed_of_own h hreturned, own_of_unclaimed fresh h hreturned⟩
  exact ⟨hiff, fun hu => (requireOwnTicket_iff hu).trans hiff⟩

end Owner

open Sample in
theorem own_ticket_of_reportante :
    reused.world.tickets.rows[0].reporterId = reportante.id ↔
      reused.Unclaimed 0 reportante (some "clave") :=
  (own_ticket_iff_unclaimed world_fresh (play_run (by decide)) (i := 0) (t := reused.threads[0])
    (c := ⟨reused.world.tickets.rows[0], true⟩) rfl rfl rfl).1

/-- What every create returns is the user's own ticket, and one `getForUser` would show. -/
def Server.OwnTickets (s : Server) : Prop :=
  ∀ (i : Nat) (t : Task) dto user key c, s.threads[i]? = some t →
    t.request = .create dto user key → Thread.result? t = some (.ok (.created c)) →
    c.ticket.reporterId = user.id ∧
      (user.role = .reportante → requireOwnTicket c.ticket user = .ok ())

open Sample in
theorem ticket_of_reused_key : ¬ ∀ s, Run freshIds { world := world } s → s.OwnTickets := by
  intro h
  have hrun : Run freshIds { world := world } reused := play_run (by decide)
  -- the second user is answered with the ticket of the first
  have hown := h reused hrun 1 reused.threads[1] body vecina (some "clave")
    ⟨reused.world.tickets.rows[0], false⟩ rfl rfl rfl
  exact absurd hown.1 (by decide)

end TicketSystem
