import TicketSystem.Effects
import TicketSystem.Lib.Sequential
import TicketSystem.Server

namespace TicketSystem

open Relational Interleaved

/-- One create of a sequential history; its calls draw from `oracles`, one after another. -/
structure Submission where
  dto : CreateTicketDto
  user : User
  idempotencyKey : Option String
  oracles : Nat → Oracle

namespace Submission

def now (x : Submission) : Time := (x.oracles 0).now

def serve (x : Submission) (w : World) : Except Err CreateResult × World :=
  (create x.dto x.user x.idempotencyKey).alone Cmd.exec x.oracles w

/-- Nothing strikes the create, and the default ids it draws are unused. -/
structure Undisturbed (x : Submission) (w : World) : Prop where
  fault : ∀ n, (x.oracles n).fault = none
  unused : ∀ n, (x.oracles n).Unused w

end Submission

/-- The world after the first creates of a history. -/
def serveAll (history : List Submission) (w : World) : World :=
  history.foldl (fun w x => (x.serve w).2) w

def World.Recent (w : World) (k : String) (t : Time) : Prop :=
  ∃ row ∈ w.tickets.rows, row.idempotencyKey = some k ∧ t - IDEMPOTENCY_WINDOW_MS < row.createdAt

theorem serveAll_snoc (history : List Submission) (x : Submission) (w : World) :
    serveAll (history ++ [x]) w = (x.serve (serveAll history w)).2 := by
  simp [serveAll, List.foldl_append]

/-- The server can serve a history in its order. -/
theorem serveAll_run (history : List Submission) (w : World) :
    ∃ s, Run (fun _ _ => true) { world := w } s ∧ s.world = serveAll history w := by
  induction history using List.reverseRecOn with
  | nil => exact ⟨_, .start, rfl⟩
  | append_singleton history x ih =>
    obtain ⟨s, h, hw⟩ := ih
    have harrived := h.next rfl (.arrive (.create x.dto x.user x.idempotencyKey))
    obtain ⟨s', _, h', hw', _⟩ := Reach.alone x.oracles (fun _ _ => rfl) harrived
      List.getElem?_concat_length
    refine ⟨s', h', hw'.trans ?_⟩
    rw [serveAll_snoc, ← hw]
    exact congrArg Prod.snd (respond_alone .created _ x.oracles s.world)

/-- Within the window of its key a create answers with the ticket that is there; otherwise it
stores a new one under a new number. -/
structure Submission.Honours (x : Submission) (k : String) (w : World) : Prop where
  repeated : w.Recent k x.now → ∃ row ∈ w.tickets.rows, row.idempotencyKey = some k ∧
    (x.serve w).1 = .ok { ticket := row, created := false } ∧ (x.serve w).2.tickets = w.tickets
  renewed : ¬ w.Recent k x.now → ∃ row, (x.serve w).1 = .ok { ticket := row, created := true } ∧
    (x.serve w).2.tickets.rows = w.tickets.rows ++ [row] ∧
    ∀ y ∈ w.tickets.rows, y.ticketNumber ≠ row.ticketNumber

instance (w : World) (k : String) (t : Time) : Decidable (w.Recent k t) :=
  inferInstanceAs (Decidable (∃ row ∈ w.tickets.rows, _))

/-- The key is in its window, or no ticket has it and the next number is new. -/
def World.Admits (w : World) (k : String) (t : Time) : Prop :=
  w.Recent k t ∨ ∀ y ∈ w.tickets.rows,
    y.idempotencyKey ≠ some k ∧ y.ticketNumber ≠ ticketNumber (w.ticketNumberSeq + 1)

section Transaction

variable {dto : CreateTicketDto} {user : User} {key : Option String} {priority : Priority}
  {slaDueAt : Option Time} {o : Oracle} {w : World}

/-- With an unused id and nothing striking, the transaction fails only on a ticket that clashes
with the new one. -/
theorem exec_create_undisturbed (dto : CreateTicketDto) (user : User) (key : Option String)
    (priority : Priority) (slaDueAt : Option Time) (hf : o.fault = none) (hun : o.Unused w) :
    (∃ w', Cmd.exec o (.transaction (createTransaction dto user key priority slaDueAt)) w =
        (.ok (insertedTicket dto user key priority slaDueAt o w), w') ∧
      w'.tickets.rows = w.tickets.rows ++ [insertedTicket dto user key priority slaDueAt o w] ∧
      ∀ y ∈ w.tickets.rows, ¬ y.clash (insertedTicket dto user key priority slaDueAt o w)) ∨
    ∃ w', Cmd.exec o (.transaction (createTransaction dto user key priority slaDueAt)) w =
        (.error (.prisma .P2002), w') ∧ w'.tickets = w.tickets ∧
      ∃ y ∈ w.tickets.rows, y.clash (insertedTicket dto user key priority slaDueAt o w) := by
  rw [Cmd.exec, hf, createTransaction_run]
  dsimp only
  cases ht : w.tickets.insert? (insertedTicket dto user key priority slaDueAt o w) with
  | none => exact .inr ⟨_, rfl, rfl, Table.insert?_eq_none.mp ht⟩
  | some tickets =>
    have hnone : ∀ y ∈ w.tickets.rows,
        ¬ y.clash (insertedTicket dto user key priority slaDueAt o w) := fun y hy =>
      Table.not_clash_of_insert? ht hy
    obtain ⟨events, he⟩ : ∃ events, w.events.insert? ((ticketCreadoEvent
        (insertedTicket dto user key priority slaDueAt o w) user).row o) = some events :=
      Table.exists_insert? hun.2.1
    rw [he]
    exact .inl ⟨_, rfl, Table.insert?_rows ht, hnone⟩

/-- With an unused id a ticket clashes with the new one by its key or by its number. -/
theorem clash_inserted {k : String} (hk : key = some k) (hun : o.Unused w) {y : Ticket}
    (hy : y ∈ w.tickets.rows) :
    y.clash (insertedTicket dto user key priority slaDueAt o w) ↔
      y.idempotencyKey = some k ∨ y.ticketNumber = ticketNumber (w.ticketNumberSeq + 1) := by
  constructor
  · rintro (hid | hnumber | ⟨_, hkey⟩)
    · exact absurd hid (hun.1 y hy)
    · exact .inr hnumber
    · exact .inl (hkey.trans hk)
  · rintro (hkey | hnumber)
    · exact Ticket.clash_of_key hkey hk
    · exact .inr (.inl hnumber)

end Transaction

section Alone

variable {dto : CreateTicketDto} {user : User} {key : Option String} {k : String}
  {os : Nat → Oracle} {w : World}

theorem recoverDuplicate_alone (os : Nat → Oracle) (w : World) (hk : truthy key = some k)
    (hf : ∀ n, (os n).fault = none) :
    (recoverDuplicate key (.prisma .P2002)).alone Cmd.exec os w =
      match w.tickets.find? (TicketWhere.matches { idempotencyKey := some k }) with
      | some row => (.ok { ticket := row, created := false }, w)
      | none => (.error (.prisma .P2002), w) := by
  unfold recoverDuplicate
  rw [hk]
  refine (call_alone (hf 0) rfl).trans ?_
  cases w.tickets.find? (TicketWhere.matches { idempotencyKey := some k }) <;> rfl

/-- What follows the lookup: the transaction of some later call, and the recovery when it meets
another ticket. -/
theorem insertTicket_alone (dto : CreateTicketDto) (user : User) (os : Nat → Oracle)
    (hk : truthy key = some k) (hf : ∀ n, (os n).fault = none)
    (hun : ∀ n, (os n).Unused w) :
    ∃ priority slaDueAt n,
      ((∀ y ∈ w.tickets.rows,
          ¬ y.clash (insertedTicket dto user key priority slaDueAt (os n) w)) ∧
        ∃ w', (insertTicket dto user key).alone Cmd.exec os w =
            (.ok { ticket := insertedTicket dto user key priority slaDueAt (os n) w,
                   created := true }, w') ∧
          w'.tickets.rows =
            w.tickets.rows ++ [insertedTicket dto user key priority slaDueAt (os n) w]) ∨
      ((∃ y ∈ w.tickets.rows, y.clash (insertedTicket dto user key priority slaDueAt (os n) w)) ∧
        ∀ row, ((insertTicket dto user key).alone Cmd.exec os w).1 ≠
          .ok { ticket := row, created := true }) := by
  obtain ⟨priority, n, slaDueAt, hsaves⟩ := insertTicket_saves dto user key os w.slaRules
  have hsla := hsaves w rfl
  rw [if_neg (by simp [hf 0])] at hsla
  refine ⟨priority, slaDueAt, n, ?_⟩
  rw [hsla]
  have htx := exec_create_undisturbed dto user key priority slaDueAt (hf n) (hun n)
  simp only [saveTicket, Prog.perform, Prog.bind, Prog.tryCatch, Prog.alone, Nat.add_zero]
  rcases htx with ⟨w', hx, hrows, hnone⟩ | ⟨w', hx, ht, hclash⟩
  · rw [hx]
    exact .inl ⟨hnone, w', rfl, hrows⟩
  · rw [hx]
    refine .inr ⟨hclash, fun row => ?_⟩
    have hrecover := recoverDuplicate_alone (fun m => os (n + (m + 1))) w' hk fun m => hf _
    simp only [Prog.bind, Prog.tryCatch]
    rw [hrecover]
    cases w'.tickets.find? (TicketWhere.matches { idempotencyKey := some k }) <;> simp

def recentWhere (k : String) (t : Time) : TicketWhere :=
  { idempotencyKey := some k, createdAtGt := some (t - IDEMPOTENCY_WINDOW_MS) }

theorem recentWhere_matches {t : Time} {row : Ticket} :
    (recentWhere k t).matches row = true ↔
      row.idempotencyKey = some k ∧ t - IDEMPOTENCY_WINDOW_MS < row.createdAt := by
  simp [TicketWhere.matches, recentWhere]

/-- A create with a key looks it up and, when it finds no recent ticket, inserts one. -/
theorem create_alone (hk : truthy key = some k) (hf : ∀ n, (os n).fault = none) :
    (create dto user key).alone Cmd.exec os w =
      match w.tickets.find? (recentWhere k (os 0).now).matches with
      | some row => (.ok { ticket := row, created := false }, w)
      | none => (insertTicket dto user key).alone Cmd.exec (fun n => os (n + 2)) w := by
  unfold create
  rw [hk]
  simp only [lookupRecent, Prog.bind_eq, Prog.bind_assoc]
  refine (call_alone (hf 0) rfl).trans ((call_alone (hf 1) rfl).trans ?_)
  cases hfound : w.tickets.find? (recentWhere k (os 0).now).matches with
  | some row =>
    rw [recentWhere] at hfound
    rw [hfound]
    rfl
  | none =>
    rw [recentWhere] at hfound
    rw [hfound]

end Alone

namespace Submission

variable {x : Submission} {k : String} {w : World}

theorem serve_recent (hk : truthy x.idempotencyKey = some k) (hx : x.Undisturbed w)
    (hr : w.Recent k x.now) : ∃ row ∈ w.tickets.rows, row.idempotencyKey = some k ∧
      (x.serve w).1 = .ok { ticket := row, created := false } ∧
      (x.serve w).2.tickets = w.tickets := by
  have hserve : x.serve w = _ := create_alone hk hx.fault
  cases hfound : w.tickets.find? (recentWhere k x.now).matches with
  | none =>
    obtain ⟨row, hrow, hkey, ht⟩ := hr
    exact absurd (recentWhere_matches.mpr ⟨hkey, ht⟩) (List.find?_eq_none.mp hfound row hrow)
  | some row =>
    unfold Submission.now at hfound
    rw [hserve, hfound]
    exact ⟨row, Table.find?_mem hfound, (recentWhere_matches.mp (Table.find?_holds hfound)).1,
      rfl, rfl⟩

theorem serve_lapsed (hk : truthy x.idempotencyKey = some k) (hx : x.Undisturbed w)
    (hr : ¬ w.Recent k x.now) : x.serve w =
      (insertTicket x.dto x.user x.idempotencyKey).alone Cmd.exec (fun n => x.oracles (n + 2)) w := by
  have hserve : x.serve w = _ := create_alone hk hx.fault
  cases hfound : w.tickets.find? (recentWhere k x.now).matches with
  | some row =>
    obtain ⟨hkey, ht⟩ := recentWhere_matches.mp (Table.find?_holds hfound)
    exact absurd ⟨row, Table.find?_mem hfound, hkey, ht⟩ hr
  | none =>
    unfold Submission.now at hfound
    rw [hserve, hfound]

/-- What one create does on any world. -/
theorem honours_iff (hk : truthy x.idempotencyKey = some k) (hx : x.Undisturbed w) :
    x.Honours k w ↔ w.Admits k x.now := by
  by_cases hr : w.Recent k x.now
  · exact ⟨fun _ => .inl hr, fun _ => ⟨fun _ => serve_recent hk hx hr, fun h => absurd hr h⟩⟩
  · have hserve := serve_lapsed hk hx hr
    obtain ⟨priority, slaDueAt, n, hcase⟩ := insertTicket_alone x.dto x.user
      (fun n => x.oracles (n + 2)) hk (fun n => hx.fault _) (fun n => hx.unused _)
    have hkey := (truthy_eq_some.mp hk).1
    have hclash : ∀ y ∈ w.tickets.rows, y.clash (insertedTicket x.dto x.user x.idempotencyKey
        priority slaDueAt (x.oracles (n + 2)) w) ↔
          y.idempotencyKey = some k ∨ y.ticketNumber = ticketNumber (w.ticketNumberSeq + 1) :=
      fun y hy => clash_inserted hkey (hx.unused (n + 2)) hy
    rw [← hserve] at hcase
    rcases hcase with ⟨hnone, w', hout, hrows⟩ | ⟨⟨y, hy, hc⟩, hno⟩
    · have hfree : ∀ y ∈ w.tickets.rows,
          y.idempotencyKey ≠ some k ∧ y.ticketNumber ≠ ticketNumber (w.ticketNumberSeq + 1) := by
        intro y hy
        exact not_or.mp (fun h => hnone y hy ((hclash y hy).mpr h))
      refine ⟨fun _ => .inr hfree, fun _ => ⟨fun h => absurd h hr, fun _ => ?_⟩⟩
      rw [hout]
      exact ⟨_, rfl, hrows, fun y hy => (hfree y hy).2⟩
    · constructor
      · intro h
        obtain ⟨row, hrow, _⟩ := h.renewed hr
        exact absurd hrow (hno row)
      · rintro (h | hfree)
        · exact absurd h hr
        · rcases (hclash y hy).mp hc with h | h
          · exact absurd h (hfree y hy).1
          · exact absurd h (hfree y hy).2

end Submission

/-- After any sequential history, which the server can serve, a create with a key honours the 24 hours
exactly when the key is in its window, or no ticket has the key and the next number is new. -/
theorem window_honoured_iff {w : World} (history : List Submission) {x : Submission} {k : String}
    (hk : truthy x.idempotencyKey = some k) (hx : x.Undisturbed (serveAll history w)) :
    (∃ s, Run (fun _ _ => true) { world := w } s ∧ s.world = serveAll history w) ∧
      (x.Honours k (serveAll history w) ↔ (serveAll history w).Admits k x.now) :=
  ⟨serveAll_run history w, Submission.honours_iff hk hx⟩

namespace Sample

/-- The reportante creates a ticket with a key at a given hour. -/
def atHour (h : Nat) : Submission where
  dto := body
  user := reportante
  idempotencyKey := some "clave"
  oracles n := { uuid := 100 * (h + 1) + n, now := 3600000 * h }

theorem atHour_undisturbed {h : Nat} {w : World}
    (hw : ∀ id ∈ w.tickets.rows.map Ticket.id ++ w.events.rows.map TicketEvent.id ++
      w.users.rows.map User.id, id < 100 * (h + 1)) : (atHour h).Undisturbed w where
  fault _ := rfl
  unused n := by
    have hne : ∀ id, id < 100 * (h + 1) → id ≠ 100 * (h + 1) + n := by omega
    simp only [List.mem_append, List.mem_map] at hw
    exact ⟨fun t ht => hne _ (hw _ (.inl (.inl ⟨t, ht, rfl⟩))),
      fun e he => hne _ (hw _ (.inl (.inr ⟨e, he, rfl⟩))), fun u hu => hne _ (hw _ (.inr ⟨u, hu, rfl⟩))⟩

end Sample

open Sample in
theorem window_honoured_next_hour : (atHour 1).Honours "clave" (serveAll [atHour 0] world) :=
  (window_honoured_iff [atHour 0] rfl (atHour_undisturbed (by decide))).2.mpr (.inl (by decide))

open Sample in
/-- A day later the key is out of its window, and the create still answers with the old ticket. -/
theorem window_ignored_next_day : (atHour 24).Undisturbed (serveAll [atHour 0] world) ∧
    ¬ (atHour 24).Honours "clave" (serveAll [atHour 0] world) := by
  refine ⟨atHour_undisturbed (by decide), fun h => ?_⟩
  obtain ⟨row, hrow, _⟩ := h.renewed (by decide)
  cases hrow

end TicketSystem
