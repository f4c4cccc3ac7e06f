import TicketSystem.Walks

namespace TicketSystem

open Relational Interleaved

def Ticket.place (t : Ticket) : ℕ ×ₗ ℤ ×ₗ ℕ := toLex (t.priority.rank, toLex (t.createdAt, t.id))

def queueListing : Listing Ticket Ticket (ℕ ×ₗ ℤ ×ₗ ℕ) where
  row t := t
  id := Ticket.id
  key := Ticket.place
  le := Ticket.queueLe
  rows u := u.tickets.rows
  le_iff a b := by
    rw [queueLe_iff, Ticket.place, Ticket.place, Prod.Lex.toLex_le_toLex,
      Prod.Lex.toLex_le_toLex]
  id_of_key a b h := congrArg (fun p => (ofLex (ofLex p).2).2) h
  unique := World.tickets_nodup

def ListTicketsQuery.take (query : ListTicketsQuery) : Nat := query.limit.getD DEFAULT_LIMIT

theorem ListTicketsQuery.take_pos (query : ListTicketsQuery) : 0 < query.take := by
  unfold ListTicketsQuery.take
  cases hl : query.limit with
  | none => decide
  | some n => exact (query.limitRange n hl).1

def TicketListWhere.admits (f : TicketListWhere) (u : World) (t : Ticket) : Bool :=
  f.matches u.ilike t

/-- The ticket is one that the filters of a list admit. -/
def World.lists (w : World) (f : TicketListWhere) (id : Uuid) : Bool :=
  (w.ticket? id).any (f.admits w)

theorem World.row_of_any {u : World} {id : Uuid} {q : Ticket → Bool}
    (h : (u.ticket? id).any q = true) : ∃ t ∈ u.tickets.rows, t.id = id ∧ q t = true := by
  obtain ⟨t, ht, hm⟩ := (Option.any_eq_true _ _).mp h
  exact ⟨t, World.ticket?_mem ht, World.ticket?_id ht, hm⟩

/-- No update moves a ticket to another place of the queue, and none is deleted. -/
theorem Effect.places {q : Request} {past : List Seen} {e : Executed} (h : Effect q past e) :
    queueListing.Keeps e.before e.after := by
  intro t ht
  have hbefore := World.ticket?_of_mem ht
  cases h.row t.id with
  | same kept =>
    have hafter := kept.trans hbefore
    exact ⟨t, World.ticket?_mem hafter, rfl, rfl⟩
  | @updated g d _ u _ _ _ before _ after =>
    cases before.symm.trans hbefore
    exact ⟨_, World.ticket?_mem after, rfl, rfl⟩
  | inserted _ _ _ before _ => cases before.symm.trans hbefore

section Runs

variable {ok : Server → Action → Bool} {w : World} {s : Server} {query : ListTicketsQuery}
  {user : User} {f : TicketListWhere} {fs : List (Fetch Ticket)}

theorem Run.queue_keeps (h : Run ok { world := w } s) (i j : Nat) (hij : i ≤ j) :
    queueListing.Keeps (s.worldAt i) (s.worldAt j) :=
  h.relates (r := queueListing.Keeps) (fun _ r hr => ⟨r, hr, rfl, rfl⟩)
    (fun _ _ _ => Listing.Keeps.trans) (fun heff => heff.places) hij

theorem Run.reads_queue (h : Run ok { world := w } s) (hf : listWhere query user = .ok f)
    {g : Fetch Ticket} (hg : s.Fetched (asksList query user) .page g) :
    queueListing.Reads query.take (s.worldAt g.index) (f.admits (s.worldAt g.index)) g := by
  obtain ⟨f', hf', hpage⟩ := h.fetched_list hg
  cases hf.symm.trans hf'
  have hitems : g.page.items = (s.worldAt g.index).queuePage f g.cursor query.take := by
    rw [hpage]
    rfl
  constructor
  · rw [hitems]
    exact List.map_id _
  · rw [hitems, hpage]
    rfl

/-- Every ticket that the filters admit from before the first page until after the last one is in
the pages, once. -/
def Server.PagesAll (s : Server) (f : TicketListWhere) (fs : List (Fetch Ticket)) : Prop :=
  ∀ id, s.Throughout (fs.map Fetch.index) (fun u => u.lists f id = true) →
    (gathered fs).countP (fun t => t.id == id) = 1

/-- On no page does such a ticket come first after a cursor whose own ticket is filtered out by
then. -/
def Server.SparesListed (s : Server) (f : TicketListWhere) (fs : List (Fetch Ticket)) : Prop :=
  ∀ g ∈ fs, ∀ t, queueListing.Skips (s.worldAt g.index) (f.admits (s.worldAt g.index))
    g.cursor t → ¬ s.Throughout (fs.map Fetch.index) (fun u => u.lists f t.id = true)

theorem queue_paged_iff (h : Run ok { world := w } s)
    (walk : s.Walk (asksList query user) .page fs) (ended : Ended fs)
    (hf : listWhere query user = .ok f) : s.PagesAll f fs ↔ s.SparesListed f fs := by
  have once : ∀ id, s.Throughout (fs.map Fetch.index) (fun u => u.lists f id = true) →
      ((gathered fs).countP (fun t => t.id == id) = 1 ↔
        ∀ g ∈ fs, ∀ t, queueListing.Skips (s.worldAt g.index)
          (f.admits (s.worldAt g.index)) g.cursor t → t.id ≠ id) := by
    intro id hkept
    exact Listing.once_iff walk h.queue_keeps
      (fun g hg => h.reads_queue hf (walk.fetched g hg)) query.take_pos ended
      fun g hg => World.row_of_any (hkept.at (List.mem_map_of_mem hg))
  constructor
  · intro hall g hg t hskip hkept
    exact (once t.id hkept).mp (hall t.id hkept) g hg t hskip rfl
  · intro hspares id hkept
    refine (once id hkept).mpr fun g hg t hskip hid => ?_
    exact hspares g hg t hskip (hid ▸ hkept)

end Runs

namespace Sample

/-- The tickets 102, 112 and 122, all abierto. -/
def threeCreated : List Action :=
  created ++ [.arrive (.create body reportante none)] ++ steps 1 10 3 ++
    [.arrive (.create body reportante none)] ++ steps 2 20 3

def openOnes : ListTicketsQuery where
  status := some .abierto
  limit := some 1
  assigneeIdLength := ListTicketsQuery.assigneeId_left_out
  severityRange := ListTicketsQuery.severity_left_out
  qLength := ListTicketsQuery.q_left_out
  limitRange := by rintro _ ⟨⟩; decide

def isOpen : TicketListWhere := { status := some .abierto }

def listAfter (c : Uuid) : Action :=
  .arrive (.list { openOnes with cursor := some (Uuid.text c) } agente)

/-- The first page holds the ticket 102. -/
def firstPage : List Action := threeCreated ++ [.arrive (.list openOnes agente)] ++ steps 3 30 1

def assigned102 : List Action :=
  [.arrive (.assign 102 ⟨agente.id, 0⟩ agente)] ++ steps 4 40 7

/-- Before the second page it is assigned. -/
def pagedQueue : List Action :=
  firstPage ++ assigned102 ++ [listAfter 102] ++ steps 5 50 1 ++ [listAfter 112] ++ steps 6 60 1 ++
    [listAfter 122] ++ steps 7 70 1

/-- Before the second page it is assigned and started. -/
def startedBetween : List Action :=
  firstPage ++ assigned102 ++ [.arrive (.changeState 102 (start 1) agente)] ++ steps 5 50 4 ++
    [listAfter 102] ++ steps 6 60 1 ++ [listAfter 122] ++ steps 7 70 1

def queuePaged : Server := (play (fun _ _ => true) pagedQueue).get (by decide +kernel)

def queueStarted : Server := (play (fun _ _ => true) startedBetween).get (by decide +kernel)

/-- The page request `i` was answered. -/
def pageOf (s : Server) (i : Nat) : Page Ticket :=
  match (s.threads[i]?).bind Thread.result? with
  | some (.ok (.page p)) => p
  | _ => { items := [], nextCursor := none }

/-- What a list was answered, when the rows it found are stored in order. -/
theorem pageOf_ids {s : Server} {i : Nat} (n limit : Nat) (f : TicketListWhere)
    (cursor : Option Uuid) (ids : List Uuid)
    (hpage : pageOf s i = toPage Ticket.id limit ((s.worldAt n).queuePage f cursor limit))
    (hsorted : ((s.worldAt n).tickets.rows.filter (f.matches (s.worldAt n).ilike)).Pairwise
      fun a b => a.queueLe b = true)
    (hids : (((seek Ticket.queueLe (s.worldAt n).tickets.rows (cursor.map fun id t => t.id == id)
      ((s.worldAt n).tickets.rows.filter (f.matches (s.worldAt n).ilike))).drop
        (cursorSkip cursor)).take limit).map Ticket.id = ids) :
    (pageOf s i).items.map Ticket.id = ids ∧
      (pageOf s i).nextCursor = if ids.length = limit then ids.getLast? else none := by
  rw [World.queuePage, findMany_of_sorted hsorted] at hpage
  rw [hpage, ← hids]
  refine ⟨rfl, ?_⟩
  simp only [toPage, List.length_map, List.getLast?_map]

/-- Rows that are numbered in turn clash with none of the others. -/
theorem numbered_unique {row : Nat → Ticket} (n : Nat) (hn : n ≤ 9999)
    (id : ∀ i j, (row i).id = (row j).id → i = j)
    (number : ∀ i, (row i).ticketNumber = ticketNumber (i + 1))
    (nokey : ∀ i, (row i).idempotencyKey = none) :
    ((List.range n).map row).Pairwise fun a b => ¬ a.clash b := by
  refine List.pairwise_map.mpr (List.pairwise_lt_range.imp_of_mem fun {i j} hi hj hlt => ?_)
  have hi := List.mem_range.mp hi
  have hj := List.mem_range.mp hj
  rintro (hid | hnumber | ⟨hkey, _⟩)
  · have := id i j hid
    omega
  · rw [number, number] at hnumber
    have := ticketNumber_injective (by omega) (by omega) hnumber
    omega
  · rw [nokey] at hkey
    cases hkey

def queueFetches : List (Fetch Ticket) :=
  [⟨9, none, pageOf queuePaged 3⟩, ⟨17, some 102, pageOf queuePaged 5⟩,
    ⟨18, some 112, pageOf queuePaged 6⟩, ⟨19, some 122, pageOf queuePaged 7⟩]

def startedFetches : List (Fetch Ticket) :=
  [⟨9, none, pageOf queueStarted 3⟩, ⟨21, some 102, pageOf queueStarted 6⟩,
    ⟨22, some 122, pageOf queueStarted 7⟩]

theorem queuePaged_pages : (pageOf queuePaged 3).nextCursor = some 102 ∧
    (pageOf queuePaged 5).nextCursor = some 112 ∧ (pageOf queuePaged 6).nextCursor = some 122 ∧
      (pageOf queuePaged 7).nextCursor = none :=
  ⟨(pageOf_ids 9 1 isOpen none [102] rfl (by decide +kernel) (by decide +kernel)).2,
    (pageOf_ids 17 1 isOpen (some 102) [112] rfl (by decide +kernel) (by decide +kernel)).2,
    (pageOf_ids 18 1 isOpen (some 112) [122] rfl (by decide +kernel) (by decide +kernel)).2,
    (pageOf_ids 19 1 isOpen (some 122) [] rfl (by decide +kernel) (by decide +kernel)).2⟩

theorem queueStarted_pages :
    ((pageOf queueStarted 3).items.map Ticket.id = [102] ∧
      (pageOf queueStarted 3).nextCursor = some 102) ∧
    ((pageOf queueStarted 6).items.map Ticket.id = [122] ∧
      (pageOf queueStarted 6).nextCursor = some 122) ∧
    ((pageOf queueStarted 7).items.map Ticket.id = [] ∧
      (pageOf queueStarted 7).nextCursor = none) :=
  ⟨pageOf_ids 9 1 isOpen none [102] rfl (by decide +kernel) (by decide +kernel),
    pageOf_ids 21 1 isOpen (some 102) [122] rfl (by decide +kernel) (by decide +kernel),
    pageOf_ids 22 1 isOpen (some 122) [] rfl (by decide +kernel) (by decide +kernel)⟩

theorem queuePaged_walk : queuePaged.Walk (asksList openOnes agente) .page queueFetches where
  fetched f hf := by
    simp only [queueFetches, List.mem_cons, List.not_mem_nil, or_false] at hf
    rcases hf with rfl | rfl | rfl | rfl
    · exact ⟨queuePaged.history[9], queuePaged.threads[3], rfl, rfl, rfl, ⟨none, rfl, rfl⟩, rfl⟩
    · exact ⟨queuePaged.history[17], queuePaged.threads[5], rfl, rfl, rfl,
        ⟨some (Uuid.text 102), by decide +kernel, rfl⟩, rfl⟩
    · exact ⟨queuePaged.history[18], queuePaged.threads[6], rfl, rfl, rfl,
        ⟨some (Uuid.text 112), by decide +kernel, rfl⟩, rfl⟩
    · exact ⟨queuePaged.history[19], queuePaged.threads[7], rfl, rfl, rfl,
        ⟨some (Uuid.text 122), by decide +kernel, rfl⟩, rfl⟩
  first := by rintro f ⟨⟩; rfl
  chained := by
    obtain ⟨h₁, h₂, h₃, _⟩ := queuePaged_pages
    simp [queueFetches, Fetch.Next, h₁, h₂, h₃]

theorem queueStarted_walk : queueStarted.Walk (asksList openOnes agente) .page startedFetches where
  fetched f hf := by
    simp only [startedFetches, List.mem_cons, List.not_mem_nil, or_false] at hf
    rcases hf with rfl | rfl | rfl
    · exact ⟨queueStarted.history[9], queueStarted.threads[3], rfl, rfl, rfl, ⟨none, rfl, rfl⟩,
        rfl⟩
    · exact ⟨queueStarted.history[21], queueStarted.threads[6], rfl, rfl, rfl,
        ⟨some (Uuid.text 102), by decide +kernel, rfl⟩, rfl⟩
    · exact ⟨queueStarted.history[22], queueStarted.threads[7], rfl, rfl, rfl,
        ⟨some (Uuid.text 122), by decide +kernel, rfl⟩, rfl⟩
  first := by rintro f ⟨⟩; rfl
  chained := by
    obtain ⟨⟨_, h₁⟩, ⟨_, h₂⟩, _⟩ := queueStarted_pages
    simp [startedFetches, Fetch.Next, h₁, h₂]

end Sample

open Sample in
/-- An assign between two pages does no harm. -/
theorem queue_paged_all : queuePaged.PagesAll isOpen queueFetches := by
  have hrun : Run (fun _ _ => true) { world := world } queuePaged := play_run (by decide +kernel)
  have ended : Ended queueFetches := ⟨_, rfl, queuePaged_pages.2.2.2⟩
  refine (queue_paged_iff hrun queuePaged_walk ended rfl).mpr fun g hg t hskip => ?_
  have hopen : ∀ n < 24, ∀ x ∈ (queuePaged.worldAt n).tickets.rows,
      isOpen.admits (queuePaged.worldAt n) x = true := by decide +kernel
  have hindex : ∀ g ∈ queueFetches, g.index < 24 := by simp [queueFetches]
  obtain ⟨x, hx, _, hno, _⟩ := hskip
  cases hno.symm.trans (hopen g.index (hindex g hg) x hx)

open Sample in
/-- The ticket of the cursor is started before the second page: the one after it is lost. -/
theorem listed_ticket_lost : ¬ ∀ (s : Server) (fs : List (Fetch Ticket)),
    Run (fun _ _ => true) { world := world } s → s.Walk (asksList openOnes agente) .page fs →
      Ended fs → s.PagesAll isOpen fs := by
  intro hall
  have hrun : Run (fun _ _ => true) { world := world } queueStarted := play_run (by decide +kernel)
  obtain ⟨⟨hids₁, _⟩, ⟨hids₂, _⟩, hids₃, hend⟩ := queueStarted_pages
  have hkept : queueStarted.Throughout (startedFetches.map Fetch.index)
      (fun u => u.lists isOpen 112 = true) := by
    have hopen : ∀ n < 24, 9 ≤ n → (queueStarted.worldAt n).lists isOpen 112 = true := by
      decide +kernel
    intro i hi j hj n hin hnj
    simp only [startedFetches, List.map_cons, List.map_nil, List.mem_cons, List.not_mem_nil,
      or_false] at hi hj
    exact hopen n (by omega) (by omega)
  have honce := hall _ _ hrun queueStarted_walk ⟨_, rfl, hend⟩ 112 hkept
  have hids : (gathered startedFetches).map Ticket.id = [102, 122] := by
    simp [gathered, startedFetches, hids₁, hids₂, hids₃]
  rw [countP_eq_count Ticket.id, hids] at honce
  simp at honce

end TicketSystem
