import TicketSystem.QueueWalk

namespace TicketSystem

open Relational Interleaved

def reportListing : Listing Row Ticket ℕ where
  row := Row.ticket
  id := Ticket.id
  key := Ticket.id
  le := Ticket.idLe
  rows u := u.tickets.rows
  le_iff _ _ := decide_eq_true_iff
  id_of_key _ _ h := h
  unique := World.tickets_nodup

def ReportWhere.admits (f : ReportWhere) (_ : World) (t : Ticket) : Bool := f.matches t

/-- The ticket is resolved, and one that the query asks for. -/
def World.reports (w : World) (f : ReportWhere) (id : Uuid) : Bool :=
  (w.ticket? id).any f.matches

section Runs

variable {ok : Server → Action → Bool} {w : World} {s : Server} {query : ReportQuery}
  {f : ReportWhere} {fs : List (Fetch Row)}

theorem Run.report_keeps (h : Run ok { world := w } s) (i j : Nat) (hij : i ≤ j) :
    reportListing.Keeps (s.worldAt i) (s.worldAt j) := by
  intro t ht
  obtain ⟨t', ht', hid, _⟩ := h.queue_keeps i j hij t ht
  exact ⟨t', ht', hid, hid⟩

theorem Run.reads_report (h : Run ok { world := w } s) (hf : buildWhere query = .ok f)
    {g : Fetch Row} (hg : s.Fetched (asksBatch query) .batch g) :
    reportListing.Reads BATCH (s.worldAt g.index) (f.admits (s.worldAt g.index)) g := by
  obtain ⟨f', hf', hpage⟩ := h.fetched_batch hg
  cases hf.symm.trans hf'
  have hitems : g.page.items = ((s.worldAt g.index).reportBatch f g.cursor).map
      (Ticket.row (s.worldAt g.index).users) := by
    rw [hpage]
    rfl
  constructor
  · rw [hitems, List.map_map]
    exact List.map_id _
  · rw [hitems, hpage]
    rfl

/-- The lines are the header and one row for each ticket gathered; every ticket that the query
asks for from before the first batch until after the last one is gathered once, and none twice. -/
structure Server.ExportsAll (s : Server) (f : ReportWhere) (fs : List (Fetch Row)) : Prop where
  lines : streamCsv (fs.map Fetch.page) =
    csvRow (HEADER.map .string) :: (gathered fs).map toCsvRow
  once : ∀ id, s.Throughout (fs.map Fetch.index) (fun u => u.reports f id = true) →
    (gathered fs).countP (fun r => r.ticket.id == id) = 1
  nodup : ((gathered fs).map fun r => r.ticket.id).Nodup

/-- No such ticket comes first after the last one of a full batch that the query does not ask for
any more when the next batch is fetched. -/
def Server.SparesReported (s : Server) (f : ReportWhere) (fs : List (Fetch Row)) : Prop :=
  ∀ g ∈ fs, ∀ t, reportListing.Skips (s.worldAt g.index) (f.admits (s.worldAt g.index))
    g.cursor t → ¬ s.Throughout (fs.map Fetch.index) (fun u => u.reports f t.id = true)

theorem streamCsv_gathered (fs : List (Fetch Row)) : streamCsv (fs.map Fetch.page) =
    csvRow (HEADER.map .string) :: (gathered fs).map toCsvRow := by
  simp only [streamCsv, gathered, List.flatMap_map, List.map_flatMap]

theorem export_complete_iff (h : Run ok { world := w } s)
    (walk : s.Walk (asksBatch query) .batch fs) (ended : Ended fs)
    (hf : buildWhere query = .ok f) : s.ExportsAll f fs ↔ s.SparesReported f fs := by
  have reads : ∀ g ∈ fs, reportListing.Reads BATCH (s.worldAt g.index)
      (f.admits (s.worldAt g.index)) g := fun g hg => h.reads_report hf (walk.fetched g hg)
  have once : ∀ id, s.Throughout (fs.map Fetch.index) (fun u => u.reports f id = true) →
      ((gathered fs).countP (fun r => r.ticket.id == id) = 1 ↔
        ∀ g ∈ fs, ∀ t, reportListing.Skips (s.worldAt g.index)
          (f.admits (s.worldAt g.index)) g.cursor t → t.id ≠ id) := by
    intro id hkept
    exact Listing.once_iff walk h.report_keeps reads (by decide) ended
      fun g hg => World.row_of_any (hkept.at (List.mem_map_of_mem hg))
  constructor
  · intro hall g hg t hskip hkept
    exact (once t.id hkept).mp (hall.once t.id hkept) g hg t hskip rfl
  · intro hspares
    refine ⟨streamCsv_gathered fs, fun id hkept => ?_,
      Listing.gathered_nodup walk h.report_keeps reads⟩
    refine (once id hkept).mpr fun g hg t hskip hid => ?_
    exact hspares g hg t hskip (hid ▸ hkept)

theorem Priority.rank_injective {a b : Priority} (h : a.rank = b.rank) : a = b := by
  cases a <;> cases b <;> first | rfl | cases h

theorem buildWhere_ok (hf : buildWhere query = .ok f) :
    f.status = .resuelto ∧ (truthy query.assigneeId = none → f.assigneeId = none) := by
  unfold buildWhere at hf
  cases hgte : dateArg query.resolvedFrom with
  | error e => simp [hgte, bind, Except.bind] at hf
  | ok gte =>
    cases hlte : dateArg query.resolvedTo with
    | error e => simp [hgte, hlte, bind, Except.bind] at hf
    | ok lte =>
      cases hassignee : truthy query.assigneeId with
      | none =>
        simp only [hgte, hlte, hassignee, bind, Except.bind, pure, Except.pure,
          Except.ok.injEq] at hf
        subst hf
        exact ⟨rfl, fun _ => rfl⟩
      | some text =>
        cases huuid : uuidArg text with
        | error e =>
          simp [hgte, hlte, hassignee, huuid, bind, Except.bind, Except.map] at hf
        | ok id =>
          simp only [hgte, hlte, hassignee, huuid, bind, Except.bind, pure, Except.pure, Except.map,
            Except.ok.injEq] at hf
          subst hf
          exact ⟨rfl, nofun⟩

/-- Once resolved, a ticket keeps its status, its priority and the time of its resolution: a
query without an assignee goes on asking for it. -/
theorem Run.reports_stay (h : Run ok { world := w } s) (hf : buildWhere query = .ok f)
    (hno : truthy query.assigneeId = none) {i j : Nat} (hij : i ≤ j) {t t' : Ticket}
    (ht : t ∈ (s.worldAt i).tickets.rows) (hm : f.matches t = true)
    (ht' : t' ∈ (s.worldAt j).tickets.rows) (hid : t'.id = t.id) : f.matches t' = true := by
  obtain ⟨hstatus, hassignee⟩ := buildWhere_ok hf
  have hassignee := hassignee hno
  have hevolves : (s.worldAt i).Evolves (s.worldAt j) :=
    h.relates World.Evolves.refl (fun _ _ _ => World.Evolves.trans) (fun heff => heff.evolves) hij
  obtain ⟨u, hu, he⟩ := hevolves t.id t (World.ticket?_of_mem ht)
  cases (World.ticket?_of_mem ht').symm.trans (hid.symm ▸ hu)
  have hplace := Listing.same_key (L := queueListing) h.queue_keeps ht' ht hid
  have hrank : t'.priority.rank = t.priority.rank := congrArg (fun p => (ofLex p).1) hplace
  have hclosed : t.status = .resuelto := by
    simp only [ReportWhere.matches, hstatus, Bool.and_eq_true, beq_iff_eq] at hm
    exact hm.1.1.1.1
  have hstill : t'.status = t.status := by
    rcases he.status with hs | hs
    · exact hs
    · exact absurd (hclosed ▸ hs) TicketStatus.Moves.of_resuelto
  obtain ⟨_, _, _, hresolved⟩ := he.closed hclosed
  simp only [ReportWhere.matches, hassignee, hstill, Priority.rank_injective hrank,
    hresolved] at hm ⊢
  exact hm

/-- Only a query for an assignee can lose a ticket. -/
theorem Run.spares_reported (h : Run ok { world := w } s)
    (walk : s.Walk (asksBatch query) .batch fs) (hf : buildWhere query = .ok f)
    (hno : truthy query.assigneeId = none) : s.SparesReported f fs := by
  intro g hg t hskip
  obtain ⟨x, hx, hcursor, hgone, _⟩ := hskip
  have reads : ∀ g ∈ fs, reportListing.Reads BATCH (s.worldAt g.index)
      (f.admits (s.worldAt g.index)) g := fun g hg => h.reads_report hf (walk.fetched g hg)
  obtain ⟨g', hg', hindex, r, hr, hid⟩ := Listing.cursor_held walk reads hg hcursor
  obtain ⟨hmem, hm⟩ := (reads g' hg').answered.mem _ (List.mem_map_of_mem hr)
  cases hgone.symm.trans (h.reports_stay hf hno hindex.le hmem hm hx hid.symm)

end Runs

namespace Sample

def resolvedTicket (i : Nat) : Ticket where
  id := 1000 + i
  ticketNumber := ticketNumber (i + 1)
  type := .incidente
  title := "No arranca el servicio"
  description := "El servicio de pagos responde 500 desde las nueve"
  severity := 2
  impact := 2
  priority := .media
  status := .resuelto
  reporterId := 1
  assigneeId := some 3
  slaDueAt := none
  rootCause := some "El disco de datos estaba lleno"
  solution := some "Se amplió el volumen de datos"
  resolvedAt := some 0
  idempotencyKey := none
  createdAt := 0

theorem resolvedTickets_unique (n : Nat) (hn : n ≤ 9999) :
    ((List.range n).map resolvedTicket).Pairwise fun a b => ¬ a.clash b :=
  numbered_unique n hn (fun _ _ hid => Nat.add_left_cancel hid) (fun _ => rfl) fun _ => rfl

/-- 502 resolved tickets, from 1000 on, of one agente. -/
def manyResolved : World :=
  { world with
    tickets := ⟨(List.range 502).map resolvedTicket, resolvedTickets_unique 502 (by decide)⟩
    ticketNumberSeq := 502 }

def ofAgente : ReportQuery where
  assigneeId := some (Uuid.text 3)
  assigneeIdLength := by rintro _ ⟨⟩; decide +kernel

def resolvedByAgente : ReportWhere := { status := .resuelto, assigneeId := some 3 }

theorem buildWhere_ofAgente : buildWhere ofAgente = .ok resolvedByAgente := by
  have hid : uuidArg (Uuid.text 3) = .ok 3 := by decide +kernel
  have htruthy : truthy ofAgente.assigneeId = some (Uuid.text 3) := by decide +kernel
  simp only [buildWhere, htruthy, hid]
  rfl

/-- The export in two batches; between them the ticket `id` is given to another agente. -/
def reassigning (id : Uuid) : List Action :=
  [.arrive (.streamBatch ofAgente none)] ++ steps 0 0 1 ++
    [.arrive (.assign id ⟨suplente.id, 0⟩ administrador)] ++ steps 1 10 7 ++
    [.arrive (.streamBatch ofAgente (some 1499))] ++ steps 2 20 1

def export? (id : Uuid) : Option Server :=
  Pool.replay serve Cmd.exec (fun _ _ => true) (reassigning id) { world := manyResolved }

def exported : Server := (export? 1000).get (by decide +kernel)

def exportedPast : Server := (export? 1499).get (by decide +kernel)

/-- The batch request `i` was answered. -/
def batchOf (s : Server) (i : Nat) : Page Row :=
  match (s.threads[i]?).bind Thread.result? with
  | some (.ok (.batch p)) => p
  | _ => { items := [], nextCursor := none }

/-- What the tickets of a batch are, when they are stored in order. -/
theorem batchOf_ids (s : Server) {p : Page Row} (n : Nat) (cursor : Option Uuid) (ids : List Uuid)
    {next : Option Uuid}
    (hpage : p = batchPage (((s.worldAt n).reportBatch resolvedByAgente cursor).map
      (Ticket.row (s.worldAt n).users)))
    (hsorted : ((s.worldAt n).tickets.rows.map Ticket.id).IsChain (· < ·))
    (hids : (((seek Ticket.idLe (s.worldAt n).tickets.rows (cursor.map fun id t => t.id == id)
      ((s.worldAt n).tickets.rows.filter resolvedByAgente.matches)).drop
        (cursorSkip cursor)).take BATCH).map Ticket.id = ids)
    (hnext : (if ids.length = BATCH then ids.getLast? else none) = next) :
    p.items.map (fun r => r.ticket.id) = ids ∧ p.nextCursor = next := by
  have hsorted : ((s.worldAt n).tickets.rows.filter resolvedByAgente.matches).Pairwise
      fun a b => a.idLe b = true := by
    refine ((List.pairwise_map.mp (List.isChain_iff_pairwise.mp hsorted)).filter _).imp fun h => ?_
    exact decide_eq_true (Nat.le_of_lt h)
  rw [World.reportBatch, findMany_of_sorted hsorted] at hpage
  rw [batchPage_eq ((List.length_map ..).trans_le (List.length_take_le ..))] at hpage
  have hrows : p.items.map (fun r => r.ticket.id) = ids := by
    rw [hpage, ← hids]
    exact List.map_map
  refine ⟨hrows, ?_⟩
  rw [← hnext, ← hrows, List.length_map, List.getLast?_map, hpage]
  rfl

def exportFetches (s : Server) : List (Fetch Row) :=
  [⟨0, none, batchOf s 0⟩, ⟨8, some 1499, batchOf s 2⟩]

set_option maxRecDepth 20000 in
theorem exported_pages :
    ((batchOf exported 0).items.map (fun r => r.ticket.id) = (List.range 500).map (1000 + ·) ∧
      (batchOf exported 0).nextCursor = some 1499) ∧
    ((batchOf exported 2).items.map (fun r => r.ticket.id) = [1500, 1501] ∧
      (batchOf exported 2).nextCursor = none) :=
  ⟨batchOf_ids exported 0 none _ rfl (by decide +kernel) (by decide +kernel) (by decide +kernel),
    batchOf_ids exported 8 (some 1499) _ rfl (by decide +kernel) (by decide +kernel)
      (by decide +kernel)⟩

set_option maxRecDepth 20000 in
theorem exportedPast_pages :
    ((batchOf exportedPast 0).items.map (fun r => r.ticket.id) = (List.range 500).map (1000 + ·) ∧
      (batchOf exportedPast 0).nextCursor = some 1499) ∧
    ((batchOf exportedPast 2).items.map (fun r => r.ticket.id) = [1501] ∧
      (batchOf exportedPast 2).nextCursor = none) :=
  ⟨batchOf_ids exportedPast 0 none _ rfl (by decide +kernel) (by decide +kernel)
      (by decide +kernel),
    batchOf_ids exportedPast 8 (some 1499) _ rfl (by decide +kernel) (by decide +kernel)
      (by decide +kernel)⟩

/-- Two batches are a walk when the second was asked for after the last ticket of the first. -/
theorem exportFetches_walk {s : Server}
    (hfirst : s.Fetched (asksBatch ofAgente) .batch ⟨0, none, batchOf s 0⟩)
    (hsecond : s.Fetched (asksBatch ofAgente) .batch ⟨8, some 1499, batchOf s 2⟩)
    (hnext : (batchOf s 0).nextCursor = some 1499) :
    s.Walk (asksBatch ofAgente) .batch (exportFetches s) where
  fetched f hf := by
    simp only [exportFetches, List.mem_cons, List.not_mem_nil, or_false] at hf
    rcases hf with rfl | rfl
    · exact hfirst
    · exact hsecond
  first := by rintro f ⟨⟩; rfl
  chained := by simp [exportFetches, Fetch.Next, hnext]

set_option maxRecDepth 20000 in
theorem exported_walk : exported.Walk (asksBatch ofAgente) .batch (exportFetches exported) :=
  exportFetches_walk ⟨exported.history[0], exported.threads[0], rfl, rfl, rfl, rfl, rfl⟩
    ⟨exported.history[8], exported.threads[2], rfl, rfl, rfl, rfl, rfl⟩ exported_pages.1.2

set_option maxRecDepth 20000 in
theorem exportedPast_walk :
    exportedPast.Walk (asksBatch ofAgente) .batch (exportFetches exportedPast) :=
  exportFetches_walk ⟨exportedPast.history[0], exportedPast.threads[0], rfl, rfl, rfl, rfl, rfl⟩
    ⟨exportedPast.history[8], exportedPast.threads[2], rfl, rfl, rfl, rfl, rfl⟩
    exportedPast_pages.1.2

end Sample

open Sample in
/-- The first ticket of the first batch is given away before the second one is fetched: every
ticket that stays is exported. -/
theorem export_complete : exported.ExportsAll resolvedByAgente (exportFetches exported) := by
  have hrun : Run (fun _ _ => true) { world := manyResolved } exported :=
    Reach.of_replay (Option.some_get _).symm
  have ended : Ended (exportFetches exported) := ⟨_, rfl, exported_pages.2.2⟩
  refine (export_complete_iff hrun exported_walk ended buildWhere_ofAgente).mpr
    fun g hg t hskip => ?_
  have hlast : ∀ x ∈ (exported.worldAt 8).tickets.rows, x.id = 1499 →
      resolvedByAgente.matches x = true := by decide +kernel
  obtain ⟨x, hx, hcursor, hno, _⟩ := hskip
  simp only [exportFetches, List.mem_cons, List.not_mem_nil, or_false] at hg
  rcases hg with rfl | rfl
  · cases hcursor
  · dsimp only [reportListing] at hx hcursor
    have hid : x.id = 1499 := (Option.some.inj hcursor).symm
    have hasked : resolvedByAgente.matches x = true := hlast x hx hid
    exact absurd (hno.symm.trans hasked) Bool.false_ne_true

open Sample in
/-- The last ticket of the first batch is given away: the one after it is not exported. -/
theorem exported_ticket_lost : ¬ ∀ (s : Server) (fs : List (Fetch Row)),
    Run (fun _ _ => true) { world := manyResolved } s →
      s.Walk (asksBatch ofAgente) .batch fs → Ended fs → s.ExportsAll resolvedByAgente fs := by
  intro hall
  have hrun : Run (fun _ _ => true) { world := manyResolved } exportedPast :=
    Reach.of_replay (Option.some_get _).symm
  obtain ⟨⟨hids₁, _⟩, ⟨hids₂, hend⟩⟩ := exportedPast_pages
  have hkept : exportedPast.Throughout ((exportFetches exportedPast).map Fetch.index)
      (fun u => u.reports resolvedByAgente 1500 = true) := by
    have hasked : ∀ n < 10, (exportedPast.worldAt n).reports resolvedByAgente 1500 = true := by
      decide +kernel
    intro i hi j hj n hin hnj
    simp only [exportFetches, List.map_cons, List.map_nil, List.mem_cons, List.not_mem_nil,
      or_false] at hi hj
    exact hasked n (by omega)
  have honce := (hall _ _ hrun exportedPast_walk ⟨_, rfl, hend⟩).once 1500 hkept
  have hids : (gathered (exportFetches exportedPast)).map (fun r => r.ticket.id) =
      (List.range 500).map (1000 + ·) ++ [1501] := by
    simp only [gathered, exportFetches, List.flatMap_cons, List.flatMap_nil, List.append_nil,
      List.map_append, hids₁, hids₂]
  rw [countP_eq_count fun r : Row => r.ticket.id, hids] at honce
  exact absurd honce (by decide +kernel)

end TicketSystem
