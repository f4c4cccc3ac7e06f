import TicketSystem.Walks

namespace TicketSystem

open Relational Interleaved

/-- The order of the history, strictly. -/
def TicketEvent.Precedes (a b : TicketEvent) : Prop :=
  a.createdAt < b.createdAt ∨ a.createdAt = b.createdAt ∧ a.id < b.id

instance : DecidableRel TicketEvent.Precedes := fun _ _ => inferInstanceAs (Decidable (_ ∨ _))

def TicketEvent.place (e : TicketEvent) : ℤ ×ₗ ℕ := toLex (e.createdAt, e.id)

theorem TicketEvent.place_lt {a b : TicketEvent} : a.place < b.place ↔ a.Precedes b := by
  simp only [place, Prod.Lex.toLex_lt_toLex, Precedes]

def historyListing : Listing EventWithActor TicketEvent (ℤ ×ₗ ℕ) where
  row := EventWithActor.event
  id := TicketEvent.id
  key := TicketEvent.place
  le := TicketEvent.historyLe
  rows u := u.events.rows
  le_iff a b := by
    rw [historyLe_iff, TicketEvent.place, TicketEvent.place, Prod.Lex.toLex_le_toLex]
  id_of_key a b h := congrArg Prod.snd (toLex_inj.mp h)
  unique u := Table.nodup_keys (fun _ _ h => h) u.events

def ofTicket (ticketId : Uuid) (_ : World) (e : TicketEvent) : Bool := e.ticketId == ticketId

/-- The events of a ticket. -/
def World.eventsOf (w : World) (ticketId : Uuid) : List TicketEvent :=
  w.events.rows.filter (ofTicket ticketId w)

def ListEventsQuery.take (query : ListEventsQuery) : Nat := query.limit.getD DEFAULT_LIMIT

theorem ListEventsQuery.take_pos (query : ListEventsQuery) : 0 < query.take := by
  unfold ListEventsQuery.take
  cases hl : query.limit with
  | none => decide
  | some n => exact (query.limitRange n hl).1

/-- Events are only appended. -/
theorem Effect.events {q : Request} {past : List Seen} {e : Executed} (h : Effect q past e) :
    e.before.events.rows <+: e.after.events.rows := by
  cases h with
  | quiet _ kept => exact kept.events ▸ List.prefix_rfl
  | created _ _ _ write => exact ⟨_, (Table.insert?_rows write.events).symm⟩
  | updated _ _ write => exact write.events ▸ List.prefix_rfl
  | recorded _ _ _ _ write => exact ⟨_, write.events.symm⟩
  | noted _ _ _ write => exact ⟨_, write.events.symm⟩
  | uploaded _ _ _ write => exact write.events ▸ List.prefix_rfl

section Runs

variable {ok : Server → Action → Bool} {w : World} {s : Server} {ticketId : Uuid}
  {query : ListEventsQuery} {user : User} {fs : List (Fetch EventWithActor)}

theorem Run.events_stay (h : Run ok { world := w } s) {i j : Nat} (hij : i ≤ j) :
    (s.worldAt i).events.rows <+: (s.worldAt j).events.rows :=
  h.relates (r := fun u v => u.events.rows <+: v.events.rows) (fun _ => List.prefix_rfl)
    (fun _ _ _ => List.IsPrefix.trans) (fun heff => heff.events) hij

theorem Run.history_keeps (h : Run ok { world := w } s) (i j : Nat) (hij : i ≤ j) :
    historyListing.Keeps (s.worldAt i) (s.worldAt j) :=
  fun e he => ⟨e, (h.events_stay hij).subset he, rfl, rfl⟩

theorem Run.reads_history (h : Run ok { world := w } s) {f : Fetch EventWithActor}
    (hf : s.Fetched (asksEvents ticketId query user) .eventPage f) :
    historyListing.Reads query.take (s.worldAt f.index) (ofTicket ticketId (s.worldAt f.index))
      f := by
  have hpage := h.fetched_events hf
  have hitems : f.page.items = ((s.worldAt f.index).historyPage ticketId f.cursor
      query.take).map (TicketEvent.withActor (s.worldAt f.index).users) := by rw [hpage]; rfl
  constructor
  · rw [hitems, List.map_map]
    exact List.map_id _
  · rw [hitems, hpage]
    rfl

/-- No event is skipped: the event a cursor names is one of the ticket still. -/
theorem Run.history_unskipped (h : Run ok { world := w } s)
    (walk : s.Walk (asksEvents ticketId query user) .eventPage fs)
    {f : Fetch EventWithActor} (hf : f ∈ fs) (e : TicketEvent) :
    ¬ historyListing.Skips (s.worldAt f.index) (ofTicket ticketId (s.worldAt f.index)) f.cursor
      e := by
  rintro ⟨x, hx, hcursor, hother, _⟩
  have reads : ∀ g ∈ fs, historyListing.Reads query.take (s.worldAt g.index)
      (ofTicket ticketId (s.worldAt g.index)) g := fun g hg => h.reads_history (walk.fetched g hg)
  obtain ⟨g, hg, hindex, y, hy, hid⟩ := Listing.cursor_held
    walk reads hf hcursor
  obtain ⟨hmem, hmatch⟩ := (reads g hg).answered.mem _ (List.mem_map_of_mem hy)
  have hlater := (h.events_stay hindex.le).subset hmem
  cases Listing.eq_of_id (L := historyListing) hlater hx hid
  cases hother.symm.trans hmatch

/-- What a walk of the history of a ticket gathers: every event that was there at its start, once
it has ended; none twice; all in order. It has ended once its pages would hold, each full, more
events than the ticket has. -/
structure Server.WalksHistory (s : Server) (ticketId : Uuid) (limit : Nat)
    (fs : List (Fetch EventWithActor)) : Prop where
  complete : Ended fs → ∀ f, fs.head? = some f → ∀ e ∈ (s.worldAt f.index).eventsOf ticketId,
    (gathered fs).countP (fun x => x.event = e) = 1
  nodup : ((gathered fs).map fun x => x.event.id).Nodup
  sorted : (gathered fs).Pairwise fun a b => a.event.Precedes b.event
  ends : ∀ N, (∀ n, ((s.worldAt n).eventsOf ticketId).length ≤ N) → N / limit < fs.length →
    Ended fs

theorem history_walked (h : Run ok { world := w } s)
    (walk : s.Walk (asksEvents ticketId query user) .eventPage fs) :
    s.WalksHistory ticketId query.take fs := by
  have reads : ∀ f ∈ fs, historyListing.Reads query.take (s.worldAt f.index)
      (ofTicket ticketId (s.worldAt f.index)) f := fun f hf => h.reads_history (walk.fetched f hf)
  have nodup := Listing.gathered_nodup walk
    h.history_keeps reads
  refine ⟨fun ended first hfirst e he => ?_, nodup, ?_, fun N hN hlong => ?_⟩
  · obtain ⟨he, hticket⟩ := List.mem_filter.mp he
    have hstays : ∀ f ∈ fs, e ∈ (s.worldAt f.index).events.rows := fun f hf =>
      (h.events_stay (walk.first_le hfirst hf)).subset he
    have honce := (Listing.once_iff walk
      h.history_keeps reads query.take_pos ended
      (fun f hf => ⟨e, hstays f hf, rfl, hticket⟩)).mpr
      fun f hf r hskip => absurd hskip (h.history_unskipped walk hf r)
    refine (List.countP_congr fun x hx => ?_).trans honce
    obtain ⟨f, hf, hmem, _⟩ := Listing.items_mem
      reads hx
    simp only [decide_eq_true_eq, beq_iff_eq]
    exact ⟨fun heq => heq ▸ rfl, fun hid => Listing.eq_of_id hmem (hstays f hf) hid⟩
  · exact (Listing.gathered_sorted walk
      h.history_keeps reads).imp TicketEvent.place_lt.mp
  · by_contra hno
    have hnext : ∀ f, fs.getLast? = some f → f.page.nextCursor ≠ none :=
      fun f hf hnone => hno ⟨f, hf, hnone⟩
    have hfull := Listing.gathered_full walk
      h.history_keeps reads hnext
    obtain ⟨last, hlast⟩ : ∃ f, fs.getLast? = some f := by
      cases hl : fs.getLast? with
      | none => simp [List.getLast?_eq_none_iff.mp hl] at hlong
      | some f => exact ⟨f, rfl⟩
    have hsub : (gathered fs).map EventWithActor.event ⊆
        (s.worldAt last.index).eventsOf ticketId := by
      intro e he
      obtain ⟨x, hx, rfl⟩ := List.mem_map.mp he
      obtain ⟨f, hf, hmem, hticket⟩ := Listing.items_mem
        reads hx
      exact List.mem_filter.mpr ⟨(h.events_stay (walk.le_last hlast hf)).subset hmem, hticket⟩
    have hevents : ((gathered fs).map EventWithActor.event).Nodup := by
      refine List.Nodup.of_map TicketEvent.id ?_
      rw [List.map_map]
      exact nodup
    have hle := (hevents.subperm hsub).length_le.trans (hN last.index)
    rw [List.length_map, hfull] at hle
    exact absurd ((Nat.le_div_iff_mul_le query.take_pos).mpr hle) (not_le.mpr hlong)

end Runs

namespace Sample

def inTwos : ListEventsQuery where
  limit := some 2
  limitRange := by rintro _ ⟨⟩; decide

/-- A ticket with a comment, and another one between the two pages of its history. -/
def pagedHistory : List Action :=
  created ++ [.arrive (.addComment 102 reportante "Sigue igual")] ++ steps 1 10 4 ++
    [.arrive (.events 102 inTwos reportante)] ++ steps 2 20 3 ++
    [.arrive (.addComment 102 reportante "Ya funciona")] ++ steps 3 30 4 ++
    [.arrive (.events 102 { inTwos with cursor := some (Uuid.text 111) } reportante)] ++
    steps 4 40 3

def historyPaged : Server := (play (fun _ _ => true) pagedHistory).get (by decide +kernel)

/-- The page request `i` was answered. -/
def eventPageOf (s : Server) (i : Nat) : Page EventWithActor :=
  match (s.threads[i]?).bind Thread.result? with
  | some (.ok (.eventPage p)) => p
  | _ => { items := [], nextCursor := none }

def historyFetches : List (Fetch EventWithActor) :=
  [⟨9, none, eventPageOf historyPaged 2⟩, ⟨16, some 111, eventPageOf historyPaged 4⟩]

theorem eventPageOf_next : (eventPageOf historyPaged 2).nextCursor = some 111 := by
  have hpage : eventPageOf historyPaged 2 = toPage (fun x => x.event.id) 2
      (((historyPaged.worldAt 9).historyPage 102 none 2).map
        (TicketEvent.withActor (historyPaged.worldAt 9).users)) := rfl
  rw [hpage, World.historyPage, findMany_of_sorted (by decide +kernel)]
  decide +kernel

theorem historyFetches_walk :
    historyPaged.Walk (asksEvents 102 inTwos reportante) .eventPage historyFetches where
  fetched f hf := by
    rcases List.mem_cons.mp hf with rfl | hf
    · exact ⟨historyPaged.history[9], historyPaged.threads[2], rfl, by decide +kernel, rfl,
        ⟨none, rfl, rfl⟩, rfl⟩
    · rw [List.mem_singleton.mp hf]
      exact ⟨historyPaged.history[16], historyPaged.threads[4], rfl, by decide +kernel, rfl,
        ⟨some (Uuid.text 111), by decide +kernel, rfl⟩, rfl⟩
  first := by rintro f ⟨⟩; rfl
  chained := by
    refine List.isChain_cons_cons.mpr ⟨⟨by decide, ?_, ?_⟩, .singleton _⟩
    · simp [eventPageOf_next]
    · exact eventPageOf_next.symm

end Sample

theorem history_walked_in_twos :
    Sample.historyPaged.WalksHistory 102 2 Sample.historyFetches :=
  history_walked (Sample.play_run (by decide +kernel)) Sample.historyFetches_walk

end TicketSystem
