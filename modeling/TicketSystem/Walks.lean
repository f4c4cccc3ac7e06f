import Mathlib.Data.Prod.Lex
import TicketSystem.Evolution
import TicketSystem.Lib.Walk
import TicketSystem.OwnData

namespace TicketSystem

open Relational Interleaved

/-- The calls that fetch a page. -/
def Cmd.pages : Cmd → Bool
  | .one (.ticketFindPage _ _ _ _) | .one (.ticketEventFindPage _ _ _ _)
  | .one (.ticketFindBatch _ _ _ _) => true
  | _ => false

def Request.pages : Request → Bool
  | .list _ _ | .events _ _ _ | .streamBatch _ _ => true
  | _ => false

/-- The call that fetched the page of a request, and what the request made of it. -/
inductive Paged : Request → Seen → Response → Prop
  | list {query : ListTicketsQuery} {user : User} {f : TicketListWhere} {cursor : Option Uuid}
      {items : List Ticket} (filter : listWhere query user = .ok f)
      (named : cursorArg query.cursor = .ok cursor) :
      Paged (.list query user)
        ⟨.one (.ticketFindPage f cursor (cursorSkip cursor) (query.limit.getD DEFAULT_LIMIT)),
          .ok items⟩
        (.page (toPage Ticket.id (query.limit.getD DEFAULT_LIMIT) items))
  | events {ticketId : Uuid} {query : ListEventsQuery} {user : User} {cursor : Option Uuid}
      {items : List EventWithActor} (named : cursorArg query.cursor = .ok cursor) :
      Paged (.events ticketId query user)
        ⟨.one (.ticketEventFindPage ticketId cursor (cursorSkip cursor)
          (query.limit.getD DEFAULT_LIMIT)), .ok items⟩
        (.eventPage (toPage (fun x => x.event.id) (query.limit.getD DEFAULT_LIMIT) items))
  | batch {query : ReportQuery} {cursor : Option Uuid} {f : ReportWhere} {items : List Row}
      (filter : buildWhere query = .ok f) :
      Paged (.streamBatch query cursor)
        ⟨.one (.ticketFindBatch f cursor (cursorSkip cursor) BATCH), .ok items⟩
        (.batch (batchPage items))

abbrev Unpaged (past : List Seen) : Prop := ∀ o ∈ past, o.cmd.pages = false

theorem unpaged_nil : Unpaged [] := by simp [Unpaged]

/-- A request fetches its page last, and once. -/
def Pages (q : Request) (past : List Seen) (r : Except Err Response) : Prop :=
  ∀ v, r = .ok v → ∃ first o, past = first ++ [o] ∧ Unpaged first ∧ Paged q o v

def paging : Contract Cmd Cmd.Res Err Response Request where
  answers _ _ := True
  issues _ _ _ := True
  returns q past r := q.pages = true → Pages q past r

section Paging

variable {q : Request} {past : List Seen}

abbrev Turns (past : List Seen) {α : Type} (p : Service α)
    (S : List Seen → Except Err α → Prop) : Prop :=
  p.Obeys (fun _ _ => True) (fun _ _ => True) S past

theorem turns_any {α : Type} (p : Service α) : Turns past p (fun _ _ => True) :=
  Prog.obeys_any p past

theorem notified_returns {α : Type} {t : α} (p : Service Unit) :
    Turns past (p.bind fun _ => .pure t) fun _ r => ∀ a, r = .ok a → a = t := by
  refine Prog.Obeys.bind (turns_any p) (fun _ _ _ a ha => ?_) (fun _ _ _ _ ha => nomatch ha)
  cases ha
  rfl

/-- What had been seen has been seen after a part whose answer is known beforehand. -/
theorem Turns.seen {α : Type} {a : α} {p : Service α} {o : Seen}
    (h : Turns past p fun _ r => ∀ b, r = .ok b → b = a) (ho : o ∈ past) :
    Turns past p fun past r => ∀ b, r = .ok b → b = a ∧ o ∈ past := by
  have hkept := h.keeps (I := fun past => o ∈ past) (fun _ _ _ hp _ _ => List.mem_append_left _ hp)
    ho
  exact hkept.mono (fun _ _ _ => trivial) fun past r h b hb => ⟨h.1 b hb, h.2⟩

theorem Turns.ofExcept {α β : Type} {x : Except Err β} {f : β → Service α}
    {S : List Seen → Except Err α → Prop} (herror : ∀ e, S past (.error e))
    (hok : ∀ b, x = .ok b → Turns past (f b) S) : Turns past ((Service.ofExcept x).bind f) S := by
  cases x with
  | error e => exact herror e
  | ok b => exact hok b rfl

theorem Turns.respond {α : Type} {f : α → Response} {p : Service α}
    (h : Turns past p fun past r => Pages q past (r.map f)) :
    Turns past (respond f p) (Pages q) :=
  Prog.Obeys.bind h (fun _ _ hb => hb) (fun _ _ he => he)

theorem pages_error (e : Err) : Pages q past (.error e) := fun _ h => nomatch h

theorem pages_last {o : Seen} {v : Response} (unpaged : Unpaged past) (paged : Paged q o v) :
    Pages q (past ++ [o]) (.ok v) := by
  rintro _ ⟨⟩
  exact ⟨past, o, rfl, unpaged, paged⟩

theorem list_pages (query : ListTicketsQuery) (user : User) :
    Turns [] (respond .page (list query user)) (Pages (.list query user)) := by
  refine Turns.respond (Turns.ofExcept pages_error fun f filter => ?_)
  refine Turns.ofExcept pages_error fun cursor named => ?_
  refine Prog.obeys_perform_bind.mpr ⟨trivial, fun items _ => ?_, fun e _ => pages_error e⟩
  exact pages_last unpaged_nil (.list filter named)

theorem getForUser_unpaged (id : Uuid) (user : User) :
    (getForUser id user).Only fun c => c.pages = false := by
  have hcall : ∀ s : Stmt, Cmd.pages (.one s) = false → (call s).Only fun c => c.pages = false :=
    fun s hs => Prog.only_perform hs
  refine (hcall _ rfl).bind fun found => ?_
  cases found with
  | none => trivial
  | some found =>
    refine Prog.Only.bind ?_ fun _ => (hcall .now rfl).bind fun _ => trivial
    cases requireOwnTicket found.1 user <;> trivial

theorem events_pages (ticketId : Uuid) (query : ListEventsQuery) (user : User) :
    Turns [] (respond .eventPage (events ticketId query user))
      (Pages (.events ticketId query user)) := by
  have hfirst : Turns [] (getForUser ticketId user) fun past _ => Unpaged past := by
    refine (((getForUser_unpaged ticketId user).obeys []).keeps (I := Unpaged)
      (fun past c r hp hc _ => ?_) unpaged_nil).mono (fun _ _ _ => trivial) (fun _ _ h => h.2)
    refine List.forall_mem_append.mpr ⟨hp, fun o ho => ?_⟩
    rw [List.mem_singleton.mp ho]
    exact hc
  refine Turns.respond (Prog.Obeys.bind hfirst (fun past _ unpaged => ?_)
    (fun _ e _ => pages_error e))
  refine Turns.ofExcept pages_error fun cursor named => ?_
  refine Prog.obeys_perform_bind.mpr ⟨trivial, fun items _ => ?_, fun e _ => pages_error e⟩
  exact pages_last unpaged (.events named)

theorem streamBatch_pages (query : ReportQuery) (cursor : Option Uuid) :
    Turns [] (respond .batch (streamBatch query cursor)) (Pages (.streamBatch query cursor)) := by
  refine Turns.respond (Turns.ofExcept pages_error fun f filter => ?_)
  refine Prog.obeys_perform_bind.mpr ⟨trivial, fun items _ => ?_, fun e _ => pages_error e⟩
  exact pages_last unpaged_nil (.batch filter)

end Paging

theorem serve_paging : paging.Kept serve Cmd.exec where
  answers _ _ _ := trivial
  obeys q := by
    have other : q.pages = false →
        Turns [] (serve q) fun past r => q.pages = true → Pages q past r :=
      fun hno => (turns_any (serve q)).mono (fun _ _ h => h)
        (fun _ _ _ hyes => nomatch hno.symm.trans hyes)
    cases q with
    | list query user =>
      exact (list_pages query user).mono (fun _ _ h => h) (fun _ _ h _ => h)
    | events ticketId query user =>
      exact (events_pages ticketId query user).mono (fun _ _ h => h) (fun _ _ h _ => h)
    | streamBatch query cursor =>
      exact (streamBatch_pages query cursor).mono (fun _ _ h => h) (fun _ _ h _ => h)
    | _ => exact other rfl

/-! ### Walks -/

/-- The world before statement `n` of the run. -/
def Server.worldAt (s : Server) (n : Nat) : World := Interleaved.worldAt s.history s.world n

/-- One page that was fetched: the place of its statement in the history, the cursor it was
asked for, and the page that was answered. -/
structure Fetch (ι : Type) where
  index : Nat
  cursor : Option Uuid
  page : Page ι

variable {ι : Type}

/-- Some request of the run asked for a page with this cursor, and was answered this page. -/
def Server.Fetched (s : Server) (asks : Option Uuid → Request → Prop) (answer : Page ι → Response)
    (f : Fetch ι) : Prop :=
  ∃ e t, s.history[f.index]? = some e ∧ e.obs.cmd.pages = true ∧ s.threads[e.tid]? = some t ∧
    asks f.cursor t.request ∧ t.result? = some (.ok (answer f.page))

/-- The next page is fetched later, with the cursor of the one before. -/
def Fetch.Next (f g : Fetch ι) : Prop :=
  f.index < g.index ∧ f.page.nextCursor ≠ none ∧ g.cursor = f.page.nextCursor

/-- The pages a client fetched one after the other, the first without a cursor. -/
structure Server.Walk (s : Server) (asks : Option Uuid → Request → Prop)
    (answer : Page ι → Response) (fs : List (Fetch ι)) : Prop where
  fetched : ∀ f ∈ fs, s.Fetched asks answer f
  first : ∀ f, fs.head? = some f → f.cursor = none
  chained : fs.IsChain Fetch.Next

/-- The walk went on until there was no next cursor. -/
def Ended (fs : List (Fetch ι)) : Prop := ∃ f, fs.getLast? = some f ∧ f.page.nextCursor = none

/-- What the pages hold, one after the other. -/
def gathered (fs : List (Fetch ι)) : List ι := fs.flatMap fun f => f.page.items

/-- It held from before the first of these statements until after the last. -/
def Server.Throughout (s : Server) (fs : List Nat) (P : World → Prop) : Prop :=
  ∀ i ∈ fs, ∀ j ∈ fs, ∀ n, i ≤ n → n ≤ j + 1 → P (s.worldAt n)

theorem Server.Throughout.at {s : Server} {fs : List Nat} {P : World → Prop}
    (h : s.Throughout fs P) {n : Nat} (hn : n ∈ fs) : P (s.worldAt n) :=
  h n hn n hn n (Nat.le_refl n) (Nat.le_succ n)

theorem Server.Walk.ordered {s : Server} {asks : Option Uuid → Request → Prop}
    {answer : Page ι → Response} {fs : List (Fetch ι)} (walk : s.Walk asks answer fs) :
    fs.Pairwise fun f g => f.index < g.index := by
  have hchain : (fs.map Fetch.index).IsChain (· < ·) :=
    (List.isChain_map _).mpr (walk.chained.imp fun _ _ hnext => hnext.1)
  exact List.pairwise_map.mp (List.isChain_iff_pairwise.mp hchain)

theorem Server.Walk.first_le {s : Server} {asks : Option Uuid → Request → Prop}
    {answer : Page ι → Response} {fs : List (Fetch ι)} (walk : s.Walk asks answer fs)
    {f g : Fetch ι} (hf : fs.head? = some f) (hg : g ∈ fs) : f.index ≤ g.index := by
  obtain ⟨rest, rfl⟩ := List.head?_eq_some_iff.mp hf
  rcases List.mem_cons.mp hg with rfl | hg
  · exact Nat.le_refl _
  · exact ((List.pairwise_cons.mp walk.ordered).1 g hg).le

theorem Server.Walk.le_last {s : Server} {asks : Option Uuid → Request → Prop}
    {answer : Page ι → Response} {fs : List (Fetch ι)} (walk : s.Walk asks answer fs)
    {f g : Fetch ι} (hf : fs.getLast? = some f) (hg : g ∈ fs) : g.index ≤ f.index := by
  obtain ⟨rest, rfl⟩ := List.getLast?_eq_some_iff.mp hf
  rcases List.mem_append.mp hg with hg | hg
  · exact ((List.pairwise_append.mp walk.ordered).2.2 g hg f (List.mem_singleton_self f)).le
  · rw [List.mem_singleton.mp hg]

/-- The clients of the three walks: the same query with each cursor. -/
def asksList (query : ListTicketsQuery) (user : User) (cursor : Option Uuid) (q : Request) : Prop :=
  ∃ text, cursorArg text = .ok cursor ∧ q = .list { query with cursor := text } user

def asksEvents (ticketId : Uuid) (query : ListEventsQuery) (user : User) (cursor : Option Uuid)
    (q : Request) : Prop :=
  ∃ text, cursorArg text = .ok cursor ∧ q = .events ticketId { query with cursor := text } user

def asksBatch (query : ReportQuery) (cursor : Option Uuid) (q : Request) : Prop :=
  q = .streamBatch query cursor

section Runs

variable {ok : Server → Action → Bool} {w : World} {s : Server}

theorem worldAt_of_getElem? {n : Nat} {e : Executed} (he : s.history[n]? = some e) :
    s.worldAt n = e.before := by
  simp [Server.worldAt, Interleaved.worldAt, he]

theorem worldAt_of_length_le {n : Nat} (hn : s.history.length ≤ n) : s.worldAt n = s.world := by
  simp [Server.worldAt, Interleaved.worldAt, List.getElem?_eq_none hn]

/-- A preorder that every effect keeps relates the worlds of a run, the earlier on its left. -/
theorem Run.relates (h : Run ok { world := w } s) {r : World → World → Prop}
    (refl : ∀ u, r u u) (trans : ∀ u v x, r u v → r v x → r u x)
    (keeps : ∀ {q past} {e : Executed}, Effect q past e → r e.before e.after) {i j : Nat}
    (hij : i ≤ j) : r (s.worldAt i) (s.worldAt j) := by
  obtain ⟨m, hm, hlinked⟩ := h.linked.between hij
  refine hlinked.relates refl trans fun e he => ?_
  obtain ⟨h₁, h₂, hs⟩ := List.append_of_mem (hm he)
  obtain ⟨_, _, heff⟩ := h.effect hs
  exact keeps heff

/-- The paging statement of a request that was answered is the one its page comes from. -/
theorem Run.paged (h : Run ok { world := w } s) {n : Nat} {e : Executed} {t : Task} {v : Response}
    (he : s.history[n]? = some e) (hpages : e.obs.cmd.pages = true)
    (ht : s.threads[e.tid]? = some t) (hq : t.request.pages = true)
    (hr : t.result? = some (.ok v)) : Paged t.request e.obs v := by
  obtain ⟨first, o, hown, unpaged, paged⟩ := h.returned serve_paging ht hr hq v rfl
  have hmem : e.obs ∈ own e.tid s.history := mem_own.mpr ⟨e, List.mem_of_getElem? he, rfl, rfl⟩
  rw [hown] at hmem
  rcases List.mem_append.mp hmem with hmem | hmem
  · cases hpages.symm.trans (unpaged _ hmem)
  · rw [List.mem_singleton.mp hmem]
    exact paged

theorem Run.executed_at (h : Run ok { world := w } s) {n : Nat} {e : Executed}
    (he : s.history[n]? = some e) {stmt : Stmt} {a : stmt.Res} (hobs : e.obs = ⟨.one stmt, .ok a⟩) :
    ∃ o, stmt.exec o e.before = (.ok a, e.after) := by
  obtain ⟨h₁, h₂, hs⟩ := List.append_of_mem (List.mem_of_getElem? he)
  exact Run.executed h hs hobs

theorem Run.fetched_list (h : Run ok { world := w } s) {query : ListTicketsQuery} {user : User}
    {f : Fetch Ticket} (hf : s.Fetched (asksList query user) .page f) :
    ∃ g, listWhere query user = .ok g ∧
      f.page = toPage Ticket.id (query.limit.getD DEFAULT_LIMIT)
        ((s.worldAt f.index).queuePage g f.cursor (query.limit.getD DEFAULT_LIMIT)) := by
  obtain ⟨e, t, he, hpages, ht, ⟨text, hcursor, hq⟩, hr⟩ := hf
  have hpaged := h.paged he hpages ht (hq ▸ rfl) hr
  rw [hq] at hpaged
  generalize hobs : e.obs = o at hpaged
  generalize hpage : Response.page f.page = v at hpaged
  cases hpaged with
  | @list _ _ g cursor items filter named =>
    obtain ⟨o, hx⟩ := h.executed_at he hobs
    cases hcursor.symm.trans named
    have hitems :
        (s.worldAt f.index).queuePage g f.cursor (query.limit.getD DEFAULT_LIMIT) = items :=
      (worldAt_of_getElem? he).symm ▸ findPage_answered hx
    exact ⟨g, filter, hitems ▸ Response.page.inj hpage⟩

theorem Run.fetched_events (h : Run ok { world := w } s) {ticketId : Uuid}
    {query : ListEventsQuery} {user : User} {f : Fetch EventWithActor}
    (hf : s.Fetched (asksEvents ticketId query user) .eventPage f) :
    f.page = toPage (fun x => x.event.id) (query.limit.getD DEFAULT_LIMIT)
      (((s.worldAt f.index).historyPage ticketId f.cursor (query.limit.getD DEFAULT_LIMIT)).map
        (TicketEvent.withActor (s.worldAt f.index).users)) := by
  obtain ⟨e, t, he, hpages, ht, ⟨text, hcursor, hq⟩, hr⟩ := hf
  have hpaged := h.paged he hpages ht (hq ▸ rfl) hr
  rw [hq] at hpaged
  generalize hobs : e.obs = o at hpaged
  generalize hpage : Response.eventPage f.page = v at hpaged
  cases hpaged with
  | @events _ _ _ cursor items named =>
    obtain ⟨o, hx⟩ := h.executed_at he hobs
    cases hcursor.symm.trans named
    have hitems : ((s.worldAt f.index).historyPage ticketId f.cursor
        (query.limit.getD DEFAULT_LIMIT)).map (TicketEvent.withActor (s.worldAt f.index).users) =
          items :=
      (worldAt_of_getElem? he).symm ▸ Except.ok.inj (congrArg Prod.fst hx)
    exact hitems ▸ Response.eventPage.inj hpage

/-- The tickets of a batch of the report. -/
def World.reportBatch (w : World) (f : ReportWhere) (cursor : Option Uuid) : List Ticket :=
  findMany Ticket.idLe f.matches (cursor.map fun id t => t.id == id) (cursorSkip cursor) BATCH
    w.tickets.rows

theorem Run.fetched_batch (h : Run ok { world := w } s) {query : ReportQuery} {f : Fetch Row}
    (hf : s.Fetched (asksBatch query) .batch f) :
    ∃ g, buildWhere query = .ok g ∧ f.page = toPage (fun x => x.ticket.id) BATCH
      (((s.worldAt f.index).reportBatch g f.cursor).map
        (Ticket.row (s.worldAt f.index).users)) := by
  obtain ⟨e, t, he, hpages, ht, hq, hr⟩ := hf
  rw [asksBatch] at hq
  have hpaged := h.paged he hpages ht (hq ▸ rfl) hr
  rw [hq] at hpaged
  generalize hobs : e.obs = o at hpaged
  generalize hpage : Response.batch f.page = v at hpaged
  cases hpaged with
  | @batch _ _ g items filter =>
    obtain ⟨o, hx⟩ := h.executed_at he hobs
    have hitems : ((s.worldAt f.index).reportBatch g f.cursor).map
        (Ticket.row (s.worldAt f.index).users) = items :=
      (worldAt_of_getElem? he).symm ▸ Except.ok.inj (congrArg Prod.fst hx)
    have hlen : items.length ≤ BATCH := by
      rw [← hitems, List.length_map]
      exact List.length_take_le ..
    refine ⟨g, filter, (Response.batch.inj hpage).trans ?_⟩
    rw [hitems, batchPage_eq hlen]

end Runs

/-- A table that is paged through: what a page holds for a row, and the order of the rows. -/
structure Listing (ι ρ κ : Type) [LinearOrder κ] where
  row : ι → ρ
  id : ρ → Uuid
  key : ρ → κ
  le : ρ → ρ → Bool
  rows : World → List ρ
  le_iff : ∀ a b, le a b = true ↔ key a ≤ key b
  id_of_key : ∀ a b, key a = key b → id a = id b
  unique : ∀ u, ((rows u).map id).Nodup

namespace Listing

variable {ρ κ : Type} [LinearOrder κ] (L : Listing ι ρ κ)

/-- The rows of one world are in the other, each in its place. -/
def Keeps (u v : World) : Prop :=
  ∀ r ∈ L.rows u, ∃ r' ∈ L.rows v, L.id r' = L.id r ∧ L.key r' = L.key r

variable {L} in
theorem Keeps.trans {u v w : World} (h : L.Keeps u v) (h' : L.Keeps v w) : L.Keeps u w := by
  intro r hr
  obtain ⟨r', hr', hid, hk⟩ := h r hr
  obtain ⟨r'', hr'', hid', hk'⟩ := h' r' hr'
  exact ⟨r'', hr'', hid'.trans hid, hk'.trans hk⟩

/-- The page is what the database finds in this world. -/
structure Reads (take : Nat) (u : World) (p : ρ → Bool) (f : Fetch ι) : Prop where
  items : f.page.items.map L.row = findMany L.le p (f.cursor.map fun c r => L.id r == c)
    (cursorSkip f.cursor) take (L.rows u)
  next : f.page.nextCursor = if f.page.items.length = take
    then f.page.items.getLast?.map (fun x => L.id (L.row x)) else none

/-- The row the cursor names does not match, and this is the first one after it that does. -/
def Skips (u : World) (p : ρ → Bool) (cursor : Option Uuid) (r : ρ) : Prop :=
  ∃ x ∈ L.rows u, cursor = some (L.id x) ∧ p x = false ∧
    r ∈ L.rows u ∧ p r = true ∧ L.le x r = true ∧
      ∀ y ∈ L.rows u, p y = true → L.le x y = true → L.le r y = true

def query (u : World) (p : ρ → Bool) (f : Fetch ι) : Query ρ Uuid where
  rows := L.rows u
  matching := p
  cursor := f.cursor
  items := f.page.items.map L.row

def turn (u : World) (p : ρ → Bool) (f : Fetch ι) : Turn ρ κ :=
  (L.query u p f).turn L.key L.id

variable {L} {take : Nat} {p : World → ρ → Bool}

theorem eq_of_id {u : World} {a b : ρ} (ha : a ∈ L.rows u) (hb : b ∈ L.rows u)
    (h : L.id a = L.id b) : a = b := List.inj_on_of_nodup_map (L.unique u) ha hb h

theorem skips_iff {u : World} {p : ρ → Bool} {f : Fetch ι} {r : ρ} :
    (L.turn u p f).Skips L.key r ↔ L.Skips u p f.cursor r := by
  have hnamed : ∀ x, (L.query u p f).named L.id = some x ↔
      x ∈ L.rows u ∧ f.cursor = some (L.id x) := by
    intro x
    simp only [Query.named, query, Option.bind_eq_some_iff]
    constructor
    · rintro ⟨c, hc, hx⟩
      have hid : L.id x = c := by simpa using List.find?_some hx
      exact ⟨List.mem_of_find?_eq_some hx, hid ▸ hc⟩
    · rintro ⟨hx, hc⟩
      exact ⟨_, hc, find_named (L.unique u) hx⟩
  have hplace : ∀ x ∈ L.rows u, (∀ y ∈ (L.rows u).filter p, L.key y ≠ L.key x) ↔
      p x = false := by
    intro x hx
    constructor
    · intro hno
      by_contra hm
      exact hno x (List.mem_filter.mpr ⟨hx, by simpa using hm⟩) rfl
    · intro hm y hy hk
      obtain ⟨hy, hmy⟩ := List.mem_filter.mp hy
      cases eq_of_id hy hx (L.id_of_key _ _ hk)
      cases hm.symm.trans hmy
  constructor
  · rintro ⟨⟨c, hafter, hno⟩, hr, hlt, hleast⟩
    cases hn : (L.query u p f).named L.id with
    | none => simp [turn, Query.turn, hn] at hafter
    | some x =>
      have hturn : (L.turn u p f).after = L.key x := by simp [turn, Query.turn, hn]
      rw [hturn] at hafter hlt hleast
      cases WithBot.coe_inj.mp hafter
      obtain ⟨hx, hc⟩ := (hnamed x).mp hn
      obtain ⟨hr, hmr⟩ := List.mem_filter.mp hr
      have hm := (hplace x hx).mp hno
      refine ⟨x, hx, hc, hm, hr, hmr, (L.le_iff _ _).mpr (WithBot.coe_lt_coe.mp hlt).le, ?_⟩
      intro y hy hmy hxy
      have hne : L.key x ≠ L.key y := fun hk => by
        cases eq_of_id hx hy (L.id_of_key _ _ hk)
        cases hm.symm.trans hmy
      exact (L.le_iff _ _).mpr (hleast y (List.mem_filter.mpr ⟨hy, hmy⟩)
        (WithBot.coe_lt_coe.mpr (lt_of_le_of_ne ((L.le_iff _ _).mp hxy) hne)))
  · rintro ⟨x, hx, hc, hm, hr, hmr, hxr, hleast⟩
    have hn := (hnamed x).mpr ⟨hx, hc⟩
    have hturn : (L.turn u p f).after = L.key x := by simp [turn, Query.turn, hn]
    refine ⟨⟨_, hturn, (hplace x hx).mpr hm⟩, List.mem_filter.mpr ⟨hr, hmr⟩, ?_, fun y hy hlt => ?_⟩
    · have hne : L.key x ≠ L.key r := fun hk => by
        cases eq_of_id hx hr (L.id_of_key _ _ hk)
        cases hm.symm.trans hmr
      exact hturn ▸ WithBot.coe_lt_coe.mpr (lt_of_le_of_ne ((L.le_iff _ _).mp hxr) hne)
    · obtain ⟨hy, hmy⟩ := List.mem_filter.mp hy
      rw [hturn, WithBot.coe_lt_coe] at hlt
      exact (L.le_iff _ _).mp (hleast y hy hmy ((L.le_iff _ _).mpr hlt.le))

section Walking

variable {s : Server} {asks : Option Uuid → Request → Prop} {answer : Page ι → Response}
  {fs : List (Fetch ι)}

/-- The turns of the pages that were fetched, each in the world it was read in. -/
def turns (L : Listing ι ρ κ) (s : Server) (p : World → ρ → Bool) (fs : List (Fetch ι)) :
    List (Turn ρ κ) :=
  fs.map fun f => L.turn (s.worldAt f.index) (p (s.worldAt f.index)) f

theorem Reads.answered {u : World} {p : ρ → Bool} {f : Fetch ι}
    (h : L.Reads take u p f) : (L.query u p f).Answered L.id L.le take :=
  ⟨h.items, L.unique u⟩

/-- A page with a next cursor is full, and the cursor names its last row. -/
theorem Reads.of_next {u : World} {p : ρ → Bool} {f : Fetch ι} {c : Uuid}
    (h : L.Reads take u p f) (hc : f.page.nextCursor = some c) :
    f.page.items.length = take ∧ ∃ x, f.page.items.getLast? = some x ∧ L.id (L.row x) = c := by
  have hnext := h.next
  rw [hc] at hnext
  split at hnext
  next hfull =>
    obtain ⟨x, hx, hid⟩ := Option.map_eq_some_iff.mp hnext.symm
    exact ⟨hfull, x, hx, hid⟩
  next => cases hnext

theorem turn_first {u : World} {p : ρ → Bool} {f : Fetch ι} (hc : f.cursor = none) :
    (L.turn u p f).after = ⊥ := by
  simp [turn, Query.turn, Query.named, query, hc]

/-- In a run that keeps the rows in their places, the pages of a walk are one. -/
theorem isWalk (walk : s.Walk asks answer fs)
    (keeps : ∀ i j, i ≤ j → L.Keeps (s.worldAt i) (s.worldAt j))
    (reads : ∀ f ∈ fs, L.Reads take (s.worldAt f.index) (p (s.worldAt f.index)) f) :
    IsWalk L.key take (L.turns s p fs) := by
  let query (f : Fetch ι) := L.query (s.worldAt f.index) (p (s.worldAt f.index)) f
  have hturns : L.turns s p fs = (fs.map query).map (Query.turn L.key L.id) := by
    rw [List.map_map]
    rfl
  rw [hturns]
  refine isWalk_of_queries L.le_iff L.id_of_key ?_ ?_ ?_
  · intro q hq
    obtain ⟨f, hf, rfl⟩ := List.mem_map.mp hq
    exact (reads f hf).answered
  · rw [List.isChain_map]
    refine walk.chained.imp_of_mem_imp fun f g hf _ hnext => ?_
    obtain ⟨hindex, hsome, hcursor⟩ := hnext
    obtain ⟨c, hc⟩ := Option.ne_none_iff_exists'.mp hsome
    obtain ⟨hfull, x, hx, rfl⟩ := (reads f hf).of_next hc
    refine ⟨by simpa [query, Listing.query] using hfull, ?_, keeps _ _ hindex.le⟩
    refine ⟨L.row x, by simp [query, Listing.query, List.getLast?_map, hx], ?_⟩
    exact hcursor.trans hc
  · intro q hq hcursor
    cases fs with
    | nil => cases hq
    | cons f fs =>
      cases Option.some.inj hq
      exact absurd (walk.first f rfl) hcursor

theorem items_mem (reads : ∀ f ∈ fs, L.Reads take (s.worldAt f.index) (p (s.worldAt f.index)) f)
    {x : ι} (hx : x ∈ gathered fs) :
    ∃ f ∈ fs, L.row x ∈ L.rows (s.worldAt f.index) ∧
      p (s.worldAt f.index) (L.row x) = true := by
  obtain ⟨f, hf, hx⟩ := List.mem_flatMap.mp hx
  exact ⟨f, hf, (reads f hf).answered.mem _ (List.mem_map_of_mem hx)⟩

theorem turns_items (p : World → ρ → Bool) :
    (L.turns s p fs).flatMap Turn.items = (gathered fs).map L.row := by
  rw [turns, List.flatMap_map, gathered, List.map_flatMap]
  rfl

/-- The row of an id has one place, whenever it is read. -/
theorem same_key (keeps : ∀ i j, i ≤ j → L.Keeps (s.worldAt i) (s.worldAt j)) {i j : Nat} {a b : ρ}
    (ha : a ∈ L.rows (s.worldAt i)) (hb : b ∈ L.rows (s.worldAt j)) (hid : L.id a = L.id b) :
    L.key a = L.key b := by
  rcases Nat.le_total i j with hij | hij
  · obtain ⟨a', ha', hid', hk⟩ := keeps i j hij a ha
    cases eq_of_id ha' hb (hid'.trans hid)
    exact hk.symm
  · obtain ⟨b', hb', hid', hk⟩ := keeps j i hij b hb
    cases eq_of_id hb' ha (hid'.trans hid.symm)
    exact hk

/-- A cursor is the id of a row that a page before it held. -/
theorem cursor_held (walk : s.Walk asks answer fs)
    (reads : ∀ f ∈ fs, L.Reads take (s.worldAt f.index) (p (s.worldAt f.index)) f)
    {g : Fetch ι} (hg : g ∈ fs) {c : Uuid} (hc : g.cursor = some c) :
    ∃ f ∈ fs, f.index < g.index ∧ ∃ x ∈ f.page.items, L.id (L.row x) = c := by
  obtain ⟨l, r, rfl⟩ := List.append_of_mem hg
  rcases List.eq_nil_or_concat l with rfl | ⟨l, f, rfl⟩
  · cases hc.symm.trans (walk.first g rfl)
  · have hchain := walk.chained
    simp only [List.concat_eq_append, List.append_assoc, List.singleton_append] at hchain
    obtain ⟨hindex, _, hcursor⟩ :=
      (List.isChain_cons_cons.mp (List.isChain_split.mp hchain).2).1
    have hf : f ∈ l.concat f ++ g :: r := by simp
    obtain ⟨_, x, hx, hid⟩ := (reads f hf).of_next (hcursor.symm.trans hc)
    exact ⟨f, hf, hindex, x, List.mem_of_getLast? hx, hid⟩

section Kept

variable (walk : s.Walk asks answer fs)
  (keeps : ∀ i j, i ≤ j → L.Keeps (s.worldAt i) (s.worldAt j))
  (reads : ∀ f ∈ fs, L.Reads take (s.worldAt f.index) (p (s.worldAt f.index)) f)

include walk keeps reads

theorem gathered_sorted :
    (gathered fs).Pairwise fun a b => L.key (L.row a) < L.key (L.row b) := by
  have hsorted := (isWalk walk keeps reads).sorted
  rw [turns_items, List.pairwise_map] at hsorted
  exact hsorted

theorem gathered_nodup : ((gathered fs).map fun x => L.id (L.row x)).Nodup := by
  refine List.pairwise_map.mpr ((gathered_sorted walk keeps reads).imp_of_mem ?_)
  intro a b ha hb hlt hid
  obtain ⟨f, _, ha, _⟩ := items_mem reads ha
  obtain ⟨g, _, hb, _⟩ := items_mem reads hb
  exact absurd (same_key keeps ha hb hid) hlt.ne

/-- Where there is a next cursor, all pages are full. -/
theorem gathered_full (hnext : ∀ f, fs.getLast? = some f → f.page.nextCursor ≠ none) :
    (gathered fs).length = fs.length * take := by
  have hfull := (isWalk walk keeps reads).full ?_
  · rw [turns_items, List.length_map, turns, List.length_map] at hfull
    exact hfull
  · intro t ht
    rw [turns, List.getLast?_map, Option.map_eq_some_iff] at ht
    obtain ⟨f, hf, rfl⟩ := ht
    obtain ⟨c, hc⟩ := Option.ne_none_iff_exists'.mp (hnext f hf)
    have hlen := ((reads f (List.mem_of_getLast? hf)).of_next hc).1
    simpa [turn, Query.turn, query] using hlen

/-- A row that matches whenever a page is fetched is gathered once, unless it is skipped. -/
theorem once_iff (htake : 0 < take) (ended : Ended fs) {i : Uuid}
    (kept : ∀ f ∈ fs, ∃ r ∈ L.rows (s.worldAt f.index), L.id r = i ∧
      p (s.worldAt f.index) r = true) :
    (gathered fs).countP (fun x => L.id (L.row x) == i) = 1 ↔
      ∀ f ∈ fs, ∀ r, L.Skips (s.worldAt f.index) (p (s.worldAt f.index)) f.cursor r →
        L.id r ≠ i := by
  obtain ⟨last, hlast, hnone⟩ := ended
  obtain ⟨first, hfirst⟩ : ∃ f, fs.head? = some f := by
    cases fs with
    | nil => cases hlast
    | cons f fs => exact ⟨f, rfl⟩
  obtain ⟨r₀, hr₀, rfl, _⟩ := kept first (List.mem_of_head? hfirst)
  have hkey : ∀ {f r}, f ∈ fs → r ∈ L.rows (s.worldAt f.index) →
      (L.id r = L.id r₀ ↔ L.key r = L.key r₀) := fun _ hr =>
    ⟨fun hid => same_key keeps hr hr₀ hid, fun hk => L.id_of_key _ _ hk⟩
  have hstart : ∃ t, (L.turns s p fs).head? = some t ∧ t.after < L.key r₀ := by
    refine ⟨_, by rw [turns, List.head?_map, hfirst]; rfl, ?_⟩
    have hafter := turn_first (L := L) (u := s.worldAt first.index)
      (p := p (s.worldAt first.index)) (walk.first first hfirst)
    exact hafter ▸ WithBot.bot_lt_coe _
  have hend : ∀ t, (L.turns s p fs).getLast? = some t → t.items.length ≠ take := by
    rintro t ht hfull
    rw [turns, List.getLast?_map, hlast] at ht
    cases Option.some.inj ht
    have hlen : last.page.items.length = take := by simpa [turn, Query.turn, query] using hfull
    have hnext := (reads last (List.mem_of_getLast? hlast)).next
    rw [if_pos hlen, hnone] at hnext
    have hempty : last.page.items = [] := by simpa using hnext.symm
    simp [hempty] at hlen
    omega
  have hkept : ∀ t ∈ L.turns s p fs, ∃ x ∈ t.matched, L.key x = L.key r₀ := by
    intro t ht
    obtain ⟨f, hf, rfl⟩ := List.mem_map.mp ht
    obtain ⟨r, hr, hid, hm⟩ := kept f hf
    exact ⟨r, List.mem_filter.mpr ⟨hr, hm⟩, (hkey hf hr).mp hid⟩
  have hshown := (isWalk walk keeps reads).kept_shown_iff htake hstart hend hkept
  rw [turns_items] at hshown
  rw [countP_key (gathered_nodup walk keeps reads)]
  constructor
  · rintro ⟨x, hx, hid⟩ f hf r hskip hr
    obtain ⟨g, hg, hxg, _⟩ := items_mem reads hx
    have hmem := hskip
    obtain ⟨_, _, _, _, hrf, _⟩ := hmem
    refine hshown.mp ⟨L.row x, List.mem_map_of_mem hx, (hkey hg hxg).mp hid⟩ _
      (List.mem_map_of_mem hf) r (skips_iff.mpr hskip) ((hkey hf hrf).mp hr)
  · intro hno
    have hnone : ∀ t ∈ L.turns s p fs, ∀ x, t.Skips L.key x → L.key x ≠ L.key r₀ := by
      rintro t ht x hskip hk
      obtain ⟨f, hf, rfl⟩ := List.mem_map.mp ht
      have hskip' := skips_iff.mp hskip
      exact hno f hf x hskip' (L.id_of_key _ _ hk)
    obtain ⟨y, hy, hk⟩ := hshown.mpr hnone
    obtain ⟨x, hx, rfl⟩ := List.mem_map.mp hy
    exact ⟨x, hx, L.id_of_key _ _ hk⟩

end Kept

end Walking

end Listing

end TicketSystem
