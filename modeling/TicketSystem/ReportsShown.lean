import TicketSystem.PageCalls
import TicketSystem.ReportsPage

namespace TicketSystem

open Relational Interleaved

/-- What the period of a report asks of a ticket is of what no update changes. -/
def World.KeepsPeriods (u v : World) : Prop :=
  ∀ t ∈ u.tickets.rows, ∃ t' ∈ v.tickets.rows, t'.id = t.id ∧
    ∀ (filters : PeriodFilters) (user : User), filters.matches user t' = filters.matches user t

theorem Effect.periods {q : Request} {past : List Seen} {e : Executed} (h : Effect q past e) :
    e.before.KeepsPeriods e.after := by
  intro t ht
  have hbefore := World.ticket?_of_mem ht
  cases h.row t.id with
  | same kept =>
    have hafter := kept.trans hbefore
    exact ⟨t, World.ticket?_mem hafter, rfl, fun _ _ => rfl⟩
  | updated _ _ _ before _ after =>
    cases before.symm.trans hbefore
    exact ⟨_, World.ticket?_mem after, rfl, fun _ _ => rfl⟩
  | inserted _ _ _ before _ => cases before.symm.trans hbefore

/-- The `where` clause of the list asks what the period does. -/
theorem period_where (filters : PeriodFilters) (user : User) :
    ∃ f, listWhere filters.query user = .ok f ∧
      ∀ u t, f.admits u t = filters.matches user t := by
  refine ⟨_, rfl, fun u t => ?_⟩
  by_cases hrole : user.role = .reportante
  · simp [TicketListWhere.admits, TicketListWhere.matches, PeriodFilters.matches,
      PeriodFilters.query, truthy, hrole]
  · have hother : (user.role != .reportante) = true := by simpa using hrole
    simp [TicketListWhere.admits, TicketListWhere.matches, PeriodFilters.matches,
      PeriodFilters.query, truthy, hrole, hother]

section Runs

variable {ok : Server → Action → Bool} {w : World} {s : Server} {filters : PeriodFilters}
  {user : User} {fs : List (Fetch Ticket)}

theorem Run.periods_keep (h : Run ok { world := w } s) {i j : Nat} (hij : i ≤ j) :
    (s.worldAt i).KeepsPeriods (s.worldAt j) := by
  refine h.relates (r := World.KeepsPeriods) (fun _ t ht => ⟨t, ht, rfl, fun _ _ => rfl⟩) ?_
    (fun heff => heff.periods) hij
  intro u v x huv hvx t ht
  obtain ⟨t', ht', hid, hsame⟩ := huv t ht
  obtain ⟨t'', ht'', hid', hsame'⟩ := hvx t' ht'
  exact ⟨t'', ht'', hid'.trans hid, fun filters user =>
    (hsame' filters user).trans (hsame filters user)⟩

theorem Run.reads_period (h : Run ok { world := w } s) {g : Fetch Ticket}
    (hg : s.Fetched (asksList filters.query user) .page g) :
    queueListing.Reads ReportsData.PAGE_LIMIT (s.worldAt g.index) (filters.matches user) g := by
  obtain ⟨f, hf, hadmits⟩ := period_where filters user
  have reads := h.reads_queue hf hg
  rwa [show f.admits (s.worldAt g.index) = filters.matches user from funext (hadmits _)] at reads

/-- No ticket is skipped: the one a cursor names is of the period still. -/
theorem Run.period_unskipped (h : Run ok { world := w } s)
    (walk : s.Walk (asksList filters.query user) .page fs) {f : Fetch Ticket} (hf : f ∈ fs)
    (t : Ticket) :
    ¬ queueListing.Skips (s.worldAt f.index) (filters.matches user) f.cursor t := by
  rintro ⟨x, hx, hcursor, hother, _⟩
  have reads : ∀ g ∈ fs, queueListing.Reads ReportsData.PAGE_LIMIT (s.worldAt g.index)
      (filters.matches user) g := fun g hg => h.reads_period (walk.fetched g hg)
  obtain ⟨g, hg, hindex, y, hy, hid⟩ :=
    Listing.cursor_held (p := fun _ => filters.matches user) walk reads hf hcursor
  obtain ⟨hmem, hmatch⟩ := (reads g hg).answered.mem _ (List.mem_map_of_mem hy)
  obtain ⟨y', hy', hid', hsame⟩ := h.periods_keep hindex.le y hmem
  cases Listing.eq_of_id (L := queueListing) hy' hx (hid'.trans hid)
  cases hother.symm.trans ((hsame filters user).trans hmatch)

end Runs

/-! ### The requests of a load -/

/-- The tickets on the screen: of the period, in the order of the queue and none twice, each as it
was at some moment after the load was submitted; without the warning, all that the period had at
that moment. -/
structure PeriodTickets.Covers (d : PeriodTickets) (s : Server) (user : User) (l : PeriodLoad) :
    Prop where
  sorted : d.tickets.Pairwise fun a b => a.place < b.place
  read : ∀ t ∈ d.tickets, ∃ i, l.since ≤ i ∧ i < s.history.length ∧
    t ∈ (s.worldAt i).tickets.rows ∧ l.filters.matches user t = true
  complete : d.truncated = false → ∀ t ∈ (s.worldAt l.since).tickets.rows,
    l.filters.matches user t = true → ∃ t' ∈ d.tickets, t'.id = t.id
  short : d.tickets.length ≤ MAX_REPORT_TICKETS
  warned : d.truncated = true → d.tickets.length = MAX_REPORT_TICKETS

def asksPeriod (filters : PeriodFilters) (user : User) (cursor : Option Uuid) (q : Request) :
    Prop :=
  q = .list { filters.query with cursor := cursor.map Uuid.text } user

def PeriodCall.load (c : PeriodCall) : PeriodLoad := ⟨c.filters, c.since⟩

/-- The pages behind what the loop has gathered, all of them full. -/
structure PeriodCall.Gathered (c : PeriodCall) (user : User) (s : Server)
    (fs : List (Fetch Ticket)) : Prop where
  walk : s.Walk (asksPeriod c.filters user) .page fs
  tickets : c.tickets = gathered fs
  cursor : c.cursor = fs.getLast?.bind fun f => f.page.nextCursor
  more : fs ≠ [] → c.cursor ≠ none
  room : c.tickets.length < MAX_REPORT_TICKETS
  full : ReportsData.PAGE_LIMIT ∣ c.tickets.length
  since : ∀ f ∈ fs, c.since ≤ f.index

/-- The next page of the loop. -/
structure PeriodCall.Turns (c : PeriodCall) (user : User) (s : Server) (fs : List (Fetch Ticket))
    (f : Fetch Ticket) : Prop where
  gathered : c.Gathered user s fs
  fetched : s.Fetched (asksPeriod c.filters user) .page f
  cursor : f.cursor = c.cursor
  later : ∀ g ∈ fs, g.index < f.index
  since : c.since ≤ f.index

/-- The last page of a loop brought the result. -/
inductive PeriodTickets.From (d : PeriodTickets) (user : User) (s : Server) : PeriodLoad → Prop
  | turn {c : PeriodCall} {fs : List (Fetch Ticket)} {f : Fetch Ticket}
      (turns : c.Turns user s fs f) (result : c.turn f.page = .inl d) : From d user s c.load

section Calls

variable {w : World} {user : User} {s s' : Server} {m : Action} {c : PeriodCall}
  {fs : List (Fetch Ticket)} {f : Fetch Ticket} {d : PeriodTickets} {l : PeriodLoad}

theorem PeriodCall.Gathered.step (h : c.Gathered user s fs) (step : Step serve Cmd.exec s m s') :
    c.Gathered user s' fs :=
  ⟨h.walk.step step, h.tickets, h.cursor, h.more, h.room, h.full, h.since⟩

theorem PeriodTickets.From.step (h : d.From user s l) (step : Step serve Cmd.exec s m s') :
    d.From user s' l := by
  cases h with
  | turn turns result =>
    exact .turn ⟨turns.gathered.step step, turns.fetched.step step, turns.cursor, turns.later,
      turns.since⟩ result

theorem PeriodCall.Turns.walk (h : c.Turns user s fs f) :
    s.Walk (asksPeriod c.filters user) .page (fs ++ [f]) := by
  refine h.gathered.walk.snoc h.fetched (fun hnil => ?_) fun g hg => ?_
  · rw [h.cursor, h.gathered.cursor, hnil]
    rfl
  · have hlast : c.cursor = g.page.nextCursor := by rw [h.gathered.cursor, hg, Option.bind_some]
    have hne := h.gathered.more (List.ne_nil_of_mem (List.mem_of_getLast? hg))
    exact ⟨h.later g (List.mem_of_getLast? hg), hlast ▸ hne, h.cursor.trans hlast⟩

theorem PeriodCall.Turns.since_all (h : c.Turns user s fs f) :
    ∀ g ∈ fs ++ [f], c.since ≤ g.index := by
  intro g hg
  rcases List.mem_append.mp hg with hg | hg
  · exact h.gathered.since g hg
  · exact List.mem_singleton.mp hg ▸ h.since

/-- The answer to a request is a page that was fetched after it was sent; with a cursor it is
full. -/
theorem Run.period_page {x : Sent PeriodCall} {v : Response}
    (h : Run (fun _ _ => true) { world := w } s)
    (tracked : x.Tracked (fun c => .list c.query user) s) (answered : x.AnsweredBy s v) :
    ∃ f : Fetch Ticket, s.Fetched (asksPeriod x.call.filters user) .page f ∧
      f.cursor = x.call.cursor ∧ x.since ≤ f.index ∧ v = .page f.page ∧
      (f.page.nextCursor ≠ none → f.page.items.length = ReportsData.PAGE_LIMIT) := by
  obtain ⟨i, e, t, hi, hpages, ht, hq, hr, hlater, paged⟩ := h.answered_page tracked answered rfl
  obtain ⟨page, rfl, hfull⟩ : ∃ page, v = .page page ∧
      (page.nextCursor ≠ none → page.items.length = ReportsData.PAGE_LIMIT) := by
    generalize e.obs = o at paged
    cases paged
    refine ⟨_, rfl, fun hnext => ?_⟩
    by_contra hshort
    exact hnext (if_neg hshort)
  exact ⟨⟨i, x.call.cursor, page⟩, ⟨e, t, hi, hpages, ht, hq, hr⟩, rfl, hlater, rfl, hfull⟩

/-- Where the loop goes on, it has gathered another full page. -/
theorem PeriodCall.Turns.goes_on (h : c.Turns user s fs f)
    (full : f.page.nextCursor ≠ none → f.page.items.length = ReportsData.PAGE_LIMIT)
    {c' : PeriodCall} (turn : c.turn f.page = .inr c') :
    c'.load = c.load ∧ c'.Gathered user s (fs ++ [f]) := by
  simp only [PeriodCall.turn] at turn
  split at turn
  next => cases turn
  next hroom =>
    split at turn
    next k hnext =>
      cases turn
      refine ⟨rfl, h.walk, ?_, by simpa using hnext.symm, by simp, by simpa using hroom, ?_,
        h.since_all⟩
      · rw [gathered_snoc, ← h.gathered.tickets]
      · rw [List.length_append, full (by simp [hnext])]
        exact Nat.dvd_add h.gathered.full (Nat.dvd_refl _)
    next => cases turn

end Calls

section Results

variable {w : World} {user : User} {s : Server} {c : PeriodCall} {fs : List (Fetch Ticket)}
  {f : Fetch Ticket} {d : PeriodTickets} {l : PeriodLoad}

/-- A cursor that comes with a page is the id of a stored ticket. -/
theorem Run.period_cursor (h : Run (fun _ _ => true) { world := w } s) {filters : PeriodFilters}
    (hf : s.Fetched (asksPeriod filters user) .page f) {k : Uuid}
    (hk : f.page.nextCursor = some k) : ∃ t ∈ s.world.tickets.rows, t.id = k := by
  obtain ⟨x, t, hx, hpages, ht, hq, hr⟩ := hf
  have hpaged := h.paged hx hpages ht (hq ▸ rfl) hr
  rw [hq] at hpaged
  obtain ⟨cursor, named⟩ : ∃ cursor, cursorArg (f.cursor.map Uuid.text) = .ok cursor := by
    generalize x.obs = o at hpaged
    generalize Response.page f.page = v at hpaged
    cases hpaged with
    | list _ named => exact ⟨_, named⟩
  have hasks : s.Fetched (asksList filters.query user) .page ⟨f.index, cursor, f.page⟩ :=
    ⟨x, t, hx, hpages, ht, ⟨_, named, hq⟩, hr⟩
  have reads := h.reads_period hasks
  obtain ⟨_, y, hy, hid⟩ := reads.of_next hk
  obtain ⟨hmem, _⟩ := reads.answered.mem _ (List.mem_map_of_mem (List.mem_of_getLast? hy))
  obtain ⟨y', hy', hid', _⟩ := h.periods_keep (Nat.le_add_right f.index s.history.length) y hmem
  rw [worldAt_of_length_le (Nat.le_add_left _ _)] at hy'
  exact ⟨y', hy', hid'.trans hid⟩

/-- The texts of its cursors name the ids that the server gave. -/
theorem Server.Walk.as_period {filters : PeriodFilters}
    (walk : s.Walk (asksPeriod filters user) .page fs)
    (h : Run (fun _ _ => true) { world := w } s)
    (hids : ∀ t ∈ s.world.tickets.rows, t.id < 16 ^ 32) :
    s.Walk (asksList filters.query user) .page fs := by
  refine walk.as fun f hf => ?_
  have hcursor : cursorArg (f.cursor.map Uuid.text) = .ok f.cursor := by
    refine cursorArg_text fun k hk => ?_
    obtain ⟨g, hg, hnext⟩ := walk.cursor_given hf hk
    obtain ⟨t, ht, rfl⟩ := h.period_cursor (walk.fetched g hg) hnext
    exact hids t ht
  obtain ⟨x, t, hx, hpages, ht, hq, hr⟩ := walk.fetched f hf
  exact ⟨x, t, hx, hpages, ht, ⟨_, hcursor, hq⟩, hr⟩

/-- The pages fill the limit exactly, so nothing that was gathered is cut off. -/
theorem PeriodCall.turn_result (full : ReportsData.PAGE_LIMIT ∣ c.tickets.length)
    (room : c.tickets.length < MAX_REPORT_TICKETS) {page : Page Ticket}
    (short : page.items.length ≤ ReportsData.PAGE_LIMIT) (result : c.turn page = .inl d) :
    d.tickets = c.tickets ++ page.items ∧ d.tickets.length ≤ MAX_REPORT_TICKETS ∧
      (d.truncated = true → d.tickets.length = MAX_REPORT_TICKETS) ∧
      (d.truncated = false → page.nextCursor = none) := by
  have hfit : (c.tickets ++ page.items).length ≤ MAX_REPORT_TICKETS := by
    simp only [ReportsData.PAGE_LIMIT, MAX_REPORT_TICKETS] at full room short ⊢
    rw [List.length_append]
    omega
  simp only [PeriodCall.turn] at result
  split at result
  next hreached =>
    cases result
    rw [List.take_of_length_le hfit]
    exact ⟨rfl, hfit, fun _ => Nat.le_antisymm hfit hreached, by simp⟩
  next =>
    split at result
    next => cases result
    next hnone =>
      cases result
      exact ⟨rfl, hfit, fun h => absurd h Bool.false_ne_true, fun _ => hnone⟩

theorem PeriodTickets.From.covers (hd : d.From user s l)
    (h : Run (fun _ _ => true) { world := w } s)
    (hids : ∀ t ∈ s.world.tickets.rows, t.id < 16 ^ 32) : d.Covers s user l := by
  obtain ⟨turns, result⟩ := hd
  rename_i c fs f
  have walk := turns.walk.as_period h hids
  have reads : ∀ g ∈ fs ++ [f], queueListing.Reads ReportsData.PAGE_LIMIT (s.worldAt g.index)
      (c.filters.matches user) g := fun g hg => h.reads_period (walk.fetched g hg)
  have hshort : f.page.items.length ≤ ReportsData.PAGE_LIMIT := by
    have hitems := congrArg List.length (reads f (by simp)).items
    rw [List.length_map] at hitems
    exact hitems.trans_le (List.length_take_le _ _)
  obtain ⟨htickets, hmax, hwarned, hended⟩ :=
    PeriodCall.turn_result turns.gathered.full turns.gathered.room hshort result
  have hall : d.tickets = gathered (fs ++ [f]) := by
    rw [htickets, turns.gathered.tickets, gathered_snoc]
  refine ⟨?_, fun t ht => ?_, fun hno t ht hm => ?_, hmax, hwarned⟩
  · rw [hall]
    exact Listing.gathered_sorted (p := fun _ => c.filters.matches user) walk h.queue_keeps reads
  · rw [hall] at ht
    obtain ⟨g, hg, hmem, hm⟩ := Listing.items_mem (p := fun _ => c.filters.matches user) reads ht
    exact ⟨g.index, turns.since_all g hg, (walk.fetched g hg).index_lt, hmem, hm⟩
  · have honce := (Listing.once_iff (p := fun _ => c.filters.matches user) walk h.queue_keeps reads
      (by decide) ⟨f, List.getLast?_concat, hended hno⟩ (i := t.id) fun g hg => ?_).mpr
      fun g hg r hskip => absurd hskip (h.period_unskipped walk hg r)
    · obtain ⟨t', ht', hid⟩ := (countP_key (Listing.gathered_nodup
        (p := fun _ => c.filters.matches user) walk h.queue_keeps reads) _).mp honce
      exact ⟨t', hall ▸ ht', hid⟩
    · obtain ⟨t', ht', hid, hsame⟩ := h.periods_keep (turns.since_all g hg) t ht
      exact ⟨t', ht', hid, (hsame c.filters user).trans hm⟩

end Results

/-- The spinner is there exactly while one request is on its way, the page of a load that has room
for it. Otherwise what is shown is of the newest submission, or that one has failed; and it always
covers the period it is of. -/
structure ReportsSession.ShowsPeriod (s : ReportsSession) (user : User) : Prop where
  single : s.onTheirWay.length = if s.ui.loading then 1 else 0
  brief : ∀ c ∈ s.onTheirWay,
    ∃ k < MAX_REPORT_TICKETS / ReportsData.PAGE_LIMIT,
      c.call.tickets.length = k * ReportsData.PAGE_LIMIT
  newest : s.ui.loading = false → s.ui.failed = false →
    ∃ d l, s.ui.data = some d ∧ s.ui.loaded = some l ∧ s.ui.submitted = some l
  covers : ∀ d, s.ui.data = some d → ∃ l, s.ui.loaded = some l ∧ d.Covers s.server user l

/-- The request the page is waiting for. -/
inductive ReportsPage.Waits (p : ReportsPage) (user : User) (s : Server) :
    Option (Sent PeriodCall) → Prop
  | idle (loading : p.loading = false)
      (newest : p.failed = false → ∃ l, p.loaded = some l ∧ p.submitted = some l) :
      Waits p user s none
  | loads {c : Sent PeriodCall} {fs : List (Fetch Ticket)} (loading : p.loading = true)
      (failed : p.failed = false) (submitted : p.submitted = some c.call.load)
      (gathered : c.call.Gathered user s fs) (since : c.call.since ≤ c.since)
      (later : ∀ f ∈ fs, f.index < c.since) : Waits p user s (some c)

/-- What holds of a page that was mounted when the server was in state `s₀`. -/
structure ReportsPage.Told (user : User) (s₀ : Server) (p : ReportsPage)
    (c : Option (Sent PeriodCall)) (s : Server) : Prop where
  run : Run (fun _ _ => true) s₀ s
  data : ∀ d, p.data = some d → ∃ l, p.loaded = some l ∧ d.From user s l
  loaded : ∀ l, p.loaded = some l → p.data.isSome = true
  waits : p.Waits user s c

section Told

variable {dayStart dayEnd : String → Option Time} {w : World} {user : User} {s s' s₀ : Server}
  {m : Action} {p : ReportsPage} {c : Option (Sent PeriodCall)}

theorem ReportsPage.Waits.step (h : p.Waits user s c) (step : Step serve Cmd.exec s m s') :
    p.Waits user s' c := by
  cases h with
  | idle loading newest => exact .idle loading newest
  | loads loading failed submitted gathered since later =>
    exact .loads loading failed submitted (gathered.step step) since later

theorem ReportsPage.Told.step (h : p.Told user s₀ c s) (step : Step serve Cmd.exec s m s') :
    p.Told user s₀ c s' where
  run := h.run.next rfl step
  data d hd := by
    obtain ⟨l, hl, hfrom⟩ := h.data d hd
    exact ⟨l, hl, hfrom.step step⟩
  loaded := h.loaded
  waits := h.waits.step step

/-- Fields of the form, the error and the download are not what the page waits for. -/
theorem ReportsPage.Told.edited (h : p.Told user s₀ c s) {p' : ReportsPage}
    (data : p'.data = p.data) (loading : p'.loading = p.loading)
    (submitted : p'.submitted = p.submitted) (loaded : p'.loaded = p.loaded)
    (failed : p'.failed = p.failed) : p'.Told user s₀ c s where
  run := h.run
  data := by rw [data, loaded]; exact h.data
  loaded := by rw [data, loaded]; exact h.loaded
  waits := by
    cases h.waits with
    | idle hl newest =>
      refine .idle (loading.trans hl) ?_
      rw [failed, loaded, submitted]
      exact newest
    | loads hl hf hs gathered since later =>
      exact .loads (loading.trans hl) (failed.trans hf) (submitted.trans hs) gathered since later

theorem PeriodCall.gathered_nothing (filters : PeriodFilters) (since : Nat) :
    PeriodCall.Gathered { filters := filters, since := since } user s [] where
  walk := Server.walk_nil
  tickets := rfl
  cursor := rfl
  more h := absurd rfl h
  room := (by decide : 0 < MAX_REPORT_TICKETS)
  full := Nat.dvd_zero _
  since := nofun

/-- A load asks for the first page, or fails at once. -/
theorem ReportsPage.load_told (run : Run (fun _ _ => true) s₀ s)
    (data : ∀ d, p.data = some d → ∃ l, p.loaded = some l ∧ d.From user s l)
    (loaded : ∀ l, p.loaded = some l → p.data.isSome = true) :
    let r := p.load dayStart dayEnd s.history.length
    (r.2 = [] ∧ r.1.Told user s₀ none s) ∨
      ∃ k, r.2 = [k] ∧ r.1.Told user s₀ (some (.new k s)) s := by
  dsimp only
  unfold ReportsPage.load
  split
  next =>
    refine .inr ⟨_, rfl, run, data, loaded, ?_⟩
    exact .loads rfl rfl rfl (PeriodCall.gathered_nothing _ _) (Nat.le_refl _) nofun
  next => exact .inl ⟨rfl, run, data, loaded, .idle rfl nofun⟩

theorem ReportsPage.acted_told (h : p.Told user s₀ c s) {a : ReportsAction}
    {r : ReportsPage × List PeriodCall}
    (act : p.act dayStart dayEnd s.history.length a = some r) :
    (r.2 = [] ∧ r.1.Told user s₀ c s) ∨
      (c = none ∧ ∃ k, r.2 = [k] ∧ r.1.Told user s₀ (some (.new k s)) s) := by
  cases a with
  | submit =>
    simp only [ReportsPage.act] at act
    split at act
    next => cases act
    next hloading =>
      cases Option.some.inj act
      obtain rfl : c = none := by
        cases h.waits with
        | idle => rfl
        | loads loading => exact absurd loading hloading
      rcases ReportsPage.load_told h.run h.data h.loaded with hfails | hasks
      · exact .inl hfails
      · exact .inr ⟨rfl, hasks⟩
  | download =>
    simp only [ReportsPage.act] at act
    split at act
    next => cases act
    next => cases Option.some.inj act; exact .inl ⟨rfl, h.edited rfl rfl rfl rfl rfl⟩
  | downloaded error =>
    simp only [ReportsPage.act] at act
    split at act
    next => cases Option.some.inj act; exact .inl ⟨rfl, h.edited rfl rfl rfl rfl rfl⟩
    next => cases act
  | setFrom | setTo | setPriority | dismissError =>
    cases Option.some.inj act
    exact .inl ⟨rfl, h.edited rfl rfl rfl rfl rfl⟩

theorem ReportsPage.settled_told (h₀ : Run (fun _ _ => true) { world := w } s₀)
    {x : Sent PeriodCall} (h : p.Told user s₀ (some x) s)
    (tracked : x.Tracked (fun c => .list c.query user) s) {r : Except (Option Err) Response}
    (answer : ∀ v, r = .ok v → x.AnsweredBy s v) :
    let next := p.settle x.call r
    (next.2 = [] ∧ next.1.Told user s₀ none s) ∨
      ∃ k, next.2 = [k] ∧ next.1.Told user s₀ (some (.new k s)) s := by
  have hrun := h₀.trans h.run
  dsimp only
  cases r with
  | error e => exact .inl ⟨rfl, h.run, h.data, h.loaded, .idle rfl nofun⟩
  | ok v =>
    obtain ⟨f, fetched, hcursor, hlater, rfl, hfull⟩ :=
      Run.period_page hrun tracked (answer v rfl)
    cases h.waits with
    | loads loading failed submitted gathered since later =>
      have turns : x.call.Turns user s _ f :=
        ⟨gathered, fetched, hcursor, fun g hg => (later g hg).trans_le hlater,
          since.trans hlater⟩
      simp only [ReportsPage.settle, Response.tickets]
      split
      next d result =>
        refine .inl ⟨rfl, h.run, ?_, fun _ _ => rfl, .idle rfl fun _ => ⟨_, rfl, submitted⟩⟩
        rintro _ ⟨⟩
        exact ⟨_, rfl, .turn turns result⟩
      next c' turn =>
        obtain ⟨hload, hgathered⟩ := turns.goes_on hfull turn
        have hsince : c'.since = x.call.since := congrArg PeriodLoad.since hload
        refine .inr ⟨c', rfl, h.run, h.data, h.loaded, ?_⟩
        refine .loads loading failed (submitted.trans (congrArg some hload.symm)) hgathered ?_
          fun g hg => (hgathered.walk.fetched g hg).index_lt
        exact hsince.trans_le (since.trans tracked.since)

theorem ReportsPage.told_sequential (h₀ : Run (fun _ _ => true) { world := w } s₀) :
    (ReportsPage.ui dayStart dayEnd user).Sequential serve Cmd.exec
      (ReportsPage.Told user s₀) where
  act h hact := ReportsPage.acted_told h hact
  delivered h _ step := by
    obtain ⟨run, data, loaded, waits⟩ := h.step step
    refine ⟨run, data, loaded, ?_⟩
    cases waits with
    | loads loading failed submitted gathered since later =>
      exact .loads loading failed submitted gathered since later
  settle h tracked answer := ReportsPage.settled_told h₀ h tracked answer
  server h step := h.step step

theorem ReportsSession.mounted_holds (h₀ : Run (fun _ _ => true) { world := w } s₀)
    (defaultFrom today : String) :
    ∃ c, (ReportsSession.mounted dayStart dayEnd defaultFrom today s₀).Holds
      (ReportsPage.ui dayStart dayEnd user) (ReportsPage.Told user s₀) c := by
  have hnew : ∀ {p : ReportsPage}, p.data = none → p.loaded = none →
      let r := p.load dayStart dayEnd s₀.history.length
      (r.2 = [] ∧ r.1.Told user s₀ none s₀) ∨
        ∃ k, r.2 = [k] ∧ r.1.Told user s₀ (some (.new k s₀)) s₀ := fun hdata hloaded =>
    ReportsPage.load_told .start (by simp [hdata]) (by simp [hloaded])
  have htids : ∀ e ∈ s₀.history, e.tid < s₀.threads.length := h₀.tid_lt (by simp)
  rcases hnew (p := { fromValue := defaultFrom, toValue := today }) rfl rfl with
    ⟨hnone, told⟩ | ⟨k, hone, told⟩
  · refine ⟨none, ?_, told, nofun, htids⟩
    rw [ReportsSession.mounted, Client.send_onTheirWay, hnone]
    rfl
  · refine ⟨some (.new k s₀), ?_, told, ?_, htids⟩
    · rw [ReportsSession.mounted, Client.send_onTheirWay, hone]
      rfl
    · rintro _ ⟨⟩
      exact Sent.tracked_new k s₀

/-- However tickets change while a load goes on, and whichever requests fail. -/
theorem reports_page_shows {defaultFrom today : String} {s : ReportsSession}
    (h : Run (fun _ _ => true) { world := w } s₀)
    (hs : Reactive.Runs (ReportsSession.next dayStart dayEnd user) (fun _ _ => true)
      (.mounted dayStart dayEnd defaultFrom today s₀) s)
    (hids : ∀ t ∈ s.server.world.tickets.rows, t.id < 16 ^ 32) : s.ShowsPeriod user := by
  obtain ⟨c₀, holds⟩ : ∃ c, (ReportsSession.mounted dayStart dayEnd defaultFrom today s₀).Holds
      (ReportsPage.ui dayStart dayEnd user) (ReportsPage.Told user s₀) c :=
    ReportsSession.mounted_holds h defaultFrom today
  obtain ⟨c, only, told, _⟩ := Client.runs_hold (ReportsPage.told_sequential h) holds hs
  refine ⟨?_, ?_, fun hloading hfailed => ?_, fun d hd => ?_⟩
  · rw [only]
    cases told.waits with
    | idle loading => simp [loading]
    | loads loading => simp [loading]
  · rw [only]
    intro x hx
    obtain rfl : c = some x := by simpa using hx
    cases told.waits with
    | loads _ _ _ gathered =>
      obtain ⟨k, hk⟩ := gathered.full
      have hroom := gathered.room
      refine ⟨k, ?_, hk.trans (Nat.mul_comm _ _)⟩
      simp only [ReportsData.PAGE_LIMIT, MAX_REPORT_TICKETS] at hk hroom ⊢
      omega
  · cases told.waits with
    | loads loading => cases loading.symm.trans hloading
    | idle _ newest =>
      obtain ⟨l, hloaded, hsubmitted⟩ := newest hfailed
      obtain ⟨d, hd⟩ := Option.isSome_iff_exists.mp (told.loaded l hloaded)
      exact ⟨d, l, hd, hloaded, hsubmitted⟩
  · obtain ⟨l, hl, hfrom⟩ := told.data d hd
    exact ⟨l, hl, hfrom.covers (h.trans told.run) hids⟩

end Told

namespace Sample

/-- A clock that every date is the start of. -/
def epoch (_ : String) : Option Time := some 0

/-- The page is opened, and loads the period of the day. -/
def reportOpened : List ReportsEvent :=
  [.act (.setPriority (some .alta)), .deliver 0, .server (.run 1 { uuid := 200 }), .answer 0,
    .act .submit]

def reportShown : ReportsSession :=
  (Reactive.replay (ReportsSession.next epoch epoch administrador) (fun _ _ => true) reportOpened
    (.mounted epoch epoch "2026-01-01" "2026-01-31" one)).get (by decide +kernel)

theorem reportShown_runs : Reactive.Runs (ReportsSession.next epoch epoch administrador)
    (fun _ _ => true) (.mounted epoch epoch "2026-01-01" "2026-01-31" one) reportShown :=
  .of_replay (Option.some_get _).symm .start

end Sample

theorem reports_page_shows_sample : Sample.reportShown.ShowsPeriod Sample.administrador :=
  reports_page_shows (Sample.play_run (by decide)) Sample.reportShown_runs (by decide +kernel)

end TicketSystem
