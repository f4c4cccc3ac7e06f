import TicketSystem.FullWalk
import TicketSystem.SlaVerdicts

namespace TicketSystem

open Relational

def ReportsData.PAGE_LIMIT : Nat := 100

def MAX_REPORT_TICKETS : Nat := 500

/-- The bounds are the times that the ISO texts name. -/
structure PeriodFilters where
  createdFrom : Time
  createdTo : Time
  priority : Option Priority := none
  deriving DecidableEq, Repr

structure PeriodTickets where
  tickets : List Ticket
  truncated : Bool
  deriving DecidableEq, Repr

theorem ReportsData.limit_in_range (n : Nat) (h : some PAGE_LIMIT = some n) :
    1 ≤ n ∧ n ≤ 100 := by
  cases h
  decide

def PeriodFilters.query (filters : PeriodFilters) : ListTicketsQuery where
  createdFrom := some (.time filters.createdFrom)
  createdTo := some (.time filters.createdTo)
  priority := filters.priority
  limit := some ReportsData.PAGE_LIMIT
  assigneeIdLength := ListTicketsQuery.assigneeId_left_out
  severityRange := ListTicketsQuery.severity_left_out
  qLength := ListTicketsQuery.q_left_out
  limitRange := ReportsData.limit_in_range

/-- The loop, with what it has gathered and the cursor of its next request. -/
def fetchTicketsForPeriod {ε : Type} (listTickets : Option Uuid → Except ε (Page Ticket)) :
    Nat → List Ticket → Option Uuid → Option (Except ε PeriodTickets)
  | 0, _, _ => none
  | fuel + 1, gathered, cursor =>
    match listTickets cursor with
    | .error e => some (.error e)
    | .ok page =>
      let tickets := gathered ++ page.items
      if tickets.length ≥ MAX_REPORT_TICKETS then
        some (.ok { tickets := tickets.take MAX_REPORT_TICKETS
                    truncated := page.nextCursor.isSome })
      else
        match page.nextCursor with
        | some c => fetchTicketsForPeriod listTickets fuel tickets (some c)
        | none => some (.ok { tickets := tickets, truncated := false })

def PeriodFilters.matches (filters : PeriodFilters) (user : User) (t : Ticket) : Bool :=
  (user.role != .reportante || t.reporterId == user.id) && filters.priority.all (t.priority == ·) &&
    filters.createdFrom ≤ t.createdAt && t.createdAt ≤ filters.createdTo

/-- The tickets of the period that the user sees, in the order of the list. -/
def World.periodOf (w : World) (filters : PeriodFilters) (user : User) : List Ticket :=
  (w.tickets.rows.filter (filters.matches user)).mergeSort Ticket.queueLe

/-- The first tickets of the period, each once and in order, and a warning exactly when there
are more; without the warning the KPIs are those of the period. -/
structure PeriodTickets.Exact (r : PeriodTickets) (period : List Ticket) : Prop where
  first : r.tickets = period.take MAX_REPORT_TICKETS
  sorted : r.tickets.Pairwise fun a b => a.place < b.place
  truncated : r.truncated = true ↔ MAX_REPORT_TICKETS < period.length
  kpis : r.truncated = false → computeKpis r.tickets = computeKpis period

/-- As many pages are asked for as it takes, and the result is exact. -/
def FetchesExactly (w : World) (filters : PeriodFilters) (user : User) (os : Nat → Oracle) : Prop :=
  ∃ r, (∀ n, w.tickets.rows.length < n →
      fetchTicketsForPeriod (askList w filters.query user os) n [] none = some (.ok r)) ∧
    r.Exact (w.periodOf filters user)

section Loop

variable {ε : Type} {listTickets : Option Uuid → Except ε (Page Ticket)} {l : List Ticket}

/-- The pages fill the limit exactly, so a list that ends with it has a full last page too. -/
theorem fetchTicketsForPeriod_from (hask : Paginates Page.items Page.nextCursor listTickets
    Ticket.id ReportsData.PAGE_LIMIT l) (j : Nat) (hj : j ≤ l.length)
    (hpages : ReportsData.PAGE_LIMIT ∣ j) (hroom : j < MAX_REPORT_TICKETS) {n : Nat}
    (hn : l.length - j < n) :
    fetchTicketsForPeriod listTickets n (l.take j) ((l.take j).getLast?.map Ticket.id) =
      some (.ok { tickets := l.take MAX_REPORT_TICKETS
                  truncated := decide (MAX_REPORT_TICKETS ≤ l.length) }) := by
  simp only [ReportsData.PAGE_LIMIT, MAX_REPORT_TICKETS] at hask hpages hroom ⊢
  -- on what is left of the list
  induction hk : l.length - j using Nat.strong_induction_on generalizing j n with
  | _ k ih =>
    obtain ⟨n, rfl⟩ := Nat.exists_eq_succ_of_ne_zero (Nat.ne_zero_of_lt hn)
    obtain ⟨page, hpage, hitems, hnext⟩ := hask j hj
    have htickets : l.take j ++ page.items = l.take (j + 100) := by rw [List.take_add, hitems]
    have hlength : page.items.length = min 100 (l.length - j) := by
      rw [hitems, List.length_take, List.length_drop]
    simp only [fetchTicketsForPeriod, hpage, htickets, MAX_REPORT_TICKETS]
    by_cases hfull : page.items.length = 100
    · have hlong : j + 100 ≤ l.length := by omega
      have hne : page.items ≠ [] := List.ne_nil_of_length_pos (by omega)
      have hlast : (l.take (j + 100)).getLast? = page.items.getLast? := by
        rw [← htickets, List.getLast?_append_of_ne_nil _ hne]
      have hcursor : page.nextCursor = some (page.items.getLast hne).id := by
        rw [hnext, if_pos hfull, List.getLast?_eq_some_getLast hne, Option.map_some]
      have hgathered : (l.take (j + 100)).length = j + 100 := by
        rw [List.length_take]
        omega
      rw [hgathered]
      by_cases hcap : j + 100 ≥ 500
      · have hexact : j + 100 = 500 := by omega
        have henough : 500 ≤ l.length := by omega
        rw [if_pos hcap, hcursor, hexact, List.take_take]
        simp [henough]
      · rw [if_neg hcap, hcursor]
        have hrest := ih (l.length - (j + 100)) (by omega) (j + 100) hlong
          (Nat.dvd_add hpages (by decide)) (by omega) (n := n) (by omega) rfl
        rw [hlast, List.getLast?_eq_some_getLast hne, Option.map_some] at hrest
        exact hrest
    · have hall : l.take (j + 100) = l := List.take_of_length_le (by omega)
      have hshort : ¬ l.length ≥ 500 := by omega
      rw [hnext, if_neg hfull, hall, if_neg hshort]
      have htake : l.take 500 = l := List.take_of_length_le (by omega)
      simp [htake, hshort]

theorem fetchTicketsForPeriod_eq (hask : Paginates Page.items Page.nextCursor listTickets
    Ticket.id ReportsData.PAGE_LIMIT l) {n : Nat} (hn : l.length < n) :
    fetchTicketsForPeriod listTickets n [] none =
      some (.ok { tickets := l.take MAX_REPORT_TICKETS
                  truncated := decide (MAX_REPORT_TICKETS ≤ l.length) }) :=
  fetchTicketsForPeriod_from hask 0 (Nat.zero_le _) (Nat.dvd_zero _) (by decide) hn

end Loop

section Period

variable {w : World} {filters : PeriodFilters} {user : User} {os : Nat → Oracle}

theorem World.length_periodOf :
    (w.periodOf filters user).length = w.tickets.rows.countP (filters.matches user) := by
  rw [World.periodOf, List.length_mergeSort, List.countP_eq_length_filter]

/-- The `where` clause of the list asks what the period does. -/
theorem listWhere_period (w : World) (filters : PeriodFilters) (user : User) :
    ∃ f, listWhere filters.query user = .ok f ∧ w.queueOf f = w.periodOf filters user := by
  refine ⟨_, rfl, ?_⟩
  unfold World.queueOf World.periodOf
  congr 2
  funext t
  by_cases hrole : user.role = .reportante
  · simp [TicketListWhere.matches, PeriodFilters.matches, PeriodFilters.query, truthy, hrole]
  · have hother : (user.role != .reportante) = true := by simpa using hrole
    simp [TicketListWhere.matches, PeriodFilters.matches, PeriodFilters.query, truthy, hrole,
      hother]

theorem World.periodOf_sorted : (w.periodOf filters user).Pairwise fun a b => a.place < b.place := by
  obtain ⟨f, _, hqueue⟩ := listWhere_period w filters user
  rw [← hqueue]
  exact World.queueOf_sorted

/-- The fetch ends with the first tickets of the period, and warns from the limit on. -/
theorem period_fetched (filters : PeriodFilters) (user : User) (os : Nat → Oracle)
    (hf : ∀ n, (os n).fault = none) (hids : ∀ t ∈ w.tickets.rows, t.id < 16 ^ 32) {n : Nat}
    (hn : w.tickets.rows.length < n) :
    fetchTicketsForPeriod (askList w filters.query user os) n [] none =
      some (.ok { tickets := (w.periodOf filters user).take MAX_REPORT_TICKETS
                  truncated :=
                    decide (MAX_REPORT_TICKETS ≤ (w.periodOf filters user).length) }) := by
  obtain ⟨f, hwhere, hqueue⟩ := listWhere_period w filters user
  have hpages : Paginates Page.items Page.nextCursor (askList w filters.query user os) Ticket.id
      ReportsData.PAGE_LIMIT (w.queueOf f) :=
    askList_pages hf hids hwhere ((storable_q hwhere).mpr nofun)
  rw [hqueue] at hpages
  have hlength : (w.periodOf filters user).length ≤ w.tickets.rows.length := by
    rw [World.length_periodOf]
    exact List.countP_le_length
  exact fetchTicketsForPeriod_eq hpages (Nat.lt_of_le_of_lt hlength hn)

theorem PeriodTickets.exact_iff_ne_limit {period : List Ticket}
    (hsorted : period.Pairwise fun a b => a.place < b.place) :
    PeriodTickets.Exact { tickets := period.take MAX_REPORT_TICKETS
                          truncated := decide (MAX_REPORT_TICKETS ≤ period.length) } period ↔
      period.length ≠ MAX_REPORT_TICKETS := by
  constructor
  · intro h hlimit
    have hmore := h.truncated.mp (by simp [hlimit])
    omega
  · intro hlimit
    refine ⟨rfl, hsorted.sublist (List.take_sublist _ _), ?_, fun hno => ?_⟩
    · rw [decide_eq_true_eq]
      omega
    · have hfew := of_decide_eq_false hno
      have hall : period.take MAX_REPORT_TICKETS = period := List.take_of_length_le (by omega)
      rw [hall]

/-- A period is fetched exactly unless it has as many tickets as the limit. -/
theorem period_fetched_iff (w : World) (filters : PeriodFilters) (user : User)
    (os : Nat → Oracle) (hf : ∀ n, (os n).fault = none)
    (hids : ∀ t ∈ w.tickets.rows, t.id < 16 ^ 32) :
    FetchesExactly w filters user os ↔
      w.tickets.rows.countP (filters.matches user) ≠ MAX_REPORT_TICKETS := by
  rw [← World.length_periodOf, ← PeriodTickets.exact_iff_ne_limit World.periodOf_sorted]
  constructor
  · rintro ⟨r, hfetch, hexact⟩
    have hfetched := period_fetched filters user os hf hids (Nat.lt_succ_self _)
    cases (hfetch _ (Nat.lt_succ_self _)).symm.trans hfetched
    exact hexact
  · exact fun hexact => ⟨_, fun n hn => period_fetched filters user os hf hids hn, hexact⟩

end Period

namespace Sample

/-- The day of the epoch. -/
def day : PeriodFilters where
  createdFrom := 0
  createdTo := 86399999

theorem count_day (n : Nat) : ((List.range n).map resolvedTicket).countP (day.matches agente) = n := by
  have hall : ∀ t ∈ (List.range n).map resolvedTicket, day.matches agente t = true := by
    intro t ht
    obtain ⟨i, _, rfl⟩ := List.mem_map.mp ht
    rfl
  rw [List.countP_eq_length.mpr hall, List.length_map, List.length_range]

/-- As many resolved tickets as the limit. -/
def limitResolved : World :=
  { world with
    tickets := ⟨(List.range 500).map resolvedTicket, resolvedTickets_unique 500 (by decide)⟩
    ticketNumberSeq := 500 }

theorem limitResolved_ids : ∀ t ∈ limitResolved.tickets.rows, t.id < 16 ^ 32 := by
  intro t ht
  simp only [limitResolved] at ht
  exact resolvedTickets_ids (by decide) t ht

theorem limitResolved_day : limitResolved.tickets.rows.countP (day.matches agente) = 500 := by
  simp only [limitResolved]
  exact count_day 500

theorem manyResolved_day : manyResolved.tickets.rows.countP (day.matches agente) = 502 := by
  simp only [manyResolved]
  exact count_day 502

end Sample

theorem period_fetched_many :
    FetchesExactly Sample.manyResolved Sample.day Sample.agente fun n => { uuid := n } := by
  refine (period_fetched_iff Sample.manyResolved Sample.day Sample.agente (fun n => { uuid := n })
    (fun _ => rfl) Sample.manyResolved_ids).mpr ?_
  rw [Sample.manyResolved_day]
  decide

/-- Nothing is missing of the period, and the warning is shown. -/
theorem full_limit_warned :
    ¬ FetchesExactly Sample.limitResolved Sample.day Sample.agente fun n => { uuid := n } := by
  rintro ⟨r, hfetch, hexact⟩
  have henough := Nat.lt_succ_self Sample.limitResolved.tickets.rows.length
  have hfetched := period_fetched Sample.day Sample.agente (fun n => { uuid := n })
    (fun _ => rfl) Sample.limitResolved_ids henough
  cases (hfetch _ henough).symm.trans hfetched
  refine (PeriodTickets.exact_iff_ne_limit World.periodOf_sorted).mp hexact ?_
  exact World.length_periodOf.trans Sample.limitResolved_day

end TicketSystem
