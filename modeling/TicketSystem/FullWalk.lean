import TicketSystem.Lib.Follow
import TicketSystem.ReportWalk

namespace TicketSystem

open Relational Interleaved

theorem dateArg_ok {d : Option JsDate} (h : d ≠ some .invalid) :
    ∃ t, dateArg d = .ok t ∧ ∀ x, t = some x ↔ d = some (.time x) := by
  match d, h with
  | none, _ => exact ⟨none, rfl, by simp⟩
  | some (.time x), _ => exact ⟨some x, rfl, by simp⟩

theorem dateArg_invalid {d : Option JsDate} (h : ¬ d ≠ some .invalid) :
    dateArg d = .error .prismaValidation := by
  rw [not_not.mp h]
  rfl

/-- The text is empty, and so no argument, or it spells an id. -/
def NamesId (s : Option String) : Prop := ∀ v, s = some v → v = "" ∨ uuidSpelled v = true

theorem uuidArg_ok {s : String} (h : uuidSpelled s = true) :
    ∃ id, uuidArg s = .ok id ∧ Uuid.parseStr? s = some id := by
  have hparse : Uuid.parseStr? s ≠ none := by simp [Uuid.parseStr?, h]
  obtain ⟨id, hid⟩ := Option.ne_none_iff_exists'.mp hparse
  exact ⟨id, by simp [uuidArg, hid], hid⟩

theorem uuidArg_error {s : String} (h : ¬ uuidSpelled s = true) :
    uuidArg s = .error (.prisma .P2023) := by
  simp [uuidArg, Uuid.parseStr?, h]

/-- An argument of a uuid column: none, or the id its text names. -/
theorem cursorArg_ok {s : Option String} (h : NamesId s) : ∃ a, cursorArg s = .ok a ∧
    ∀ id, a = some id ↔ ∃ v, s = some v ∧ Uuid.parseStr? v = some id := by
  have hempty : Uuid.parseStr? "" = none := by decide
  unfold cursorArg
  cases ht : truthy s with
  | none =>
    refine ⟨none, rfl, fun id => ?_⟩
    cases hs : s with
    | none => simp
    | some v =>
      have hv : v = "" := by
        by_contra hne
        cases ht.symm.trans (truthy_eq_some.mpr ⟨hs, hne⟩)
      simp [hv, hempty]
  | some v =>
    obtain ⟨hs, hne⟩ := truthy_eq_some.mp ht
    obtain ⟨id, hid, hparse⟩ := uuidArg_ok ((h v hs).resolve_left hne)
    exact ⟨some id, by simp [hid, Except.map], fun id' => by simp [hs, hparse]⟩

theorem cursorArg_error {s : Option String} (h : ¬ NamesId s) :
    cursorArg s = .error (.prisma .P2023) := by
  simp only [NamesId, not_forall, not_or] at h
  obtain ⟨v, hs, hv, hshape⟩ := h
  rw [cursorArg, truthy_eq_some.mpr ⟨hs, hv⟩]
  simp [uuidArg_error hshape, Except.map]

/-- The cursor a client takes from a page is the id it names. -/
theorem cursorArg_text {c : Option Uuid} (h : ∀ id, c = some id → id < 16 ^ 32) :
    cursorArg (c.map Uuid.text) = .ok c := by
  cases c with
  | none => rfl
  | some id =>
    have hparse := Uuid.parseStr?_text (h id rfl)
    have hne : id.text ≠ "" := by
      intro he
      rw [he] at hparse
      cases hparse
    rw [cursorArg, Option.map_some, truthy_eq_some.mpr ⟨rfl, hne⟩]
    simp [uuidArg, hparse, Except.map]

/-! ### The queue -/

/-- The filters of the list can be compared with their columns. -/
structure ListTicketsQuery.FiltersSound (query : ListTicketsQuery) : Prop where
  createdFrom : query.createdFrom ≠ some .invalid
  createdTo : query.createdTo ≠ some .invalid
  assigneeId : query.assigneeId ≠ some "me" → NamesId query.assigneeId

/-- The database takes the filters: besides, what is sought has no U+0000. -/
structure ListTicketsQuery.Answerable (query : ListTicketsQuery) : Prop extends
    query.FiltersSound where
  q : ∀ s, query.q = some s → '\x00' ∉ s.toList

/-- What a list asks of a ticket. -/
structure ListTicketsQuery.Matches (query : ListTicketsQuery) (user : User) (w : World)
    (t : Ticket) : Prop where
  own : user.role = .reportante → t.reporterId = user.id
  status : ∀ s, query.status = some s → t.status = s
  priority : ∀ p, query.priority = some p → t.priority = p
  severity : ∀ n, query.severity = some n → t.severity = n
  me : query.assigneeId = some "me" → t.assigneeId = some user.id
  assignee : ∀ s id, query.assigneeId = some s → Uuid.parseStr? s = some id → t.assigneeId = some id
  createdFrom : ∀ x, query.createdFrom = some (.time x) → x ≤ t.createdAt
  createdTo : ∀ x, query.createdTo = some (.time x) → t.createdAt ≤ x
  q : ∀ s, query.q = some s → s ≠ "" → w.ilike s t.title = true ∨ w.ilike s t.description = true

theorem listAssignee_other {s : Option String} (user : User) (h : s ≠ some "me") :
    listAssignee s user = cursorArg s := by
  unfold listAssignee cursorArg
  cases ht : truthy s with
  | none => rfl
  | some v =>
    have hv : v ≠ "me" := fun he => h (he ▸ (truthy_eq_some.mp ht).1)
    exact if_neg hv

theorem listAssignee_ok {s : Option String} (user : User) (h : s ≠ some "me" → NamesId s) :
    ∃ a, listAssignee s user = .ok a ∧ ∀ id, a = some id ↔
      (s = some "me" ∧ id = user.id) ∨ ∃ v, s = some v ∧ Uuid.parseStr? v = some id := by
  have hparse : Uuid.parseStr? "me" = none := by decide
  by_cases hme : s = some "me"
  · subst hme
    exact ⟨some user.id, rfl, fun id => by simp [hparse, eq_comm]⟩
  · obtain ⟨a, ha, hnames⟩ := cursorArg_ok (h hme)
    exact ⟨a, (listAssignee_other user hme).trans ha, fun id => by simp [hme, hnames]⟩

theorem listAssignee_error {s : Option String} (user : User)
    (h : ¬ (s ≠ some "me" → NamesId s)) : listAssignee s user = .error (.prisma .P2023) := by
  obtain ⟨hme, hno⟩ := Classical.not_imp.mp h
  exact (listAssignee_other user hme).trans (cursorArg_error hno)

/-- The `where` clause of a list asks what the query does. -/
theorem listWhere_ok {query : ListTicketsQuery} (user : User) (h : query.FiltersSound) :
    ∃ f, listWhere query user = .ok f ∧
      ∀ w t, f.matches w.ilike t = true ↔ query.Matches user w t := by
  obtain ⟨gte, hgte, hfrom⟩ := dateArg_ok h.createdFrom
  obtain ⟨lte, hlte, hto⟩ := dateArg_ok h.createdTo
  obtain ⟨a, ha, hassignee⟩ := listAssignee_ok user h.assigneeId
  refine ⟨_, by simp only [listWhere, hgte, hlte, ha, bind, Except.bind, pure, Except.pure]; rfl,
    fun w t => ?_⟩
  have htruthy : ∀ s, truthy query.q = some s ↔ query.q = some s ∧ s ≠ "" :=
    fun s => truthy_eq_some
  simp only [TicketListWhere.matches, Bool.and_eq_true, Option.all_eq_true,
    beq_iff_eq, decide_eq_true_eq, Bool.or_eq_true, hfrom, hto, hassignee, htruthy,
    Option.ite_none_right_eq_some, Option.some.injEq]
  constructor
  · rintro ⟨⟨⟨⟨⟨⟨⟨hown, hstatus⟩, hpriority⟩, hseverity⟩, hassigned⟩, hgte⟩, hlte⟩, hq⟩
    exact ⟨fun hr => hown _ ⟨hr, rfl⟩, hstatus, hpriority, hseverity,
      fun hme => hassigned _ (.inl ⟨hme, rfl⟩), fun s id hs hp => hassigned id (.inr ⟨s, hs, hp⟩),
      hgte, hlte, fun s hs hne => hq s ⟨hs, hne⟩⟩
  · intro h
    refine ⟨⟨⟨⟨⟨⟨⟨?_, h.status⟩, h.priority⟩, h.severity⟩, ?_⟩, h.createdFrom⟩, h.createdTo⟩, ?_⟩
    · rintro _ ⟨hr, rfl⟩
      exact h.own hr
    · rintro _ (⟨hme, rfl⟩ | ⟨s, hs, hp⟩)
      · exact h.me hme
      · exact h.assignee s _ hs hp
    · rintro s ⟨hs, hne⟩
      exact h.q s hs hne

theorem listWhere_error {query : ListTicketsQuery} (user : User) (h : ¬ query.FiltersSound) :
    ∃ e, listWhere query user = .error e := by
  by_cases hfrom : query.createdFrom ≠ some .invalid
  · obtain ⟨gte, hgte, _⟩ := dateArg_ok hfrom
    by_cases hto : query.createdTo ≠ some .invalid
    · obtain ⟨lte, hlte, _⟩ := dateArg_ok hto
      have ha := listAssignee_error user fun ha => h ⟨hfrom, hto, ha⟩
      exact ⟨_, by simp only [listWhere, hgte, hlte, ha, bind, Except.bind]; rfl⟩
    · have hlte := dateArg_invalid hto
      exact ⟨_, by simp only [listWhere, hgte, hlte, bind, Except.bind]; rfl⟩
  · have hgte := dateArg_invalid hfrom
    exact ⟨_, by simp only [listWhere, hgte, bind, Except.bind]; rfl⟩

theorem storable_q {query : ListTicketsQuery} {user : User} {f : TicketListWhere}
    (h : listWhere query user = .ok f) :
    f.q.all storable = true ↔ ∀ s, query.q = some s → '\x00' ∉ s.toList := by
  rw [(listWhere_fields h).2]
  simp only [Option.all_eq_true, truthy_eq_some, storable_iff]
  constructor
  · intro hall s hs
    by_cases hne : s = ""
    · subst hne
      exact List.not_mem_nil
    · exact hall s ⟨hs, hne⟩
  · exact fun hall s hs => hall s hs.1

/-- A list is answered with an error when the database does not take a filter. -/
theorem list_refused {query : ListTicketsQuery} {os : Nat → Oracle} (w : World) (user : User)
    (hf : ∀ n, (os n).fault = none) (h : ¬ query.Answerable) :
    ∃ e, ((list query user).alone Cmd.exec os w).1 = .error e := by
  rw [list_alone hf]
  by_cases hsound : query.FiltersSound
  · obtain ⟨f, hwhere, _⟩ := listWhere_ok user hsound
    have hno : ¬ f.q.all storable = true := fun hq => h ⟨hsound, (storable_q hwhere).mp hq⟩
    rw [hwhere]
    cases hcursor : cursorArg query.cursor with
    | error e => exact ⟨e, rfl⟩
    | ok cursor => exact ⟨.prismaUnknownRequest, by simp [bind, Except.bind, hno]⟩
  · obtain ⟨e, hwhere⟩ := listWhere_error user hsound
    exact ⟨e, by simp [hwhere, bind, Except.bind]⟩

/-- What a client is answered that asks for the page after a cursor. -/
def askList (w : World) (query : ListTicketsQuery) (user : User) (os : Nat → Oracle)
    (cursor : Option Uuid) : Except Err (Page Ticket) :=
  ((list { query with cursor := cursor.map Uuid.text } user).alone Cmd.exec os w).1

/-- The pages hold the matching tickets, each once and in order, and only the last of them has no
cursor. -/
structure FullWalk (w : World) (query : ListTicketsQuery) (user : User)
    (pages : List (Page Ticket)) : Prop where
  mem : ∀ t, t ∈ pages.flatMap (·.items) ↔ t ∈ w.tickets.rows ∧ query.Matches user w t
  sorted : (pages.flatMap (·.items)).Pairwise fun a b => a.place < b.place
  short : ∀ page ∈ pages, page.items.length ≤ query.take
  last : ∀ i page, pages[i]? = some page → (page.nextCursor = none ↔ i + 1 = pages.length)

section Queue

variable {w : World} {query : ListTicketsQuery} {user : User} {os : Nat → Oracle}
  {f : TicketListWhere}

/-- The tickets of a list, in the order of the queue. -/
def World.queueOf (w : World) (f : TicketListWhere) : List Ticket :=
  (w.tickets.rows.filter (f.matches w.ilike)).mergeSort Ticket.queueLe

theorem World.mem_queueOf {t : Ticket} :
    t ∈ w.queueOf f ↔ t ∈ w.tickets.rows ∧ f.matches w.ilike t = true := by
  rw [World.queueOf, List.mem_mergeSort, List.mem_filter]

theorem World.queueOf_sorted : (w.queueOf f).Pairwise fun a b => a.place < b.place := by
  have hids : ((w.tickets.rows.filter (f.matches w.ilike)).map Ticket.id).Nodup :=
    w.tickets_nodup.sublist (List.filter_sublist.map Ticket.id)
  refine sorted_by_key queueListing.le_iff ?_
  exact List.pairwise_map.mpr ((List.pairwise_map.mp hids).imp fun hne hk =>
    hne (queueListing.id_of_key _ _ hk))

theorem askList_pages (hf : ∀ n, (os n).fault = none)
    (hids : ∀ t ∈ w.tickets.rows, t.id < 16 ^ 32) (hwhere : listWhere query user = .ok f)
    (hq : f.q.all storable = true) :
    Paginates Page.items Page.nextCursor (askList w query user os) Ticket.id query.take
      (w.queueOf f) := by
  intro j hj
  generalize hcursor : ((w.queueOf f).take j).getLast?.map Ticket.id = cursor
  have hsmall : ∀ id, cursor = some id → id < 16 ^ 32 := by
    intro id hid
    obtain ⟨t, ht, rfl⟩ := Option.map_eq_some_iff.mp (hcursor.trans hid)
    have hmem := List.mem_of_mem_take (List.mem_of_getLast? ht)
    exact hids t (World.mem_queueOf.mp hmem).1
  have hpage : w.queuePage f cursor query.take = ((w.queueOf f).drop j).take query.take :=
    findMany_drop queueListing.le_iff queueListing.id_of_key w.tickets_nodup hcursor.symm hj _
  have hwhere' : listWhere { query with cursor := cursor.map Uuid.text } user = .ok f := hwhere
  refine ⟨toPage Ticket.id query.take (w.queuePage f cursor query.take), ?_, hpage, rfl⟩
  rw [askList, list_alone hf, hwhere', cursorArg_text hsmall]
  simp only [bind, Except.bind, hq, if_true]
  rfl

/-- A walk through the queue ends, with the pages of the matching tickets. -/
def WalksFully (w : World) (query : ListTicketsQuery) (user : User) (os : Nat → Oracle) : Prop :=
  ∃ pages, (∀ n, w.tickets.rows.length < n →
      follow Page.nextCursor (askList w query user os) n none = some (.ok pages)) ∧
    FullWalk w query user pages

theorem askList_follows (hf : ∀ n, (os n).fault = none)
    (hids : ∀ t ∈ w.tickets.rows, t.id < 16 ^ 32) (h : query.Answerable) :
    WalksFully w query user os := by
  obtain ⟨f, hwhere, hmatches⟩ := listWhere_ok user h.toFiltersSound
  obtain ⟨pages, hof, hfollow⟩ :=
    follow_pages query.take_pos (askList_pages hf hids hwhere ((storable_q hwhere).mpr h.q))
  have hlength : (w.queueOf f).length ≤ w.tickets.rows.length := by
    rw [World.queueOf, List.length_mergeSort]
    exact List.length_filter_le _ _
  refine ⟨pages, fun n hn => hfollow n (Nat.lt_of_le_of_lt hlength hn), fun t => ?_, ?_, hof.short,
    hof.last⟩
  · rw [hof.whole, World.mem_queueOf, hmatches]
  · rw [hof.whole]
    exact World.queueOf_sorted

/-- Where the database does not take a filter, the walk ends with the error of its first page. -/
theorem askList_refused (hf : ∀ n, (os n).fault = none) (h : ¬ query.Answerable) :
    ∃ e, ∀ n, 0 < n → follow Page.nextCursor (askList w query user os) n none =
      some (.error e) := by
  have h' : ¬ { query with cursor := (none : Option Uuid).map Uuid.text }.Answerable :=
    fun ha => h ⟨⟨ha.createdFrom, ha.createdTo, ha.assigneeId⟩, ha.q⟩
  obtain ⟨e, he⟩ := list_refused w user hf h'
  exact ⟨e, fun n hn => follow_error he hn⟩

theorem not_walksFully (hf : ∀ n, (os n).fault = none) (h : ¬ query.Answerable) :
    ¬ WalksFully w query user os := by
  rintro ⟨pages, hfollow, _⟩
  obtain ⟨e, hrefused⟩ : ∃ e, ∀ n, 0 < n → follow Page.nextCursor (askList w query user os) n none =
    some (.error e) := askList_refused hf h
  cases (hfollow _ (Nat.lt_succ_self _)).symm.trans (hrefused _ (Nat.succ_pos _))

/-- A walk through the queue is the sorted and filtered table exactly if the database takes the
filters, and ends with an error otherwise. -/
theorem queue_walk_full (w : World) (query : ListTicketsQuery) (user : User) (os : Nat → Oracle)
    (hf : ∀ n, (os n).fault = none) (hids : ∀ t ∈ w.tickets.rows, t.id < 16 ^ 32) :
    (WalksFully w query user os ↔ query.Answerable) ∧
      (¬ query.Answerable → ∃ e, ∀ n, 0 < n →
        follow Page.nextCursor (askList w query user os) n none = some (.error e)) := by
  refine ⟨⟨fun hwalks => ?_, askList_follows hf hids⟩, askList_refused hf⟩
  by_contra hno
  exact not_walksFully hf hno hwalks

end Queue

namespace Sample

theorem me_length (s : String) (h : some "me" = some s) : validatorLength s ≤ 64 := by
  cases h
  decide

theorem two_in_range (n : Nat) (h : some 2 = some n) : 1 ≤ n ∧ n ≤ 100 := by
  cases h
  decide

/-- What an agente has to do, in pages of two. -/
def mine : ListTicketsQuery where
  assigneeId := some "me"
  limit := some 2
  assigneeIdLength := me_length
  severityRange := ListTicketsQuery.severity_left_out
  qLength := ListTicketsQuery.q_left_out
  limitRange := two_in_range

theorem mine_answerable : mine.Answerable :=
  ⟨⟨by decide, by decide, fun h => absurd rfl h⟩, nofun⟩

theorem abc_length (s : String) (h : some "abc" = some s) : validatorLength s ≤ 64 := by
  cases h
  decide

/-- An assignee that is no id. -/
def ofAbc : ListTicketsQuery where
  assigneeId := some "abc"
  assigneeIdLength := abc_length
  severityRange := ListTicketsQuery.severity_left_out
  qLength := ListTicketsQuery.q_left_out
  limitRange := ListTicketsQuery.limit_left_out

theorem abc_names_none : ¬ NamesId (some "abc") :=
  fun h => absurd (h "abc" rfl) (by decide)

theorem ofAbc_refused : ¬ ofAbc.Answerable := by
  intro h
  exact abc_names_none (h.assigneeId (by decide))

theorem resolvedTickets_ids {n : Nat} (hn : n ≤ 9999) :
    ∀ t ∈ (List.range n).map resolvedTicket, t.id < 16 ^ 32 := by
  intro t ht
  obtain ⟨i, hi, rfl⟩ := List.mem_map.mp ht
  have hlt := List.mem_range.mp hi
  have hsmall : 1000 + i < 16 ^ 32 := by omega
  exact hsmall

theorem manyResolved_ids : ∀ t ∈ manyResolved.tickets.rows, t.id < 16 ^ 32 := by
  intro t ht
  simp only [manyResolved] at ht
  exact resolvedTickets_ids (by decide) t ht

end Sample

theorem queue_walk_mine :
    WalksFully Sample.manyResolved Sample.mine Sample.agente fun n => { uuid := n } :=
  (queue_walk_full Sample.manyResolved Sample.mine Sample.agente (fun n => { uuid := n })
    (fun _ => rfl) Sample.manyResolved_ids).1.mpr Sample.mine_answerable

/-- An assignee that is no id is accepted, and its queue has no pages. -/
theorem queue_of_abc_unwalked : ¬ ∀ (w : World) (query : ListTicketsQuery) (user : User)
    (os : Nat → Oracle), (∀ n, (os n).fault = none) →
      (∀ t ∈ w.tickets.rows, t.id < 16 ^ 32) → WalksFully w query user os := by
  intro hall
  exact not_walksFully (fun _ => rfl) Sample.ofAbc_refused (hall Sample.manyResolved Sample.ofAbc
    Sample.agente (fun n => { uuid := n }) (fun _ => rfl) Sample.manyResolved_ids)

/-! ### The report -/

structure ReportQuery.FiltersSound (query : ReportQuery) : Prop where
  resolvedFrom : query.resolvedFrom ≠ some .invalid
  resolvedTo : query.resolvedTo ≠ some .invalid
  assigneeId : NamesId query.assigneeId

/-- What a report asks of a ticket. -/
structure ReportQuery.Matches (query : ReportQuery) (t : Ticket) : Prop where
  resolved : t.status = .resuelto
  priority : ∀ p, query.priority = some p → t.priority = p
  assignee : ∀ s id, query.assigneeId = some s → Uuid.parseStr? s = some id → t.assigneeId = some id
  resolvedFrom : ∀ x, query.resolvedFrom = some (.time x) → ∃ y, t.resolvedAt = some y ∧ x ≤ y
  resolvedTo : ∀ x, query.resolvedTo = some (.time x) → ∃ y, t.resolvedAt = some y ∧ y ≤ x

theorem buildWhere_eq (query : ReportQuery) : buildWhere query = (do
    let resolvedAtGte ← dateArg query.resolvedFrom
    let resolvedAtLte ← dateArg query.resolvedTo
    let assigneeId ← cursorArg query.assigneeId
    pure { status := .resuelto, priority := query.priority, assigneeId := assigneeId
           resolvedAtGte := resolvedAtGte, resolvedAtLte := resolvedAtLte }) := by
  unfold buildWhere cursorArg
  cases truthy query.assigneeId <;> rfl

/-- The `where` clause of a report asks what the query does. -/
theorem buildWhere_sound {query : ReportQuery} (h : query.FiltersSound) :
    ∃ f, buildWhere query = .ok f ∧ ∀ t, f.matches t = true ↔ query.Matches t := by
  obtain ⟨gte, hgte, hfrom⟩ := dateArg_ok h.resolvedFrom
  obtain ⟨lte, hlte, hto⟩ := dateArg_ok h.resolvedTo
  obtain ⟨a, ha, hassignee⟩ := cursorArg_ok h.assigneeId
  rw [buildWhere_eq]
  refine ⟨_, by simp only [hgte, hlte, ha, bind, Except.bind, pure, Except.pure]; rfl,
    fun t => ?_⟩
  simp only [ReportWhere.matches, Bool.and_eq_true, Option.all_eq_true, beq_iff_eq, hfrom, hto,
    hassignee, Option.any_eq_true, decide_eq_true_eq]
  constructor
  · rintro ⟨⟨⟨⟨hstatus, hpriority⟩, hassigned⟩, hgte⟩, hlte⟩
    exact ⟨hstatus, hpriority, fun s id hs hp => hassigned id ⟨s, hs, hp⟩, hgte, hlte⟩
  · intro h
    refine ⟨⟨⟨⟨h.resolved, h.priority⟩, ?_⟩, h.resolvedFrom⟩, h.resolvedTo⟩
    rintro id ⟨s, hs, hp⟩
    exact h.assignee s id hs hp

theorem buildWhere_error {query : ReportQuery} (h : ¬ query.FiltersSound) :
    ∃ e, buildWhere query = .error e := by
  rw [buildWhere_eq]
  by_cases hfrom : query.resolvedFrom ≠ some .invalid
  · obtain ⟨gte, hgte, _⟩ := dateArg_ok hfrom
    by_cases hto : query.resolvedTo ≠ some .invalid
    · obtain ⟨lte, hlte, _⟩ := dateArg_ok hto
      have ha := cursorArg_error fun ha => h ⟨hfrom, hto, ha⟩
      exact ⟨_, by simp only [hgte, hlte, ha, bind, Except.bind]; rfl⟩
    · have hlte := dateArg_invalid hto
      exact ⟨_, by simp only [hgte, hlte, bind, Except.bind]; rfl⟩
  · have hgte := dateArg_invalid hfrom
    exact ⟨_, by simp only [hgte, bind, Except.bind]; rfl⟩

/-- What the loop of `streamCsv` is answered. -/
def askBatch (w : World) (query : ReportQuery) (os : Nat → Oracle) (cursor : Option Uuid) :
    Except Err (Page Row) :=
  ((streamBatch query cursor).alone Cmd.exec os w).1

/-- The lines are the header and one row for each matching ticket, in the order of the ids. -/
def FullExport (w : World) (query : ReportQuery) (lines : List String) : Prop :=
  ∃ rows : List Row, lines = csvRow (HEADER.map .string) :: rows.map toCsvRow ∧
    rows.Pairwise (fun a b => a.ticket.id < b.ticket.id) ∧
    ∀ r, r ∈ rows ↔ ∃ t ∈ w.tickets.rows, query.Matches t ∧ r = t.row w.users

section Report

variable {w : World} {query : ReportQuery} {os : Nat → Oracle} {f : ReportWhere} {e : Err}

/-- The tickets of a report, in the order of their ids. -/
def World.reportOf (w : World) (f : ReportWhere) : List Ticket :=
  (w.tickets.rows.filter f.matches).mergeSort Ticket.idLe

theorem World.mem_reportOf {t : Ticket} :
    t ∈ w.reportOf f ↔ t ∈ w.tickets.rows ∧ f.matches t = true := by
  rw [World.reportOf, List.mem_mergeSort, List.mem_filter]

theorem World.reportOf_sorted : (w.reportOf f).Pairwise fun a b => a.id < b.id :=
  sorted_by_key reportListing.le_iff (w.tickets_nodup.sublist (List.filter_sublist.map Ticket.id))

theorem streamBatch_alone (hf : ∀ n, (os n).fault = none) (hwhere : buildWhere query = .ok f)
    (cursor : Option Uuid) : ((streamBatch query cursor).alone Cmd.exec os w).1 =
      .ok (batchPage ((w.reportBatch f cursor).map (Ticket.row w.users))) := by
  unfold streamBatch
  rw [hwhere]
  exact congrArg Prod.fst (call_alone (hf 0) rfl)

theorem askBatch_paginates (hf : ∀ n, (os n).fault = none) (hwhere : buildWhere query = .ok f) :
    Paginates Page.items Page.nextCursor (askBatch w query os) (fun r => r.ticket.id) BATCH
      ((w.reportOf f).map (Ticket.row w.users)) := by
  intro j hj
  rw [List.length_map] at hj
  have hrow : ((fun r : Row => r.ticket.id) ∘ Ticket.row w.users) = Ticket.id := rfl
  rw [← List.map_take, List.getLast?_map, Option.map_map, hrow, ← List.map_drop, ← List.map_take]
  generalize hcursor : ((w.reportOf f).take j).getLast?.map Ticket.id = cursor
  have hbatch : w.reportBatch f cursor = ((w.reportOf f).drop j).take BATCH :=
    findMany_drop reportListing.le_iff reportListing.id_of_key w.tickets_nodup hcursor.symm hj _
  have hlength : ((w.reportBatch f cursor).map (Ticket.row w.users)).length ≤ BATCH := by
    rw [List.length_map]
    exact List.length_take_le _ _
  refine ⟨_, streamBatch_alone hf hwhere cursor, ?_, ?_⟩
  · rw [batchPage_eq hlength, hbatch]
    rfl
  · rw [batchPage_eq hlength]
    rfl

theorem askBatch_error (hwhere : buildWhere query = .error e) (cursor : Option Uuid) :
    askBatch w query os cursor = .error e := by
  rw [askBatch, streamBatch, hwhere]
  rfl

/-- The loop of `streamCsv` ends, with a row for each matching ticket. -/
def ExportsFully (w : World) (query : ReportQuery) (os : Nat → Oracle) : Prop :=
  ∃ batches, (∀ n, w.tickets.rows.length < n →
      follow Page.nextCursor (askBatch w query os) n none = some (.ok batches)) ∧
    FullExport w query (streamCsv batches)

theorem askBatch_follows (hf : ∀ n, (os n).fault = none) (hsound : query.FiltersSound) :
    ExportsFully w query os := by
  obtain ⟨f, hwhere, hmatches⟩ := buildWhere_sound hsound
  obtain ⟨batches, hof, hfollow⟩ :=
    follow_pages (by decide) (askBatch_paginates (w := w) hf hwhere)
  have hlength : ((w.reportOf f).map (Ticket.row w.users)).length ≤ w.tickets.rows.length := by
    rw [List.length_map, World.reportOf, List.length_mergeSort]
    exact List.length_filter_le _ _
  refine ⟨batches, fun n hn => hfollow n (Nat.lt_of_le_of_lt hlength hn),
    (w.reportOf f).map (Ticket.row w.users), ?_, ?_, fun r => ?_⟩
  · rw [← hof.whole, List.map_flatMap]
    rfl
  · exact List.pairwise_map.mpr World.reportOf_sorted
  · simp only [List.mem_map, World.mem_reportOf, hmatches]
    constructor
    · rintro ⟨t, ⟨ht, hm⟩, rfl⟩
      exact ⟨t, ht, hm, rfl⟩
    · rintro ⟨t, ht, hm, rfl⟩
      exact ⟨t, ⟨ht, hm⟩, rfl⟩

theorem askBatch_refused (h : ¬ query.FiltersSound) : ∃ e, ∀ n, 0 < n →
    follow Page.nextCursor (askBatch w query os) n none = some (.error e) := by
  obtain ⟨e, hwhere⟩ := buildWhere_error h
  exact ⟨e, fun n hn => follow_error (askBatch_error hwhere none) hn⟩

theorem not_exportsFully (h : ¬ query.FiltersSound) : ¬ ExportsFully w query os := by
  rintro ⟨batches, hfollow, _⟩
  obtain ⟨e, hrefused⟩ : ∃ e, ∀ n, 0 < n → follow Page.nextCursor (askBatch w query os) n none =
    some (.error e) := askBatch_refused h
  cases (hfollow _ (Nat.lt_succ_self _)).symm.trans (hrefused _ (Nat.succ_pos _))

/-- The export is the header and a row for each matching ticket exactly if the database takes the
filters, and ends with an error otherwise. -/
theorem csv_export_full (w : World) (query : ReportQuery) (os : Nat → Oracle)
    (hf : ∀ n, (os n).fault = none) :
    (ExportsFully w query os ↔ query.FiltersSound) ∧
      (¬ query.FiltersSound → ∃ e, ∀ n, 0 < n →
        follow Page.nextCursor (askBatch w query os) n none = some (.error e)) := by
  refine ⟨⟨fun hexports => ?_, askBatch_follows hf⟩, askBatch_refused⟩
  by_contra hno
  exact not_exportsFully hno hexports

end Report

namespace Sample

theorem ofAgente_sound : ofAgente.FiltersSound := by
  refine ⟨by decide, by decide, fun v hv => .inr ?_⟩
  cases hv
  decide

def reportOfAbc : ReportQuery where
  assigneeId := some "abc"
  assigneeIdLength := abc_length

end Sample

theorem csv_export_ofAgente :
    ExportsFully Sample.manyResolved Sample.ofAgente fun n => { uuid := n } :=
  (csv_export_full Sample.manyResolved Sample.ofAgente (fun n => { uuid := n })
    (fun _ => rfl)).1.mpr Sample.ofAgente_sound

/-- An assignee that is no id is accepted, and there is no export. -/
theorem report_of_abc_unexported : ¬ ∀ (w : World) (query : ReportQuery) (os : Nat → Oracle),
    (∀ n, (os n).fault = none) → ExportsFully w query os := by
  intro hall
  have hrefused : ¬ Sample.reportOfAbc.FiltersSound := fun h => Sample.abc_names_none h.assigneeId
  exact not_exportsFully hrefused (hall Sample.manyResolved Sample.reportOfAbc
    (fun n => { uuid := n }) fun _ => rfl)

end TicketSystem
