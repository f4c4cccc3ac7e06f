import Mathlib.Data.List.Forall2
import TicketSystem.QueueBusy

namespace TicketSystem

open Interleaved Reactive

/-- The parameters a list request is sent with. -/
def QueueCall.params? : QueueCall → Option ListTicketsParams
  | .firstPage _ current => some (buildParams current none)
  | .more _ filters nextCursor => some (buildParams filters (some nextCursor))
  | .assign _ _ _ => none

def QueuePage.paramsAt (s : QueuePage) (i : Nat) : Option ListTicketsParams :=
  s.calls[i]?.bind QueueCall.params?

def addCall (places : List Nat) : QueueCall × Nat → List Nat
  | (.firstPage _ _, i) => [i]
  | (.more _ _ _, i) => places ++ [i]
  | (.assign _ _ _, _) => places

/-- The latest first-page request and the load-mores sent after it, by their places. -/
def QueuePage.latest (s : QueuePage) : List Nat := s.calls.zipIdx.foldl addCall []

/-- The cursors that a chain of pages is asked for with: none, then that of each page. -/
def asks (pages : List (Page Ticket)) : List (Option Uuid) :=
  none :: pages.map Page.nextCursor

def QueuePage.Answered (s : QueuePage) (i : Nat) (page : Page Ticket) : Prop :=
  (i, .page (.ok page)) ∈ s.replies

/-- Row `a` of a page is shown as itself or as what an assign of it came back with. -/
def QueuePage.ShownAs (s : QueuePage) (a b : Ticket) : Prop :=
  b = a ∨ b.id = a.id ∧ ∃ i ticketId body filters,
    s.calls[i]? = some (.assign ticketId body filters) ∧ (i, .assigned (.ok b)) ∈ s.replies

/-- The list is this chain of pages, each the answer to one of the latest requests, and each
asked for with the filters of the form. -/
structure QueuePage.Shows (s : QueuePage) (pages : List (Page Ticket)) : Prop where
  answered : List.Forall₂ s.Answered s.latest pages
  asked : s.latest.map s.paramsAt =
    (asks pages).dropLast.map fun cursor => some (buildParams s.filters cursor)
  rows : List.Forall₂ s.ShownAs (pages.flatMap Page.items) s.tickets
  nextCursor : pages.getLast?.map Page.nextCursor = some s.nextCursor

/-- None of the latest requests came back with a failure. -/
def QueuePage.Succeeded (s : QueuePage) : Prop :=
  ∀ i ∈ s.latest, ∀ r, (i, QueueReply.page r) ∈ s.replies → ∃ page, r = .ok page

/-- A conflict comes while the filters of its click ask for what those of the form do, or while
the effect of newer ones is still to run. -/
def keepsFilters (s : QueuePage) : QueueEvent → Bool
  | .settle i (.assigned (.error (.api 409))) =>
    s.filtersEffect ||
      match s.calls[i]? with
      | some (.assign _ _ filters) => buildParams filters none == buildParams s.filters none
      | _ => true
  | _ => true

theorem buildParams_congr {f g : Filters} (h : buildParams f none = buildParams g none)
    (cursor : Option Uuid) : buildParams f cursor = buildParams g cursor := by
  simp only [buildParams, ListTicketsParams.mk.injEq, and_true] at h ⊢
  exact h

theorem getElem?_of_prefix {ι : Type} {l l' : List ι} {i : Nat} {a : ι} (h : l <+: l')
    (ha : l[i]? = some a) : l'[i]? = some a := by
  obtain ⟨rest, rfl⟩ := h
  rw [List.getElem?_append_left (List.getElem?_eq_some_iff.mp ha).1]
  exact ha

theorem exists_of_forall₂ {ι κ : Type} {R : ι → κ → Prop} {as : List ι} {bs : List κ}
    (h : List.Forall₂ R as bs) {a : ι} (ha : a ∈ as) : ∃ b, R a b := by
  induction h with
  | nil => cases ha
  | @cons x y _ _ hxy _ ih =>
    rcases List.mem_cons.mp ha with rfl | ha
    · exact ⟨y, hxy⟩
    · exact ih ha

section Latest

variable {s s' : QueuePage} {c : QueueCall}

theorem QueuePage.latest_of_calls (h : s'.calls = s.calls) : s'.latest = s.latest := by
  rw [QueuePage.latest, h, QueuePage.latest]

theorem QueuePage.latest_sent (h : s'.calls = s.calls ++ [c]) :
    s'.latest = addCall s.latest (c, s.calls.length) := by
  simp [QueuePage.latest, h, List.zipIdx_append]

theorem QueuePage.latest_firstPage {seq : Nat} {current : Filters}
    (h : s'.calls = s.calls ++ [.firstPage seq current]) : s'.latest = [s.calls.length] :=
  QueuePage.latest_sent h

theorem QueuePage.latest_more {seq : Nat} {filters : Filters} {nextCursor : Uuid}
    (h : s'.calls = s.calls ++ [.more seq filters nextCursor]) :
    s'.latest = s.latest ++ [s.calls.length] := QueuePage.latest_sent h

theorem QueuePage.latest_assign {ticketId : Uuid} {body : AssignTicketDto} {filters : Filters}
    (h : s'.calls = s.calls ++ [.assign ticketId body filters]) : s'.latest = s.latest :=
  QueuePage.latest_sent h

end Latest

/-- The latest requests are those that carry the sequence number, the first page first. -/
structure QueuePage.Numbered (s : QueuePage) : Prop extends s.Ordered where
  mem : ∀ i ∈ s.latest, ∃ c, s.calls[i]? = some c ∧ c.seq? = some s.requestSeq
  first : ∀ i, s.latest.head? = some i →
    ∃ current, s.calls[i]? = some (.firstPage s.requestSeq current)
  firsts : ∀ i current, s.calls[i]? = some (.firstPage s.requestSeq current) →
    s.latest.head? = some i
  mores : ∀ i filters nextCursor, s.calls[i]? = some (.more s.requestSeq filters nextCursor) →
    i ∈ s.latest
  started : s.filtersEffect = false → s.latest ≠ []

namespace QueuePage.Numbered

variable {s s' : QueuePage}

theorem of_same (h : s.Numbered) (ordered : s'.Ordered) (calls : s'.calls = s.calls)
    (seq : s'.requestSeq = s.requestSeq)
    (effect : s'.filtersEffect = false → s.filtersEffect = false) : s'.Numbered where
  toOrdered := ordered
  mem := by rw [QueuePage.latest_of_calls calls, calls, seq]; exact h.mem
  first := by rw [QueuePage.latest_of_calls calls, calls, seq]; exact h.first
  firsts := by rw [QueuePage.latest_of_calls calls, calls, seq]; exact h.firsts
  mores := by rw [calls, seq, QueuePage.latest_of_calls calls]; exact h.mores
  started hran := by rw [QueuePage.latest_of_calls calls]; exact h.started (effect hran)

theorem restarted {current : Filters} (h : s.Ordered) (ordered : s'.Ordered)
    (calls : s'.calls = s.calls ++ [.firstPage (s.requestSeq + 1) current])
    (seq : s'.requestSeq = s.requestSeq + 1) : s'.Numbered := by
  have hlatest := QueuePage.latest_firstPage calls
  have hold : ∀ (i : Nat) (c : QueueCall), s.calls[i]? = some c →
      c.seq? ≠ some (s.requestSeq + 1) := fun i c hc hs => by
    have := h.seqs c (List.mem_of_getElem? hc) _ hs
    omega
  refine ⟨ordered, fun i hi => ?_, fun i hi => ?_, fun i f hi => ?_, fun i f n hi => ?_,
    fun _ => by simp [hlatest]⟩
  · rw [hlatest, List.mem_singleton] at hi
    exact ⟨_, by rw [hi, calls]; exact List.getElem?_concat_length, by rw [seq]; rfl⟩
  · rw [hlatest, List.head?_cons, Option.some.injEq] at hi
    exact ⟨current, by rw [← hi, calls, seq]; exact List.getElem?_concat_length⟩
  · rw [calls, seq] at hi
    rcases getElem?_concat_cases hi with hi | ⟨hi, _⟩
    · exact absurd rfl (hold i _ hi)
    · rw [hlatest, hi, List.head?_cons]
  · rw [calls, seq] at hi
    rcases getElem?_concat_cases hi with hi | ⟨_, hi⟩
    · exact absurd rfl (hold i _ hi)
    · cases hi

/-- A request that is no first page leaves the first page the first. -/
theorem sent {c : QueueCall} (h : s.Numbered) (started : s.latest ≠ []) (ordered : s'.Ordered)
    (calls : s'.calls = s.calls ++ [c]) (seq : s'.requestSeq = s.requestSeq)
    (hc : c.seq? = some s.requestSeq ∧ s'.latest = s.latest ++ [s.calls.length] ∨
      c.seq? = none ∧ s'.latest = s.latest)
    (no_first : ∀ n current, c ≠ .firstPage n current) : s'.Numbered := by
  have hkeep : ∀ {i x}, s.calls[i]? = some x → s'.calls[i]? = some x :=
    getElem?_of_prefix ⟨[c], calls.symm⟩
  have hhead : s'.latest.head? = s.latest.head? := by
    rcases hc with ⟨_, hl⟩ | ⟨_, hl⟩
    · rw [hl]
      exact List.head?_append_of_ne_nil _ started
    · rw [hl]
  have hstarted : s'.latest ≠ [] := by
    rcases hc with ⟨_, hl⟩ | ⟨_, hl⟩
    · simp [hl]
    · rw [hl]; exact started
  refine ⟨ordered, fun i hi => ?_, fun i hi => ?_, fun i f hi => ?_, fun i f n hi => ?_,
    fun _ => hstarted⟩
  · rw [seq]
    have hold : i ∈ s.latest → ∃ x, s'.calls[i]? = some x ∧ x.seq? = some s.requestSeq :=
      fun hi => (h.mem i hi).imp fun _ hx => ⟨hkeep hx.1, hx.2⟩
    rcases hc with ⟨hseq, hl⟩ | ⟨_, hl⟩
    · rcases List.mem_append.mp (hl ▸ hi) with hi | hi
      · exact hold hi
      · rw [List.mem_singleton.mp hi, calls]
        exact ⟨c, List.getElem?_concat_length, hseq⟩
    · exact hold (hl ▸ hi)
  · rw [hhead] at hi
    rw [seq]
    exact (h.first i hi).imp fun _ hx => hkeep hx
  · rw [calls, seq] at hi
    rw [hhead]
    rcases getElem?_concat_cases hi with hi | ⟨_, hi⟩
    · exact h.firsts i f hi
    · exact absurd hi.symm (no_first _ _)
  · rw [calls, seq] at hi
    rcases getElem?_concat_cases hi with hi | ⟨hi, hx⟩
    · rcases hc with ⟨_, hl⟩ | ⟨_, hl⟩
      · exact hl ▸ List.mem_append_left _ (h.mores i f n hi)
      · exact hl ▸ h.mores i f n hi
    · rcases hc with ⟨_, hl⟩ | ⟨hno, _⟩
      · exact hl ▸ List.mem_append_right _ (List.mem_singleton.mpr hi)
      · rw [← hx] at hno
        cases hno

end QueuePage.Numbered

/-- The list of a restart with `filters`: `pages` have come, and at most one request of it is still
in flight. -/
structure QueuePage.Chain (s : QueuePage) (filters : Filters) (pages : List (Page Ticket))
    (pend : List Nat) : Prop where
  answered : ∃ done, s.latest = done ++ pend ∧ List.Forall₂ s.Answered done pages
  flying : ∀ i ∈ pend, s.inFlight i = true
  one : pend.length ≤ 1
  asked : s.latest.map s.paramsAt =
    ((asks pages).take s.latest.length).map fun cursor => some (buildParams filters cursor)
  rows : pages ≠ [] → List.Forall₂ s.ShownAs (pages.flatMap Page.items) s.tickets
  nextCursor : pages ≠ [] → pages.getLast?.map Page.nextCursor = some s.nextCursor
  empty : pages = [] → s.loading = true

/-- Until one of the latest requests fails, the list is a chain for the filters of the form. -/
def QueuePage.Tracks (s : QueuePage) : Prop :=
  s.Succeeded → ∃ filters pages pend, s.Chain filters pages pend ∧
    (s.filtersEffect = false → buildParams filters none = buildParams s.filters none)

theorem QueuePage.answered_last {s s' : QueuePage} {i : Nat} {page : Page Ticket}
    (replies : s'.replies = s.replies ++ [(i, .page (.ok page))]) : s'.Answered i page := by
  rw [QueuePage.Answered, replies]
  exact List.mem_append_right _ (List.mem_singleton_self _)

section Chains

variable {s s' : QueuePage} {filters : Filters} {pages : List (Page Ticket)} {pend : List Nat}

theorem QueuePage.ShownAs.mono {a b : Ticket} (h : s.ShownAs a b) (calls : s.calls <+: s'.calls)
    (replies : s.replies <+: s'.replies) : s'.ShownAs a b := by
  rcases h with h | ⟨hid, i, ticketId, body, filters, hc, hr⟩
  · exact .inl h
  · exact .inr ⟨hid, i, ticketId, body, filters, getElem?_of_prefix calls hc, replies.subset hr⟩

theorem QueuePage.paramsAt_kept (h : s.Numbered) (calls : s.calls <+: s'.calls) {i : Nat}
    (hi : i ∈ s.latest) : s'.paramsAt i = s.paramsAt i := by
  obtain ⟨c, hc, _⟩ := h.mem i hi
  rw [QueuePage.paramsAt, QueuePage.paramsAt, hc, getElem?_of_prefix calls hc]

/-- What leaves the latest requests and the list as they are keeps the chain. -/
theorem QueuePage.Chain.kept (h : s.Chain filters pages pend) (hn : s.Numbered)
    (latest : s'.latest = s.latest) (calls : s.calls <+: s'.calls)
    (replies : s.replies <+: s'.replies)
    (flights : ∀ i ∈ s.latest, s.inFlight i = true → s'.inFlight i = true)
    (tickets : List.Forall₂ s.ShownAs (pages.flatMap Page.items) s.tickets →
      List.Forall₂ s'.ShownAs (pages.flatMap Page.items) s'.tickets)
    (nextCursor : s'.nextCursor = s.nextCursor) (loading : s'.loading = s.loading) :
    s'.Chain filters pages pend where
  answered := by
    obtain ⟨done, hl, hall⟩ := h.answered
    exact ⟨done, latest.trans hl, hall.imp fun _ _ ha => replies.subset ha⟩
  flying i hi := by
    obtain ⟨done, hl, _⟩ := h.answered
    exact flights i (hl ▸ List.mem_append_right _ hi) (h.flying i hi)
  one := h.one
  asked := by
    rw [latest, ← h.asked]
    exact List.map_congr_left fun i hi => QueuePage.paramsAt_kept hn calls hi
  rows hne := tickets (h.rows hne)
  nextCursor hne := nextCursor ▸ h.nextCursor hne
  empty hnil := loading.trans (h.empty hnil)

/-- A restart begins a chain of its own. -/
theorem QueuePage.Chain.restarted {seq : Nat} (ordered : s.Ordered)
    (calls : s'.calls = s.calls ++ [.firstPage seq filters]) (replies : s'.replies = s.replies)
    (loading : s'.loading = true) : s'.Chain filters [] [s.calls.length] where
  answered := ⟨[], QueuePage.latest_firstPage calls, .nil⟩
  flying i hi := by
    rw [List.mem_singleton.mp hi]
    exact ((QueuePage.flies_sent calls replies ordered.replied).mpr (.inr ⟨rfl, rfl⟩)).1
  one := by simp
  asked := by
    simp [QueuePage.latest_firstPage calls, QueuePage.paramsAt, calls, asks, QueueCall.params?]
  rows hne := absurd rfl hne
  nextCursor hne := absurd rfl hne
  empty _ := loading

theorem QueuePage.Chain.other_settled {i : Nat} {r : QueueReply}
    (h : s.Chain filters pages pend) (hn : s.Numbered) (hi : i ∉ s.latest)
    (calls : s'.calls = s.calls) (replies : s'.replies = s.replies ++ [(i, r)])
    (tickets : List.Forall₂ s.ShownAs (pages.flatMap Page.items) s.tickets →
      List.Forall₂ s'.ShownAs (pages.flatMap Page.items) s'.tickets)
    (nextCursor : s'.nextCursor = s.nextCursor) (loading : s'.loading = s.loading) :
    s'.Chain filters pages pend := by
  refine h.kept hn (QueuePage.latest_of_calls calls) (calls ▸ List.prefix_rfl)
    ⟨_, replies.symm⟩ (fun j hj hfly => ?_) tickets nextCursor loading
  rw [QueuePage.inFlight_iff] at hfly ⊢
  rw [calls, replies]
  refine ⟨hfly.1, fun a ha => ?_⟩
  rcases List.mem_append.mp ha with ha | ha
  · exact hfly.2 a ha
  · cases List.mem_singleton.mp ha
    rintro rfl
    exact hi hj

/-- A request in flight is not among those of the chain that were answered. -/
theorem QueuePage.Chain.split {i : Nat} (h : s.Chain filters pages pend) (hi : i ∈ s.latest)
    (flying : s.inFlight i = true) :
    ∃ done, s.latest = done ++ [i] ∧ List.Forall₂ s.Answered done pages := by
  obtain ⟨done, hl, hall⟩ := h.answered
  have hdone : i ∉ done := fun hmem => by
    obtain ⟨page, ha⟩ := exists_of_forall₂ hall hmem
    exact (QueuePage.inFlight_iff.mp flying).2 _ ha rfl
  rw [hl] at hi
  have hpend := (List.mem_append.mp hi).resolve_left hdone
  obtain ⟨j, rfl⟩ := List.length_eq_one_iff.mp
    (Nat.le_antisymm h.one (List.length_pos_of_mem hpend))
  cases List.mem_singleton.mp hpend
  exact ⟨done, hl, hall⟩

/-- The next cursor of the chain is that of its last page. -/
theorem asks_take_succ {page : Page Ticket} (h : pages.getLast? = some page) :
    (asks pages).take (pages.length + 1) =
      (asks pages).take pages.length ++ [page.nextCursor] := by
  obtain ⟨init, rfl⟩ := List.getLast?_eq_some_iff.mp h
  have hall : (init.map Page.nextCursor ++ [page.nextCursor]).take (init.length + 1) =
      init.map Page.nextCursor ++ [page.nextCursor] := List.take_of_length_le (by simp)
  simp [asks, hall]

theorem asks_take_append {page : Page Ticket} {n : Nat} (h : n ≤ pages.length + 1) :
    (asks (pages ++ [page])).take n = (asks pages).take n := by
  have hasks : asks (pages ++ [page]) = asks pages ++ [page.nextCursor] := by simp [asks]
  rw [hasks]
  exact List.take_append_of_le_length (by simpa [asks] using h)

theorem asks_dropLast (pages : List (Page Ticket)) :
    (asks pages).dropLast = (asks pages).take pages.length := by
  rw [List.dropLast_eq_take]
  simp [asks]

/-- The first page comes: the chain is this page alone. -/
theorem QueuePage.Chain.firstPage {i : Nat} {page : Page Ticket} (h : s.Chain filters pages pend)
    (head : s.latest.head? = some i) (flying : s.inFlight i = true)
    (calls : s'.calls = s.calls) (replies : s'.replies = s.replies ++ [(i, .page (.ok page))])
    (tickets : s'.tickets = page.items) (nextCursor : s'.nextCursor = page.nextCursor) :
    s'.Chain filters [page] [] := by
  have hi : i ∈ s.latest := List.mem_of_mem_head? head
  obtain ⟨done, hl, hall⟩ := h.split hi flying
  have hdone : done = [] := by
    cases done with
    | nil => rfl
    | cons d ds =>
      rw [hl, List.cons_append, List.head?_cons, Option.some.injEq] at head
      obtain ⟨p, ha⟩ := exists_of_forall₂ hall (List.mem_cons_self (a := d))
      exact absurd head ((QueuePage.inFlight_iff.mp flying).2 _ ha)
  rw [hdone, List.nil_append] at hl
  have hlatest : s'.latest = [i] := (QueuePage.latest_of_calls calls).trans hl
  have hpages : pages = [] := by
    rw [hdone] at hall
    exact List.forall₂_nil_left_iff.mp hall
  refine ⟨⟨[i], by rw [hlatest, List.append_nil], ?_⟩, by simp, by simp, ?_, fun _ => ?_,
    fun _ => by simp [nextCursor], by simp⟩
  · exact .cons (QueuePage.answered_last replies) .nil
  · have hasked := h.asked
    rw [hl, hpages] at hasked
    rw [hlatest]
    simpa [asks, QueuePage.paramsAt, calls] using hasked
  · rw [tickets]
    simpa using List.forall₂_same.mpr fun t _ => (.inl rfl : s'.ShownAs t t)

/-- A further page comes: it is appended, to the chain and to the list. -/
theorem QueuePage.Chain.page {i : Nat} {page : Page Ticket} (h : s.Chain filters pages pend)
    (hn : s.Numbered) (hi : i ∈ s.latest) (head : s.latest.head? ≠ some i)
    (flying : s.inFlight i = true) (calls : s'.calls = s.calls)
    (replies : s'.replies = s.replies ++ [(i, .page (.ok page))])
    (tickets : s'.tickets = s.tickets ++ page.items)
    (nextCursor : s'.nextCursor = page.nextCursor) : s'.Chain filters (pages ++ [page]) [] := by
  obtain ⟨done, hl, hall⟩ := h.split hi flying
  have hpages : pages ≠ [] := by
    rintro rfl
    rw [List.forall₂_nil_right_iff.mp hall, List.nil_append] at hl
    exact head (by rw [hl, List.head?_cons])
  have hlatest := QueuePage.latest_of_calls calls
  have hreplies : s.replies <+: s'.replies := ⟨_, replies.symm⟩
  have hlen : s.latest.length = pages.length + 1 := by
    rw [hl, List.length_append, hall.length_eq, List.length_singleton]
  refine ⟨⟨s.latest, by rw [hlatest, List.append_nil], ?_⟩, by simp, by simp, ?_, fun _ => ?_,
    fun _ => by simp [nextCursor], fun hnil => by simp at hnil⟩
  · rw [hl]
    exact List.rel_append (hall.imp fun _ _ ha => hreplies.subset ha)
      (.cons (QueuePage.answered_last replies) .nil)
  · rw [hlatest, asks_take_append hlen.le, ← h.asked]
    exact List.map_congr_left fun j hj =>
      QueuePage.paramsAt_kept hn (calls ▸ List.prefix_rfl) hj
  · rw [tickets, List.flatMap_append, List.flatMap_singleton]
    refine List.rel_append ((h.rows hpages).imp fun _ _ hs =>
      hs.mono (calls ▸ List.prefix_rfl) hreplies) ?_
    exact List.forall₂_same.mpr fun t _ => .inl rfl

/-- A load-more asks for the page after the last one. -/
theorem QueuePage.Chain.more {nextCursor : Uuid} (h : s.Chain filters pages []) (hn : s.Numbered)
    (hpages : pages ≠ []) (params : buildParams filters none = buildParams s.filters none)
    (cursor : s.nextCursor = some nextCursor)
    (calls : s'.calls = s.calls ++ [.more s.requestSeq s.filters nextCursor])
    (replies : s'.replies = s.replies) (tickets : s'.tickets = s.tickets)
    (same : s'.nextCursor = s.nextCursor) : s'.Chain filters pages [s.calls.length] := by
  obtain ⟨done, hl, hall⟩ := h.answered
  rw [List.append_nil] at hl
  have hlatest := QueuePage.latest_more calls
  have hcalls : s.calls <+: s'.calls := ⟨_, calls.symm⟩
  have hreplies : s.replies <+: s'.replies := replies ▸ List.prefix_rfl
  have hlen : s.latest.length = pages.length := by rw [hl, hall.length_eq]
  obtain ⟨page, hlast, hpage⟩ := Option.map_eq_some_iff.mp (h.nextCursor hpages)
  refine ⟨⟨done, by rw [hlatest, hl], hall.imp fun _ _ ha => hreplies.subset ha⟩, fun i hi => ?_,
    by simp, ?_, fun hne => ?_, fun hne => ?_, fun hnil => absurd hnil hpages⟩
  · rw [List.mem_singleton.mp hi]
    exact ((QueuePage.flies_sent calls replies hn.replied).mpr (.inr ⟨rfl, rfl⟩)).1
  · have hkept : s.latest.map s'.paramsAt = s.latest.map s.paramsAt :=
      List.map_congr_left fun j hj => QueuePage.paramsAt_kept hn hcalls hj
    have hnew : s'.paramsAt s.calls.length = some (buildParams filters (some nextCursor)) := by
      rw [QueuePage.paramsAt, calls, List.getElem?_concat_length,
        buildParams_congr params (some nextCursor)]
      rfl
    rw [hlatest, List.length_append, List.length_singleton, hlen, asks_take_succ hlast,
      List.map_append, List.map_append, hkept, h.asked, hlen, List.map_singleton, hnew,
      List.map_singleton, hpage, cursor]
  · rw [tickets]
    exact (h.rows hne).imp fun _ _ hs => hs.mono hcalls hreplies
  · rw [same]
    exact h.nextCursor hne

end Chains

section Events

variable {s s' : QueuePage} {e : QueueEvent}

theorem QueuePage.firstPageSettles_sent (s : QueuePage) (seq : Nat)
    (r : Except ClientError (Page Ticket)) : (s.firstPageSettles seq r).calls = s.calls ∧
      (s.firstPageSettles seq r).requestSeq = s.requestSeq ∧
      (s.firstPageSettles seq r).filtersEffect = s.filtersEffect := by
  cases r <;> simp only [QueuePage.firstPageSettles] <;> split <;> exact ⟨rfl, rfl, rfl⟩

theorem QueuePage.moreSettles_sent (s : QueuePage) (seq : Nat)
    (r : Except ClientError (Page Ticket)) : (s.moreSettles seq r).calls = s.calls ∧
      (s.moreSettles seq r).requestSeq = s.requestSeq ∧
      (s.moreSettles seq r).filtersEffect = s.filtersEffect := by
  cases r <;> simp only [QueuePage.moreSettles] <;> split <;> exact ⟨rfl, rfl, rfl⟩

theorem QueuePage.Moves.numbered (hm : s.Moves e s') (ordered : s'.Ordered) (h : s.Numbered) :
    s'.Numbered := by
  cases hm with
  | form effect =>
    refine h.of_same ordered rfl rfl fun hran => ?_
    rcases effect with ⟨_, rfl⟩ | rfl
    · exact hran
    · cases hran
  | restart => exact .restarted h.toOrdered ordered rfl rfl
  | more ran =>
    exact h.sent (h.started ran) ordered rfl rfl (.inl ⟨rfl, QueuePage.latest_more rfl⟩) (by simp)
  | assign ran =>
    exact h.sent (h.started ran) ordered rfl rfl (.inr ⟨rfl, QueuePage.latest_assign rfl⟩) (by simp)
  | firstPage =>
    obtain ⟨calls, seq, effect⟩ := QueuePage.firstPageSettles_sent _ _ _
    exact h.of_same ordered calls seq fun hran => effect.symm.trans hran
  | page =>
    obtain ⟨calls, seq, effect⟩ := QueuePage.moreSettles_sent _ _ _
    exact h.of_same ordered calls seq fun hran => effect.symm.trans hran
  | assigned =>
    unfold QueuePage.assignSettles at ordered ⊢
    split at ordered
    next => exact h.of_same ordered rfl rfl id
    next => exact .restarted ⟨h.replied, h.seqs⟩ ordered rfl rfl
    next => exact h.of_same ordered rfl rfl id

theorem QueuePage.Succeeded.before (h : s'.Succeeded) (latest : s.latest ⊆ s'.latest)
    (replies : s.replies ⊆ s'.replies) : s.Succeeded :=
  fun i hi r hr => h i (latest hi) r (replies hr)

/-- A request that is not of the latest settles. -/
theorem QueuePage.Tracks.other_settled {i : Nat} {r : QueueReply} (h : s.Tracks)
    (hn : s.Numbered) (hi : i ∉ s.latest) (calls : s'.calls = s.calls)
    (replies : s'.replies = s.replies ++ [(i, r)])
    (tickets : ∀ rows, List.Forall₂ s.ShownAs rows s.tickets →
      List.Forall₂ s'.ShownAs rows s'.tickets)
    (nextCursor : s'.nextCursor = s.nextCursor) (loading : s'.loading = s.loading)
    (effect : s'.filtersEffect = s.filtersEffect) (filters : s'.filters = s.filters) :
    s'.Tracks := by
  intro hs
  have same : s.latest ⊆ s'.latest := by
    rw [QueuePage.latest_of_calls calls]
    exact List.Subset.refl _
  obtain ⟨f, pages, pend, hc, params⟩ := h (hs.before same (replies ▸ List.subset_append_left _ _))
  refine ⟨f, pages, pend,
    hc.other_settled hn hi calls replies (tickets _) nextCursor loading, fun hran => ?_⟩
  rw [filters]
  exact params (effect.symm.trans hran)

/-- One of the latest requests fails: from here on nothing is said of the list. -/
theorem QueuePage.Tracks.failed {i : Nat} {err : ClientError} (hi : i ∈ s.latest)
    (calls : s'.calls = s.calls) (replies : s'.replies = s.replies ++ [(i, .page (.error err))]) :
    s'.Tracks := by
  intro hs
  obtain ⟨page, hpage⟩ := hs i (QueuePage.latest_of_calls calls ▸ hi) (.error err)
    (replies ▸ List.mem_append_right _ (List.mem_singleton_self _))
  cases hpage

theorem QueuePage.Numbered.not_latest {i : Nat} {c : QueueCall} (h : s.Numbered)
    (call : s.calls[i]? = some c) (hc : c.seq? ≠ some s.requestSeq) : i ∉ s.latest := by
  intro hi
  obtain ⟨x, hx, hseq⟩ := h.mem i hi
  cases Option.some.inj (call.symm.trans hx)
  exact hc hseq

/-- A page of a sequence number that is not the newest changes nothing shown. -/
theorem QueuePage.Tracks.stale_settled {i : Nat} {c : QueueCall} (h : s.Tracks) (hn : s.Numbered)
    (call : s.calls[i]? = some c) (hc : c.seq? ≠ some s.requestSeq)
    (r : Except ClientError (Page Ticket)) :
    ({ s with replies := s.replies ++ [(i, QueueReply.page r)] } : QueuePage).Tracks := by
  refine h.other_settled hn (hn.not_latest call hc) rfl rfl (fun rows hrows => ?_) rfl rfl rfl rfl
  exact hrows.imp fun _ _ hs => hs.mono List.prefix_rfl ⟨_, rfl⟩

theorem QueuePage.Tracks.firstPage_settled {i seq : Nat} {current : Filters}
    {r : Except ClientError (Page Ticket)} (h : s.Tracks) (hn : s.Numbered)
    (flying : s.inFlight i = true) (call : s.calls[i]? = some (.firstPage seq current)) :
    ({ s with replies := s.replies ++ [(i, QueueReply.page r)] }.firstPageSettles seq r).Tracks := by
  by_cases hseq : seq = s.requestSeq
  · have head := hn.firsts i current (hseq ▸ call)
    have hi := List.mem_of_mem_head? head
    cases r with
    | error err =>
      simp only [QueuePage.firstPageSettles, hseq, ne_eq, not_true_eq_false, if_false]
      exact .failed hi rfl rfl
    | ok page =>
      simp only [QueuePage.firstPageSettles, hseq, ne_eq, not_true_eq_false, if_false]
      intro hs
      obtain ⟨f, pages, pend, hc, params⟩ :=
        h (hs.before (List.Subset.refl _) (List.subset_append_left _ _))
      exact ⟨f, [page], [], hc.firstPage head flying rfl rfl rfl rfl, params⟩
  · have stale := h.stale_settled hn call (fun hs => hseq (Option.some.inj hs)) r
    cases r <;> simpa only [QueuePage.firstPageSettles, ne_eq, hseq, not_false_eq_true, if_true]
      using stale

theorem QueuePage.Tracks.more_settled {i seq : Nat} {filters : Filters} {nextCursor : Uuid}
    {r : Except ClientError (Page Ticket)} (h : s.Tracks) (hn : s.Numbered)
    (flying : s.inFlight i = true) (call : s.calls[i]? = some (.more seq filters nextCursor)) :
    ({ s with replies := s.replies ++ [(i, QueueReply.page r)] }.moreSettles seq r).Tracks := by
  by_cases hseq : seq = s.requestSeq
  · have hi := hn.mores i filters nextCursor (hseq ▸ call)
    have head : s.latest.head? ≠ some i := fun hhead => by
      obtain ⟨current, hfirst⟩ := hn.first i hhead
      cases Option.some.inj (call.symm.trans hfirst)
    cases r with
    | error err =>
      simp only [QueuePage.moreSettles, hseq, ne_eq, not_true_eq_false, if_false]
      exact .failed hi rfl rfl
    | ok page =>
      simp only [QueuePage.moreSettles, hseq, ne_eq, not_true_eq_false, if_false]
      intro hs
      obtain ⟨f, pages, pend, hc, params⟩ :=
        h (hs.before (List.Subset.refl _) (List.subset_append_left _ _))
      exact ⟨f, pages ++ [page], [], hc.page hn hi head flying rfl rfl rfl rfl, params⟩
  · have stale := h.stale_settled hn call (fun hs => hseq (Option.some.inj hs)) r
    cases r <;> simpa only [QueuePage.moreSettles, ne_eq, hseq, not_false_eq_true, if_true]
      using stale

/-- An assign replaces the row of its ticket, wherever the list came from. -/
theorem QueuePage.ShownAs.updated {i : Nat} {ticketId : Uuid} {body : AssignTicketDto}
    {filters : Filters} {updated : Ticket} {rows tickets : List Ticket}
    (h : List.Forall₂ s.ShownAs rows tickets)
    (call : s.calls[i]? = some (.assign ticketId body filters)) (calls : s'.calls = s.calls)
    (replies : s'.replies = s.replies ++ [(i, .assigned (.ok updated))]) :
    List.Forall₂ s'.ShownAs rows
      (tickets.map fun t => if t.id = updated.id then updated else t) := by
  refine List.forall₂_map_right_iff.mpr (h.imp fun a b hab => ?_)
  split
  next hid =>
    refine .inr ⟨?_, i, ticketId, body, filters, calls ▸ call,
      replies ▸ List.mem_append_right _ (List.mem_singleton_self _)⟩
    rcases hab with rfl | ⟨hab, _⟩
    · exact hid.symm
    · exact hid.symm.trans hab
  next => exact hab.mono (calls ▸ List.prefix_rfl) ⟨_, replies.symm⟩

/-- A conflict restarts the list for the filters of the form, or before those of the effect. -/
theorem QueuePage.Tracks.restarted {filters : Filters} (ordered : s.Ordered)
    (calls : s'.calls = s.calls ++ [.firstPage (s.requestSeq + 1) filters])
    (replies : s'.replies = s.replies) (loading : s'.loading = true)
    (params : s'.filtersEffect = false → buildParams filters none = buildParams s'.filters none) :
    s'.Tracks :=
  fun _ => ⟨filters, [], _, .restarted ordered calls replies loading, params⟩

/-- While a page is shown and no load-more is in flight, nothing of the chain is. -/
theorem QueuePage.Chain.settled {filters : Filters} {pages : List (Page Ticket)} {pend : List Nat}
    (h : s.Chain filters pages pend) (hn : s.Numbered) (hf : s.Flags) (hpages : pages ≠ [])
    (idle : s.loadingMore = false) : pend = [] := by
  rcases pend with _ | ⟨i, rest⟩
  · rfl
  · exfalso
    have flying := h.flying i (by simp)
    obtain ⟨done, hl, hall⟩ := h.answered
    have hi : i ∈ s.latest := by simp [hl]
    obtain ⟨c, call, hseq⟩ := hn.mem i hi
    cases c with
    | assign => cases hseq
    | more seq filters nextCursor =>
      cases hseq
      exact absurd ((hf.more i filters nextCursor ⟨flying, call⟩).1.symm.trans idle) (by simp)
    | firstPage seq current =>
      cases hseq
      have head := hn.firsts i current call
      cases hall with
      | nil => exact hpages rfl
      | @cons d page _ _ hd =>
        rw [hl, List.cons_append, List.head?_cons, Option.some.injEq] at head
        exact (QueuePage.inFlight_iff.mp flying).2 _ hd head

theorem QueuePage.Tracks.more_sent {nextCursor : Uuid} (h : s.Tracks) (hn : s.Numbered)
    (hf : s.Flags) (ran : s.filtersEffect = false) (loaded : s.loading = false)
    (idle : s.loadingMore = false) (cursor : s.nextCursor = some nextCursor)
    (calls : s'.calls = s.calls ++ [.more s.requestSeq s.filters nextCursor])
    (replies : s'.replies = s.replies) (tickets : s'.tickets = s.tickets)
    (same : s'.nextCursor = s.nextCursor) (filters : s'.filters = s.filters) : s'.Tracks := by
  intro hs
  obtain ⟨f, pages, pend, hc, params⟩ := h (hs.before
    (by rw [QueuePage.latest_more calls]; exact List.subset_append_left _ _)
    (by rw [replies]; exact List.Subset.refl _))
  have hpages : pages ≠ [] := fun hnil => by
    exact absurd ((hc.empty hnil).symm.trans loaded) (by simp)
  cases hc.settled hn hf hpages idle
  refine ⟨f, pages, _, hc.more hn hpages (params ran) cursor calls replies tickets same,
    fun _ => ?_⟩
  rw [filters]
  exact params ran

theorem QueuePage.Tracks.assign_sent {ticketId : Uuid} {body : AssignTicketDto}
    (h : s.Tracks) (hn : s.Numbered)
    (calls : s'.calls = s.calls ++ [.assign ticketId body s.filters])
    (replies : s'.replies = s.replies) (tickets : s'.tickets = s.tickets)
    (nextCursor : s'.nextCursor = s.nextCursor) (loading : s'.loading = s.loading)
    (effect : s'.filtersEffect = s.filtersEffect) (filters : s'.filters = s.filters) :
    s'.Tracks := by
  intro hs
  have hlatest := QueuePage.latest_assign calls
  have hreplies : s.replies <+: s'.replies := replies ▸ List.prefix_rfl
  obtain ⟨f, pages, pend, hc, params⟩ :=
    h (hs.before (by rw [hlatest]; exact List.Subset.refl _) hreplies.subset)
  refine ⟨f, pages, pend, hc.kept hn hlatest ⟨_, calls.symm⟩ hreplies (fun i hi hfly => ?_)
    (fun hrows => ?_) nextCursor loading, fun hran => ?_⟩
  · obtain ⟨c, hc, _⟩ := hn.mem i hi
    exact ((QueuePage.flies_sent calls replies hn.replied).mpr (.inl ⟨hfly, hc⟩)).1
  · rw [tickets]
    exact hrows.imp fun _ _ hab => hab.mono ⟨_, calls.symm⟩ hreplies
  · rw [filters]
    exact params (effect.symm.trans hran)

theorem QueuePage.Tracks.assigned_settled {i : Nat} {ticketId : Uuid} {body : AssignTicketDto}
    {filters : Filters} {r : Except ClientError Ticket} (h : s.Tracks) (hn : s.Numbered)
    (flying : s.inFlight i = true) (call : s.calls[i]? = some (.assign ticketId body filters))
    (hok : keepsFilters s (.settle i (.assigned r)) = true) :
    ({ s with replies := s.replies ++ [(i, QueueReply.assigned r)] }.assignSettles filters
      r).Tracks := by
  have hi : i ∉ s.latest := hn.not_latest call (by simp [QueueCall.seq?])
  have hmono : ∀ rows, List.Forall₂ s.ShownAs rows s.tickets →
      List.Forall₂ ({ s with replies := s.replies ++ [(i, QueueReply.assigned r)] } :
        QueuePage).ShownAs rows s.tickets := fun rows hrows =>
    hrows.imp fun _ _ hs => hs.mono List.prefix_rfl ⟨_, rfl⟩
  unfold QueuePage.assignSettles
  split
  next updated =>
    exact h.other_settled hn hi rfl rfl
      (fun rows hrows => QueuePage.ShownAs.updated hrows call rfl rfl) rfl rfl rfl rfl
  next =>
    have ordered : QueuePage.Ordered
        { s with replies := s.replies ++ [(i, .assigned (.error (.api 409)))] } :=
      hn.toOrdered.settled flying rfl rfl rfl
    refine .restarted ordered rfl rfl rfl fun hran => ?_
    have hran : s.filtersEffect = false := hran
    change buildParams filters none = buildParams s.filters none
    simpa [keepsFilters, hran, call] using hok
  next => exact h.other_settled hn hi rfl rfl hmono rfl rfl rfl rfl

theorem QueuePage.Moves.tracks (hm : s.Moves e s') (hok : keepsFilters s e = true) (hf : s.Flags)
    (hn : s.Numbered) (h : s.Tracks) : s'.Tracks := by
  cases hm with
  | form effect =>
    intro hs
    obtain ⟨f, pages, pend, hc, params⟩ := h hs
    refine ⟨f, pages, pend, ⟨hc.answered, hc.flying, hc.one, hc.asked, hc.rows, hc.nextCursor,
      hc.empty⟩, fun hran => ?_⟩
    rcases effect with ⟨rfl, rfl⟩ | rfl
    · exact params hran
    · cases hran
  | restart => exact .restarted (s := s) hn.toOrdered rfl rfl rfl fun _ => rfl
  | more ran loaded idle cursor =>
    exact h.more_sent hn hf ran loaded idle cursor rfl rfl rfl rfl rfl
  | assign => exact h.assign_sent hn rfl rfl rfl rfl rfl rfl rfl
  | firstPage flying call => exact h.firstPage_settled hn flying call
  | page flying call => exact h.more_settled hn flying call
  | assigned flying call => exact h.assigned_settled hn flying call hok

end Events

section Runs

variable {user : Option User} {ok : QueuePage → QueueEvent → Bool} {s : QueuePage}

theorem QueuePage.mounted_numbered (user : Option User) : (QueuePage.mounted user).Numbered where
  toOrdered := (QueuePage.mounted_flags user).toOrdered
  mem := by simp [QueuePage.latest, mounted]
  first := by simp [QueuePage.latest, mounted]
  firsts := by simp [mounted]
  mores := by simp [mounted]
  started := by simp [mounted]

theorem QueuePage.mounted_tracks (user : Option User) : (QueuePage.mounted user).Tracks := fun _ =>
  ⟨INITIAL_FILTERS, [], [], ⟨⟨[], rfl, .nil⟩, by simp, by simp, rfl, fun h => absurd rfl h,
    fun h => absurd rfl h, fun _ => rfl⟩, fun h => nomatch h⟩

theorem QueuePage.runs_numbered (h : Runs QueuePage.next ok (QueuePage.mounted user) s) :
    s.Flags ∧ s.Numbered := by
  refine h.invariant (I := fun s => s.Flags ∧ s.Numbered)
    ⟨QueuePage.mounted_flags user, QueuePage.mounted_numbered user⟩ ?_
  rintro s e s' ⟨hf, hn⟩ _ hs
  have hm := QueuePage.next_moves hs
  have hf' := hm.flags hf
  exact ⟨hf', hm.numbered hf'.toOrdered hn⟩

theorem QueuePage.runs_tracks
    (h : Runs QueuePage.next keepsFilters (QueuePage.mounted user) s) : s.Tracks := by
  induction h with
  | start => exact QueuePage.mounted_tracks user
  | next hr hok hs ih =>
    obtain ⟨hf, hn⟩ := QueuePage.runs_numbered hr
    exact (QueuePage.next_moves hs).tracks hok hf hn ih

end Runs

/-- In every run whose conflicts come with the filters of the form, a page at rest, none of whose
latest requests failed, shows a chain of pages for the filters of the form. -/
theorem QueuePage.idle_shows (user : Option User) (s : QueuePage)
    (run : Runs QueuePage.next keepsFilters (QueuePage.mounted user) s) (idle : s.Idle)
    (succeeded : s.Succeeded) : ∃ pages, s.Shows pages := by
  obtain ⟨f, pages, pend, hc, params⟩ := QueuePage.runs_tracks run succeeded
  have hn := (QueuePage.runs_numbered run).2
  obtain ⟨done, hl, hall⟩ := hc.answered
  have hpend : pend = [] := by
    refine List.eq_nil_iff_forall_not_mem.mpr fun i hi => ?_
    exact absurd ((hc.flying i hi).symm.trans (idle.2 i)) (by simp)
  rw [hpend, List.append_nil] at hl
  have hpages : pages ≠ [] := by
    rintro rfl
    exact hn.started idle.1 (hl.trans (List.forall₂_nil_right_iff.mp hall))
  refine ⟨pages, hl ▸ hall, ?_, hc.rows hpages, hc.nextCursor hpages⟩
  rw [hc.asked, asks_dropLast, hl, hall.length_eq]
  exact List.map_congr_left fun cursor _ =>
    congrArg some (buildParams_congr (params idle.1) cursor)

open Sample in
theorem loads_shows : ∃ pages, ((visit loads).get rfl).Shows pages := by
  have hreplay : Reactive.replay QueuePage.next keepsFilters loads (QueuePage.mounted (some agente)) =
    some ((visit loads).get rfl) := rfl
  have hreplies : ((visit loads).get rfl).replies =
    [(0, .page (.ok ⟨[listed 10 1], some 10⟩))] := rfl
  refine QueuePage.idle_shows (some agente) _ (Runs.of_replay hreplay .start)
    (idle_of_replies rfl (by decide)) fun i _ r hr => ?_
  rw [hreplies] at hr
  cases List.mem_singleton.mp hr
  exact ⟨_, rfl⟩

namespace Sample

/-- The filters change between a click and its conflict. -/
def conflictsAfterFilter : List QueueEvent :=
  loads ++ [.assignMe (listed 10 1), .updateFilter (.priority (some .critica)), .runEffect,
            .settle 2 (.page (.ok ⟨[], none⟩)), .settle 1 (.assigned (.error (.api 409))),
            .settle 3 (.page (.ok ⟨[listed 10 1], none⟩))]

end Sample

open Sample in
/-- The form asks for the critical tickets; the list is that of all of them. -/
theorem old_filters_shown : ¬ ∀ (user : Option User) (s : QueuePage),
    Runs QueuePage.next anyEvent (QueuePage.mounted user) s → s.Idle → s.Succeeded →
      ∃ pages, s.Shows pages := by
  intro hall
  let s := (visit conflictsAfterFilter).get rfl
  have hlatest : s.latest = [3] := rfl
  have hreplies : s.replies = [(0, .page (.ok ⟨[listed 10 1], some 10⟩)),
    (2, .page (.ok ⟨[], none⟩)), (1, .assigned (.error (.api 409))),
    (3, .page (.ok ⟨[listed 10 1], none⟩))] := rfl
  have succeeded : s.Succeeded := by
    intro i hi r hr
    cases List.mem_singleton.mp (hlatest ▸ hi)
    rw [hreplies] at hr
    have hr : r = .ok ⟨[listed 10 1], none⟩ := by simpa using hr
    exact ⟨_, hr⟩
  obtain ⟨pages, hshows⟩ := hall _ s (@visit_run conflictsAfterFilter rfl)
    (idle_of_replies rfl (by decide)) succeeded
  have hasked := hshows.asked
  have hfirst : s.paramsAt 3 = some (buildParams INITIAL_FILTERS none) := rfl
  rw [hlatest, List.map_singleton, hfirst] at hasked
  cases pages with
  | nil => simp [asks] at hasked
  | cons page rest =>
    simp only [asks, List.map_cons, List.dropLast_cons_cons, List.map_cons,
      List.cons.injEq, Option.some.injEq] at hasked
    exact absurd hasked.1 (by decide)

end TicketSystem
