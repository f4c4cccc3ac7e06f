import Mathlib.Data.Set.Finite.Lattice
import Mathlib.Data.Set.Finite.List
import TicketSystem.OwnData

namespace TicketSystem

open Relational Interleaved

section Besides

variable {user : User} {w : World}

def World.besides (w : World) (user : User) (t : Option Ticket) (e : Option TicketEvent)
    (ht : ∀ a ∈ w.ownTickets user, ∀ b ∈ t, ¬ a.clash b)
    (he : ∀ a ∈ w.ownEvents user, ∀ b ∈ e, ¬ a.clash b) : World :=
  { w with
    tickets := ⟨w.ownTickets user ++ t.toList, List.pairwise_append.mpr
      ⟨w.tickets.unique.filter _, by cases t <;> simp, by simpa using ht⟩⟩
    events := ⟨w.ownEvents user ++ e.toList, List.pairwise_append.mpr
      ⟨w.events.unique.filter _, by cases e <;> simp, by simpa using he⟩⟩
    attachments := w.attachments.filter fun a => a.ticketId.any (w.Owns user) }

variable {t : Option Ticket} {e : Option TicketEvent}
  {ht : ∀ a ∈ w.ownTickets user, ∀ b ∈ t, ¬ a.clash b}
  {he : ∀ a ∈ w.ownEvents user, ∀ b ∈ e, ¬ a.clash b}

theorem besides_ownTickets (foreign : ∀ b ∈ t, b.reporterId ≠ user.id) :
    (w.besides user t e ht he).ownTickets user = w.ownTickets user := by
  have hnone : t.toList.filter (fun b => b.reporterId == user.id) = [] := by
    refine List.filter_eq_nil_iff.mpr fun b hb => ?_
    simpa using foreign b (Option.mem_toList.mp hb)
  simp only [World.besides, World.ownTickets, List.filter_append, List.filter_filter,
    Bool.and_self, hnone, List.append_nil]

theorem besides_owns (foreign : ∀ b ∈ t, b.reporterId ≠ user.id) (id : Uuid) :
    (w.besides user t e ht he).Owns user id = w.Owns user id := by
  rw [Bool.eq_iff_iff, World.owns_iff, World.owns_iff, besides_ownTickets foreign]

theorem besides_agrees (foreign : ∀ b ∈ t, b.reporterId ≠ user.id)
    (foreign' : ∀ b ∈ e, ¬ w.Owns user b.ticketId = true) :
    AgreeFor user w (w.besides user t e ht he) where
  users := rfl
  ilike := rfl
  tickets := by rw [besides_ownTickets foreign]
  events := by
    have hnone : e.toList.filter (fun b => w.Owns user b.ticketId) = [] := by
      refine List.filter_eq_nil_iff.mpr fun b hb => ?_
      exact foreign' b (Option.mem_toList.mp hb)
    have hevents : (w.besides user t e ht he).ownEvents user = w.ownEvents user := by
      simp only [World.ownEvents, besides_owns foreign]
      simp only [World.besides, World.ownEvents, List.filter_append, List.filter_filter,
        Bool.and_self, hnone, List.append_nil]
    rw [hevents]
  attachments := by
    have howns : (w.besides user t e ht he).Owns user = w.Owns user :=
      funext (besides_owns foreign)
    rw [World.ownAttachments, howns]
    exact (filter_of_imp fun _ _ h => h).symm

theorem besides_referential (hw : w.Referential)
    (reporter : ∀ b ∈ t, (∃ u ∈ w.users.rows, u.id = b.reporterId) ∧ b.assigneeId = none)
    (event : ∀ b ∈ e, (∃ a ∈ t, a.id = b.ticketId) ∧ ∃ u ∈ w.users.rows, u.id = b.actorId) :
    (w.besides user t e ht he).Referential where
  reporter b hb := by
    rcases List.mem_append.mp hb with hb | hb
    · exact hw.reporter b (World.mem_ownTickets.mp hb).1
    · exact (reporter b (Option.mem_toList.mp hb)).1
  assignee b hb id hid := by
    rcases List.mem_append.mp hb with hb | hb
    · exact hw.assignee b (World.mem_ownTickets.mp hb).1 id hid
    · cases (reporter b (Option.mem_toList.mp hb)).2.symm.trans hid
  event b hb := by
    rcases List.mem_append.mp hb with hb | hb
    · obtain ⟨a, ha, hid⟩ := World.owns_iff.mp (World.mem_ownEvents.mp hb).2
      exact ⟨a, List.mem_append_left _ ha, hid⟩
    · obtain ⟨a, ha, hid⟩ := (event b (Option.mem_toList.mp hb)).1
      exact ⟨a, List.mem_append_right _ (Option.mem_toList.mpr ha), hid⟩
  actor b hb := by
    rcases List.mem_append.mp hb with hb | hb
    · exact hw.actor b (World.mem_ownEvents.mp hb).1
    · exact (event b (Option.mem_toList.mp hb)).2
  uploader b hb := hw.uploader b (List.mem_of_mem_filter hb)
  attachment b hb id hid := by
    have hown := (List.mem_filter.mp hb).2
    rw [hid, Option.any_some] at hown
    obtain ⟨a, ha, hid⟩ := World.owns_iff.mp hown
    exact ⟨a, List.mem_append_left _ ha, hid⟩

end Besides

theorem exists_above {ι : Type} (f : ι → Nat) (l : List ι) : ∃ n, ∀ x ∈ l, f x < n := by
  obtain ⟨n, hn⟩ := (l.finite_toSet.image f).bddAbove
  exact ⟨n + 1, fun x hx => Nat.lt_succ_of_le (hn ⟨x, hx, rfl⟩)⟩

theorem exists_before {ι : Type} (f : ι → Int) (l : List ι) : ∃ n, ∀ x ∈ l, n < f x := by
  obtain ⟨n, hn⟩ := (l.finite_toSet.image f).bddBelow
  exact ⟨n - 1, fun x hx => by have := hn ⟨x, hx, rfl⟩; omega⟩

theorem exists_fresh_number (l : List Ticket) : ∃ s, ∀ t ∈ l, t.ticketNumber ≠ s := by
  obtain ⟨n, hn⟩ := exists_above (fun t => t.ticketNumber.length) l
  refine ⟨String.ofList (List.replicate n '0'), fun t ht heq => ?_⟩
  have hlt := hn t ht
  rw [heq] at hlt
  simp at hlt

/-- A foreign ticket ahead of everything in the queue. -/
def foreignTicket (id reporterId : Uuid) (ticketNumber : String) (createdAt : Time) : Ticket where
  id := id
  ticketNumber := ticketNumber
  type := .incidente
  title := "Ajeno"
  description := "De otra persona"
  severity := 1
  impact := 1
  priority := .critica
  reporterId := reporterId
  slaDueAt := none
  idempotencyKey := none
  createdAt := createdAt

def foreignEvent (id ticketId actorId : Uuid) (createdAt : Time) : TicketEvent where
  id := id
  ticketId := ticketId
  actorId := actorId
  eventType := .comentario
  payload := .comentario actorId "Ajeno"
  createdAt := createdAt

theorem foreignTicket_clash {a : Ticket} {id reporterId : Uuid} {number : String} {t : Time}
    (hid : a.id ≠ id) (hnumber : a.ticketNumber ≠ number) :
    ¬ a.clash (foreignTicket id reporterId number t) := by
  rintro (h | h | ⟨hsome, h⟩)
  · exact hid h
  · exact hnumber h
  · rw [h] at hsome
    cases hsome

section Probe

variable {user : User} {os : Nat → Oracle} {w : World}

/-- Over the user's tickets alone, and beside a foreign one that the cursor names, two pages
of different length. -/
theorem queue_probe (hw : w.Referential) {v : User} (hv : v ∈ w.users.rows) (hvu : v.id ≠ user.id)
    {f : TicketListWhere} (hf : f.reporterId = some user.id) {c : Uuid}
    (hown : ¬ ∃ t ∈ w.ownTickets user, t.id = c)
    (hmany : 2 ≤ w.tickets.rows.countP (f.matches w.ilike)) {limit : Nat} (hlimit : 1 ≤ limit) :
    ∃ w₁ w₂, w₁.Referential ∧ AgreeFor user w w₁ ∧ w₂.Referential ∧ AgreeFor user w w₂ ∧
      (w₁.queuePage f (some c) limit).length ≠ (w₂.queuePage f (some c) limit).length := by
  obtain ⟨number, hnumber⟩ := exists_fresh_number (w.ownTickets user)
  obtain ⟨first, hfirst⟩ := exists_before Ticket.createdAt (w.ownTickets user)
  have hfresh : ∀ a ∈ w.ownTickets user, ∀ b ∈ some (foreignTicket c v.id number first),
      ¬ a.clash b := by
    rintro a ha _ ⟨⟩
    exact foreignTicket_clash (fun hid => hown ⟨a, ha, hid⟩) (hnumber a ha)
  have hagrees : AgreeFor user w (w.besides user none none (by simp) (by simp)) :=
    besides_agrees (by simp) (by simp)
  have hagrees' : AgreeFor user w (w.besides user (some (foreignTicket c v.id number first)) none
      hfresh (by simp)) :=
    besides_agrees (by rintro _ ⟨⟩; exact hvu) (by simp)
  refine ⟨_, _, besides_referential hw (by simp) (by simp), hagrees,
    besides_referential hw (by rintro _ ⟨⟩; exact ⟨⟨v, hv, rfl⟩, rfl⟩) (by simp), hagrees', ?_⟩
  have hmatches : ∀ t, f.matches w.ilike t = true → t.reporterId = user.id :=
    fun _ => matches_reporter hf
  have hcount : 2 ≤ (w.ownTickets user).countP (f.matches w.ilike) := by
    rw [countP_of_imp fun t _ ht => beq_iff_eq.mpr (hmatches t ht)] at hmany
    exact hmany
  have hforeign : f.matches w.ilike (foreignTicket c v.id number first) = false :=
    Bool.eq_false_iff.mpr fun hm => hvu (hmatches _ hm)
  have hbefore : ∀ x ∈ w.ownTickets user, f.matches w.ilike x = true →
      (foreignTicket c v.id number first).queueLe x = true := by
    intro x hx _
    have hlt : @LT.lt Int _ first x.createdAt := hfirst x hx
    refine queueLe_iff.mpr ((Nat.zero_le x.priority.rank).lt_or_eq.imp_right fun hrank => ?_)
    exact ⟨hrank, .inl hlt⟩
  have htells := findMany_tells (foreignTicket c v.id number first) (beq_self_eq_true c) hforeign
    (List.find?_eq_none.mpr fun t ht hid => hown ⟨t, ht, beq_iff_eq.mp hid⟩) hbefore hcount hlimit
  simp only [World.queuePage, World.besides, Option.toList_none, List.append_nil]
  exact htells

theorem history_probe (hw : w.Referential) {v : User} (hv : v ∈ w.users.rows)
    (hvu : v.id ≠ user.id) {id c : Uuid} (hid : w.Owns user id = true)
    (hown : ¬ ∃ e ∈ w.ownEvents user, e.id = c)
    (hmany : 2 ≤ w.events.rows.countP (·.ticketId == id)) {limit : Nat} (hlimit : 1 ≤ limit) :
    ∃ w₁ w₂, w₁.Referential ∧ AgreeFor user w w₁ ∧ w₂.Referential ∧ AgreeFor user w w₂ ∧
      (w₁.historyPage id (some c) limit).length ≠ (w₂.historyPage id (some c) limit).length := by
  obtain ⟨number, hnumber⟩ := exists_fresh_number (w.ownTickets user)
  obtain ⟨other, hother⟩ := exists_above Ticket.id (w.ownTickets user)
  obtain ⟨first, hfirst⟩ := exists_before TicketEvent.createdAt (w.ownEvents user)
  have hfresh : ∀ a ∈ w.ownTickets user, ∀ b ∈ some (foreignTicket other v.id number first),
      ¬ a.clash b := by
    rintro a ha _ ⟨⟩
    exact foreignTicket_clash (hother a ha).ne (hnumber a ha)
  have hfresh' : ∀ a ∈ w.ownEvents user, ∀ b ∈ some (foreignEvent c other v.id first),
      ¬ a.clash b := by
    rintro a ha _ ⟨⟩ hclash
    exact hown ⟨a, ha, hclash⟩
  have hforeign : ¬ w.Owns user other = true := by
    intro h
    obtain ⟨t, ht, heq⟩ := World.owns_iff.mp h
    exact (hother t ht).ne heq
  have hagrees : AgreeFor user w (w.besides user none none (by simp) (by simp)) :=
    besides_agrees (by simp) (by simp)
  have hagrees' : AgreeFor user w (w.besides user (some (foreignTicket other v.id number first))
      (some (foreignEvent c other v.id first)) hfresh hfresh') :=
    besides_agrees (by rintro _ ⟨⟩; exact hvu) (by rintro _ ⟨⟩; exact hforeign)
  refine ⟨_, _, besides_referential hw (by simp) (by simp), hagrees, besides_referential hw
    (by rintro _ ⟨⟩; exact ⟨⟨v, hv, rfl⟩, rfl⟩) ?_, hagrees', ?_⟩
  · rintro _ ⟨⟩
    exact ⟨⟨_, rfl, rfl⟩, v, hv, rfl⟩
  have hcount : 2 ≤ (w.ownEvents user).countP (·.ticketId == id) := by
    rw [countP_of_imp fun e _ he => (beq_iff_eq.mp he).symm ▸ hid] at hmany
    exact hmany
  have hother : (other == id) = false :=
    Bool.eq_false_iff.mpr fun heq => hforeign (beq_iff_eq.mp heq ▸ hid)
  have hbefore : ∀ x ∈ w.ownEvents user, (x.ticketId == id) = true →
      (foreignEvent c other v.id first).historyLe x = true := by
    intro x hx _
    have hlt : @LT.lt Int _ first x.createdAt := hfirst x hx
    exact historyLe_iff.mpr (.inl hlt)
  have htells := findMany_tells (foreignEvent c other v.id first) (beq_self_eq_true c) hother
    (List.find?_eq_none.mpr fun e he heq => hown ⟨e, he, beq_iff_eq.mp heq⟩) hbefore hcount hlimit
  simp only [World.historyPage, World.besides, Option.toList_none, List.append_nil]
  exact htells

theorem limit_pos {limit : Option Nat} (h : ∀ n, limit = some n → 1 ≤ n ∧ n ≤ 100) :
    1 ≤ limit.getD DEFAULT_LIMIT := by
  cases limit with
  | none => decide
  | some n => exact (h n rfl).1

theorem list_sealed (hf : ∀ n, (os n).fault = none) (hw : w.Referential)
    (hrole : user.role = .reportante) {query : ListTicketsQuery}
    (h : (OwnRead.list query).Sealed user os w) : (OwnRead.list query).Secluded user w := by
  by_cases only : ∀ v ∈ w.users.rows, v.id = user.id
  · exact .inl only
  refine .inr fun f c hwhere hq hcursor => ?_
  by_contra hno
  obtain ⟨hown, hcount⟩ := not_or.mp hno
  push Not at only
  obtain ⟨v, hv, hvu⟩ := only
  obtain ⟨w₁, w₂, hw₁, h₁, hw₂, h₂, hne⟩ := queue_probe hw hv hvu
    (listWhere_reporter hrole hwhere) hown (not_lt.mp hcount) (limit_pos query.limitRange)
  have hout : ∀ u : World, (OwnRead.list query).outcome user os u =
      .ok (.page (toPage Ticket.id (query.limit.getD DEFAULT_LIMIT)
        (u.queuePage f (some c) (query.limit.getD DEFAULT_LIMIT)))) := by
    intro u
    rw [outcome_list, list_alone hf, hwhere, hcursor]
    simp only [bind, Except.bind, hq, if_true]
    rfl
  have hsame := (h w₁ hw₁ h₁).trans (h w₂ hw₂ h₂).symm
  rw [hout, hout, Except.ok.injEq, Response.page.injEq] at hsame
  exact hne (congrArg (fun p => p.items.length) hsame)

theorem events_sealed (hf : ∀ n, (os n).fault = none) (hw : w.Referential) {id : Uuid}
    {query : ListEventsQuery} (h : (OwnRead.events id query).Sealed user os w) :
    (OwnRead.events id query).Secluded user w := by
  by_cases only : ∀ v ∈ w.users.rows, v.id = user.id
  · exact .inl only
  refine .inr fun c hcursor hid => ?_
  by_contra hno
  obtain ⟨hown, hcount⟩ := not_or.mp hno
  push Not at only
  obtain ⟨v, hv, hvu⟩ := only
  obtain ⟨w₁, w₂, hw₁, h₁, hw₂, h₂, hne⟩ := history_probe hw hv hvu hid hown (not_lt.mp hcount)
    (limit_pos query.limitRange)
  obtain ⟨t, ht, rfl⟩ := World.owns_iff.mp hid
  obtain ⟨hmem, howner⟩ := World.mem_ownTickets.mp ht
  have hout : ∀ u : World, AgreeFor user w u → (OwnRead.events t.id query).outcome user os u =
      .ok (.eventPage (toPage (fun x => x.event.id) (query.limit.getD DEFAULT_LIMIT)
        ((u.historyPage t.id (some c) (query.limit.getD DEFAULT_LIMIT)).map
          (TicketEvent.withActor u.users)))) := by
    intro u hu
    rw [outcome_events, events_visible hf query (hu.ticket? (World.ticket?_of_mem hmem) howner)
      (requireOwnTicket_own howner),
      hcursor]
    rfl
  have hsame := (h w₁ hw₁ h₁).trans (h w₂ hw₂ h₂).symm
  rw [hout w₁ h₁, hout w₂ h₂, Except.ok.injEq, Response.eventPage.injEq] at hsame
  have hlengths := congrArg (fun p => p.items.length) hsame
  simp only [toPage, List.length_map] at hlengths
  exact hne hlengths

/-- A read of a reportante depends on his own data only exactly if it is secluded. -/
theorem sealed_iff_secluded (hrole : user.role = .reportante) (hf : ∀ n, (os n).fault = none)
    (hw : w.Referential) (x : OwnRead) : x.Sealed user os w ↔ x.Secluded user w := by
  refine ⟨fun h => ?_, fun hx => hx.sealed hrole hf hw⟩
  cases x with
  | list query => exact list_sealed hf hw hrole h
  | getForUser id => trivial
  | events id query => exact events_sealed hf hw h

end Probe

namespace Sample

/-- Two tickets of one reportante. -/
def ownOnly : World :=
  { world with tickets := ⟨[foreignTicket 11 1 "TKT-0002" 20, foreignTicket 12 1 "TKT-0003" 30],
      by decide⟩ }

/-- The same, with a ticket of somebody else's before them. -/
def withForeign : World :=
  { world with tickets := ⟨[foreignTicket 10 2 "TKT-0001" 10, foreignTicket 11 1 "TKT-0002" 20,
      foreignTicket 12 1 "TKT-0003" 30], by decide⟩ }

def after (cursor : String) : ListTicketsQuery where
  cursor := some cursor
  assigneeIdLength := by simp
  severityRange := by simp
  qLength := by simp
  limitRange := by simp

theorem ownOnly_referential : ownOnly.Referential :=
  ⟨by decide, by decide, by decide, by decide, by decide, by decide⟩

theorem withForeign_referential : withForeign.Referential :=
  ⟨by decide, by decide, by decide, by decide, by decide, by decide⟩

end Sample

open Sample in
theorem sealed_after_own :
    (OwnRead.list (after "00000000-0000-0000-0000-00000000000b")).Sealed reportante
      (fun n => { uuid := n }) ownOnly := by
  refine (sealed_iff_secluded rfl (fun _ => rfl) ownOnly_referential _).mpr (.inr ?_)
  intro f c _ _ hcursor
  have hc : cursorArg (some "00000000-0000-0000-0000-00000000000b") = .ok (some 11) := by
    decide +kernel
  cases hcursor.symm.trans hc
  exact .inl (by decide)

open Sample in
/-- Two databases that agree on the user's tickets, and a foreign cursor tells them apart. -/
theorem foreign_cursor_tells :
    ¬ ∀ (user : User) (os : Nat → Oracle) (w : World) (x : OwnRead), user.role = .reportante →
      (∀ n, (os n).fault = none) → w.Referential → x.Sealed user os w := by
  intro hall
  have hsame := hall reportante (fun n => { uuid := n }) ownOnly
    (.list (after "00000000-0000-0000-0000-00000000000a")) rfl (fun _ => rfl) ownOnly_referential
    withForeign withForeign_referential ⟨rfl, rfl, .refl _, .refl _, rfl⟩
  have hcursor : cursorArg (some "00000000-0000-0000-0000-00000000000a") = .ok (some 10) := by
    decide +kernel
  have hout : ∀ w : World, (OwnRead.list (after "00000000-0000-0000-0000-00000000000a")).outcome
      reportante (fun n => { uuid := n }) w =
        .ok (.page (toPage Ticket.id 20
          (w.queuePage { reporterId := some 1 } (some 10) 20))) := by
    intro w
    rw [outcome_list, list_alone (fun _ => rfl)]
    simp only [after, hcursor]
    rfl
  have hempty : ownOnly.queuePage { reporterId := some 1 } (some 10) 20 = [] :=
    findMany_missing (by decide) 1 20
  have hlength : (withForeign.queuePage { reporterId := some 1 } (some 10) 20).length = 1 := by
    refine (findMany_before (foreignTicket 10 2 "TKT-0001" 10) rfl ?_ 1 20).trans rfl
    decide
  rw [hout, hout, Except.ok.injEq, Response.page.injEq, hempty] at hsame
  have hlengths := congrArg (fun p => p.items.length) hsame
  simp only [toPage, hlength, List.length_nil] at hlengths
  cases hlengths

end TicketSystem
