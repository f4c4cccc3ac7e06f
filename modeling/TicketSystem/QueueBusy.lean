import TicketSystem.Lib.Machine
import TicketSystem.Lib.Pool
import TicketSystem.QueuePage
import TicketSystem.Server

namespace TicketSystem

open Interleaved Reactive

/-- What an event of the page can do: change the form, restart the list with some filters, send a
load-more or an assign, or settle a request in flight. -/
inductive QueuePage.Moves (s : QueuePage) : QueueEvent → QueuePage → Prop
  | form {e : QueueEvent} {filters : Filters} {qInput : String} {due : Bool}
      (effect : filters = s.filters ∧ due = s.filtersEffect ∨ due = true)
      (restarts : e ≠ .runEffect) (settles : ∀ i r, e ≠ .settle i r) :
      Moves s e { s with filters := filters, qInput := qInput, filtersEffect := due }
  | restart (due : s.filtersEffect = true) :
      Moves s .runEffect ({ s with filtersEffect := false }.fetchFirstPage s.filters)
  | more {nextCursor : Uuid} (ran : s.filtersEffect = false) (loaded : s.loading = false)
      (idle : s.loadingMore = false) (cursor : s.nextCursor = some nextCursor) :
      Moves s .loadMore { s with loadingMore := true, error := none,
                                 calls := s.calls ++ [.more s.requestSeq s.filters nextCursor] }
  | assign {ticket : Ticket} {user : User} (ran : s.filtersEffect = false)
      (shown : ticket ∈ s.tickets) :
      Moves s (.assignMe ticket)
        { s with assigningId := some ticket.id, error := none, notice := none,
                 calls := s.calls ++ [.assign ticket.id ⟨user.id, ticket.version⟩ s.filters] }
  | firstPage {i seq : Nat} {current : Filters} {r : Except ClientError (Page Ticket)}
      (flying : s.inFlight i = true) (call : s.calls[i]? = some (.firstPage seq current)) :
      Moves s (.settle i (.page r))
        ({ s with replies := s.replies ++ [(i, QueueReply.page r)] }.firstPageSettles seq r)
  | page {i seq : Nat} {filters : Filters} {nextCursor : Uuid}
      {r : Except ClientError (Page Ticket)}
      (flying : s.inFlight i = true) (call : s.calls[i]? = some (.more seq filters nextCursor)) :
      Moves s (.settle i (.page r))
        ({ s with replies := s.replies ++ [(i, QueueReply.page r)] }.moreSettles seq r)
  | assigned {i : Nat} {ticketId : Uuid} {body : AssignTicketDto} {filters : Filters}
      {r : Except ClientError Ticket} (flying : s.inFlight i = true)
      (call : s.calls[i]? = some (.assign ticketId body filters)) :
      Moves s (.settle i (.assigned r))
        ({ s with replies := s.replies ++ [(i, QueueReply.assigned r)] }.assignSettles filters r)

theorem QueuePage.loadMore_eq {s : QueuePage} {nextCursor : Uuid}
    (h : s.nextCursor = some nextCursor) :
    s.loadMore = { s with loadingMore := true, error := none,
                          calls := s.calls ++ [.more s.requestSeq s.filters nextCursor] } := by
  unfold QueuePage.loadMore
  rw [h]

theorem QueuePage.handleAssignMe_eq {s : QueuePage} {user : User} (h : s.user = some user)
    (ticket : Ticket) : s.handleAssignMe ticket =
      { s with assigningId := some ticket.id, error := none, notice := none,
               calls := s.calls ++ [.assign ticket.id ⟨user.id, ticket.version⟩ s.filters] } := by
  unfold QueuePage.handleAssignMe
  rw [h]

theorem QueuePage.next_moves {s s' : QueuePage} {e : QueueEvent} (h : s.next e = some s') :
    s.Moves e s' := by
  cases e with
  | updateFilter change =>
    simp only [QueuePage.next] at h
    split at h
    next => cases h
    next => cases Option.some.inj h; exact .form (.inr rfl) (by simp) (by simp)
  | search text =>
    simp only [QueuePage.next] at h
    split at h
    next => cases h
    next => cases Option.some.inj h; exact .form (.inl ⟨rfl, rfl⟩) (by simp) (by simp)
  | debounced =>
    simp only [QueuePage.next] at h
    split at h
    next => cases Option.some.inj h; exact .form (.inl ⟨rfl, rfl⟩) (by simp) (by simp)
    next => cases Option.some.inj h; exact .form (.inr rfl) (by simp) (by simp)
  | clearFilters =>
    simp only [QueuePage.next] at h
    split at h
    next => cases h
    next => cases Option.some.inj h; exact .form (.inr rfl) (by simp) (by simp)
  | runEffect =>
    simp only [QueuePage.next] at h
    split at h
    next due => cases Option.some.inj h; exact .restart due
    next => cases h
  | loadMore =>
    simp only [QueuePage.next] at h
    split at h
    next => cases h
    next hno =>
      simp only [QueuePage.loadMoreShown, QueuePage.loadMoreEnabled, Bool.or_eq_true,
        Bool.not_eq_true', not_or, Bool.not_eq_true, Bool.not_eq_false] at hno
      obtain ⟨⟨ran, shown⟩, idle⟩ := hno
      simp only [Bool.and_eq_true, Bool.not_eq_true'] at shown
      obtain ⟨nextCursor, cursor⟩ := Option.isSome_iff_exists.mp shown.2
      rw [QueuePage.loadMore_eq cursor] at h
      cases Option.some.inj h
      exact .more ran shown.1.1 idle cursor
  | assignMe ticket =>
    simp only [QueuePage.next] at h
    split at h
    next => cases h
    next hno =>
      simp only [QueuePage.assignMeEnabled, QueuePage.canAssign, Bool.or_eq_true,
        Bool.not_eq_true', not_or, Bool.not_eq_true, Bool.not_eq_false, Bool.and_eq_true,
        List.contains_iff_mem] at hno
      obtain ⟨ran, ⟨⟨⟨staff, _⟩, shown⟩, _⟩, _⟩ := hno
      obtain ⟨user, huser, _⟩ := (Option.any_eq_true _ _).mp staff
      rw [QueuePage.handleAssignMe_eq huser] at h
      cases Option.some.inj h
      exact .assign ran shown
  | settle i reply =>
    simp only [QueuePage.next] at h
    split at h
    next flying =>
      split at h
      next call => cases Option.some.inj h; exact .firstPage flying call
      next call => cases Option.some.inj h; exact .page flying call
      next call => cases Option.some.inj h; exact .assigned flying call
      next => cases h
    next => cases h

/-- Request `i` is this call, and it has not settled yet. -/
def QueuePage.Flies (s : QueuePage) (i : Nat) (c : QueueCall) : Prop :=
  s.inFlight i = true ∧ s.calls[i]? = some c

theorem QueuePage.inFlight_iff {s : QueuePage} {i : Nat} :
    s.inFlight i = true ↔ i < s.calls.length ∧ ∀ a ∈ s.replies, a.1 ≠ i := by
  simp [QueuePage.inFlight]

section Flights

variable {s s' : QueuePage} {i j : Nat} {c x : QueueCall}

theorem QueuePage.flies_sent (calls : s'.calls = s.calls ++ [c]) (replies : s'.replies = s.replies)
    (replied : ∀ a ∈ s.replies, a.1 < s.calls.length) :
    s'.Flies i x ↔ s.Flies i x ∨ i = s.calls.length ∧ x = c := by
  simp only [QueuePage.Flies, QueuePage.inFlight_iff, calls, replies, List.length_append,
    List.length_singleton]
  constructor
  · rintro ⟨⟨_, hno⟩, hx⟩
    rcases getElem?_concat_cases hx with hx | hx
    · exact .inl ⟨⟨(List.getElem?_eq_some_iff.mp hx).1, hno⟩, hx⟩
    · exact .inr hx
  · rintro (⟨⟨hi, hno⟩, hx⟩ | ⟨rfl, rfl⟩)
    · exact ⟨⟨by omega, hno⟩, by rw [List.getElem?_append_left hi]; exact hx⟩
    · refine ⟨⟨by omega, fun a ha => ?_⟩, List.getElem?_concat_length⟩
      have := replied a ha
      omega

theorem QueuePage.flies_settled {r : QueueReply} (calls : s'.calls = s.calls)
    (replies : s'.replies = s.replies ++ [(i, r)]) :
    s'.Flies j x ↔ s.Flies j x ∧ j ≠ i := by
  simp only [QueuePage.Flies, QueuePage.inFlight_iff, calls, replies, List.forall_mem_append,
    List.forall_mem_singleton]
  constructor
  · rintro ⟨⟨hj, hno, hij⟩, hx⟩
    exact ⟨⟨⟨hj, hno⟩, hx⟩, fun h => hij h.symm⟩
  · rintro ⟨⟨⟨hj, hno⟩, hx⟩, hij⟩
    exact ⟨⟨hj, hno, fun h => hij h.symm⟩, hx⟩

end Flights

def QueueCall.seq? : QueueCall → Option Nat
  | .firstPage seq _ => some seq
  | .more seq _ _ => some seq
  | .assign _ _ _ => none

/-- Replies are to requests that were sent, and no request is ahead of the sequence number. -/
structure QueuePage.Ordered (s : QueuePage) : Prop where
  replied : ∀ a ∈ s.replies, a.1 < s.calls.length
  seqs : ∀ c ∈ s.calls, ∀ n, c.seq? = some n → n ≤ s.requestSeq

/-- What ties the busy flags to the requests in flight. -/
structure QueuePage.Flags (s : QueuePage) : Prop extends s.Ordered where
  loading : s.loading = true →
    s.filtersEffect = true ∨ ∃ i current, s.Flies i (.firstPage s.requestSeq current)
  assigning : s.assigningId ≠ none →
    ∃ i ticketId body filters, s.Flies i (.assign ticketId body filters)
  more : ∀ i filters nextCursor, s.Flies i (.more s.requestSeq filters nextCursor) →
    s.loadingMore = true ∧
      ∀ j filters' nextCursor', s.Flies j (.more s.requestSeq filters' nextCursor') → j = i

theorem QueuePage.Ordered.sent {s s' : QueuePage} {c : QueueCall} (h : s.Ordered)
    (calls : s'.calls = s.calls ++ [c]) (replies : s'.replies = s.replies)
    (seq : s.requestSeq ≤ s'.requestSeq) (hc : ∀ n, c.seq? = some n → n ≤ s'.requestSeq) :
    s'.Ordered where
  replied a ha := by
    have := h.replied a (replies ▸ ha)
    rw [calls, List.length_append]
    omega
  seqs x hx n hn := by
    rw [calls] at hx
    rcases List.mem_append.mp hx with hx | hx
    · exact (h.seqs x hx n hn).trans seq
    · cases List.mem_singleton.mp hx
      exact hc n hn

theorem QueuePage.Ordered.settled {s s' : QueuePage} {i : Nat} {r : QueueReply} (h : s.Ordered)
    (flying : s.inFlight i = true) (calls : s'.calls = s.calls)
    (replies : s'.replies = s.replies ++ [(i, r)]) (seq : s'.requestSeq = s.requestSeq) :
    s'.Ordered where
  replied a ha := by
    rw [replies] at ha
    rw [calls]
    rcases List.mem_append.mp ha with ha | ha
    · exact h.replied a ha
    · cases List.mem_singleton.mp ha
      exact (QueuePage.inFlight_iff.mp flying).1
  seqs x hx n hn := by
    rw [seq]
    exact h.seqs x (calls ▸ hx) n hn

/-- No load-more that was sent before counts once the list restarts. -/
theorem QueuePage.Ordered.overtaken {s s' : QueuePage} {current : Filters} (h : s.Ordered)
    (calls : s'.calls = s.calls ++ [.firstPage (s.requestSeq + 1) current])
    (replies : s'.replies = s.replies) (i : Nat) (filters : Filters) (nextCursor : Uuid) :
    ¬ s'.Flies i (.more (s.requestSeq + 1) filters nextCursor) := by
  intro hfly
  rcases (QueuePage.flies_sent calls replies h.replied).mp hfly with hold | ⟨_, hnew⟩
  · have := h.seqs _ (List.mem_of_getElem? hold.2) _ rfl
    omega
  · cases hnew

theorem QueuePage.Ordered.fetchFirstPage {s s' : QueuePage} {current : Filters} (h : s.Ordered)
    (calls : s'.calls = s.calls ++ [.firstPage (s.requestSeq + 1) current])
    (replies : s'.replies = s.replies) (seq : s'.requestSeq = s.requestSeq + 1)
    (assigning : s'.assigningId ≠ none →
      ∃ i ticketId body filters, s.Flies i (.assign ticketId body filters)) : s'.Flags where
  toOrdered := h.sent calls replies (by omega) fun n hn => by
    cases hn
    exact seq.ge
  loading _ := .inr ⟨s.calls.length, current, (QueuePage.flies_sent calls replies h.replied).mpr
    (.inr ⟨rfl, by rw [seq]⟩)⟩
  assigning ha := by
    obtain ⟨i, ticketId, body, filters, hfly⟩ := assigning ha
    exact ⟨i, ticketId, body, filters,
      (QueuePage.flies_sent calls replies h.replied).mpr (.inl hfly)⟩
  more i filters nextCursor hfly := by
    rw [seq] at hfly
    exact absurd hfly (h.overtaken calls replies i filters nextCursor)

/-- A request settles without restarting the list: a flag that stays up is one that another
request keeps up. -/
theorem QueuePage.Flags.settled {s s' : QueuePage} {i : Nat} {c : QueueCall} {r : QueueReply}
    (h : s.Flags) (fly : s.Flies i c) (calls : s'.calls = s.calls)
    (replies : s'.replies = s.replies ++ [(i, r)]) (seq : s'.requestSeq = s.requestSeq)
    (effect : s'.filtersEffect = s.filtersEffect)
    (loading : s'.loading = true → s.loading = true ∧
      ∀ current, c ≠ .firstPage s.requestSeq current)
    (assigning : s'.assigningId ≠ none → s.assigningId ≠ none ∧
      ∀ ticketId body filters, c ≠ .assign ticketId body filters)
    (more : s'.loadingMore = s.loadingMore ∨
      ∃ filters nextCursor, c = .more s.requestSeq filters nextCursor) : s'.Flags where
  toOrdered := h.toOrdered.settled fly.1 calls replies seq
  loading hl := by
    obtain ⟨hl, hc⟩ := loading hl
    rw [effect, seq]
    refine (h.loading hl).imp_right fun ⟨j, current, hj⟩ => ⟨j, current, ?_⟩
    refine (QueuePage.flies_settled calls replies).mpr ⟨hj, ?_⟩
    rintro rfl
    exact hc current (Option.some.inj (fly.2.symm.trans hj.2))
  assigning ha := by
    obtain ⟨ha, hc⟩ := assigning ha
    obtain ⟨j, ticketId, body, filters, hj⟩ := h.assigning ha
    refine ⟨j, ticketId, body, filters, (QueuePage.flies_settled calls replies).mpr ⟨hj, ?_⟩⟩
    rintro rfl
    exact hc ticketId body filters (Option.some.inj (fly.2.symm.trans hj.2))
  more j filters nextCursor hj := by
    rw [seq] at hj ⊢
    obtain ⟨hj, hne⟩ := (QueuePage.flies_settled calls replies).mp hj
    obtain ⟨hl, hone⟩ := h.more j filters nextCursor hj
    rcases more with hm | ⟨filters', nextCursor', rfl⟩
    · refine ⟨hm.trans hl, fun k filters' nextCursor' hk => ?_⟩
      exact hone k _ _ ((QueuePage.flies_settled calls replies).mp hk).1
    · exact absurd (hone i _ _ fly).symm hne

/-- A request is sent that leaves the list: a load-more comes when there is none. -/
theorem QueuePage.Flags.sent {s s' : QueuePage} {c : QueueCall} (h : s.Flags)
    (calls : s'.calls = s.calls ++ [c]) (replies : s'.replies = s.replies)
    (seq : s'.requestSeq = s.requestSeq) (effect : s'.filtersEffect = s.filtersEffect)
    (loading : s'.loading = s.loading) (hc : ∀ n, c.seq? = some n → n = s.requestSeq)
    (assigning : s'.assigningId = s.assigningId ∨
      ∃ ticketId body filters, c = .assign ticketId body filters)
    (more : (s'.loadingMore = s.loadingMore ∧ ∀ filters nextCursor,
        c ≠ .more s.requestSeq filters nextCursor) ∨
      (s.loadingMore = false ∧ s'.loadingMore = true)) : s'.Flags where
  toOrdered := h.toOrdered.sent calls replies seq.ge fun n hn => (hc n hn).le.trans seq.ge
  loading hl := by
    rw [effect, seq]
    exact (h.loading (loading ▸ hl)).imp_right fun ⟨j, current, hj⟩ =>
      ⟨j, current, (QueuePage.flies_sent calls replies h.replied).mpr (.inl hj)⟩
  assigning ha := by
    rcases assigning with heq | ⟨ticketId, body, filters, rfl⟩
    · obtain ⟨j, ticketId, body, filters, hj⟩ := h.assigning (heq ▸ ha)
      exact ⟨j, ticketId, body, filters,
        (QueuePage.flies_sent calls replies h.replied).mpr (.inl hj)⟩
    · exact ⟨_, ticketId, body, filters,
        (QueuePage.flies_sent calls replies h.replied).mpr (.inr ⟨rfl, rfl⟩)⟩
  more j filters nextCursor hj := by
    rw [seq] at hj ⊢
    rcases more with ⟨hm, hno⟩ | ⟨hidle, hm⟩
    · have hold : ∀ k filters nextCursor, s'.Flies k (.more s.requestSeq filters nextCursor) →
          s.Flies k (.more s.requestSeq filters nextCursor) := fun k f n hk => by
        rcases (QueuePage.flies_sent calls replies h.replied).mp hk with hk | ⟨_, he⟩
        · exact hk
        · exact absurd he.symm (hno f n)
      obtain ⟨hl, hone⟩ := h.more j _ _ (hold j _ _ hj)
      exact ⟨hm.trans hl, fun k f n hk => hone k f n (hold k f n hk)⟩
    · have hnew : ∀ k filters nextCursor, s'.Flies k (.more s.requestSeq filters nextCursor) →
          k = s.calls.length := fun k f n hk => by
        rcases (QueuePage.flies_sent calls replies h.replied).mp hk with hk | ⟨hk, _⟩
        · exact absurd ((h.more k f n hk).1.symm.trans hidle) (by simp)
        · exact hk
      exact ⟨hm, fun k f n hk => (hnew k f n hk).trans (hnew j _ _ hj).symm⟩

/-- Every event of the page keeps the flags tied to the requests in flight. -/
theorem QueuePage.Moves.flags {s s' : QueuePage} {e : QueueEvent} (hm : s.Moves e s')
    (h : s.Flags) : s'.Flags := by
  cases hm with
  | form effect =>
    refine ⟨⟨h.replied, h.seqs⟩, fun hl => ?_, h.assigning, h.more⟩
    rcases effect with ⟨_, rfl⟩ | rfl
    · exact h.loading hl
    · exact .inl rfl
  | restart => exact h.toOrdered.fetchFirstPage rfl rfl rfl h.assigning
  | more _ _ idle _ =>
    exact h.sent rfl rfl rfl rfl rfl (fun n hn => (Option.some.inj hn).symm) (.inl rfl)
      (.inr ⟨idle, rfl⟩)
  | assign =>
    exact h.sent rfl rfl rfl rfl rfl (fun n hn => nomatch hn) (.inr ⟨_, _, _, rfl⟩)
      (.inl ⟨rfl, by simp⟩)
  | @firstPage i seq current r flying call =>
    have fly : s.Flies i (.firstPage seq current) := ⟨flying, call⟩
    by_cases hseq : seq = s.requestSeq
    · cases r <;> simp only [QueuePage.firstPageSettles, hseq, ne_eq, not_true_eq_false, if_false]
      · exact h.settled fly rfl rfl rfl rfl (by simp) (fun ha => ⟨ha, by simp⟩) (.inl rfl)
      · exact h.settled fly rfl rfl rfl rfl (by simp) (fun ha => ⟨ha, by simp⟩) (.inl rfl)
    · cases r <;> simp only [QueuePage.firstPageSettles, ne_eq, hseq, not_false_eq_true, if_true]
      · exact h.settled fly rfl rfl rfl rfl (fun hl => ⟨hl, fun _ he => by
          cases he; exact hseq rfl⟩) (fun ha => ⟨ha, by simp⟩) (.inl rfl)
      · exact h.settled fly rfl rfl rfl rfl (fun hl => ⟨hl, fun _ he => by
          cases he; exact hseq rfl⟩) (fun ha => ⟨ha, by simp⟩) (.inl rfl)
  | @page i seq filters nextCursor r flying call =>
    have fly : s.Flies i (.more seq filters nextCursor) := ⟨flying, call⟩
    by_cases hseq : seq = s.requestSeq
    · have hmore : ∃ f n, QueueCall.more seq filters nextCursor = .more s.requestSeq f n :=
        ⟨_, _, by rw [hseq]⟩
      cases r <;> simp only [QueuePage.moreSettles, hseq, ne_eq, not_true_eq_false, if_false]
      · exact h.settled fly rfl rfl rfl rfl (fun hl => ⟨hl, by simp⟩) (fun ha => ⟨ha, by simp⟩)
          (.inr hmore)
      · exact h.settled fly rfl rfl rfl rfl (fun hl => ⟨hl, by simp⟩) (fun ha => ⟨ha, by simp⟩)
          (.inr hmore)
    · cases r <;> simp only [QueuePage.moreSettles, ne_eq, hseq, not_false_eq_true, if_true]
      · exact h.settled fly rfl rfl rfl rfl (fun hl => ⟨hl, by simp⟩) (fun ha => ⟨ha, by simp⟩)
          (.inl rfl)
      · exact h.settled fly rfl rfl rfl rfl (fun hl => ⟨hl, by simp⟩) (fun ha => ⟨ha, by simp⟩)
          (.inl rfl)
  | @assigned i ticketId body filters r flying call =>
    have fly : s.Flies i (.assign ticketId body filters) := ⟨flying, call⟩
    unfold QueuePage.assignSettles
    split
    next => exact h.settled fly rfl rfl rfl rfl (fun hl => ⟨hl, by simp⟩) (by simp) (.inl rfl)
    next =>
      have hord : QueuePage.Ordered
          { s with replies := s.replies ++ [(i, .assigned (.error (.api 409)))] } :=
        h.toOrdered.settled flying rfl rfl rfl
      exact hord.fetchFirstPage rfl rfl rfl (by simp)
    next => exact h.settled fly rfl rfl rfl rfl (fun hl => ⟨hl, by simp⟩) (by simp) (.inl rfl)

/-- A load-more of the list that is shown is in flight. -/
def QueuePage.moreInFlight (s : QueuePage) : Bool :=
  (List.range s.calls.length).any fun i => s.inFlight i &&
    match s.calls[i]? with
    | some (.more seq _ _) => seq == s.requestSeq
    | _ => false

/-- The event asks for a first page. -/
def QueueEvent.restarts : QueueEvent → Bool
  | .runEffect => true
  | .settle _ (.assigned (.error (.api 409))) => true
  | _ => false

/-- The list does not restart while a load-more is in flight. -/
def sparesMore (s : QueuePage) (e : QueueEvent) : Bool := !(e.restarts && s.moreInFlight)

def anyEvent (_ : QueuePage) (_ : QueueEvent) : Bool := true

theorem QueuePage.moreInFlight_iff {s : QueuePage} : s.moreInFlight = true ↔
    ∃ i filters nextCursor, s.Flies i (.more s.requestSeq filters nextCursor) := by
  simp only [QueuePage.moreInFlight, List.any_eq_true, List.mem_range, Bool.and_eq_true,
    QueuePage.Flies]
  constructor
  · rintro ⟨i, _, hfly, hc⟩
    split at hc
    next seq filters nextCursor hcall =>
      exact ⟨i, filters, nextCursor, hfly, (beq_iff_eq.mp hc) ▸ hcall⟩
    next => cases hc
  · rintro ⟨i, filters, nextCursor, hfly, hcall⟩
    exact ⟨i, (QueuePage.inFlight_iff.mp hfly).1, hfly, by simp [hcall]⟩

/-- The button that is busy has a load-more to wait for. -/
def QueuePage.Awaited (s : QueuePage) : Prop := s.loadingMore = true → s.moreInFlight = true

section Overtaking

variable {s s' : QueuePage} {e : QueueEvent}

theorem QueuePage.moreInFlight_sent {c : QueueCall} (h : s.Ordered)
    (calls : s'.calls = s.calls ++ [c]) (replies : s'.replies = s.replies)
    (seq : s'.requestSeq = s.requestSeq)
    (hc : ∀ filters nextCursor, c ≠ .more s.requestSeq filters nextCursor) :
    s'.moreInFlight = s.moreInFlight := by
  rw [Bool.eq_iff_iff, QueuePage.moreInFlight_iff, QueuePage.moreInFlight_iff, seq]
  refine exists_congr fun i => exists_congr fun f => exists_congr fun n => ?_
  rw [QueuePage.flies_sent calls replies h.replied]
  exact or_iff_left fun ⟨_, he⟩ => hc f n he.symm

theorem QueuePage.moreInFlight_settled {i : Nat} {c : QueueCall} {r : QueueReply}
    (fly : s.Flies i c) (calls : s'.calls = s.calls)
    (replies : s'.replies = s.replies ++ [(i, r)]) (seq : s'.requestSeq = s.requestSeq)
    (hc : ∀ filters nextCursor, c ≠ .more s.requestSeq filters nextCursor) :
    s'.moreInFlight = s.moreInFlight := by
  rw [Bool.eq_iff_iff, QueuePage.moreInFlight_iff, QueuePage.moreInFlight_iff, seq]
  refine exists_congr fun j => exists_congr fun f => exists_congr fun n => ?_
  rw [QueuePage.flies_settled calls replies]
  refine and_iff_left_of_imp fun hj => ?_
  rintro rfl
  exact hc f n (Option.some.inj (fly.2.symm.trans hj.2))

/-- What an event does to a busy load-more button and to what it waits for. -/
inductive QueuePage.MoreMoves (s : QueuePage) (e : QueueEvent) (s' : QueuePage) : Prop
  | kept (busy : s'.loadingMore = s.loadingMore) (flight : s'.moreInFlight = s.moreInFlight)
      (calm : e.restarts = false)
  | overtaken (busy : s'.loadingMore = s.loadingMore) (none : s'.moreInFlight = false)
      (restarts : e.restarts = true)
  | sent (idle : s.loadingMore = false) (flight : s'.moreInFlight = true)
      (calm : e.restarts = false)
  | settled (flight : s.moreInFlight = true) (idle : s'.loadingMore = false)
      (calm : e.restarts = false)

theorem QueuePage.Ordered.no_more {current : Filters} (h : s.Ordered)
    (calls : s'.calls = s.calls ++ [.firstPage (s.requestSeq + 1) current])
    (replies : s'.replies = s.replies) (seq : s'.requestSeq = s.requestSeq + 1) :
    s'.moreInFlight = false := by
  rw [Bool.eq_false_iff, Ne, QueuePage.moreInFlight_iff]
  rintro ⟨i, filters, nextCursor, hfly⟩
  rw [seq] at hfly
  exact h.overtaken calls replies i filters nextCursor hfly

theorem QueuePage.Ordered.more_sent {filters : Filters} {nextCursor : Uuid} (h : s.Ordered)
    (calls : s'.calls = s.calls ++ [.more s.requestSeq filters nextCursor])
    (replies : s'.replies = s.replies) (seq : s'.requestSeq = s.requestSeq) :
    s'.moreInFlight = true := by
  rw [QueuePage.moreInFlight_iff, seq]
  exact ⟨s.calls.length, filters, nextCursor,
    (QueuePage.flies_sent calls replies h.replied).mpr (.inr ⟨rfl, rfl⟩)⟩

theorem QueuePage.Moves.more_moves (hm : s.Moves e s') (h : s.Ordered) : s.MoreMoves e s' := by
  cases hm with
  | form _ restarts settles =>
    refine .kept rfl rfl ?_
    cases e with
    | runEffect => exact absurd rfl restarts
    | settle i r => exact absurd rfl (settles i r)
    | _ => rfl
  | restart => exact .overtaken rfl (h.no_more rfl rfl rfl) rfl
  | more _ _ idle _ =>
    exact .sent idle (h.more_sent rfl rfl rfl) rfl
  | assign => exact .kept rfl (QueuePage.moreInFlight_sent h rfl rfl rfl (by simp)) rfl
  | @firstPage i seq current r flying call =>
    have hkept := fun (s'' : QueuePage) (hcalls : s''.calls = s.calls)
        (hreplies : s''.replies = s.replies ++ [(i, .page r)])
        (hseq : s''.requestSeq = s.requestSeq) =>
      QueuePage.moreInFlight_settled ⟨flying, call⟩ hcalls hreplies hseq (by simp)
    cases r <;> simp only [QueuePage.firstPageSettles] <;> split <;>
      exact .kept rfl (hkept _ rfl rfl rfl) rfl
  | @page i seq filters nextCursor r flying call =>
    by_cases hseq : seq = s.requestSeq
    · have hfly : s.moreInFlight = true :=
        QueuePage.moreInFlight_iff.mpr ⟨i, filters, nextCursor, flying, hseq ▸ call⟩
      cases r <;> simp only [QueuePage.moreSettles, hseq, ne_eq, not_true_eq_false, if_false] <;>
        exact .settled hfly rfl rfl
    · have hkept := fun (s'' : QueuePage) (hcalls : s''.calls = s.calls)
          (hreplies : s''.replies = s.replies ++ [(i, .page r)])
          (hsame : s''.requestSeq = s.requestSeq) =>
        QueuePage.moreInFlight_settled ⟨flying, call⟩ hcalls hreplies hsame
          (fun f n he => by cases he; exact hseq rfl)
      cases r <;> simp only [QueuePage.moreSettles, ne_eq, hseq, not_false_eq_true, if_true] <;>
        exact .kept rfl (hkept _ rfl rfl rfl) rfl
  | @assigned i ticketId body filters r flying call =>
    have hkept := fun (s'' : QueuePage) (hcalls : s''.calls = s.calls)
        (hreplies : s''.replies = s.replies ++ [(i, .assigned r)])
        (hseq : s''.requestSeq = s.requestSeq) =>
      QueuePage.moreInFlight_settled ⟨flying, call⟩ hcalls hreplies hseq (by simp)
    unfold QueuePage.assignSettles
    split
    next => exact .kept rfl (hkept _ rfl rfl rfl) rfl
    next =>
      have hord : QueuePage.Ordered
          { s with replies := s.replies ++ [(i, .assigned (.error (.api 409)))] } :=
        h.settled flying rfl rfl rfl
      exact .overtaken rfl (hord.no_more rfl rfl rfl) rfl
    next err hother =>
      refine .kept rfl (hkept _ rfl rfl rfl) ?_
      unfold QueueEvent.restarts
      split
      next he => cases he
      next he => cases he; exact absurd rfl hother
      next => rfl

theorem QueuePage.MoreMoves.awaited_before (h : s.MoreMoves e s') (ha : s'.Awaited) :
    s.Awaited := by
  intro hbusy
  cases h with
  | kept busy flight => exact flight ▸ ha (busy.trans hbusy)
  | overtaken busy none => exact absurd (none.symm.trans (ha (busy.trans hbusy))) (by simp)
  | sent idle => exact absurd (idle.symm.trans hbusy) (by simp)
  | settled flight => exact flight

theorem QueuePage.MoreMoves.awaited (h : s.MoreMoves e s') (ha : s.Awaited)
    (hok : sparesMore s e = true) : s'.Awaited := by
  intro hbusy
  cases h with
  | kept busy flight => exact flight.trans (ha (busy.symm.trans hbusy))
  | overtaken busy none restarts =>
    have hfly := ha (busy.symm.trans hbusy)
    simp [sparesMore, restarts, hfly] at hok
  | sent _ flight => exact flight
  | settled _ idle => exact absurd (idle.symm.trans hbusy) (by simp)

/-- A restart during a load-more leaves the button busy with nothing to wait for. -/
theorem QueuePage.MoreMoves.not_awaited (h : s.MoreMoves e s') (hf : s.Flags)
    (hok : sparesMore s e = false) : ¬ s'.Awaited := by
  simp only [sparesMore, Bool.not_eq_false', Bool.and_eq_true] at hok
  obtain ⟨hrestarts, hfly⟩ := hok
  obtain ⟨i, filters, nextCursor, hi⟩ := QueuePage.moreInFlight_iff.mp hfly
  have hbusy := (hf.more i filters nextCursor hi).1
  intro ha
  cases h with
  | kept _ _ calm => exact absurd (calm.symm.trans hrestarts) (by simp)
  | overtaken busy none => exact absurd (none.symm.trans (ha (busy.trans hbusy))) (by simp)
  | sent _ _ calm => exact absurd (calm.symm.trans hrestarts) (by simp)
  | settled _ _ calm => exact absurd (calm.symm.trans hrestarts) (by simp)

end Overtaking

/-- The page as it is mounted. -/
def QueuePage.mounted (user : Option User) : QueuePage := { user := user }

/-- No request is in flight, and none is about to be sent by the effect. -/
def QueuePage.Idle (s : QueuePage) : Prop :=
  s.filtersEffect = false ∧ ∀ i, s.inFlight i = false

/-- No flag is up, and there is a button for what has not been loaded. -/
structure QueuePage.Unstuck (s : QueuePage) : Prop where
  loading : s.loading = false
  loadingMore : s.loadingMore = false
  assigningId : s.assigningId = none
  more : s.nextCursor ≠ none → s.tickets ≠ [] → s.loadMoreShown = true ∧ s.loadMoreEnabled = true

section Runs

variable {user : Option User} {ok : QueuePage → QueueEvent → Bool} {s : QueuePage}

theorem QueuePage.mounted_flags (user : Option User) : (QueuePage.mounted user).Flags := by
  have hno : ∀ i c, ¬ (QueuePage.mounted user).Flies i c := fun i c h => by
    simpa [QueuePage.mounted] using h.2
  exact ⟨⟨by simp [QueuePage.mounted], by simp [QueuePage.mounted]⟩, fun _ => .inl rfl,
    by simp [QueuePage.mounted], fun i f n h => absurd h (hno _ _)⟩

theorem QueuePage.runs_flags (h : Runs QueuePage.next ok (QueuePage.mounted user) s) : s.Flags :=
  h.invariant (QueuePage.mounted_flags user) fun _ _ _ hf _ hs =>
    (QueuePage.next_moves hs).flags hf

theorem QueuePage.runs_awaited (h : Runs QueuePage.next sparesMore (QueuePage.mounted user) s) :
    s.Awaited := by
  have hboth : s.Flags ∧ s.Awaited := by
    refine h.invariant (I := fun s => s.Flags ∧ s.Awaited)
      ⟨QueuePage.mounted_flags user, by simp [QueuePage.Awaited, mounted]⟩ ?_
    rintro s e s' ⟨hf, ha⟩ hok hs
    have hm := QueuePage.next_moves hs
    exact ⟨hm.flags hf, (hm.more_moves hf.toOrdered).awaited ha hok⟩
  exact hboth.2

theorem QueuePage.awaited_iff (h : Runs QueuePage.next ok (QueuePage.mounted user) s) :
    s.Awaited ↔ Runs QueuePage.next sparesMore (QueuePage.mounted user) s := by
  refine h.iff_avoids (fun s hs => QueuePage.runs_awaited hs) ?_ ?_
  · intro s e s' hr hs ha
    exact ((QueuePage.next_moves hs).more_moves (QueuePage.runs_flags hr).toOrdered).awaited_before ha
  · intro s e s' hr hbad hs
    have hf := QueuePage.runs_flags hr
    exact ((QueuePage.next_moves hs).more_moves hf.toOrdered).not_awaited hf hbad

theorem QueuePage.Flags.unstuck_iff (h : s.Flags) (idle : s.Idle) : s.Unstuck ↔ s.Awaited := by
  have hland : ∀ i c, ¬ s.Flies i c := fun i c hfly => by
    simpa [idle.2 i] using hfly.1
  have hflight : s.moreInFlight = false := by
    rw [Bool.eq_false_iff, Ne, QueuePage.moreInFlight_iff]
    rintro ⟨i, filters, nextCursor, hfly⟩
    exact hland _ _ hfly
  have hloading : s.loading = false := by
    by_contra hl
    rcases h.loading (by simpa using hl) with he | ⟨i, current, hfly⟩
    · exact absurd (he.symm.trans idle.1) (by simp)
    · exact hland _ _ hfly
  have hassigning : s.assigningId = none := by
    by_contra ha
    obtain ⟨i, ticketId, body, filters, hfly⟩ := h.assigning ha
    exact hland _ _ hfly
  constructor
  · intro hu hbusy
    exact absurd (hu.loadingMore.symm.trans hbusy) (by simp)
  · intro ha
    have hmore : s.loadingMore = false := by
      by_contra hbusy
      exact absurd (hflight.symm.trans (ha (by simpa using hbusy))) (by simp)
    refine ⟨hloading, hmore, hassigning, fun hcursor htickets => ⟨?_, ?_⟩⟩
    · simp only [QueuePage.loadMoreShown, hloading, Bool.not_false, Bool.true_and,
        Bool.and_eq_true, Bool.not_eq_true', List.isEmpty_eq_false_iff,
        Option.isSome_iff_ne_none]
      exact ⟨htickets, hcursor⟩
    · simp [QueuePage.loadMoreEnabled, hmore]

end Runs

/-- In every run that ends with no request in flight, the page is left with no flag up exactly
when no first page was asked for while a load-more of the list shown was in flight. -/
theorem QueuePage.idle_unstuck_iff (user : Option User) (s : QueuePage)
    (run : Runs QueuePage.next anyEvent (QueuePage.mounted user) s) (idle : s.Idle) :
    s.Unstuck ↔ Runs QueuePage.next sparesMore (QueuePage.mounted user) s :=
  ((QueuePage.runs_flags run).unstuck_iff idle).trans (QueuePage.awaited_iff run)

namespace Sample

def listed (id : Uuid) (n : Nat) : Ticket where
  id := id
  ticketNumber := ticketNumber n
  type := .incidente
  title := "No arranca el servicio"
  description := "El servicio de pagos responde 500 desde las nueve"
  severity := 2
  impact := 2
  priority := .alta
  reporterId := 1
  slaDueAt := none
  idempotencyKey := none
  createdAt := n

/-- A page is loaded, with more to come. -/
def loads : List QueueEvent := [.runEffect, .settle 0 (.page (.ok ⟨[listed 10 1], some 10⟩))]

/-- The second page is loaded too, and the search changes after it has come. -/
def searchesAfterMore : List QueueEvent :=
  loads ++ [.loadMore, .settle 1 (.page (.ok ⟨[listed 11 2], none⟩)), .search "vpn", .debounced,
            .runEffect, .settle 2 (.page (.ok ⟨[listed 12 3], some 12⟩))]

/-- The search changes while the second page is on its way. -/
def searchesDuringMore : List QueueEvent :=
  loads ++ [.loadMore, .search "vpn", .debounced, .runEffect,
            .settle 1 (.page (.ok ⟨[listed 11 2], none⟩)),
            .settle 2 (.page (.ok ⟨[listed 12 3], some 12⟩))]

def visit (events : List QueueEvent) : Option QueuePage :=
  Reactive.replay QueuePage.next anyEvent events (QueuePage.mounted (some agente))

theorem visit_run {events : List QueueEvent} (h : (visit events).isSome) :
    Runs QueuePage.next anyEvent (QueuePage.mounted (some agente)) ((visit events).get h) :=
  Runs.of_replay (Option.some_get h).symm .start

/-- No request is in flight when each has a reply. -/
theorem idle_of_replies {s : QueuePage} (effect : s.filtersEffect = false)
    (all : ∀ i < s.calls.length, i ∈ s.replies.map Prod.fst) : s.Idle := by
  refine ⟨effect, fun i => ?_⟩
  rw [Bool.eq_false_iff, Ne, QueuePage.inFlight_iff]
  rintro ⟨hi, hno⟩
  obtain ⟨a, ha, rfl⟩ := List.mem_map.mp (all i hi)
  exact hno a ha rfl

end Sample

open Sample in
theorem loads_unstuck : ((visit searchesAfterMore).get rfl).Unstuck := by
  have hreplay : Reactive.replay QueuePage.next sparesMore searchesAfterMore
      (QueuePage.mounted (some agente)) = some ((visit searchesAfterMore).get rfl) := rfl
  have hidle : ((visit searchesAfterMore).get rfl).Idle := idle_of_replies rfl (by decide)
  exact (QueuePage.idle_unstuck_iff _ _ (visit_run rfl) hidle).mpr (.of_replay hreplay .start)

open Sample in
/-- The button for the rest stays busy for ever, although everything was answered. -/
theorem more_stuck : ¬ ∀ (user : Option User) (s : QueuePage),
    Runs QueuePage.next anyEvent (QueuePage.mounted user) s → s.Idle → s.Unstuck := by
  intro hall
  have hs := hall _ _ (@visit_run searchesDuringMore rfl)
    (idle_of_replies rfl (by decide))
  have hbusy : ((visit searchesDuringMore).get rfl).loadingMore = true := rfl
  exact absurd (hs.loadingMore.symm.trans hbusy) (by simp)

end TicketSystem
