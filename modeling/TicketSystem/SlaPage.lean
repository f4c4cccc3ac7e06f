import TicketSystem.Lib.Machine
import TicketSystem.QueuePage
import TicketSystem.Server

namespace TicketSystem

open Reactive

def PAGE_LIMIT : Nat := 100

def MAX_TICKETS : Nat := 500

/-- The loop of `fetchAllByStatus`, at its request. -/
structure FetchAll where
  all : List Ticket := []
  cursor : Option Uuid := none
  deriving DecidableEq, Repr

def FetchAll.params (f : FetchAll) (status : TicketStatus) : ListTicketsParams where
  status := some status
  cursor := f.cursor
  limit := some PAGE_LIMIT

def FetchAll.receive (f : FetchAll) (page : Page Ticket) : FetchAll where
  all := f.all ++ page.items
  cursor := page.nextCursor

def FetchAll.goesOn (f : FetchAll) : Bool := f.cursor.isSome && f.all.length < MAX_TICKETS

inductive FetchAllByStatus where
  | asks (f : FetchAll)
  | done (all : List Ticket)
  | failed (err : ClientError)
  deriving DecidableEq, Repr

/-- The request of the loop is answered. -/
def FetchAllByStatus.settle :
    FetchAllByStatus → Except ClientError (Page Ticket) → Option FetchAllByStatus
  | .asks f, .ok page =>
    some (if (f.receive page).goesOn then .asks (f.receive page) else .done (f.receive page).all)
  | .asks _, .error err => some (.failed err)
  | _, _ => none

structure FetchUnresolvedTickets where
  abiertos : FetchAllByStatus := .asks {}
  enProgreso : FetchAllByStatus := .asks {}
  deriving DecidableEq, Repr

def FetchUnresolvedTickets.settle (f : FetchUnresolvedTickets) (status : TicketStatus)
    (r : Except ClientError (Page Ticket)) : Option FetchUnresolvedTickets :=
  match status with
  | .abierto => (f.abiertos.settle r).map fun walk => { f with abiertos := walk }
  | .enProgreso => (f.enProgreso.settle r).map fun walk => { f with enProgreso := walk }
  | .resuelto => none

/-- `Promise.all`: both lists, or a failure as soon as there is one. -/
def FetchUnresolvedTickets.outcome (f : FetchUnresolvedTickets) :
    Option (Except ClientError (List Ticket)) :=
  match f.abiertos, f.enProgreso with
  | .failed err, _ => some (.error err)
  | _, .failed err => some (.error err)
  | .done abiertos, .done enProgreso => some (.ok (abiertos ++ enProgreso))
  | _, _ => none

def Ticket.isOverdue (ticket : Ticket) (nowMs : Time) : Bool :=
  ticket.slaDueAt.any fun slaDueAt => slaDueAt < nowMs

/-! ### The page -/

/-- Where `handleAssignMe` stands: at the request for this ticket, or at its `load`, which waits
for this fetch. -/
inductive AssignMe where
  | request (ticket : Ticket)
  | load (fetch : Nat)
  deriving DecidableEq, Repr

/-- The state of the page. `fetches` are the calls of `fetchUnresolvedTickets` so far, `shown` is
the one whose tickets are shown, and `answered` has, for each assign that came back with success
or with a conflict, how many of them had begun by then. -/
structure SlaPage where
  user : Option User
  tickets : Option (List Ticket) := none
  now : Time
  error : Option ClientError := none
  notice : Option String := none
  assigningId : Option Uuid := none
  loadingRef : Bool := false
  assignMe : Option AssignMe := none
  fetches : List FetchUnresolvedTickets := []
  shown : Option Nat := none
  answered : List Nat := []

/-- The rows of the board; their order is not modelled. -/
def SlaPage.relevant (s : SlaPage) : List Ticket :=
  (s.tickets.getD []).filter fun t => t.isOverdue s.now || 0 < t.escalationLevel

def SlaPage.assignMeEnabled (s : SlaPage) (ticket : Ticket) : Bool :=
  s.user.all (·.role != .reportante) && s.relevant.contains ticket &&
    !s.user.any (ticket.assigneeId == some ·.id) && s.assigningId.isNone

def SlaPage.load (s : SlaPage) : SlaPage :=
  if s.loadingRef then s else { s with loadingRef := true, fetches := s.fetches ++ [{}] }

/-- Fetch `i` is over: `load` goes on, and so does the handler that waits for it. -/
def SlaPage.loadSettles (s : SlaPage) (i : Nat) (now : Time) :
    Except ClientError (List Ticket) → SlaPage
  | .ok items =>
    { s with tickets := some items, now := now, error := none, loadingRef := false, shown := some i
             assigningId := if s.assignMe = some (.load i) then none else s.assigningId
             assignMe := if s.assignMe = some (.load i) then none else s.assignMe }
  | .error err =>
    { s with error := some err, loadingRef := false
             assigningId := if s.assignMe = some (.load i) then none else s.assigningId
             assignMe := if s.assignMe = some (.load i) then none else s.assignMe }

def SlaPage.handleAssignMe (s : SlaPage) (ticket : Ticket) : SlaPage :=
  match s.user with
  | none => s
  | some _ => { s with assigningId := some ticket.id, notice := none, error := none,
                       assignMe := some (.request ticket) }

/-- `await load()` in the handler, which is over at once when a fetch is under way. -/
def SlaPage.awaitLoad (s : SlaPage) : SlaPage :=
  if s.loadingRef then
    { s with answered := s.answered ++ [s.fetches.length], assigningId := none, assignMe := none }
  else
    { s.load with answered := s.answered ++ [s.fetches.length],
                  assignMe := some (.load s.fetches.length) }

def SlaPage.assignSettles (s : SlaPage) (ticket : Ticket) : Except ClientError Ticket → SlaPage
  | .ok _ => s.awaitLoad
  | .error (.api 409) =>
    { s with notice := some ("El ticket " ++ ticket.ticketNumber ++
        " fue modificado por otra persona. " ++
        "La lista se actualizó; intenta asignarte de nuevo.") }.awaitLoad
  | .error err => { s with error := some err, assigningId := none, assignMe := none }

inductive SlaEvent where
  | refresh
  | assignMe (ticket : Ticket)
  | assigned (r : Except ClientError Ticket)
  | page (i : Nat) (status : TicketStatus) (r : Except ClientError (Page Ticket)) (now : Time)

/-- A walk goes on after the other one has failed, but nobody waits for it any more. -/
def SlaPage.next (s : SlaPage) : SlaEvent → Option SlaPage
  | .refresh => some s.load
  | .assignMe ticket => if s.assignMeEnabled ticket then some (s.handleAssignMe ticket) else none
  | .assigned r =>
    match s.assignMe with
    | some (.request ticket) => some (s.assignSettles ticket r)
    | _ => none
  | .page i status r now =>
    match s.fetches[i]? with
    | none => none
    | some f => (f.settle status r).map fun f' =>
      let received := { s with fetches := s.fetches.set i f' }
      match f.outcome, f'.outcome with
      | none, some outcome => received.loadSettles i now outcome
      | _, _ => received

/-- The page as it is mounted: its effect loads at once. -/
def SlaPage.mounted (user : Option User) (now : Time) : SlaPage :=
  SlaPage.load { user := user, now := now }

/-- Every fetch so far is over, and none of them failed. -/
def SlaPage.AllLoaded (s : SlaPage) : Prop :=
  ∀ f ∈ s.fetches, ∃ items, f.outcome = some (.ok items)

/-- The tickets shown are those of fetch `k`. -/
def SlaPage.ShowsFetch (s : SlaPage) (k : Nat) : Prop :=
  s.shown = some k ∧ ∃ f items, s.fetches[k]? = some f ∧ f.outcome = some (.ok items) ∧
    s.tickets = some items

/-- The tickets shown were fetched after every assign that came back. -/
def SlaPage.Fresh (s : SlaPage) : Prop := ∀ n ∈ s.answered, ∃ k, n ≤ k ∧ s.ShowsFetch k

/-- An assign comes back with success or with a conflict while no fetch is under way. -/
def answersBetween (s : SlaPage) : SlaEvent → Bool
  | .assigned (.ok _) => !s.loadingRef
  | .assigned (.error (.api 409)) => !s.loadingRef
  | _ => true

def anySlaEvent (_ : SlaPage) (_ : SlaEvent) : Bool := true

/-- At most one fetch is under way, the last one; without failures the one shown is the last that
was over. -/
structure SlaPage.Loads (s : SlaPage) : Prop where
  begun : s.fetches ≠ []
  waits : ∀ i f, s.fetches[i]? = some f → f.outcome = none → i + 1 = s.fetches.length
  loading : s.loadingRef = true → ∃ f ∈ s.fetches, f.outcome = none
  idle : s.loadingRef = false → ∀ f ∈ s.fetches, f.outcome ≠ none
  shows : s.loadingRef = false → s.AllLoaded → ∃ k, k + 1 = s.fetches.length ∧ s.ShowsFetch k
  answered : ∀ n ∈ s.answered, n < s.fetches.length

section Loading

variable {s s' : SlaPage}

theorem FetchUnresolvedTickets.settle_of_outcome {f f' : FetchUnresolvedTickets}
    {status : TicketStatus} {r : Except ClientError (Page Ticket)}
    (h : f.settle status r = some f') (hf : f.outcome ≠ none) :
    ∃ err, f'.outcome = some (.error err) := by
  obtain ⟨a, b⟩ := f
  cases status with
  | abierto =>
    obtain ⟨walk, hw, rfl⟩ := Option.map_eq_some_iff.mp h
    cases a with
    | done all => cases hw
    | failed err => cases hw
    | asks w =>
      cases b with
      | failed err => cases walk <;> exact ⟨_, rfl⟩
      | asks => exact absurd rfl hf
      | done => exact absurd rfl hf
  | enProgreso =>
    obtain ⟨walk, hw, rfl⟩ := Option.map_eq_some_iff.mp h
    cases b with
    | done all => cases hw
    | failed err => cases hw
    | asks w =>
      cases a with
      | failed err => exact ⟨err, rfl⟩
      | asks => exact absurd rfl hf
      | done => exact absurd rfl hf
  | resuelto => cases h

theorem SlaPage.load_of_idle (h : s.loadingRef = false) :
    s.load = { s with loadingRef := true, fetches := s.fetches ++ [{}] } := by
  simp [SlaPage.load, h]

theorem SlaPage.load_of_loading (h : s.loadingRef = true) : s.load = s := by
  simp [SlaPage.load, h]

/-- What changes none of the fields about the fetches. -/
theorem SlaPage.Loads.of_same (h : s.Loads) (fetches : s'.fetches = s.fetches)
    (loadingRef : s'.loadingRef = s.loadingRef) (shown : s'.shown = s.shown)
    (tickets : s'.tickets = s.tickets) (answered : s'.answered = s.answered) : s'.Loads := by
  have hshows : ∀ k, s.ShowsFetch k → s'.ShowsFetch k := fun k hk => by
    rw [SlaPage.ShowsFetch, shown, fetches, tickets]
    exact hk
  refine ⟨fetches ▸ h.begun, fetches ▸ h.waits, ?_, ?_, fun hl ha => ?_, ?_⟩
  · rw [loadingRef, fetches]
    exact h.loading
  · rw [loadingRef, fetches]
    exact h.idle
  · obtain ⟨k, hk, hshown⟩ := h.shows (loadingRef.symm.trans hl) fun f hf => ha f (fetches ▸ hf)
    exact ⟨k, by rw [fetches, hk], hshows k hshown⟩
  · rw [answered, fetches]
    exact h.answered

/-- A fetch begins. -/
theorem SlaPage.Loads.starts (h : s.Loads) (idle : s.loadingRef = false)
    (fetches : s'.fetches = s.fetches ++ [⟨.asks {}, .asks {}⟩]) (loadingRef : s'.loadingRef = true)
    (answered : ∀ n ∈ s'.answered, n ≤ s.fetches.length) : s'.Loads := by
  refine ⟨by simp [fetches], fun i f hi hf => ?_, fun _ => ⟨⟨.asks {}, .asks {}⟩,
      by simp [fetches], rfl⟩,
    fun hl => absurd (loadingRef.symm.trans hl) (by simp),
    fun hl => absurd (loadingRef.symm.trans hl) (by simp), fun n hn => ?_⟩
  · rw [fetches] at hi ⊢
    rcases Interleaved.getElem?_concat_cases hi with hi | ⟨hi, _⟩
    · exact absurd hf (h.idle idle f (List.mem_of_getElem? hi))
    · simp [hi]
  · have := answered n hn
    rw [fetches, List.length_append, List.length_singleton]
    omega

theorem SlaPage.Loads.load (h : s.Loads) : s.load.Loads := by
  by_cases hl : s.loadingRef = true
  · rw [SlaPage.load_of_loading hl]
    exact h
  · rw [Bool.not_eq_true] at hl
    rw [SlaPage.load_of_idle hl]
    exact h.starts hl rfl rfl fun n hn => (h.answered n hn).le

/-- An assign comes back between two fetches: the next one begins. -/
theorem SlaPage.Loads.awaitLoad (h : s.Loads) (idle : s.loadingRef = false) :
    s.awaitLoad.Loads := by
  unfold SlaPage.awaitLoad
  rw [if_neg (by simp [idle]), SlaPage.load_of_idle idle]
  refine h.starts idle rfl rfl fun n hn => ?_
  rcases List.mem_append.mp hn with hn | hn
  · exact (h.answered n hn).le
  · exact (List.mem_singleton.mp hn).le

/-- A page comes for fetch `i`; when it ends the fetch, `load` goes on. -/
theorem SlaPage.Loads.page {i : Nat} {f f' : FetchUnresolvedTickets} (h : s.Loads)
    (hi : s.fetches[i]? = some f) (fetches : s'.fetches = s.fetches.set i f')
    (answered : s'.answered = s.answered)
    (outcome : (f'.outcome = none ↔ f.outcome = none) ∧ s'.loadingRef = s.loadingRef ∧
        (f.outcome ≠ none → ∃ err, f'.outcome = some (.error err)) ∨
      f.outcome = none ∧ s'.loadingRef = false ∧ ∃ r, f'.outcome = some r ∧
        ∀ items, r = .ok items → s'.shown = some i ∧ s'.tickets = some items) : s'.Loads := by
  have hlen : i < s.fetches.length := (List.getElem?_eq_some_iff.mp hi).1
  have hset : s'.fetches[i]? = some f' := by rw [fetches, List.getElem?_set_self hlen]
  have hother : ∀ j, j ≠ i → s'.fetches[j]? = s.fetches[j]? := fun j hj => by
    rw [fetches, List.getElem?_set_ne (Ne.symm hj)]
  have hlength : s'.fetches.length = s.fetches.length := by rw [fetches, List.length_set]
  have hmem := List.mem_of_getElem? hset
  refine ⟨fun hnil => by simp [hnil] at hset, fun j g hj hg => ?_, fun hl => ?_, fun hl g hg => ?_,
    fun hl ha => ?_, fun n hn => hlength ▸ h.answered n (answered ▸ hn)⟩
  · rw [hlength]
    by_cases hji : j = i
    · subst hji
      rcases outcome with ⟨hiff, _⟩ | ⟨hf, _⟩
      · cases Option.some.inj (hset.symm.trans hj)
        exact h.waits j f hi (hiff.mp hg)
      · exact h.waits j f hi hf
    · exact h.waits j g (hother j hji ▸ hj) hg
  · rcases outcome with ⟨hiff, hsame, _⟩ | ⟨_, hover, _⟩
    · obtain ⟨g, hg, hnone⟩ := h.loading (hsame.symm.trans hl)
      obtain ⟨j, hj⟩ := List.mem_iff_getElem?.mp hg
      by_cases hji : j = i
      · subst hji
        cases Option.some.inj (hi.symm.trans hj)
        exact ⟨f', hmem, hiff.mpr hnone⟩
      · exact ⟨g, List.mem_of_getElem? ((hother j hji).trans hj), hnone⟩
    · exact absurd (hover.symm.trans hl) (by simp)
  · obtain ⟨j, hj⟩ := List.mem_iff_getElem?.mp hg
    by_cases hji : j = i
    · subst hji
      cases Option.some.inj (hset.symm.trans hj)
      rcases outcome with ⟨hiff, hsame, _⟩ | ⟨_, _, r, hr, _⟩
      · exact fun hnone => h.idle (hsame.symm.trans hl) f (List.mem_of_getElem? hi) (hiff.mp hnone)
      · simp [hr]
    · have hj' := (hother j hji) ▸ hj
      rcases outcome with ⟨_, hsame, _⟩ | ⟨hf, _⟩
      · exact h.idle (hsame.symm.trans hl) g (List.mem_of_getElem? hj')
      · have hlast := h.waits i f hi hf
        intro hnone
        have := h.waits j g hj' hnone
        omega
  · rcases outcome with ⟨_, hsame, hfail⟩ | ⟨hf, _, r, hr, hshown⟩
    · have hidle := h.idle (hsame.symm.trans hl) f (List.mem_of_getElem? hi)
      obtain ⟨err, herr⟩ := hfail hidle
      obtain ⟨items, hitems⟩ := ha f' hmem
      cases hitems.symm.trans herr
    · obtain ⟨items, hitems⟩ := ha f' hmem
      obtain ⟨hk, htickets⟩ := hshown items (Option.some.inj (hr.symm.trans hitems))
      exact ⟨i, by rw [hlength]; exact h.waits i f hi hf, hk, f', items, hset, hitems, htickets⟩

theorem SlaPage.loadSettles_fields (s : SlaPage) (i : Nat) (now : Time)
    (r : Except ClientError (List Ticket)) : (s.loadSettles i now r).fetches = s.fetches ∧
      (s.loadSettles i now r).answered = s.answered ∧
      (s.loadSettles i now r).loadingRef = false ∧
      ∀ items, r = .ok items → (s.loadSettles i now r).shown = some i ∧
        (s.loadSettles i now r).tickets = some items := by
  cases r with
  | ok items => exact ⟨rfl, rfl, rfl, fun _ he => by cases he; exact ⟨rfl, rfl⟩⟩
  | error err => exact ⟨rfl, rfl, rfl, fun _ he => nomatch he⟩

/-- Every event keeps the fetches in order, when no assign comes back during one. -/
theorem SlaPage.Loads.next {e : SlaEvent} (h : s.Loads) (hok : answersBetween s e = true)
    (hs : s.next e = some s') : s'.Loads := by
  cases e with
  | refresh =>
    cases Option.some.inj hs
    exact h.load
  | assignMe ticket =>
    simp only [SlaPage.next] at hs
    split at hs
    next =>
      cases Option.some.inj hs
      unfold SlaPage.handleAssignMe
      split
      next => exact h
      next => exact h.of_same rfl rfl rfl rfl rfl
    next => cases hs
  | assigned r =>
    simp only [SlaPage.next] at hs
    split at hs
    next ticket _ =>
      cases Option.some.inj hs
      unfold SlaPage.assignSettles
      split
      next => exact h.awaitLoad (by simpa [answersBetween] using hok)
      next =>
        exact Loads.awaitLoad (h.of_same rfl rfl rfl rfl rfl) (by simpa [answersBetween] using hok)
      next => exact h.of_same rfl rfl rfl rfl rfl
    next => cases hs
  | page i status r now =>
    simp only [SlaPage.next] at hs
    split at hs
    next => cases hs
    next f hi =>
      obtain ⟨f', hf', hs⟩ := Option.map_eq_some_iff.mp hs
      split at hs
      next outcome hnone hsome =>
        obtain ⟨fetches, answered, ended, shown⟩ := SlaPage.loadSettles_fields
          { s with fetches := s.fetches.set i f' } i now outcome
        cases hs
        exact h.page hi fetches answered (.inr ⟨hnone, ended, outcome, hsome, shown⟩)
      next hno =>
        cases hs
        refine h.page hi rfl rfl (.inl ⟨⟨fun hn => ?_, fun hn => ?_⟩, rfl, fun hne =>
          FetchUnresolvedTickets.settle_of_outcome hf' hne⟩)
        · by_contra hne
          obtain ⟨err, herr⟩ := FetchUnresolvedTickets.settle_of_outcome hf' hne
          cases hn.symm.trans herr
        · by_contra hne
          obtain ⟨r, hr⟩ := Option.ne_none_iff_exists'.mp hne
          exact hno r hn hr

end Loading

theorem SlaPage.mounted_loads (user : Option User) (now : Time) :
    (SlaPage.mounted user now).Loads where
  begun := by simp [SlaPage.mounted, SlaPage.load]
  waits i f hi hf := by
    have := (List.getElem?_eq_some_iff.mp hi).1
    simp [SlaPage.mounted, SlaPage.load] at this ⊢
    exact this
  loading _ := ⟨_, List.mem_singleton_self _, rfl⟩
  idle h := by simp [SlaPage.mounted, SlaPage.load] at h
  shows h := by simp [SlaPage.mounted, SlaPage.load] at h
  answered := by simp [SlaPage.mounted, SlaPage.load]

/-- In every run whose assigns come back between the fetches, once every fetch is over and none
has failed, the tickets shown were fetched after every one of these answers. -/
theorem SlaPage.fresh_after_assign (user : Option User) (now : Time) (s : SlaPage)
    (run : Runs SlaPage.next answersBetween (SlaPage.mounted user now) s)
    (loaded : s.AllLoaded) : s.Fresh := by
  have h : s.Loads := run.invariant (SlaPage.mounted_loads user now) fun _ _ _ hl hok hs =>
    hl.next hok hs
  have hidle : s.loadingRef = false := by
    by_contra hl
    obtain ⟨f, hf, hnone⟩ := h.loading (by simpa using hl)
    obtain ⟨items, hitems⟩ := loaded f hf
    cases hnone.symm.trans hitems
  obtain ⟨k, hk, hshown⟩ := h.shows hidle loaded
  intro n hn
  have := h.answered n hn
  exact ⟨k, by omega, hshown⟩

namespace Sample

def vencido : Ticket where
  id := 10
  ticketNumber := ticketNumber 1
  type := .incidente
  title := "No arranca el servicio"
  description := "El servicio de pagos responde 500 desde las nueve"
  severity := 2
  impact := 2
  priority := .alta
  reporterId := 1
  escalationLevel := 1
  slaDueAt := none
  idempotencyKey := none
  createdAt := 0

/-- Both pages of a fetch come: one ticket, that is still abierto. -/
def fetched (i : Nat) : List SlaEvent :=
  [.page i .abierto (.ok ⟨[vencido], none⟩) 0, .page i .enProgreso (.ok ⟨[], none⟩) 0]

/-- An assign between two fetches. -/
def assignsBetween : List SlaEvent :=
  fetched 0 ++ [.assignMe vencido, .assigned (.ok { vencido with assigneeId := some 3 })] ++
    fetched 1

/-- An assign that comes back while the fetch of the timer is under way. -/
def assignsDuring : List SlaEvent :=
  fetched 0 ++ [.refresh, .assignMe vencido,
    .assigned (.ok { vencido with assigneeId := some 3 })] ++ fetched 1

def watch (ok : SlaPage → SlaEvent → Bool) (events : List SlaEvent) : Option SlaPage :=
  Reactive.replay SlaPage.next ok events (SlaPage.mounted (some agente) 0)

theorem watch_run {ok : SlaPage → SlaEvent → Bool} {events : List SlaEvent}
    (h : (watch ok events).isSome) :
    Runs SlaPage.next ok (SlaPage.mounted (some agente) 0) ((watch ok events).get h) :=
  Runs.of_replay (Option.some_get h).symm .start

theorem allLoaded_of_fetched {s : SlaPage} {n : Nat}
    (h : s.fetches = List.replicate n ⟨.done [vencido], .done []⟩) : s.AllLoaded := by
  intro f hf
  rw [h] at hf
  rw [(List.mem_replicate.mp hf).2]
  exact ⟨[vencido], rfl⟩

end Sample

open Sample in
theorem fresh_after_assigns : ((watch answersBetween assignsBetween).get rfl).Fresh :=
  SlaPage.fresh_after_assign (some agente) 0 _ (@watch_run answersBetween assignsBetween rfl)
    (@allLoaded_of_fetched _ 2 rfl)

open Sample in
/-- The reload after the assign finds the fetch of the timer under way, and is dropped. -/
theorem stale_after_assign : ¬ ∀ (user : Option User) (now : Time) (s : SlaPage),
    Runs SlaPage.next anySlaEvent (SlaPage.mounted user now) s → s.assignMe = none →
      s.AllLoaded → s.Fresh := by
  intro hall
  let s := (watch anySlaEvent assignsDuring).get rfl
  obtain ⟨k, hk, hshown, _⟩ := hall _ _ s (@watch_run anySlaEvent assignsDuring rfl) rfl
    (@allLoaded_of_fetched _ 2 rfl) 2 (by decide)
  have hone : s.shown = some 1 := rfl
  cases Option.some.inj (hone.symm.trans hshown)
  omega

end TicketSystem
