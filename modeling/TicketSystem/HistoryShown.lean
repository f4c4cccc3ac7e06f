import TicketSystem.FullWalk
import TicketSystem.HistoryTab
import TicketSystem.PageCalls

namespace TicketSystem

open Relational Interleaved

/-- The requests of the tab. -/
def asksHistory (ticketId : Uuid) (user : User) (cursor : Option Uuid) (q : Request) : Prop :=
  q = .events ticketId (historyQuery cursor) user

/-- The pages that were loaded, the last of them with the cursor the tab has. -/
structure HistoryTab.Loaded (user : User) (ticketId : Uuid) (mounted : Nat) (t : HistoryTab)
    (s : Server) (fs : List (Fetch EventWithActor)) : Prop where
  walk : s.Walk (asksHistory ticketId user) .eventPage fs
  events : t.events = gathered fs
  cursor : t.nextCursor = fs.getLast?.bind fun f => f.page.nextCursor
  since : ∀ f ∈ fs, mounted ≤ f.index

/-- The page the tab is waiting for. -/
inductive HistoryTab.Waits (mounted : Nat) (t : HistoryTab) (fs : List (Fetch EventWithActor)) :
    Option (Sent (Option Uuid)) → Prop
  | idle (loading : t.loading = false) (more : t.loadingMore = false) : Waits mounted t fs none
  | first {c : Sent (Option Uuid)} (call : c.call = none) (loading : t.loading = true)
      (more : t.loadingMore = false) (nothing : fs = []) (since : mounted ≤ c.since) :
      Waits mounted t fs (some c)
  | more {c : Sent (Option Uuid)} {k : Uuid} (call : c.call = some k) (loading : t.loading = false)
      (more : t.loadingMore = true) (cursor : t.nextCursor = some k) (since : mounted ≤ c.since)
      (later : ∀ f ∈ fs, f.index < c.since) : Waits mounted t fs (some c)

/-- What holds of a tab that was mounted when the server was in state `s₀`. -/
def HistoryTab.Told (user : User) (ticketId : Uuid) (s₀ : Server) (t : HistoryTab)
    (c : Option (Sent (Option Uuid))) (s : Server) : Prop :=
  Run (fun _ _ => true) s₀ s ∧ ∃ fs, t.Loaded user ticketId s₀.history.length s fs ∧
    t.Waits s₀.history.length fs c

section Told

variable {user : User} {ticketId : Uuid} {mounted : Nat} {t : HistoryTab} {s s' : Server}
  {fs : List (Fetch EventWithActor)} {m : Action}

theorem HistoryTab.Loaded.step (h : t.Loaded user ticketId mounted s fs)
    (step : Step serve Cmd.exec s m s') : t.Loaded user ticketId mounted s' fs :=
  ⟨h.walk.step step, h.events, h.cursor, h.since⟩

theorem HistoryTab.Loaded.nil (t : HistoryTab) (events : t.events = [])
    (cursor : t.nextCursor = none) : t.Loaded user ticketId mounted s [] :=
  ⟨Server.walk_nil, events, cursor, by simp⟩

/-- A page after the others, or the first one. -/
theorem HistoryTab.Loaded.snoc (h : t.Loaded user ticketId mounted s fs)
    {f : Fetch EventWithActor} (hf : s.Fetched (asksHistory ticketId user) .eventPage f)
    (cursor : f.cursor = t.nextCursor) (more : fs ≠ [] → t.nextCursor ≠ none)
    (later : ∀ g ∈ fs, g.index < f.index) (since : mounted ≤ f.index) {t' : HistoryTab}
    (events : t'.events = t.events ++ f.page.items)
    (next : t'.nextCursor = f.page.nextCursor) : t'.Loaded user ticketId mounted s (fs ++ [f]) where
  walk := by
    refine h.walk.snoc hf (fun hnil => ?_) fun g hg => ?_
    · rw [cursor, h.cursor, hnil]
      rfl
    · have hlast : t.nextCursor = g.page.nextCursor := by rw [h.cursor, hg, Option.bind_some]
      have hne := more (List.ne_nil_of_mem (List.mem_of_getLast? hg))
      exact ⟨later g (List.mem_of_getLast? hg), hlast ▸ hne, cursor.trans hlast⟩
  events := by rw [events, h.events, gathered_snoc]
  cursor := by simpa using next
  since := by
    intro g hg
    rcases List.mem_append.mp hg with hg | hg
    · exact h.since g hg
    · exact List.mem_singleton.mp hg ▸ since

/-- The answer to a call is a page that was fetched after it was sent. -/
theorem Run.history_page {w : World} (h : Run (fun _ _ => true) { world := w } s)
    {c : Sent (Option Uuid)} {v : Response}
    (tracked : c.Tracked (HistoryTab.ui user ticketId).request s) (answered : c.AnsweredBy s v) :
    ∃ f : Fetch EventWithActor, s.Fetched (asksHistory ticketId user) .eventPage f ∧
      f.cursor = c.call ∧ c.since ≤ f.index ∧ v = .eventPage f.page := by
  obtain ⟨i, e, t, hi, hpages, ht, hq, hr, hlater, paged⟩ := h.answered_page tracked answered rfl
  obtain ⟨page, rfl⟩ : ∃ page, v = .eventPage page := by
    generalize e.obs = o at paged
    cases paged
    exact ⟨_, rfl⟩
  exact ⟨⟨i, c.call, page⟩, ⟨e, t, hi, hpages, ht, hq, hr⟩, rfl, hlater, rfl⟩

theorem HistoryTab.toggled_told {s₀ : Server} {c : Option (Sent (Option Uuid))}
    (h : t.Told user ticketId s₀ c s) {t' : HistoryTab} (events : t'.events = t.events)
    (cursor : t'.nextCursor = t.nextCursor) (loading : t'.loading = t.loading)
    (more : t'.loadingMore = t.loadingMore) : t'.Told user ticketId s₀ c s := by
  obtain ⟨run, fs, loaded, waits⟩ := h
  refine ⟨run, fs, ⟨loaded.walk, events.trans loaded.events, cursor.trans loaded.cursor,
    loaded.since⟩, ?_⟩
  cases waits with
  | idle hl hm => exact .idle (loading.trans hl) (more.trans hm)
  | first call hl hm nothing since =>
    exact .first call (loading.trans hl) (more.trans hm) nothing since
  | more call hl hm hc since later =>
    exact .more call (loading.trans hl) (more.trans hm) (cursor.trans hc) since later

theorem HistoryTab.acted_told {s₀ : Server} {c : Option (Sent (Option Uuid))}
    (h : t.Told user ticketId s₀ c s) {a : HistoryAction} {r : HistoryTab × List (Option Uuid)}
    (act : t.act a = some r) : (r.2 = [] ∧ r.1.Told user ticketId s₀ c s) ∨
      (c = none ∧ ∃ k, r.2 = [k] ∧ r.1.Told user ticketId s₀ (some (.new k s)) s) := by
  unfold HistoryTab.act at act
  split at act
  next => cases act
  next hloading =>
    have hloading : t.loading = false := by simpa using hloading
    cases a with
    | toggleType type =>
      cases Option.some.inj act
      exact .inl ⟨rfl, HistoryTab.toggled_told h rfl rfl rfl rfl⟩
    | dismissError =>
      cases Option.some.inj act
      exact .inl ⟨rfl, HistoryTab.toggled_told h rfl rfl rfl rfl⟩
    | loadMore =>
      dsimp only at act
      split at act
      next => cases act
      next k hcursor =>
        split at act
        next => cases act
        next hmore =>
          cases Option.some.inj act
          obtain ⟨run, fs, loaded, waits⟩ := h
          cases waits with
          | first _ hl => cases hl.symm.trans hloading
          | more _ _ hm => exact absurd hm hmore
          | idle =>
            have hsince : s₀.history.length ≤ s.history.length := by
              obtain ⟨h', hh, _⟩ := run.grows
              simp [hh]
            refine .inr ⟨rfl, some k, rfl, run, fs,
              ⟨loaded.walk, loaded.events, loaded.cursor, loaded.since⟩, ?_⟩
            exact .more rfl hloading rfl hcursor hsince
              fun f hf => (loaded.walk.fetched f hf).index_lt

theorem HistoryTab.settled_told {w : World} {s₀ : Server}
    (h₀ : Run (fun _ _ => true) { world := w } s₀) {c : Sent (Option Uuid)}
    (h : t.Told user ticketId s₀ (some c) s)
    (tracked : c.Tracked (HistoryTab.ui user ticketId).request s)
    {r : Except (Option Err) Response} (answer : ∀ v, r = .ok v → c.AnsweredBy s v) :
    (t.settle c.call r).Told user ticketId s₀ none s := by
  obtain ⟨run, fs, loaded, waits⟩ := h
  have hrun := h₀.trans run
  cases waits with
  | first call hl hm nothing since =>
    rw [call]
    cases r with
    | error e =>
      exact ⟨run, fs, ⟨loaded.walk, loaded.events, loaded.cursor, loaded.since⟩, .idle rfl hm⟩
    | ok v =>
      obtain ⟨f, hf, hcursor, hlater, rfl⟩ := Run.history_page hrun tracked (answer v rfl)
      cases nothing
      have hnext : t.nextCursor = none := loaded.cursor
      refine ⟨run, [f], ?_, .idle rfl hm⟩
      refine loaded.snoc hf (hcursor.trans (call.trans hnext.symm)) (absurd rfl ·) nofun
        (since.trans hlater) ?_ rfl
      rw [show t.events = [] from loaded.events]
      rfl
  | @more _ k call hl hm hcur since later =>
    rw [call]
    cases r with
    | error e =>
      exact ⟨run, fs, ⟨loaded.walk, loaded.events, loaded.cursor, loaded.since⟩, .idle hl rfl⟩
    | ok v =>
      obtain ⟨f, hf, hcursor, hlater, rfl⟩ := Run.history_page hrun tracked (answer v rfl)
      refine ⟨run, fs ++ [f], ?_, .idle hl rfl⟩
      exact loaded.snoc hf (hcursor.trans (call.trans hcur.symm)) (fun _ => by simp [hcur])
        (fun g hg => (later g hg).trans_le hlater) (since.trans hlater) rfl rfl

theorem HistoryTab.told_sequential {w : World} {s₀ : Server}
    (h₀ : Run (fun _ _ => true) { world := w } s₀) :
    (HistoryTab.ui user ticketId).Sequential serve Cmd.exec (HistoryTab.Told user ticketId s₀) where
  act h hact := HistoryTab.acted_told h hact
  delivered h _ step := by
    obtain ⟨run, fs, loaded, waits⟩ := h
    refine ⟨run.next rfl step, fs, loaded.step step, ?_⟩
    cases waits with
    | first call hl hm nothing since => exact .first call hl hm nothing since
    | more call hl hm hcur since later => exact .more call hl hm hcur since later
  settle h tracked answer := .inl ⟨rfl, HistoryTab.settled_told h₀ h tracked answer⟩
  server h step := by
    obtain ⟨run, fs, loaded, waits⟩ := h
    exact ⟨run.next rfl step, fs, loaded.step step, waits⟩

theorem HistorySession.mounted_holds {w : World} {s₀ : Server}
    (h₀ : Run (fun _ _ => true) { world := w } s₀) :
    (HistorySession.mounted s₀).Holds (HistoryTab.ui user ticketId)
      (HistoryTab.Told user ticketId s₀) (some (.new none s₀)) where
  only := rfl
  told := ⟨.start, [], .nil _ rfl rfl, .first rfl rfl rfl rfl (Nat.le_refl _)⟩
  tracked := by
    rintro _ ⟨⟩
    exact Sent.tracked_new none s₀
  tids := h₀.tid_lt (by simp)

end Told

section Shown

variable {w : World} {user : User} {ticketId : Uuid} {t : HistoryTab} {s s₀ : Server}
  {fs : List (Fetch EventWithActor)}

/-- A cursor that comes with a page is the id of a stored event. -/
theorem Run.history_cursor (h : Run (fun _ _ => true) { world := w } s) {f : Fetch EventWithActor}
    (hf : s.Fetched (asksHistory ticketId user) .eventPage f) {c : Uuid}
    (hc : f.page.nextCursor = some c) : ∃ e ∈ s.world.events.rows, e.id = c := by
  obtain ⟨x, t, hx, hpages, ht, hq, hr⟩ := hf
  have hpaged := h.paged hx hpages ht (hq ▸ rfl) hr
  rw [hq] at hpaged
  obtain ⟨cursor, named⟩ : ∃ cursor, cursorArg (f.cursor.map Uuid.text) = .ok cursor := by
    generalize x.obs = o at hpaged
    generalize Response.eventPage f.page = v at hpaged
    cases hpaged with
    | events named => exact ⟨_, named⟩
  have hasks : s.Fetched (asksEvents ticketId (historyQuery none) user) .eventPage
      ⟨f.index, cursor, f.page⟩ := ⟨x, t, hx, hpages, ht, ⟨_, named, hq⟩, hr⟩
  have reads := h.reads_history hasks
  obtain ⟨_, y, hy, hid⟩ := reads.of_next hc
  obtain ⟨hmem, _⟩ := reads.answered.mem _ (List.mem_map_of_mem (List.mem_of_getLast? hy))
  refine ⟨y.event, ?_, hid⟩
  have hstay := h.events_stay (Nat.le_add_right f.index s.history.length)
  rw [worldAt_of_length_le (Nat.le_add_left _ _)] at hstay
  exact hstay.subset hmem

/-- The texts of its cursors name the ids that the server gave. -/
theorem Server.Walk.as_history (walk : s.Walk (asksHistory ticketId user) .eventPage fs)
    (h : Run (fun _ _ => true) { world := w } s)
    (hids : ∀ e ∈ s.world.events.rows, e.id < 16 ^ 32) :
    s.Walk (asksEvents ticketId (historyQuery none) user) .eventPage fs := by
  refine walk.as fun f hf => ?_
  have hcursor : cursorArg (f.cursor.map Uuid.text) = .ok f.cursor := by
    refine cursorArg_text fun c hc => ?_
    obtain ⟨g, hg, hnext⟩ := walk.cursor_given hf hc
    obtain ⟨e, he, rfl⟩ := h.history_cursor (walk.fetched g hg) hnext
    exact hids e he
  obtain ⟨x, t, hx, hpages, ht, hq, hr⟩ := walk.fetched f hf
  exact ⟨x, t, hx, hpages, ht, ⟨_, hcursor, hq⟩, hr⟩

theorem HistoryTab.Loaded.shows (loaded : t.Loaded user ticketId s₀.history.length s fs)
    (h : Run (fun _ _ => true) { world := w } s) (run : Run (fun _ _ => true) s₀ s)
    (hids : ∀ e ∈ s.world.events.rows, e.id < 16 ^ 32) :
    (∀ x ∈ t.events, x.event ∈ s.world.eventsOf ticketId) ∧
      (t.events.map fun x => x.event.id).Nodup ∧
      (t.events.Pairwise fun a b => a.event.Precedes b.event) ∧
      (t.nextCursor ≠ none → ∃ k, 0 < k ∧ t.events.length = k * HistoryTab.PAGE_SIZE) ∧
      (t.events ≠ [] → t.nextCursor = none →
        ∀ e ∈ s₀.world.eventsOf ticketId, e ∈ t.events.map EventWithActor.event) := by
  have walk := loaded.walk.as_history h hids
  have reads : ∀ f ∈ fs, historyListing.Reads HistoryTab.PAGE_SIZE (s.worldAt f.index)
      (ofTicket ticketId (s.worldAt f.index)) f := fun f hf => h.reads_history (walk.fetched f hf)
  have hstay : ∀ i, (s.worldAt i).events.rows <+: s.world.events.rows := by
    intro i
    have hlast := h.events_stay (Nat.le_add_right i s.history.length)
    rwa [worldAt_of_length_le (Nat.le_add_left _ _)] at hlast
  rw [loaded.events]
  refine ⟨fun x hx => ?_, Listing.gathered_nodup walk h.history_keeps reads, ?_, ?_, ?_⟩
  · obtain ⟨f, _, hmem, hticket⟩ := Listing.items_mem reads hx
    exact List.mem_filter.mpr ⟨(hstay _).subset hmem, hticket⟩
  · exact (Listing.gathered_sorted walk h.history_keeps reads).imp TicketEvent.place_lt.mp
  · intro hnext
    have hne : fs ≠ [] := by
      rintro rfl
      exact hnext loaded.cursor
    refine ⟨fs.length, List.length_pos_of_ne_nil hne, ?_⟩
    refine Listing.gathered_full walk h.history_keeps reads fun f hf => ?_
    rwa [loaded.cursor, hf, Option.bind_some] at hnext
  · intro hne hnone e he
    obtain ⟨he, hticket⟩ := List.mem_filter.mp he
    have hmounting : ∀ f ∈ fs, e ∈ (s.worldAt f.index).events.rows := by
      intro f hf
      have hprefix := h.events_stay (loaded.since f hf)
      rw [show s.worldAt s₀.history.length = s₀.world from run.worldAt_start] at hprefix
      exact hprefix.subset he
    have hended : Ended fs := by
      cases hlast : fs.getLast? with
      | none =>
        rw [List.getLast?_eq_none_iff.mp hlast] at hne
        exact absurd rfl hne
      | some f =>
        refine ⟨f, hlast, ?_⟩
        rwa [loaded.cursor, hlast, Option.bind_some] at hnone
    have honce := (Listing.once_iff walk h.history_keeps reads (by decide) hended
      (fun f hf => ⟨e, hmounting f hf, rfl, hticket⟩)).mpr
      fun f hf r hskip => absurd hskip (h.history_unskipped walk hf r)
    have hnodup := Listing.gathered_nodup walk h.history_keeps reads
    obtain ⟨x, hx, hid⟩ := (countP_key hnodup _).mp honce
    obtain ⟨f, hf, hmem, _⟩ := Listing.items_mem reads hx
    exact List.mem_map.mpr ⟨x, hx, Listing.eq_of_id hmem (hmounting f hf) hid⟩

end Shown

namespace Sample

end Sample

end TicketSystem
