import TicketSystem.CommentsTab
import TicketSystem.DetailSession
import TicketSystem.HistoryWalk

namespace TicketSystem

open Relational Interleaved

/-- The history of a ticket, in its order. -/
def World.eventHistory (w : World) (ticketId : Uuid) : List TicketEvent :=
  (w.eventsOf ticketId).mergeSort TicketEvent.historyLe

def TicketEvent.isComment (e : TicketEvent) : Bool := e.eventType = .comentario

/-- The database as a request read its page. -/
def Server.readBy? (s : Server) (n : Nat) : Option World :=
  (s.history.find? fun x => x.tid == n && x.obs.cmd.pages).map Entry.before

/-- The tab shows exactly the comments that the ticket had when the last load that succeeded read
the history, in its order; and when that load ended a `handleSubmit`, the new comment too. -/
structure CommentsSession.ShowsComments (s : CommentsSession) : Prop where
  all : ∀ l, s.lastLoad = some l → ∃ w, s.server.readBy? l.read = some w ∧
    s.tab.comments.map EventWithActor.event =
      (w.eventHistory s.ticketId).filter TicketEvent.isComment
  submitted : ∀ l m, s.lastLoad = some l → l.posted = some m → ∃ t e,
    s.server.threads[m]? = some t ∧ t.result? = some (.ok (.event e)) ∧
      e ∈ s.tab.comments.map EventWithActor.event

/-- The history that the last load read had no comment beyond its first page. -/
def CommentsSession.FitsFirstPage (s : CommentsSession) : Prop :=
  ∀ l w, s.lastLoad = some l → s.server.readBy? l.read = some w →
    ∀ e ∈ (w.eventHistory s.ticketId).drop CommentsTab.PAGE_SIZE, e.isComment = false

/-- The answer is the event that was stored. -/
def Commented (q : Request) (past : List Seen) (v : Response) : Prop :=
  ∀ id actor message, q = .addComment id actor message → ∃ e, v = .event e ∧
    (⟨.one (.ticketEventCreate (comentarioEvent id actor message)), .ok e⟩ : Seen) ∈ past

def commenting : Contract Cmd Cmd.Res Err Response Request where
  answers _ _ := True
  issues _ _ _ := True
  returns q past r := ∀ v, r = .ok v → Commented q past v

theorem addComment_commented (id : Uuid) (actor : User) (message : String) :
    Turns [] (respond .event (addComment id actor message)) fun past r =>
      ∀ v, r = .ok v → Commented (.addComment id actor message) past v := by
  have hstored : Turns [] (addComment id actor message) fun past r => ∀ e, r = .ok e →
      (⟨.one (.ticketEventCreate (comentarioEvent id actor message)), .ok e⟩ : Seen) ∈ past := by
    refine Prog.obeys_perform_bind.mpr ⟨trivial, fun found _ => ?_, fun _ _ _ hv => nomatch hv⟩
    cases found with
    | none => exact fun _ hv => nomatch hv
    | some ticket =>
      dsimp only
      split
      next => exact fun _ hv => nomatch hv
      next =>
        refine Prog.obeys_perform_bind.mpr ⟨trivial, fun event _ => ?_, fun _ _ _ hv => nomatch hv⟩
        refine ((notified_returns (notifyCommented ticket message)).seen
          (List.mem_append_right _ (List.mem_singleton_self _))).mono (fun _ _ _ => trivial)
          fun past r h e he => ?_
        obtain ⟨rfl, hseen⟩ := h e he
        exact hseen
  refine Prog.Obeys.bind hstored (fun past e he v hv => ?_) (fun _ _ _ _ hv => nomatch hv)
  cases hv
  rintro _ _ _ ⟨⟩
  exact ⟨e, rfl, he e rfl⟩

theorem serve_commenting : commenting.Kept serve Cmd.exec where
  answers _ _ _ := trivial
  obeys q := by
    have other : (∀ id actor message, q ≠ .addComment id actor message) → Turns [] (serve q)
        fun past r => ∀ v, r = .ok v → Commented q past v :=
      fun hno => (turns_any (serve q)).mono (fun _ _ h => h)
        fun _ _ _ _ _ id actor message hq => absurd hq (hno id actor message)
    cases q with
    | addComment id actor message => exact addComment_commented id actor message
    | _ => exact other (by simp)

section Runs

variable {ok : Server → Action → Bool} {w : World} {s s' : Server}

theorem Run.step_events (h : Run ok { world := w } s) {m : Action}
    (step : Step serve Cmd.exec s m s') {e : TicketEvent} (he : e ∈ s.world.events.rows) :
    e ∈ s'.world.events.rows := by
  have hrun : Run (fun _ _ => true) { world := w } s' := (h.mono fun _ _ _ => rfl).next rfl step
  cases step with
  | arrive q => exact he
  | stop thread => exact he
  | run o thread =>
    obtain ⟨_, _, heff⟩ := hrun.effect rfl
    exact heff.events.subset he

/-- What was stored once is stored in the end. -/
theorem Run.events_last (h : Run ok { world := w } s) {x : Executed} (hx : x ∈ s.history)
    {e : TicketEvent} (he : e ∈ x.after.events.rows) : e ∈ s.world.events.rows := by
  obtain ⟨h₁, h₂, hh⟩ := List.append_of_mem hx
  have hl : Linked w (h₁ ++ x :: h₂) s.world := hh ▸ h.linked
  have hprefix : x.after.events.rows <+: s.world.events.rows := by
    refine hl.at.2.relates (r := fun u v => u.events.rows <+: v.events.rows)
      (fun _ => List.prefix_rfl) (fun _ _ _ => List.IsPrefix.trans) fun y hy => ?_
    obtain ⟨a, b, rfl⟩ := List.append_of_mem hy
    obtain ⟨_, _, heff⟩ := h.effect (show s.history = (h₁ ++ x :: a) ++ y :: b by simpa using hh)
    exact heff.events
  exact hprefix.subset he

/-- A comment that was accepted is stored, with the ticket it was for. -/
theorem Run.commented (h : Run ok { world := w } s) {n : Nat} {t : Task} {v : Response}
    {id : Uuid} {actor : User} {message : String} (ht : s.threads[n]? = some t)
    (hq : t.request = .addComment id actor message) (hr : t.result? = some (.ok v)) :
    ∃ e, v = .event e ∧ e.ticketId = id ∧ e.isComment = true ∧ e ∈ s.world.events.rows := by
  obtain ⟨e, rfl, hmem⟩ := h.returned serve_commenting ht hr v rfl id actor message hq
  obtain ⟨x, hx, o, hexec⟩ := h.seen_executed hmem
  simp only [Stmt.exec] at hexec
  split at hexec
  next events hi =>
    obtain ⟨hrow, hafter⟩ := Prod.mk.inj hexec
    have hrow : (comentarioEvent id actor message).row o = e := Except.ok.inj hrow
    have hstored : e ∈ x.after.events.rows := by
      rw [← hafter, ← hrow]
      exact Table.insert?_rows hi ▸ List.mem_concat_self
    refine ⟨e, rfl, ?_, ?_, h.events_last hx hstored⟩
    · rw [← hrow]
      rfl
    · rw [← hrow]
      rfl
  next => cases (Prod.mk.inj hexec).1

end Runs

theorem CommentsTab.settle_error (t : CommentsTab) (c : TabCall) (err : ClientError) :
    (t.settle c (.error err)).events = t.events := by
  cases c <;> rfl

/-- What an event can do: nothing to what is shown, a comment to send, the fate of a call on its
way, its end, or a move of the server. -/
inductive CommentsSession.Moves (s : CommentsSession) : CommentsSession → Prop
  | still {tab : CommentsTab} (same : tab.events = s.tab.events) : Moves s { s with tab := tab }
  | submitted {body : CreateCommentRequest} :
      Moves s { s with
        tab := s.tab.submit
        calls := s.calls ++ [{ call := .createComment body }] }
  | refused {i : Nat} {c : TabCall} (sent : s.calls[i]? = some { call := c }) :
      Moves s (s.fly i c .refused)
  | delivered {i : Nat} {c : TabCall} {q : Request} {server : Server}
      (sent : s.calls[i]? = some { call := c }) (asks : c.request? s.user s.ticketId = some q)
      (step : Step serve Cmd.exec s.server (.arrive q) server) :
      Moves s { s.fly i c (.served s.server.threads.length) with server := server }
  | answered {i n : Nat} {c : TabCall} {t : Task} {v : Response}
      (call : s.calls[i]? = some { call := c, flight := .served n })
      (thread : s.server.threads[n]? = some t) (result : t.result? = some (.ok v)) :
      Moves s (s.succeed i c n v)
  | failed {i : Nat} {c : SentCall} {err : ClientError} (call : s.calls[i]? = some c) :
      Moves s (s.reject i c.call err)
  | served {m : Action} {server : Server} (step : Step serve Cmd.exec s.server m server) :
      Moves s { s with server := server }

section Moves

variable {s s' : CommentsSession}

theorem CommentsSession.next_moves {e : CommentsEvent} (h : s.next e = some s') : s.Moves s' := by
  cases e with
  | edit message =>
    simp only [CommentsSession.next] at h
    split at h
    next => cases h
    next => cases Option.some.inj h; exact .still rfl
  | submit =>
    simp only [CommentsSession.next] at h
    split at h
    next => cases h
    next =>
      split at h
      next => cases Option.some.inj h; exact .submitted
      next => cases Option.some.inj h; exact .still rfl
  | dismissError => cases Option.some.inj h; exact .still rfl
  | dismissSubmitError => cases Option.some.inj h; exact .still rfl
  | deliver i =>
    simp only [CommentsSession.next] at h
    split at h
    next call hsent =>
      split at h
      next => cases Option.some.inj h; exact .refused hsent
      next q hasks =>
        obtain ⟨server, hserver, rfl⟩ := Option.map_eq_some_iff.mp h
        exact .delivered hsent hasks (Pool.next_step hserver)
    next => cases h
  | answer i =>
    simp only [CommentsSession.next] at h
    split at h
    next call hcall => cases Option.some.inj h; exact .failed hcall
    next call n hcall =>
      split at h
      next v hresult =>
        obtain ⟨t, ht, hr⟩ := Option.bind_eq_some_iff.mp hresult
        cases Option.some.inj h
        exact .answered hcall ht hr
      next => cases Option.some.inj h; exact .failed hcall
      next => cases h
    next => cases h
  | fail i =>
    simp only [CommentsSession.next] at h
    split at h
    next c hcall =>
      split at h
      next => cases h
      next => cases Option.some.inj h; exact .failed hcall
    next => cases h
  | server m =>
    obtain ⟨server, hserver, rfl⟩ := Option.map_eq_some_iff.mp h
    exact .served (Pool.next_step hserver)

theorem CommentsSession.Moves.same_tab (hm : s.Moves s') :
    s'.user = s.user ∧ s'.ticketId = s.ticketId := by
  cases hm <;> exact ⟨rfl, rfl⟩

theorem CommentsSession.Moves.server_moves (hm : s.Moves s') :
    s'.server = s.server ∨ ∃ m, Step serve Cmd.exec s.server m s'.server := by
  cases hm with
  | delivered _ _ step => exact .inr ⟨_, step⟩
  | served step => exact .inr ⟨_, step⟩
  | _ => exact .inl rfl

theorem CommentsSession.Moves.reach (hm : s.Moves s') :
    Run (fun _ _ => true) s.server s'.server := by
  rcases hm.server_moves with h | ⟨m, step⟩
  · rw [h]
    exact .start
  · exact .next .start rfl step

/-- Where a call of the next state comes from. -/
inductive CommentsSession.Comes (s s' : CommentsSession) (j : Nat) : SentCall → Prop
  | stays {x : SentCall} (before : s.calls[j]? = some x) : Comes s s' j x
  | ends {c : TabCall} {f f' : Flight} (before : s.calls[j]? = some { call := c, flight := f })
      (landed : ∀ n, f' ≠ .served n) : Comes s s' j { call := c, flight := f' }
  | arrives {c : TabCall} {q : Request} (before : s.calls[j]? = some { call := c })
      (asks : c.request? s.user s.ticketId = some q)
      (step : Step serve Cmd.exec s.server (.arrive q) s'.server) :
      Comes s s' j { call := c, flight := .served s.server.threads.length }
  | typed {body : CreateCommentRequest} : Comes s s' j { call := .createComment body }
  | follows {i n : Nat} {body : CreateCommentRequest} {t : Task} {v : Response}
      (call : s.calls[i]? = some { call := .createComment body, flight := .served n })
      (thread : s.server.threads[n]? = some t) (result : t.result? = some (.ok v)) :
      Comes s s' j { call := .reload n }

theorem CommentsSession.Moves.comes (hm : s.Moves s') {j : Nat} {x : SentCall}
    (hx : s'.calls[j]? = some x) : s.Comes s' j x := by
  have hset : ∀ {i : Nat} {c : TabCall} {f f' : Flight},
      s.calls[i]? = some { call := c, flight := f } → (∀ n, f' ≠ .served n) →
      (s.calls.set i { call := c, flight := f' })[j]? = some x → s.Comes s' j x := by
    intro i c f f' hc landed hx
    rcases getElem?_set_cases hx with ⟨rfl, rfl⟩ | ⟨_, hx⟩
    · exact .ends hc landed
    · exact .stays hx
  cases hm with
  | still => exact .stays hx
  | served => exact .stays hx
  | submitted =>
    rcases getElem?_concat_cases hx with hx | ⟨_, rfl⟩
    · exact .stays hx
    · exact .typed
  | refused sent => exact hset sent (by simp) hx
  | delivered sent asks step =>
    rcases getElem?_set_cases hx with ⟨rfl, rfl⟩ | ⟨_, hx⟩
    · exact .arrives sent asks step
    · exact .stays hx
  | failed call => exact hset call (by simp) hx
  | @answered i n c t v call thread result =>
    cases c with
    | createComment body =>
      rcases getElem?_concat_cases hx with hx | ⟨_, rfl⟩
      · exact hset call (by simp) hx
      · exact .follows call thread result
    | load =>
      simp only [succeed, TabCall.next, List.append_nil] at hx
      exact hset call (by simp) hx
    | reload m =>
      simp only [succeed, TabCall.next, List.append_nil] at hx
      exact hset call (by simp) hx

end Moves

/-- Request `m` was a comment on the ticket, and was answered with this event, which is stored. -/
structure Server.Posted (s : Server) (ticketId : Uuid) (m : Nat) (e : TicketEvent) : Prop where
  answered : ∃ t, s.threads[m]? = some t ∧ t.result? = some (.ok (.event e))
  ticket : e.ticketId = ticketId
  comment : e.isComment = true
  stored : e ∈ s.world.events.rows

/-- Every statement of request `n` was executed when the event was stored already. -/
def Server.ReadsAfter (s : Server) (e : TicketEvent) (n : Nat) : Prop :=
  ∀ x ∈ s.history, x.tid = n → e ∈ x.before.events.rows

section Posted

variable {w : World} {s s' : Server} {ticketId : Uuid} {m n : Nat} {e : TicketEvent} {a : Action}

theorem Server.Posted.step (hp : s.Posted ticketId m e) (h : Run (fun _ _ => true) { world := w } s)
    (step : Step serve Cmd.exec s a s') : s'.Posted ticketId m e where
  answered := by
    obtain ⟨t, ht, hr⟩ := hp.answered
    obtain ⟨t', ht', _, hr'⟩ := step.result_stays ht hr
    exact ⟨t', ht', hr'⟩
  ticket := hp.ticket
  comment := hp.comment
  stored := h.step_events step hp.stored

theorem Server.ReadsAfter.step (hr : s.ReadsAfter e n) (stored : e ∈ s.world.events.rows)
    (step : Step serve Cmd.exec s a s') : s'.ReadsAfter e n := by
  cases step with
  | arrive q => exact hr
  | stop thread => exact hr
  | run o thread =>
    intro x hx hn
    rcases List.mem_append.mp hx with hx | hx
    · exact hr x hx hn
    · cases List.mem_singleton.mp hx
      exact stored

/-- A request that arrives has not read anything. -/
theorem Run.arrives_after (h : Run (fun _ _ => true) { world := w } s) {q : Request}
    (step : Step serve Cmd.exec s (.arrive q) s') : s'.ReadsAfter e s.threads.length := by
  intro x hx hn
  cases step
  have hlt := h.tid_lt (by simp) x hx
  omega

end Posted

/-- The page of the load is on the screen; a comment it follows was stored before it was read. -/
def CommentsSession.Shown (s : CommentsSession) (l : LastLoad) : Prop :=
  ∃ (t : Task) (v : Response), s.server.threads[l.read]? = some t ∧
    t.request = .events s.ticketId commentsQuery s.user ∧ t.result? = some (.ok v) ∧
    s.tab.events = v.eventItems ∧ ∀ m, l.posted = some m →
      ∃ e, s.server.Posted s.ticketId m e ∧ s.server.ReadsAfter e l.read

structure CommentsSession.Sound (w : World) (s : CommentsSession) : Prop where
  run : Run (fun _ _ => true) { world := w } s.server
  served : ∀ (i : Nat) (c : TabCall) (n : Nat),
    s.calls[i]? = some { call := c, flight := .served n } →
    ∃ t : Task, s.server.threads[n]? = some t ∧ c.request? s.user s.ticketId = some t.request
  reloads : ∀ (i m : Nat) (f : Flight), s.calls[i]? = some { call := .reload m, flight := f } →
    ∃ e, s.server.Posted s.ticketId m e ∧ ∀ n, f = .served n → s.server.ReadsAfter e n
  shown : ∀ l, s.lastLoad = some l → s.Shown l

section Sound

variable {w : World} {s s' : CommentsSession}

theorem CommentsSession.Moves.posted (hm : s.Moves s') (h : s.Sound w) {m : Nat} {e : TicketEvent}
    (hp : s.server.Posted s.ticketId m e) : s'.server.Posted s'.ticketId m e := by
  rw [hm.same_tab.2]
  rcases hm.server_moves with heq | ⟨_, step⟩
  · rw [heq]
    exact hp
  · exact hp.step h.run step

theorem CommentsSession.Moves.readsAfter (hm : s.Moves s') {m n : Nat} {e : TicketEvent}
    (hp : s.server.Posted s.ticketId m e) (hr : s.server.ReadsAfter e n) :
    s'.server.ReadsAfter e n := by
  rcases hm.server_moves with heq | ⟨_, step⟩
  · rw [heq]
    exact hr
  · exact hr.step hp.stored step

/-- The comment of a call that was answered is stored. -/
theorem CommentsSession.Sound.posts (h : s.Sound w) {i n : Nat} {body : CreateCommentRequest}
    {t : Task} {v : Response}
    (call : s.calls[i]? = some { call := .createComment body, flight := .served n })
    (thread : s.server.threads[n]? = some t) (result : t.result? = some (.ok v)) :
    ∃ e, s.server.Posted s.ticketId n e := by
  obtain ⟨t', ht', hq⟩ := h.served i _ n call
  cases ht'.symm.trans thread
  simp only [TabCall.request?] at hq
  split at hq
  next =>
    obtain ⟨e, rfl, hticket, hcomment, hstored⟩ :=
      h.run.commented thread (Option.some.inj hq).symm result
    exact ⟨e, ⟨⟨t, thread, result⟩, hticket, hcomment, hstored⟩⟩
  next => cases hq

theorem CommentsSession.Moves.serves (hm : s.Moves s') (h : s.Sound w) (j : Nat) (c : TabCall)
    (n : Nat) (hc : s'.calls[j]? = some { call := c, flight := .served n }) :
    ∃ t : Task, s'.server.threads[n]? = some t ∧
      c.request? s'.user s'.ticketId = some t.request := by
  rw [hm.same_tab.1, hm.same_tab.2]
  cases hm.comes hc with
  | stays before =>
    obtain ⟨t, ht, hq⟩ := h.served j c n before
    obtain ⟨t', ht', hq'⟩ := hm.reach.threads_keep ht
    exact ⟨t', ht', hq'.symm ▸ hq⟩
  | ends _ landed => exact absurd rfl (landed n)
  | arrives _ asks step =>
    generalize s'.server = server at step
    cases step
    exact ⟨_, List.getElem?_concat_length, asks⟩

theorem CommentsSession.Moves.reloads (hm : s.Moves s') (h : s.Sound w) (j m : Nat) (f : Flight)
    (hc : s'.calls[j]? = some { call := .reload m, flight := f }) :
    ∃ e, s'.server.Posted s'.ticketId m e ∧ ∀ n, f = .served n → s'.server.ReadsAfter e n := by
  cases hm.comes hc with
  | stays before =>
    obtain ⟨e, hp, hr⟩ := h.reloads j m f before
    exact ⟨e, hm.posted h hp, fun n hn => hm.readsAfter hp (hr n hn)⟩
  | ends before landed =>
    obtain ⟨e, hp, _⟩ := h.reloads j m _ before
    exact ⟨e, hm.posted h hp, fun n hn => absurd hn (landed n)⟩
  | arrives before _ step =>
    obtain ⟨e, hp, _⟩ := h.reloads j m _ before
    refine ⟨e, hm.posted h hp, ?_⟩
    rintro _ ⟨⟩
    exact h.run.arrives_after step
  | follows call thread result =>
    obtain ⟨e, hp⟩ := h.posts call thread result
    exact ⟨e, hm.posted h hp, fun n hn => nomatch hn⟩

/-- What the last load brought stays on the screen until the next one. -/
theorem CommentsSession.Sound.still_shown (h : s.Sound w) (hm : s.Moves s')
    (same : s'.tab.events = s.tab.events) {l : LastLoad} (hl : s.lastLoad = some l) :
    s'.Shown l := by
  obtain ⟨t, v, ht, hq, hr, hevents, hposted⟩ := h.shown l hl
  have hthread : ∃ t' : Task, s'.server.threads[l.read]? = some t' ∧ t'.request = t.request ∧
      t'.result? = some (.ok v) := by
    rcases hm.server_moves with heq | ⟨_, step⟩
    · rw [heq]
      exact ⟨t, ht, rfl, hr⟩
    · exact step.result_stays ht hr
  obtain ⟨t', ht', hq', hr'⟩ := hthread
  refine ⟨t', v, ht', ?_, hr', same.trans hevents, fun m hm' => ?_⟩
  · rw [hm.same_tab.1, hm.same_tab.2, hq', hq]
  · obtain ⟨e, hp, hafter⟩ := hposted m hm'
    exact ⟨e, hm.posted h hp, hm.readsAfter hp hafter⟩

/-- A load that is answered is the last one, and its page is on the screen. -/
theorem CommentsSession.Sound.load_shown (h : s.Sound w) {i n : Nat} {c : TabCall} {t : Task}
    {v : Response} (call : s.calls[i]? = some { call := c, flight := .served n })
    (thread : s.server.threads[n]? = some t) {l : LastLoad} (hl : c.lastLoad? n = some l) :
    l.read = n ∧ t.request = .events s.ticketId commentsQuery s.user ∧
      (s.tab.settle c (.ok v)).events = v.eventItems ∧ ∀ m, l.posted = some m →
        ∃ e, s.server.Posted s.ticketId m e ∧ s.server.ReadsAfter e n := by
  obtain ⟨t', ht', hq⟩ := h.served i c n call
  cases ht'.symm.trans thread
  cases c with
  | load =>
    cases hl
    exact ⟨rfl, (Option.some.inj hq).symm, rfl, fun m hm => nomatch hm⟩
  | createComment body => cases hl
  | reload m =>
    cases hl
    refine ⟨rfl, (Option.some.inj hq).symm, rfl, ?_⟩
    rintro _ ⟨⟩
    obtain ⟨e, hp, hafter⟩ := h.reloads i m _ call
    exact ⟨e, hp, hafter n rfl⟩

theorem CommentsSession.Moves.shown (hm : s.Moves s') (h : s.Sound w) (l : LastLoad)
    (hl : s'.lastLoad = some l) : s'.Shown l := by
  cases hm with
  | still same => exact h.still_shown (.still same) same hl
  | submitted => exact h.still_shown .submitted rfl hl
  | refused sent => exact h.still_shown (.refused sent) rfl hl
  | delivered sent asks step => exact h.still_shown (.delivered sent asks step) rfl hl
  | failed call => exact h.still_shown (.failed call) (s.tab.settle_error _ _) hl
  | served step => exact h.still_shown (.served step) rfl hl
  | @answered i n c t v call thread result =>
    cases hload : c.lastLoad? n with
    | some l' =>
      obtain ⟨hread, hq, hevents, hposted⟩ := h.load_shown (v := v) call thread hload
      have hl : (c.lastLoad? n).or s.lastLoad = some l := hl
      rw [hload, Option.some_or] at hl
      cases hl
      cases hread
      exact ⟨t, v, thread, hq, result, hevents, hposted⟩
    | none =>
      have hl : (c.lastLoad? n).or s.lastLoad = some l := hl
      rw [hload, Option.none_or] at hl
      cases c with
      | createComment body => exact h.still_shown (.answered call thread result) rfl hl
      | load => cases hload
      | reload m => cases hload

theorem CommentsSession.Moves.sound (hm : s.Moves s') (h : s.Sound w) : s'.Sound w where
  run := h.run.trans hm.reach
  served := hm.serves h
  reloads := hm.reloads h
  shown := hm.shown h

theorem CommentsSession.mounted_sound {user : User} {ticketId : Uuid} {server : Server}
    (h : Run (fun _ _ => true) { world := w } server) :
    (CommentsSession.mounted user ticketId server).Sound w := by
  have hload : ∀ (i : Nat) (c : TabCall) (f : Flight),
      (CommentsSession.mounted user ticketId server).calls[i]? =
        some { call := c, flight := f } → c = .load ∧ f = .sent := by
    intro i c f hc
    rw [CommentsSession.mounted, List.getElem?_singleton] at hc
    split at hc
    next => cases hc; exact ⟨rfl, rfl⟩
    next => cases hc
  refine ⟨h, fun i c n hc => ?_, fun i m f hc => ?_, fun l hl => nomatch hl⟩
  · cases (hload i c _ hc).2
  · cases (hload i _ f hc).1

end Sound

theorem World.historyPage_first (w : World) (ticketId : Uuid) (limit : Nat) :
    w.historyPage ticketId none limit = (w.eventHistory ticketId).take limit := by
  simp only [World.historyPage, findMany, World.eventHistory]
  rfl

theorem World.mem_eventHistory {w : World} {ticketId : Uuid} {e : TicketEvent} :
    e ∈ w.eventHistory ticketId ↔ e ∈ w.events.rows ∧ e.ticketId = ticketId := by
  simp [World.eventHistory, World.eventsOf, ofTicket]

theorem filter_isComment (users : Table User User.clash) (events : List TicketEvent) :
    ((events.map (TicketEvent.withActor users)).filter EventWithActor.isComment).map
      EventWithActor.event = events.filter TicketEvent.isComment := by
  rw [List.filter_map, List.map_map]
  exact List.map_id _

theorem filter_take_iff {α : Type} {p : α → Bool} {l : List α} {n : Nat} :
    (l.take n).filter p = l.filter p ↔ ∀ a ∈ l.drop n, p a = false := by
  have hsplit : l.filter p = (l.take n).filter p ++ (l.drop n).filter p := by
    rw [← List.filter_append, List.take_append_drop]
  rw [hsplit, List.self_eq_append_right, List.filter_eq_nil_iff]
  simp

/-- The call that fetched a page is one that fetches a page. -/
theorem paged_cmd {q : Request} {o : Seen} {v : Response} (h : Paged q o v) :
    o.cmd.pages = true := by
  cases h <;> rfl

section Shown

variable {w : World} {s : CommentsSession} {l : LastLoad}

/-- What the tab shows are the comments on the first page of the history, as the last load read
it. -/
theorem CommentsSession.Sound.shows_first (h : s.Sound w) (hl : s.lastLoad = some l) :
    ∃ x ∈ s.server.history, x.tid = l.read ∧ s.server.readBy? l.read = some x.before ∧
      s.tab.comments.map EventWithActor.event =
        ((x.before.eventHistory s.ticketId).take CommentsTab.PAGE_SIZE).filter
          TicketEvent.isComment := by
  obtain ⟨t, v, ht, hq, hr, hevents, _⟩ := h.shown l hl
  obtain ⟨first, o, hown, _, paged⟩ := h.run.returned serve_paging ht hr (hq ▸ rfl) v rfl
  obtain ⟨x, hfind⟩ : ∃ x, s.server.history.find?
      (fun x => x.tid == l.read && x.obs.cmd.pages) = some x := by
    obtain ⟨x, hx, hn, hobs⟩ := mem_own.mp (hown ▸ List.mem_concat_self)
    refine Option.isSome_iff_exists.mp (List.find?_isSome.mpr ⟨x, hx, ?_⟩)
    rw [hn, hobs, paged_cmd paged]
    simp
  have hx := List.mem_of_find?_eq_some hfind
  have hread : x.tid = l.read ∧ x.obs.cmd.pages = true := by simpa using List.find?_some hfind
  obtain ⟨page, rfl⟩ : ∃ page, v = .eventPage page := by
    rw [hq] at paged
    cases paged
    exact ⟨_, rfl⟩
  obtain ⟨i, hi⟩ := List.getElem?_of_mem hx
  have hfetched : s.server.Fetched (asksEvents s.ticketId commentsQuery s.user) .eventPage
      ⟨i, none, page⟩ :=
    ⟨x, t, hi, hread.2, hread.1 ▸ ht, ⟨none, rfl, hq⟩, hr⟩
  have hpage : page = _ := h.run.fetched_events hfetched
  refine ⟨x, hx, hread.1, by simp [Server.readBy?, hfind], ?_⟩
  rw [CommentsTab.comments, hevents]
  simp only [Response.eventItems]
  rw [hpage, worldAt_of_getElem? hi, World.historyPage_first]
  exact filter_isComment _ _

theorem CommentsSession.Sound.shows_iff (h : s.Sound w) : s.ShowsComments ↔ s.FitsFirstPage := by
  constructor
  · intro hshows l u hl hu e he
    obtain ⟨v, hv, hall⟩ := hshows.all l hl
    obtain ⟨x, _, _, hread, hfirst⟩ := h.shows_first hl
    cases hu.symm.trans hv
    cases hu.symm.trans hread
    exact filter_take_iff.mp (hfirst.symm.trans hall) e he
  · intro hfits
    have hall : ∀ l, s.lastLoad = some l → ∃ x ∈ s.server.history, x.tid = l.read ∧
        s.server.readBy? l.read = some x.before ∧ s.tab.comments.map EventWithActor.event =
          (x.before.eventHistory s.ticketId).filter TicketEvent.isComment := by
      intro l hl
      obtain ⟨x, hx, hn, hread, hfirst⟩ := h.shows_first hl
      exact ⟨x, hx, hn, hread, hfirst.trans (filter_take_iff.mpr (hfits l _ hl hread))⟩
    refine ⟨fun l hl => ?_, fun l m hl hm => ?_⟩
    · obtain ⟨x, _, _, hread, hcomments⟩ := hall l hl
      exact ⟨x.before, hread, hcomments⟩
    · obtain ⟨x, hx, hn, _, hcomments⟩ := hall l hl
      obtain ⟨_, _, _, _, _, _, hposted⟩ := h.shown l hl
      obtain ⟨e, hp, hafter⟩ := hposted m hm
      obtain ⟨t, ht, hr⟩ := hp.answered
      refine ⟨t, e, ht, hr, ?_⟩
      rw [hcomments]
      exact List.mem_filter.mpr
        ⟨World.mem_eventHistory.mpr ⟨hafter x hx hn, hp.ticket⟩, hp.comment⟩

theorem CommentsSession.runs_sound {user : User} {ticketId : Uuid} {server : Server}
    (h : Run (fun _ _ => true) { world := w } server)
    (hs : Reactive.Runs CommentsSession.next (fun _ _ => true) (.mounted user ticketId server) s) :
    s.Sound w :=
  hs.invariant (CommentsSession.mounted_sound h) fun _ _ _ hu _ hnext =>
    (CommentsSession.next_moves hnext).sound hu

/-- The tab shows the comments of the ticket, and a new one among them, exactly when the history
it loads holds none beyond its first page. -/
theorem comments_shown_iff {user : User} {ticketId : Uuid} {server : Server}
    (h : Run (fun _ _ => true) { world := w } server)
    (hs : Reactive.Runs CommentsSession.next (fun _ _ => true) (.mounted user ticketId server) s) :
    s.ShowsComments ↔ s.FitsFirstPage :=
  (CommentsSession.runs_sound h hs).shows_iff

end Shown

namespace Sample

/-- The ticket, handed on 49 times. -/
def handedOn : List Action :=
  created ++ (List.range 49).flatMap fun k =>
    .arrive (.assign 102 ⟨if k % 2 = 0 then agente.id else suplente.id, k⟩ administrador) ::
      steps (k + 1) (10 * (k + 1)) 7

theorem handedOn_plays : (play (fun _ _ => true) handedOn).isSome := by decide +kernel

/-- 50 events of a ticket, none of them a comment. -/
def crowded : Server := (play (fun _ _ => true) handedOn).get handedOn_plays

/-- Call `i` reaches the server as its request `n`, which takes `k` statements, and is answered. -/
def tabCall (i n k : Nat) : List CommentsEvent :=
  .deliver i :: (steps n (10 * n) k).map .server ++ [.answer i]

/-- A tab opened when the server has served `n` requests, and a comment that is sent there. -/
def sendsComment (n : Nat) : List CommentsEvent :=
  tabCall 0 n 3 ++ [.edit "Sigue igual", .submit] ++ tabCall 1 (n + 1) 4 ++ tabCall 2 (n + 2) 3

/-- Another comment, sent from the same tab. -/
def sendsAnother (n : Nat) : List CommentsEvent :=
  [.edit "Gracias", .submit] ++ tabCall 3 (n + 3) 4 ++ tabCall 4 (n + 4) 3

def openTab (events : List CommentsEvent) (server : Server) : Option CommentsSession :=
  Reactive.replay CommentsSession.next (fun _ _ => true) events (.mounted reportante 102 server)

def discussed : List Action :=
  created ++ [.arrive (.addComment 102 agente "Estamos en ello")] ++ steps 1 10 4

def shownAll : CommentsSession :=
  (openTab (sendsComment 2 ++ sendsAnother 2) ((play (fun _ _ => true) discussed).get
    (by decide))).get (by decide +kernel)

def shownNone : CommentsSession := (openTab (sendsComment 50) crowded).get (by decide +kernel)

end Sample

theorem comments_shown_of_three :
    Sample.shownAll.ShowsComments ∧ Sample.shownAll.lastLoad = some ⟨6, some 5⟩ := by
  have hlast : Sample.shownAll.lastLoad = some ⟨6, some 5⟩ := by decide +kernel
  have hfew : (Sample.shownAll.server.readBy? 6).all (fun u =>
      decide ((u.eventsOf Sample.shownAll.ticketId).length ≤ CommentsTab.PAGE_SIZE)) = true := by
    decide +kernel
  have hfits : Sample.shownAll.FitsFirstPage := by
    intro l u hl hu e he
    cases hlast.symm.trans hl
    rw [hu] at hfew
    have hlength : (u.eventHistory Sample.shownAll.ticketId).length ≤ CommentsTab.PAGE_SIZE :=
      (List.length_mergeSort _).trans_le (of_decide_eq_true hfew)
    rw [List.drop_eq_nil_of_le hlength] at he
    cases he
  have hshows := (comments_shown_iff (Sample.play_run (by decide))
    (.of_replay (Option.some_get _).symm .start)).mpr hfits
  exact ⟨hshows, hlast⟩

/-- After 50 events of other kinds a comment that is sent is stored and not shown. -/
theorem new_comment_hidden :
    Reactive.Runs CommentsSession.next (fun _ _ => true)
      (.mounted Sample.reportante 102 Sample.crowded) Sample.shownNone ∧
    ¬ Sample.shownNone.ShowsComments := by
  have hs : Reactive.Runs CommentsSession.next (fun _ _ => true)
      (.mounted Sample.reportante 102 Sample.crowded) Sample.shownNone :=
    .of_replay (Option.some_get _).symm .start
  refine ⟨hs, fun hshows => ?_⟩
  have hsound := CommentsSession.runs_sound (Sample.play_run Sample.handedOn_plays) hs
  obtain ⟨hlast, hticket, hread⟩ : Sample.shownNone.lastLoad = some ⟨52, some 51⟩ ∧
      Sample.shownNone.ticketId = 102 ∧ (Sample.shownNone.server.readBy? 52).any (fun u =>
        decide ((u.eventsOf 102).Pairwise fun a b => a.historyLe b = true) &&
          ((u.eventsOf 102).drop CommentsTab.PAGE_SIZE).any TicketEvent.isComment) = true := by
    decide +kernel
  obtain ⟨u, hu, hfacts⟩ := (Option.any_eq_true _ _).mp hread
  obtain ⟨hsorted, hlater⟩ := Bool.and_eq_true_iff.mp hfacts
  obtain ⟨e, he, hcomment⟩ := List.any_eq_true.mp hlater
  have hhistory : u.eventHistory 102 = u.eventsOf 102 :=
    List.mergeSort_of_pairwise (of_decide_eq_true hsorted)
  have hfits := hsound.shows_iff.mp hshows _ u hlast hu
  rw [hticket, hhistory] at hfits
  cases hcomment.symm.trans (hfits e he)

end TicketSystem
