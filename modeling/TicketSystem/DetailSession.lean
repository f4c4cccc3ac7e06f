import TicketSystem.TicketDetailPage
import TicketSystem.Walks

namespace TicketSystem

open Relational Interleaved

/-- What the requests of the detail page answer after what they have seen. -/
inductive Detailed : Request → List Seen → Response → Prop
  | found {id : Uuid} {user : User} {t : Ticket} {attachments : List Attachment} {now : Time} :
      Detailed (.getForUser id user)
        [⟨.one (.ticketFindUniqueWithAttachments id), .ok (some (t, attachments))⟩,
          ⟨.one .now, .ok now⟩]
        (.detail { ticket := t
                   attachments := attachments.map fun a => ⟨a.id, a.originalFilename⟩
                   slaStatus := (computeSlaFields t.slaDueAt now).slaStatus
                   slaOffByDays := (computeSlaFields t.slaDueAt now).slaOffByDays })
  | assigned {id : Uuid} {dto : AssignTicketDto} {actor : User} {t : Ticket} {past : List Seen}
      (read : ⟨.one (.ticketFindUniqueOrThrow id), .ok t⟩ ∈ past) :
      Detailed (.assign id dto actor) past (.ticket t)
  | changed {id : Uuid} {dto : ChangeStateDto} {actor : User} {t : Ticket} {past : List Seen}
      (read : ⟨.one (.ticketFindUniqueOrThrow id), .ok t⟩ ∈ past) :
      Detailed (.changeState id dto actor) past (.ticket t)

def Request.detailId? : Request → Option Uuid
  | .getForUser id _ | .assign id _ _ | .changeState id _ _ => some id
  | _ => none

def detailing : Contract Cmd Cmd.Res Err Response Request where
  answers _ _ := True
  issues _ _ _ := True
  returns q past r := q.detailId? ≠ none → ∀ v, r = .ok v → Detailed q past v

section Detailing

variable {q : Request} {past : List Seen}

theorem respond_detailed {α : Type} {f : α → Response} {p : Service α}
    (h : Turns past p fun past r => ∀ a, r = .ok a → Detailed q past (f a)) :
    Turns past (respond f p) fun past r => ∀ v, r = .ok v → Detailed q past v := by
  refine Prog.Obeys.bind h (fun past a ha v hv => ?_) (fun _ _ _ _ hv => nomatch hv)
  cases hv
  exact ha a rfl

theorem getForUser_detailed (id : Uuid) (user : User) :
    Turns [] (respond .detail (getForUser id user)) fun past r =>
      ∀ v, r = .ok v → Detailed (.getForUser id user) past v := by
  refine respond_detailed (Prog.obeys_perform_bind.mpr ⟨trivial, fun found _ => ?_, ?_⟩)
  · cases found with
    | none => exact fun _ hv => nomatch hv
    | some found =>
      obtain ⟨t, attachments⟩ := found
      refine Turns.ofExcept (fun _ _ hv => nomatch hv) fun _ _ => ?_
      refine Prog.obeys_perform_bind.mpr ⟨trivial, fun now _ => ?_, fun _ _ _ hv => nomatch hv⟩
      rintro _ ⟨⟩
      exact .found
  · exact fun _ _ _ hv => nomatch hv

/-- What `assign` and `changeState` answer is the row they read back, whatever becomes of the
notice. -/
theorem readBack_detailed {id : Uuid} {rest : Ticket → Service Ticket}
    (answered : ∀ t past, (⟨.one (.ticketFindUniqueOrThrow id), .ok t⟩ : Seen) ∈ past →
      Detailed q past (.ticket t))
    (returns : ∀ t past, Turns past (rest t) fun _ r => ∀ a, r = .ok a → a = t) :
    Turns past ((call (.ticketFindUniqueOrThrow id)).bind rest)
      fun past r => ∀ a, r = .ok a → Detailed q past (.ticket a) := by
  refine Prog.obeys_perform_bind.mpr ⟨trivial, fun t _ => ?_, fun _ _ _ hv => nomatch hv⟩
  refine ((returns t _).seen (List.mem_append_right past (List.mem_singleton_self _))).mono
    (fun _ _ _ => trivial) fun past r h a ha => ?_
  obtain ⟨rfl, hread⟩ := h a ha
  exact answered a past hread

theorem assign_detailed (id : Uuid) (dto : AssignTicketDto) (actor : User) :
    Turns [] (respond .ticket (assign id dto actor)) fun past r =>
      ∀ v, r = .ok v → Detailed (.assign id dto actor) past v := by
  have herror : ∀ (past : List Seen) (e : Err) (a : Ticket), Except.error e = .ok a →
      Detailed (.assign id dto actor) past (.ticket a) := fun _ _ _ ha => nomatch ha
  refine respond_detailed (Prog.obeys_perform_bind.mpr
    ⟨trivial, fun found _ => ?_, fun e _ => herror _ e⟩)
  cases found with
  | none => exact herror _ _
  | some ticket =>
    refine Prog.obeys_perform_bind.mpr ⟨trivial, fun assignee _ => ?_, fun e _ => herror _ e⟩
    split
    next => exact herror _ _
    next =>
      refine Prog.obeys_perform_bind.mpr ⟨trivial, fun count _ => ?_, fun e _ => herror _ e⟩
      split
      next => exact herror _ _
      next =>
        refine Prog.obeys_perform_bind.mpr ⟨trivial, fun _ _ => ?_, fun e _ => herror _ e⟩
        exact readBack_detailed (fun _ _ hread => .assigned hread) fun t _ => notified_returns _

theorem changeState_detailed (id : Uuid) (dto : ChangeStateDto) (actor : User) :
    Turns [] (respond .ticket (changeState id dto actor)) fun past r =>
      ∀ v, r = .ok v → Detailed (.changeState id dto actor) past v := by
  have herror : ∀ (past : List Seen) (e : Err) (a : Ticket), Except.error e = .ok a →
      Detailed (.changeState id dto actor) past (.ticket a) := fun _ _ _ ha => nomatch ha
  refine respond_detailed (Prog.obeys_perform_bind.mpr
    ⟨trivial, fun found _ => ?_, fun e _ => herror _ e⟩)
  cases found with
  | none => exact herror _ _
  | some ticket =>
    refine Turns.ofExcept (fun e => herror _ e) fun _ _ => ?_
    refine Prog.Obeys.bind (turns_any _) (fun past now _ => ?_) (fun past e _ => herror past e)
    refine Prog.obeys_perform_bind.mpr ⟨trivial, fun count _ => ?_, fun e _ => herror _ e⟩
    split
    next => exact herror _ _
    next =>
      refine Prog.obeys_perform_bind.mpr ⟨trivial, fun _ _ => ?_, fun e _ => herror _ e⟩
      refine readBack_detailed (fun _ _ hread => .changed hread) fun t past => ?_
      split
      next => exact notified_returns _
      next => exact fun a ha => (Except.ok.inj ha).symm

theorem serve_detailing : detailing.Kept serve Cmd.exec where
  answers _ _ _ := trivial
  obeys q := by
    have other : q.detailId? = none → Turns [] (serve q) fun past r =>
        q.detailId? ≠ none → ∀ v, r = .ok v → Detailed q past v :=
      fun hno => (turns_any (serve q)).mono (fun _ _ h => h) (fun _ _ _ hyes => absurd hno hyes)
    cases q with
    | getForUser id user =>
      exact (getForUser_detailed id user).mono (fun _ _ h => h) (fun _ _ h _ => h)
    | assign id dto actor =>
      exact (assign_detailed id dto actor).mono (fun _ _ h => h) (fun _ _ h _ => h)
    | changeState id dto actor =>
      exact (changeState_detailed id dto actor).mono (fun _ _ h => h) (fun _ _ h _ => h)
    | _ => exact other rfl

end Detailing

theorem Run.seen_executed {ok : Server → Action → Bool} {w : World} {s : Server}
    (h : Run ok { world := w } s) {n : Nat} {stmt : Stmt} {a : stmt.Res}
    (hmem : (⟨.one stmt, .ok a⟩ : Seen) ∈ own n s.history) :
    ∃ e ∈ s.history, ∃ o, stmt.exec o e.before = (.ok a, e.after) := by
  obtain ⟨e, he, _, hobs⟩ := mem_own.mp hmem
  obtain ⟨h₁, h₂, hh⟩ := List.append_of_mem he
  exact ⟨e, he, Run.executed h hh hobs⟩

theorem exec_found {o : Oracle} {w w' : World} {id : Uuid} {t : Ticket}
    {attachments : List Attachment}
    (h : Stmt.exec o (.ticketFindUniqueWithAttachments id) w =
      (.ok (some (t, attachments)), w')) :
    w.ticket? id = some t ∧ w.attachedTo id = attachments := by
  simp only [Stmt.exec, Prod.mk.injEq, Except.ok.injEq, Option.map_eq_some_iff] at h
  obtain ⟨⟨t', ht, heq, hattachments⟩, _⟩ := h
  exact ⟨ht.trans (congrArg some heq), hattachments⟩

/-- The row of the answer was in the table when the request read it. -/
theorem Run.detailed_row {ok : Server → Action → Bool} {w : World} {s : Server}
    (h : Run ok { world := w } s) {q : Request} {n : Nat} {v : Response} {id : Uuid}
    {t : TicketJson} (hd : Detailed q (own n s.history) v) (hq : q.detailId? = some id)
    (hv : v.json? = some t) : ∃ e ∈ s.history, e.before.ticket? id = some t.ticket := by
  have hreadBack : ∀ {t : Ticket}, (⟨.one (.ticketFindUniqueOrThrow id), .ok t⟩ : Seen) ∈
      own n s.history → ∃ e ∈ s.history, e.before.ticket? id = some t := by
    intro t hmem
    obtain ⟨e, he, o, hx⟩ := h.seen_executed hmem
    refine ⟨e, he, ?_⟩
    simp only [Stmt.exec] at hx
    split at hx
    next hrow => exact hrow.trans (congrArg some (Except.ok.inj (Prod.mk.inj hx).1))
    next => cases (Prod.mk.inj hx).1
  generalize hpast : own n s.history = past at hd
  cases hd with
  | @found _ user row attachments now =>
    cases hq
    cases hv
    obtain ⟨e, he, o, hx⟩ := h.seen_executed (hpast ▸ List.mem_cons_self)
    exact ⟨e, he, (exec_found hx).1⟩
  | assigned read =>
    cases hq
    cases hv
    exact hreadBack (hpast ▸ read)
  | changed read =>
    cases hq
    cases hv
    exact hreadBack (hpast ▸ read)

/-- What an event can do to the page, its calls and the server: nothing but to the panel and the
tab, a navigation, the start of a `run`, the fate of a call on its way, its end, or a move of the
server. -/
inductive DetailSession.Moves (s : DetailSession) : DetailEvent → DetailSession → Prop
  | still {e : DetailEvent} {tab : TabId} {panel : ActionsPanel} {mount : Nat}
      (other : ∀ i, e ≠ .answer i) :
      Moves s e { s with activeTab := tab, panel := panel, mount := mount }
  | navigated {id : Uuid} (other : id ≠ s.page.id) :
      Moves s (.navigate id)
        { s with page := s.page.navigate id s.calls.length, panel := {}, mount := s.mount + 1
                 calls := s.calls ++ [{ call := .load id }], received := [] }
  | ran {button : PanelButton} {panel : ActionsPanel} {action : ActionCall} :
      Moves s (.press button)
        { s with panel := panel
                 calls := s.calls ++ [{ call := .run action s.mount s.page.id }] }
  | refused {i : Nat} {call : PageCall} (sent : s.calls[i]? = some { call := call }) :
      Moves s (.deliver i) (s.fly i { call := call } .refused)
  | delivered {i : Nat} {call : PageCall} {q : Request} {server : Server}
      (sent : s.calls[i]? = some { call := call }) (asks : call.request? s.user = some q)
      (step : Step serve Cmd.exec s.server (.arrive q) server) :
      Moves s (.deliver i)
        { s.fly i { call := call } (.served s.server.threads.length) with server := server }
  | answered {i : Nat} {c : Call} {r : Except ClientError TicketJson}
      (call : s.calls[i]? = some c) (outcome : s.outcome? c = some r) :
      Moves s (.answer i) (s.settle i c r)
  | failed {i : Nat} {c : Call} (call : s.calls[i]? = some c) (pending : c.flight ≠ .settled) :
      Moves s (.fail i) (s.settle i c (.error .network))
  | served {m : Action} {server : Server} (step : Step serve Cmd.exec s.server m server) :
      Moves s (.server m) { s with server := server }

theorem DetailSession.next_moves {s s' : DetailSession} {e : DetailEvent}
    (h : s.next e = some s') : s.Moves e s' := by
  cases e with
  | navigate id =>
    simp only [DetailSession.next] at h
    split at h
    next => cases Option.some.inj h; exact .still (by simp)
    next hother => cases Option.some.inj h; exact .navigated hother
  | select tab =>
    simp only [DetailSession.next] at h
    split at h
    next => cases h
    next =>
      split at h
      next => cases Option.some.inj h; exact .still (by simp)
      next => cases Option.some.inj h; exact .still (by simp)
  | edit form =>
    simp only [DetailSession.next] at h
    split at h
    next =>
      split at h
      next => cases Option.some.inj h; exact .still (by simp)
      next => cases h
    next => cases h
  | press button =>
    obtain ⟨action, _, rfl⟩ := Option.map_eq_some_iff.mp h
    exact .ran
  | deliver i =>
    simp only [DetailSession.next] at h
    split at h
    next call hsent =>
      split at h
      next => cases Option.some.inj h; exact .refused hsent
      next q hasks =>
        obtain ⟨server, hserver, rfl⟩ := Option.map_eq_some_iff.mp h
        exact .delivered hsent hasks (Pool.next_step hserver)
    next => cases h
  | answer i =>
    simp only [DetailSession.next] at h
    split at h
    next c hcall =>
      obtain ⟨r, hr, rfl⟩ := Option.map_eq_some_iff.mp h
      exact .answered hcall hr
    next => cases h
  | fail i =>
    simp only [DetailSession.next] at h
    split at h
    next c hcall =>
      split at h
      next => cases h
      next hpending => cases Option.some.inj h; exact .failed hcall hpending
    next => cases h
  | server m =>
    obtain ⟨server, hserver, rfl⟩ := Option.map_eq_some_iff.mp h
    exact .served (Pool.next_step hserver)

theorem DetailSession.pending_of_outcome {s : DetailSession} {c : Call}
    {r : Except ClientError TicketJson} (h : s.outcome? c = some r) : c.flight ≠ .settled := by
  intro hsettled
  rw [DetailSession.outcome?, hsettled] at h
  cases h

/-- The load of the last effect is for the id in the URL, and the page waits for it. -/
def TicketDetailPage.Awaits (p : TicketDetailPage) (calls : List Call) : Prop :=
  ∃ c, calls[p.effect]? = some c ∧ c.call = .load p.id ∧
    (c.flight ≠ .settled → p.loading = true ∧ p.error = none)

structure DetailSession.Sound (w : World) (s : DetailSession) : Prop where
  run : Run (fun _ _ => true) { world := w } s.server
  served : ∀ (i : Nat) (c : Call) (n : Nat), s.calls[i]? = some c → c.flight = .served n →
    ∃ t : Task, s.server.threads[n]? = some t ∧ c.call.request? s.user = some t.request
  awaits : s.page.Awaits s.calls

section Page

variable {p : TicketDetailPage} {calls : List Call}

@[simp] theorem TicketDetailPage.settle_id (i : Nat) (c : PageCall)
    (r : Except ClientError TicketJson) : (p.settle i c r).id = p.id := by
  unfold settle
  repeat' split
  all_goals rfl

@[simp] theorem TicketDetailPage.settle_effect (i : Nat) (c : PageCall)
    (r : Except ClientError TicketJson) : (p.settle i c r).effect = p.effect := by
  unfold settle
  repeat' split
  all_goals rfl

/-- Only the load of the last effect ends the loading, or brings an error. -/
theorem TicketDetailPage.settle_loading {i : Nat} (h : i ≠ p.effect) (c : PageCall)
    (r : Except ClientError TicketJson) :
    (p.settle i c r).loading = p.loading ∧ (p.settle i c r).error = p.error := by
  unfold settle
  split
  next => rw [if_neg h]; exact ⟨rfl, rfl⟩
  next => rw [if_neg h]; exact ⟨rfl, rfl⟩
  all_goals exact ⟨rfl, rfl⟩

theorem TicketDetailPage.Awaits.append (h : p.Awaits calls) (more : List Call) :
    p.Awaits (calls ++ more) := by
  obtain ⟨c, hc, hload⟩ := h
  refine ⟨c, ?_, hload⟩
  rw [List.getElem?_append_left (List.getElem?_eq_some_iff.mp hc).1]
  exact hc

theorem TicketDetailPage.Awaits.set (h : p.Awaits calls) {i : Nat} {c : Call} {f : Flight}
    (call : calls[i]? = some c) (pending : f ≠ .settled → c.flight ≠ .settled) :
    p.Awaits (calls.set i { c with flight := f }) := by
  obtain ⟨load, hload, hcall, hwaits⟩ := h
  by_cases hi : p.effect = i
  · subst hi
    cases call.symm.trans hload
    have hlen := (List.getElem?_eq_some_iff.mp call).1
    exact ⟨_, List.getElem?_set_self hlen, hcall, fun hf => hwaits (pending hf)⟩
  · exact ⟨load, by rw [List.getElem?_set_ne (Ne.symm hi)]; exact hload, hcall, hwaits⟩

theorem TicketDetailPage.Awaits.settle (h : p.Awaits calls) {i : Nat} {c : Call}
    (call : calls[i]? = some c) (r : Except ClientError TicketJson) :
    (p.settle i c.call r).Awaits (calls.set i { c with flight := .settled }) := by
  obtain ⟨load, hload, hcall, hwaits⟩ := h.set call (f := .settled) fun hf => absurd rfl hf
  refine ⟨load, by simpa using hload, by simpa using hcall, fun hf => ?_⟩
  have hi : i ≠ p.effect := by
    rintro rfl
    have hlen := (List.getElem?_eq_some_iff.mp call).1
    rw [List.getElem?_set_self hlen] at hload
    cases Option.some.inj hload
    exact hf rfl
  obtain ⟨hloading, herror⟩ := TicketDetailPage.settle_loading hi c.call r
  rw [hloading, herror]
  exact hwaits hf

end Page

section Sound

variable {w : World} {s s' : DetailSession}

theorem DetailSession.getElem?_settle {i j : Nat} {c x : Call} {r : Except ClientError TicketJson}
    (h : (s.settle i c r).calls[j]? = some x) :
    x.flight = .settled ∨ s.calls[j]? = some x ∨ x.flight = .sent := by
  rcases Nat.lt_or_ge j s.calls.length with hj | hj
  · rw [DetailSession.settle, List.getElem?_append_left (by simpa using hj)] at h
    rcases getElem?_set_cases h with ⟨_, rfl⟩ | ⟨_, h⟩
    · exact .inl rfl
    · exact .inr (.inl h)
  · rw [DetailSession.settle, List.getElem?_append_right (by simpa using hj)] at h
    have hnext : x ∈ c.call.next r := List.mem_of_getElem? h
    refine .inr (.inr ?_)
    unfold PageCall.next at hnext
    split at hnext
    next => rw [List.mem_singleton.mp hnext]
    next => cases hnext

/-- A call that has been served was so before, or is served by the request that arrives. -/
theorem DetailSession.Moves.served_before {e : DetailEvent} (hm : s.Moves e s') {j n : Nat}
    {x : Call} (hx : s'.calls[j]? = some x) (hn : x.flight = .served n) :
    s.calls[j]? = some x ∨ n = s.server.threads.length ∧ ∃ q, x.call.request? s.user = some q ∧
      Step serve Cmd.exec s.server (.arrive q) s'.server := by
  have hconcat : ∀ {call : PageCall}, (s.calls ++ [{ call := call }])[j]? = some x →
      s.calls[j]? = some x := by
    intro call hx
    rcases getElem?_concat_cases hx with hx | ⟨_, rfl⟩
    · exact hx
    · cases hn
  have hsettle : ∀ {i : Nat} {c : Call} {r : Except ClientError TicketJson},
      (s.settle i c r).calls[j]? = some x → s.calls[j]? = some x := by
    intro i c r hx
    rcases DetailSession.getElem?_settle hx with hf | hx | hf
    · cases hn.symm.trans hf
    · exact hx
    · cases hn.symm.trans hf
  cases hm with
  | still => exact .inl hx
  | navigated => exact .inl (hconcat hx)
  | ran => exact .inl (hconcat hx)
  | refused =>
    rcases getElem?_set_cases hx with ⟨_, rfl⟩ | ⟨_, hx⟩
    · cases hn
    · exact .inl hx
  | delivered _ asks step =>
    rcases getElem?_set_cases hx with ⟨_, rfl⟩ | ⟨_, hx⟩
    · cases hn
      exact .inr ⟨rfl, _, asks, step⟩
    · exact .inl hx
  | answered => exact .inl (hsettle hx)
  | failed => exact .inl (hsettle hx)
  | served => exact .inl hx

/-- The server is as it was, a request of the page arrives there, or it moves by itself. -/
theorem DetailSession.Moves.server_moves {e : DetailEvent} (hm : s.Moves e s') :
    s'.server = s.server ∨ (∃ q, Step serve Cmd.exec s.server (.arrive q) s'.server) ∨
      ∃ m, e = .server m ∧ Step serve Cmd.exec s.server m s'.server := by
  cases hm with
  | delivered _ _ step => exact .inr (.inl ⟨_, step⟩)
  | served step => exact .inr (.inr ⟨_, rfl, step⟩)
  | _ => exact .inl rfl

theorem DetailSession.Moves.same_page {e : DetailEvent} (hm : s.Moves e s') :
    s'.user = s.user ∧ s'.opened = s.opened := by
  cases hm <;> exact ⟨rfl, rfl⟩

theorem DetailSession.Moves.reach {e : DetailEvent} (hm : s.Moves e s') :
    Run (fun _ _ => true) s.server s'.server := by
  rcases hm.server_moves with h | ⟨q, step⟩ | ⟨m, _, step⟩
  · rw [h]
    exact .start
  · exact .next .start rfl step
  · exact .next .start rfl step

theorem DetailSession.Moves.awaits {e : DetailEvent} (hm : s.Moves e s')
    (h : s.page.Awaits s.calls) : s'.page.Awaits s'.calls := by
  cases hm with
  | still => exact h
  | @navigated id =>
    exact ⟨{ call := .load id }, List.getElem?_concat_length, rfl, fun _ => ⟨rfl, rfl⟩⟩
  | ran => exact h.append _
  | refused sent => exact h.set sent fun _ => by simp
  | delivered sent => exact h.set sent fun _ => by simp
  | answered call => exact (h.settle call _).append _
  | failed call => exact (h.settle call _).append _
  | served => exact h

theorem DetailSession.Moves.sound {e : DetailEvent} (hm : s.Moves e s') (h : s.Sound w) :
    s'.Sound w where
  run := h.run.trans hm.reach
  awaits := hm.awaits h.awaits
  served i c n hc hn := by
    rw [hm.same_page.1]
    rcases hm.served_before hc hn with hc | ⟨rfl, q, asks, step⟩
    · obtain ⟨t, ht, hq⟩ := h.served i c n hc hn
      obtain ⟨t', ht', hq'⟩ := hm.reach.threads_keep ht
      exact ⟨t', ht', hq'.symm ▸ hq⟩
    · generalize s'.server = server at step
      cases step
      exact ⟨_, List.getElem?_concat_length, asks⟩

theorem mounted_sound {user : User} {opened : Time} {id : Uuid} {server : Server}
    (h : Run (fun _ _ => true) { world := w } server) :
    (DetailSession.mounted user opened id server).Sound w where
  run := h
  served i c n hc hn := by
    rw [DetailSession.mounted, List.getElem?_singleton] at hc
    split at hc
    next => cases hc; cases hn
    next => cases hc
  awaits := ⟨_, rfl, rfl, fun _ => ⟨rfl, rfl⟩⟩

def PageCall.ticketId : PageCall → Uuid
  | .load id => id
  | .run (.assignTicket ticketId _) _ _ => ticketId
  | .run (.changeState ticketId _) _ _ => ticketId
  | .refetch id _ => id

theorem PageCall.detailId_request {c : PageCall} {user : User} {q : Request}
    (h : c.request? user = some q) : q.detailId? = some c.ticketId := by
  unfold request? at h
  split at h
  next => cases h; rfl
  next => cases h; rfl
  next => cases h; rfl
  next =>
    split at h
    next => cases h; rfl
    next => cases h

/-- An answer with a ticket is that of the request the call became. -/
theorem DetailSession.Sound.served_answer (h : s.Sound w) {i : Nat} {c : Call} {t : TicketJson}
    (call : s.calls[i]? = some c) (outcome : s.outcome? c = some (.ok t)) :
    ∃ n q v, c.flight = .served n ∧ c.call.request? s.user = some q ∧
      Detailed q (own n s.server.history) v ∧ v.json? = some t := by
  unfold outcome? at outcome
  split at outcome
  next => cases outcome
  next n hflight =>
    obtain ⟨thread, hthread, hq⟩ := h.served i c n call hflight
    rw [hthread, Option.bind_some] at outcome
    split at outcome
    next v hr =>
      obtain ⟨t', hv, heq⟩ := Option.map_eq_some_iff.mp outcome
      cases heq
      have hid := PageCall.detailId_request hq
      have hdetail := h.run.returned serve_detailing hthread hr (by simp [hid]) v rfl
      exact ⟨n, thread.request, v, hflight, hq, hdetail, hv⟩
    next => cases outcome
    next => cases outcome
  next => cases outcome
  next => cases outcome

theorem DetailSession.Sound.answer_row (h : s.Sound w) {i : Nat} {c : Call} {t : TicketJson}
    (call : s.calls[i]? = some c) (outcome : s.outcome? c = some (.ok t)) :
    ∃ e ∈ s.server.history, e.before.ticket? c.call.ticketId = some t.ticket := by
  obtain ⟨n, q, v, _, hq, hdetail, hv⟩ := h.served_answer call outcome
  exact h.run.detailed_row hdetail (PageCall.detailId_request hq) hv

/-- The answer is for the ticket that was asked for. -/
theorem DetailSession.Sound.answer_id (h : s.Sound w) {i : Nat} {c : Call} {t : TicketJson}
    (call : s.calls[i]? = some c) (outcome : s.outcome? c = some (.ok t)) :
    t.ticket.id = c.call.ticketId := by
  obtain ⟨e, _, hrow⟩ := h.answer_row call outcome
  exact World.ticket?_id hrow

end Sound

namespace Sample

/-- Two tickets, with ids 102 and 112. -/
def pair : Server :=
  (play (fun _ _ => true) (created ++ .arrive (.create body reportante none) :: steps 1 10 3)).get
    (by decide +kernel)

theorem pair_served : Run (fun _ _ => true) { world := world } pair :=
  play_run (by decide +kernel)

/-- Call `i` reaches the server as its request `n`, which takes `k` statements, and is answered. -/
def answered (i n k : Nat) : List DetailEvent :=
  .deliver i :: (steps n (10 * n) k).map .server ++ [.answer i]

/-- An agente opens the page of the first ticket. -/
def browse (ok : DetailSession → DetailEvent → Bool) (events : List DetailEvent) :
    Option DetailSession :=
  Reactive.replay DetailSession.next ok events (.mounted agente 0 102 pair)

end Sample

end TicketSystem
