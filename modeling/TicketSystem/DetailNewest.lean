import TicketSystem.DetailSession

namespace TicketSystem

open Interleaved Reactive

/-- The ticket on the page is that of the URL, and no response for it since the last navigation
has a higher version. -/
def DetailSession.ShowsNewest (s : DetailSession) : Prop :=
  s.page.visible = true → ∃ t, s.page.ticket = some t ∧ t.ticket.id = s.page.id ∧
    ∀ v ∈ s.received, v ≤ t.ticket.version

/-- Nothing newer was received for the ticket of the URL. -/
def DetailSession.outdates (s : DetailSession) (t : TicketJson) : Bool :=
  s.received.all (· ≤ t.ticket.version)

/-- An answer that is stored on the page, or ends its load, is for the ticket of the URL and
outdates what was received; one of a cancelled load is not newer than the ticket on the page. -/
def DetailSession.inTurn (s : DetailSession) (i : Nat) (t : TicketJson) : PageCall → Bool
  | .load _ =>
    if i = s.page.effect then s.outdates t
    else !s.page.visible || t.ticket.id != s.page.id ||
      s.page.ticket.all fun shown => t.ticket.version ≤ shown.ticket.version
  | .run _ _ _ => !s.page.visible || (t.ticket.id == s.page.id && s.outdates t)
  | .refetch _ _ => !s.page.visible || (t.ticket.id == s.page.id && s.outdates t)

def answersInTurn (s : DetailSession) : DetailEvent → Bool
  | .answer i =>
    match s.calls[i]? with
    | some c =>
      match s.outcome? c with
      | some (.ok t) => s.inTurn i t c.call
      | _ => true
    | none => true
  | _ => true

def anyDetailEvent (_ : DetailSession) (_ : DetailEvent) : Bool := true

section Newest

variable {w : World} {s s' : DetailSession}

theorem answersInTurn_of_other {e : DetailEvent} (h : ∀ i, e ≠ .answer i) :
    answersInTurn s e = true := by
  cases e with
  | answer i => exact absurd rfl (h i)
  | _ => rfl

theorem DetailSession.outdates_iff {t : TicketJson} :
    s.outdates t = true ↔ ∀ v ∈ s.received, v ≤ t.ticket.version := by
  simp [outdates]

/-- A ticket that is stored is the newest of the URL when it is of the URL and outdates the
others. -/
theorem DetailSession.stored_newest {t : TicketJson} :
    (∃ t', some t = some t' ∧ t'.ticket.id = s.page.id ∧
      ∀ v ∈ s.received ++ s.page.news (.ok t), v ≤ t'.ticket.version) ↔
    t.ticket.id = s.page.id ∧ s.outdates t = true := by
  rw [outdates_iff]
  constructor
  · rintro ⟨t', ht, hid, hv⟩
    cases Option.some.inj ht
    exact ⟨hid, fun v hmem => hv v (List.mem_append_left _ hmem)⟩
  · rintro ⟨hid, hv⟩
    refine ⟨t, rfl, hid, fun v hmem => ?_⟩
    rcases List.mem_append.mp hmem with hmem | hmem
    · exact hv v hmem
    · rw [TicketDetailPage.news, if_pos hid, List.mem_singleton] at hmem
      exact hmem.le

/-- What a cancelled load brings is not stored. -/
theorem DetailSession.cancelled_newest {t : TicketJson} (h : s.ShowsNewest) :
    (s.page.visible = true → ∃ t', s.page.ticket = some t' ∧ t'.ticket.id = s.page.id ∧
      ∀ v ∈ s.received ++ s.page.news (.ok t), v ≤ t'.ticket.version) ↔
    (!s.page.visible || t.ticket.id != s.page.id ||
      s.page.ticket.all fun shown => t.ticket.version ≤ shown.ticket.version) = true := by
  cases hv : s.page.visible with
  | false => simp
  | true =>
    obtain ⟨shown, hshown, hid, hle⟩ := h hv
    by_cases hurl : t.ticket.id = s.page.id
    · simp only [hshown, TicketDetailPage.news, Bool.not_true, Bool.false_or, hurl,
        bne_self_eq_false, Option.all_some, decide_eq_true_eq, forall_const,
        Option.some.injEq, exists_eq_left']
      constructor
      · rintro ⟨_, hall⟩
        exact hall _ (List.mem_append_right _ (List.mem_singleton_self _))
      · intro hnew
        refine ⟨hid, fun v hmem => ?_⟩
        rcases List.mem_append.mp hmem with hmem | hmem
        · exact hle v hmem
        · exact (List.mem_singleton.mp hmem).symm ▸ hnew
    · have hnews : s.page.news (.ok t) = [] := if_neg hurl
      have hother : (t.ticket.id != s.page.id) = true := by simpa using hurl
      simp only [hnews, List.append_nil, hother, Bool.or_true, Bool.true_or, iff_true]
      exact fun _ => ⟨shown, hshown, hid, hle⟩

/-- The answer of call `i` is stored, and the page shows the newest ticket just when it is in
turn. -/
theorem DetailSession.settle_newest (sound : s.Sound w) (h : s.ShowsNewest) {i : Nat} {c : Call}
    {t : TicketJson} (call : s.calls[i]? = some c) (outcome : s.outcome? c = some (.ok t)) :
    (s.settle i c (.ok t)).ShowsNewest ↔ s.inTurn i t c.call = true := by
  have hstored : (s.page.visible = true → ∃ t', some t = some t' ∧ t'.ticket.id = s.page.id ∧
      ∀ v ∈ s.received ++ s.page.news (.ok t), v ≤ t'.ticket.version) ↔
      (!s.page.visible || (t.ticket.id == s.page.id && s.outdates t)) = true := by
    rw [stored_newest]
    cases s.page.visible <;> simp
  cases hcall : c.call with
  | run action mount refetchId =>
    simp only [ShowsNewest, settle, hcall, TicketDetailPage.settle, inTurn]
    exact hstored
  | refetch id mount =>
    simp only [ShowsNewest, settle, hcall, TicketDetailPage.settle, inTurn]
    exact hstored
  | load id =>
    by_cases hi : i = s.page.effect
    · -- the page waited for this answer, so that it shows it now
      obtain ⟨load, hload, hid, hwaits⟩ := sound.awaits
      rw [← hi] at hload
      cases call.symm.trans hload
      obtain ⟨_, herror⟩ := hwaits (pending_of_outcome outcome)
      have hurl : t.ticket.id = s.page.id := by
        rw [sound.answer_id call outcome, hid]
        rfl
      have hvisible : ({ s.page with ticket := some t, loading := false } :
          TicketDetailPage).visible = true := by
        simp [TicketDetailPage.visible, herror]
      simp only [ShowsNewest, settle, hcall, TicketDetailPage.settle, inTurn, if_pos hi]
      rw [hvisible]
      simpa [hurl] using s.stored_newest (t := t)
    · simp only [ShowsNewest, settle, hcall, TicketDetailPage.settle, inTurn, if_neg hi]
      exact cancelled_newest h

/-- An answer without a ticket leaves the page as it is, or ends its load with an error. -/
theorem DetailSession.settle_error_newest (h : s.ShowsNewest) (i : Nat) (c : Call)
    (err : ClientError) : (s.settle i c (.error err)).ShowsNewest := by
  have hkeeps : ∀ page : TicketDetailPage, page = s.page →
      page.visible = true → ∃ t, page.ticket = some t ∧ t.ticket.id = page.id ∧
        ∀ v ∈ s.received ++ s.page.news (.error err), v ≤ t.ticket.version := by
    rintro page rfl hvisible
    rw [TicketDetailPage.news, List.append_nil]
    exact h hvisible
  unfold ShowsNewest settle
  cases c.call with
  | run action mount refetchId => exact hkeeps _ rfl
  | refetch id mount => exact hkeeps _ rfl
  | load id =>
    by_cases hi : i = s.page.effect
    · intro hvisible
      simp [TicketDetailPage.settle, hi, TicketDetailPage.visible] at hvisible
    · exact hkeeps _ (if_neg hi)

theorem DetailSession.Moves.newest_iff {e : DetailEvent} (hm : s.Moves e s') (sound : s.Sound w)
    (h : s.ShowsNewest) : s'.ShowsNewest ↔ answersInTurn s e = true := by
  cases hm with
  | still other => exact iff_of_true h (answersInTurn_of_other other)
  | navigated =>
    refine iff_of_true (fun hvisible => ?_) rfl
    simp [TicketDetailPage.navigate, TicketDetailPage.visible] at hvisible
  | ran => exact iff_of_true h rfl
  | refused => exact iff_of_true h rfl
  | delivered => exact iff_of_true h rfl
  | failed => exact iff_of_true (settle_error_newest h _ _ _) rfl
  | served => exact iff_of_true h rfl
  | @answered i c r call outcome =>
    simp only [answersInTurn, call, outcome]
    cases r with
    | error err => exact iff_of_true (settle_error_newest h _ _ _) rfl
    | ok t => exact settle_newest sound h call outcome

theorem DetailSession.mounted_newest (user : User) (opened : Time) (id : Uuid) (server : Server) :
    (mounted user opened id server).ShowsNewest := by
  intro hvisible
  cases hvisible

end Newest

/-- A run shows the newest ticket of the URL all along exactly when every answer that is stored is
for the ticket of the URL and outdates what was received, and no answer of a cancelled load is
newer than the ticket on the page. -/
theorem shows_newest_iff {w : World} {server : Server}
    (served : Run (fun _ _ => true) { world := w } server) (user : User) (opened : Time) (id : Uuid)
    (events : List DetailEvent) (s : DetailSession)
    (run : Reactive.replay DetailSession.next anyDetailEvent events
      (.mounted user opened id server) = some s) :
    (∀ n s', Reactive.replay DetailSession.next anyDetailEvent (events.take n)
      (.mounted user opened id server) = some s' → s'.ShowsNewest) ↔
    Reactive.replay DetailSession.next (both anyDetailEvent answersInTurn) events
      (.mounted user opened id server) = some s := by
  -- a good run shows the newest in each of its states, as the step lemma says of its last event
  have hgood : ∀ s, Runs DetailSession.next (both anyDetailEvent answersInTurn)
      (.mounted user opened id server) s → s.ShowsNewest ∧ s.Sound w := by
    intro s hr
    refine hr.invariant (I := fun s => s.ShowsNewest ∧ s.Sound w)
      ⟨DetailSession.mounted_newest user opened id server, mounted_sound served⟩ ?_
    rintro s e s' ⟨hs, sound⟩ hok hnext
    have hm := DetailSession.next_moves hnext
    exact ⟨(hm.newest_iff sound hs).mpr (Bool.and_eq_true_iff.mp hok).2, hm.sound sound⟩
  have hstart := DetailSession.mounted_newest user opened id server
  refine replay_iff hstart (fun s e s' hr _ hnext => ?_) run
  obtain ⟨hs, sound⟩ := hgood s hr
  exact (DetailSession.next_moves hnext).newest_iff sound hs

namespace Sample

/-- The agente takes the ticket, goes on to the other one and comes back. -/
def visits : List DetailEvent :=
  answered 0 2 2 ++ .press .assignMe :: answered 1 3 7 ++ .navigate 112 :: answered 2 4 2 ++
    .navigate 102 :: answered 3 5 2

/-- The agente takes the ticket and goes on to the other one before the answer. -/
def leaves : List DetailEvent :=
  answered 0 2 2 ++ [.press .assignMe, .navigate 112] ++ answered 2 3 2 ++ answered 1 4 7

def left : DetailSession := (browse anyDetailEvent leaves).get (by decide +kernel)

end Sample

open Sample in
theorem shows_newest_visits : (browse anyDetailEvent visits).isSome ∧
    ∀ n s, browse anyDetailEvent (visits.take n) = some s → s.ShowsNewest := by
  have hgood : (browse (both anyDetailEvent answersInTurn) visits).isSome := by decide +kernel
  have hrun : browse anyDetailEvent visits = some _ :=
    replay_mono (fun _ _ _ => rfl) (Option.some_get hgood).symm
  refine ⟨Option.isSome_of_eq_some hrun, ?_⟩
  exact (shows_newest_iff pair_served agente 0 102 visits _ hrun).mpr (Option.some_get hgood).symm

open Sample in
/-- The page of the second ticket shows the first one. -/
theorem first_ticket_shown : ¬ ∀ (w : World) (server : Server),
    Run (fun _ _ => true) { world := w } server →
      ∀ (user : User) (opened : Time) (id : Uuid) (s : DetailSession),
        Runs DetailSession.next anyDetailEvent (.mounted user opened id server) s →
          s.ShowsNewest := by
  intro hall
  have hrun : Runs DetailSession.next anyDetailEvent (.mounted agente 0 102 pair) left :=
    Runs.of_replay (Option.some_get _).symm .start
  have hvisible : left.page.visible = true := by decide +kernel
  have hurl : left.page.id = 112 := by decide +kernel
  have hticket : left.page.ticket.map (·.ticket.id) = some 102 := by decide +kernel
  obtain ⟨t, ht, hid, _⟩ := hall world pair pair_served agente 0 102 left hrun hvisible
  rw [ht, Option.map_some, hid, hurl] at hticket
  exact absurd (Option.some.inj hticket) (by decide)

end TicketSystem
