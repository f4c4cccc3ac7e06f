import TicketSystem.Attachments
import TicketSystem.DetailSession

namespace TicketSystem

open Relational Interleaved Reactive

/-- The attachments linked to the ticket. -/
def World.attachmentsOf (w : World) (id : Uuid) : List Attachment :=
  w.attachments.rows.filter fun a => a.ticketId == some id

/-- A ticket stays, and what is linked to it is linked at once. -/
def World.KeepsLinks (u v : World) : Prop :=
  ∀ id t, u.ticket? id = some t →
    (∃ t', v.ticket? id = some t') ∧ v.attachmentsOf id = u.attachmentsOf id

theorem World.KeepsLinks.refl (w : World) : w.KeepsLinks w := fun _ t h => ⟨⟨t, h⟩, rfl⟩

theorem World.KeepsLinks.trans {u v x : World} (h : u.KeepsLinks v) (h' : v.KeepsLinks x) :
    u.KeepsLinks x := by
  intro id t ht
  obtain ⟨⟨t', ht'⟩, hlinks⟩ := h id t ht
  obtain ⟨hstays, hlinks'⟩ := h' id t' ht'
  exact ⟨hstays, hlinks'.trans hlinks⟩

/-- A create links its uploads to its own ticket, which is a new one. -/
theorem World.Created.attachmentsOf {dto : CreateTicketDto} {user : User} {o : Oracle} {t : Ticket}
    {w w' : World} (write : w.Created dto user o t w') {id : Uuid} (hid : t.id ≠ id) :
    w'.attachmentsOf id = w.attachmentsOf id := by
  have hmoves : ∀ a : Attachment, dto.qualifies user a = true →
      (a.link t o.now).ticketId ≠ some id ∧ a.ticketId ≠ some id := by
    intro a hq
    refine ⟨fun h => hid (Option.some.inj h), fun h => ?_⟩
    cases (qualifies_iff.mp hq).2.2.2.symm.trans h
  unfold World.attachmentsOf
  rw [write.attachments, linkedAttachments_rows]
  generalize w.attachments.rows = rows
  induction rows with
  | nil => rfl
  | cons a rows ih =>
    rw [List.map_cons, List.filter_cons, List.filter_cons, ih]
    cases hq : dto.qualifies user a with
    | false => simp
    | true => simp [hmoves a hq]

theorem Effect.keeps_links {q : Request} {past : List Seen} {e : Executed} (h : Effect q past e) :
    e.before.KeepsLinks e.after := by
  intro id t ht
  obtain ⟨t', ht', _⟩ := h.evolves id t ht
  refine ⟨⟨t', ht'⟩, ?_⟩
  cases h with
  | quiet _ kept => rw [World.attachmentsOf, World.attachmentsOf, kept.attachments]
  | created _ _ _ write =>
    refine write.attachmentsOf fun hid => ?_
    cases (hid ▸ write.absent).symm.trans ht
  | updated _ _ write => rw [World.attachmentsOf, World.attachmentsOf, write.attachments]
  | recorded _ _ _ _ write => rw [World.attachmentsOf, World.attachmentsOf, write.attachments]
  | noted _ _ _ write => rw [World.attachmentsOf, World.attachmentsOf, write.attachments]
  | @uploaded dto user key now o _ _ _ write =>
    have hpending : (((pendingAttachment dto user key now).row o).ticketId == some id) = false :=
      rfl
    rw [World.attachmentsOf, World.attachmentsOf, Table.insert?_rows write.attachments,
      List.filter_append, List.filter_cons_of_neg (by simp [hpending]), List.filter_nil,
      List.append_nil]

section Runs

variable {w : World} {s : Server}

/-- What was linked to a ticket that was read is linked to it still. -/
theorem Run.attachmentsOf (h : Run (fun _ _ => true) { world := w } s) {e : Executed}
    (he : e ∈ s.history) {id : Uuid} {t : Ticket} (ht : e.before.ticket? id = some t) :
    s.world.attachmentsOf id = e.before.attachmentsOf id := by
  obtain ⟨n, hn⟩ := List.mem_iff_getElem?.mp he
  have hlt := (List.getElem?_eq_some_iff.mp hn).1
  have hrelates := h.relates World.KeepsLinks.refl (fun _ _ _ => World.KeepsLinks.trans)
    Effect.keeps_links hlt.le
  rw [worldAt_of_getElem? hn, worldAt_of_length_le (Nat.le_refl _)] at hrelates
  exact (hrelates id t ht).2

/-- The attachments that a read finds are those linked to the ticket. -/
theorem World.Filed.attachedTo_perm (h : w.Filed) (id : Uuid) :
    (w.attachedTo id).Perm (w.attachmentsOf id) := by
  have hfilter : (w.attachments.rows.filter fun a => a.ticketId == some id &&
      a.status == .attached) = w.attachmentsOf id := by
    refine List.filter_congr fun a ha => ?_
    by_cases hid : a.ticketId = some id
    · have hattached : a.status = .attached := by
        rcases h.shape a ha with hp | hat
        · cases hp.2.1.symm.trans hid
        · exact hat.1
      simp [hid, hattached]
    · simp [hid]
  unfold World.attachedTo
  rw [hfilter]
  exact List.mergeSort_perm _ _

end Runs

def Attachment.item (a : Attachment) : AttachmentItem where
  id := a.id.text
  filename := a.originalFilename

/-- The tabs list the attachments linked to the ticket, each once, and tell how its SLA stood at
some time since the page was opened. -/
structure TicketJson.Complete (w : World) (opened : Time) (t : TicketJson) : Prop where
  attachments : (extractAttachments t).Perm ((w.attachmentsOf t.ticket.id).map Attachment.item)
  sla : ∃ now : Time, opened ≤ now ∧
    slaStatusLabel t.slaStatus =
      slaStatusLabel (some (computeSlaFields t.ticket.slaDueAt now).slaStatus) ∧
    slaOffByDaysLabel t.slaOffByDays =
      slaOffByDaysLabel (some (computeSlaFields t.ticket.slaDueAt now).slaOffByDays)

def DetailSession.ShowsComplete (s : DetailSession) : Prop :=
  ∀ t, s.page.ticket? = some t → t.Complete s.server.world s.opened

theorem extractAttachments_json (d : TicketWithAttachments) :
    extractAttachments d.json = d.attachments.map fun a => ⟨a.id.text, a.filename⟩ := by
  have hitem : ∀ a : TicketAttachmentRef, AttachmentJson.item?
      (.object [("id", .string a.id.text), ("filename", .string a.filename)]) =
        some ⟨a.id.text, a.filename⟩ := by
    intro a
    have hid : (Json.object [("id", .string a.id.text), ("filename", .string a.filename)]).string?
        "id" = some a.id.text := rfl
    have hname : (Json.object [("id", .string a.id.text), ("filename", .string a.filename)]).string?
        "filename" = some a.filename := rfl
    simp [AttachmentJson.item?, hid, hname, Uuid.text_ne_empty]
  simp only [extractAttachments, TicketWithAttachments.json, Option.getD_some, List.filterMap_map]
  rw [← List.filterMap_eq_map]
  exact List.filterMap_congr fun a _ => hitem a

theorem faltan_ne {n : Nat} {s : String} : "faltan " ++ (n.repr ++ s) ≠ "faltan NaN días" := by
  intro he
  have hlist : Nat.toDigits 10 n ++ s.toList = "NaN días".toList := by
    have htext := congrArg (fun text => text.toList.drop 7) he
    simpa [Nat.repr_eq_ofList_toDigits] using htext
  cases hdigits : Nat.toDigits 10 n with
  | nil => exact Nat.toDigits_ne_nil hdigits
  | cons c cs =>
    have hdigit : c.isDigit = true :=
      Nat.isDigit_of_mem_toDigits (by decide) (by decide) (hdigits ▸ List.mem_cons_self)
    have hhead : c = 'N' := by
      rw [hdigits] at hlist
      simpa using congrArg List.head? hlist
    rw [hhead] at hdigit
    exact absurd hdigit (by decide)

/-- A negative amount of days is told with its digits, and never as `NaN`. -/
theorem slaOffByDaysLabel_ne_undefined (days : Option Int) :
    slaOffByDaysLabel none ≠ slaOffByDaysLabel (some days) := by
  cases days with
  | none => decide
  | some days =>
    simp only [slaOffByDaysLabel]
    split
    next => decide
    next hzero =>
      split
      next =>
        intro he
        have hhead := congrArg (fun text => text.toList.head?) he
        simp at hhead
      next hneg =>
        have hpos : 0 ≤ -days := by omega
        rw [Int.toString_eq_repr, Int.repr_eq_if, if_pos hpos, String.append_assoc,
          String.append_assoc]
        exact faltan_ne.symm

/-- The answer of an action has not got what the tabs show. -/
theorem TicketJson.not_complete {w : World} {opened : Time} (t : Ticket) :
    ¬ TicketJson.Complete w opened { ticket := t } := by
  intro h
  obtain ⟨now, _, _, hdays⟩ := h.sla
  exact slaOffByDaysLabel_ne_undefined _ hdays

/-- No clock of the server goes back behind the opening of the page. -/
def clockGoesOn (s : DetailSession) : DetailEvent → Bool
  | .server (.run _ o) => s.opened ≤ o.now
  | _ => true

def PageCall.isAction : PageCall → Bool
  | .run _ _ _ => true
  | .load _ => false
  | .refetch _ _ => false

/-- No action of the panel succeeds while the page shows a ticket. -/
def noneSucceeds (s : DetailSession) : DetailEvent → Bool
  | .answer i =>
    match s.calls[i]? with
    | some c =>
      match s.outcome? c with
      | some (.ok _) => !(c.call.isAction && s.page.visible)
      | _ => true
    | none => true
  | _ => true

/-- The requests of the page read the clock after it was opened. -/
def DetailSession.Clocked (s : DetailSession) : Prop :=
  ∀ (i : Nat) (c : Call) (n : Nat), s.calls[i]? = some c → c.flight = .served n →
    ∀ e ∈ s.server.history, e.tid = n → ∀ now : Time, e.obs = ⟨.one .now, .ok now⟩ →
      s.opened ≤ now

/-- The ticket is what a request of the page has read, with all that the tabs show of it. -/
def DetailSession.Read (s : DetailSession) (t : TicketJson) : Prop :=
  ∃ e ∈ s.server.history, e.before.ticket? t.ticket.id = some t.ticket ∧
    extractAttachments t = (e.before.attachedTo t.ticket.id).map Attachment.item ∧
    ∃ now : Time, s.opened ≤ now ∧
      t.slaStatus = some (computeSlaFields t.ticket.slaDueAt now).slaStatus ∧
      t.slaOffByDays = some (computeSlaFields t.ticket.slaDueAt now).slaOffByDays

section Complete

variable {w : World} {s s' : DetailSession} {t : TicketJson}

theorem DetailSession.Moves.clocked {e : DetailEvent} (hm : s.Moves e s') (sound : s.Sound w)
    (clock : clockGoesOn s e = true) (h : s.Clocked) : s'.Clocked := by
  intro i c n hc hn x hx htid now hobs
  rw [hm.same_page.2]
  have hbefore : x ∈ s.server.history → s.opened ≤ now := by
    intro hx
    rcases hm.served_before hc hn with hc | ⟨rfl, _⟩
    · exact h i c n hc hn x hx htid now hobs
    · -- the request that arrives has executed nothing
      have hlt := sound.run.tid_lt (by simp) x hx
      omega
  rcases hm.server_moves with hs | ⟨q, step⟩ | ⟨m, rfl, step⟩
  · exact hbefore (hs ▸ hx)
  · generalize s'.server = server at step hx
    cases step
    exact hbefore hx
  · generalize s'.server = server at step hx
    cases step with
    | arrive => exact hbefore hx
    | stop => exact hbefore hx
    | @run j q cmd k o thread =>
      rcases List.mem_append.mp hx with hx | hx
      · exact hbefore hx
      · rw [List.mem_singleton.mp hx] at hobs
        obtain ⟨hcmd, hanswer⟩ := Obs.mk.inj hobs
        subst hcmd
        have hnow : (Cmd.exec o (.one .now) s.server.world).1 = .ok o.now := by
          simp [Cmd.exec, Stmt.fallible, Stmt.exec]
        cases hnow.symm.trans (eq_of_heq hanswer)
        simpa [clockGoesOn] using clock

/-- A ticket that was read shows what the server has, since its links do not change. -/
theorem DetailSession.Read.complete (h : s.Read t) (sound : s.Sound w)
    (empty : w.attachments.rows = []) : t.Complete s.server.world s.opened := by
  obtain ⟨e, he, hrow, hitems, now, hopened, hstatus, hdays⟩ := h
  refine ⟨?_, now, hopened, by rw [hstatus], by rw [hdays]⟩
  rw [hitems, sound.run.attachmentsOf he hrow]
  have filed := Run.filed empty sound.run _ (sound.run.linked.before_mem he)
  exact (filed.attachedTo_perm _).map _

/-- What the page comes to show: what it showed, or the answer. An action needs the page to be
shown already. -/
theorem TicketDetailPage.settle_ticket? {p : TicketDetailPage} {i : Nat} {c : PageCall}
    {r : Except ClientError TicketJson} (h : (p.settle i c r).ticket? = some t) :
    p.ticket? = some t ∨ r = .ok t ∧ (c.isAction = true → p.visible = true) := by
  have hstored : ∀ {q : TicketDetailPage} {t' : TicketJson}, q.ticket = some t' →
      q.ticket? = some t → t' = t ∧ q.visible = true := by
    intro q t' hticket hshown
    unfold TicketDetailPage.ticket? at hshown
    split at hshown
    next hvisible => exact ⟨Option.some.inj (hticket.symm.trans hshown), hvisible⟩
    next => cases hshown
  unfold settle at h
  split at h
  next t' =>
    split at h
    next =>
      obtain ⟨rfl, _⟩ := hstored rfl h
      exact .inr ⟨rfl, fun ha => nomatch ha⟩
    next => exact .inl h
  next =>
    split at h
    next => simp [TicketDetailPage.ticket?, TicketDetailPage.visible] at h
    next => exact .inl h
  next t' =>
    obtain ⟨rfl, hvisible⟩ := hstored rfl h
    exact .inr ⟨rfl, fun _ => hvisible⟩
  next => exact .inl h
  next t' =>
    obtain ⟨rfl, _⟩ := hstored rfl h
    exact .inr ⟨rfl, fun ha => nomatch ha⟩
  next => exact .inl h

theorem TicketDetailPage.settle_action {p : TicketDetailPage} {i : Nat} {c : PageCall}
    (haction : c.isAction = true) (hvisible : p.visible = true) :
    (p.settle i c (.ok t)).ticket? = some t := by
  cases c with
  | run => exact if_pos hvisible
  | load => cases haction
  | refetch => cases haction

theorem DetailSession.Moves.read_stays {e : DetailEvent} (hm : s.Moves e s') (h : s.Read t) :
    s'.Read t := by
  obtain ⟨x, hx, hread⟩ := h
  obtain ⟨more, hmore, _⟩ := hm.reach.grows
  rw [DetailSession.Read, hm.same_page.2]
  exact ⟨x, by rw [hmore]; exact List.mem_append_left _ hx, hread⟩

/-- What a load or a refetch is answered was read for it. -/
theorem DetailSession.Sound.answer_read (h : s.Sound w) (clocked : s.Clocked) {i : Nat} {c : Call}
    (call : s.calls[i]? = some c) (outcome : s.outcome? c = some (.ok t))
    (haction : c.call.isAction = false) : s.Read t := by
  obtain ⟨n, q, v, hflight, hq, hdetail, hv⟩ := h.served_answer call outcome
  obtain ⟨id, rfl⟩ : ∃ id, q = .getForUser id s.user := by
    cases hc : c.call with
    | load id => rw [hc] at hq; exact ⟨id, (Option.some.inj hq).symm⟩
    | refetch id mount => rw [hc] at hq; exact ⟨id, (Option.some.inj hq).symm⟩
    | run action mount refetchId => rw [hc] at haction; cases haction
  generalize hpast : own n s.server.history = past at hdetail
  cases hdetail with
  | @found _ _ row attachments now =>
    cases hv
    obtain ⟨e, he, o, hx⟩ := h.run.seen_executed (hpast ▸ List.mem_cons_self)
    obtain ⟨hrow, hattached⟩ := exec_found hx
    have hid := World.ticket?_id hrow
    have hmem : (⟨.one .now, .ok now⟩ : Seen) ∈ own n s.server.history := by simp [hpast]
    obtain ⟨y, hy, htid, hobs⟩ := mem_own.mp hmem
    refine ⟨e, he, ?_, ?_, now, clocked i c n call hflight y hy htid now hobs, rfl, rfl⟩
    · exact (congrArg e.before.ticket? hid).trans hrow
    · rw [extractAttachments_json]
      have hitems : e.before.attachedTo row.id = attachments := hid ▸ hattached
      simp only [List.map_map]
      exact (congrArg (List.map Attachment.item) hitems).symm

/-- The answer of an action is the bare row. -/
theorem DetailSession.Sound.answer_bare (h : s.Sound w) {i : Nat} {c : Call}
    (call : s.calls[i]? = some c) (outcome : s.outcome? c = some (.ok t))
    (haction : c.call.isAction = true) : t = { ticket := t.ticket } := by
  obtain ⟨n, q, v, _, hq, hdetail, hv⟩ := h.served_answer call outcome
  generalize own n s.server.history = past at hdetail
  cases hdetail with
  | found =>
    cases hc : c.call with
    | load => rw [hc] at haction; cases haction
    | refetch => rw [hc] at haction; cases haction
    | run action =>
      rw [hc] at hq
      cases action with
      | assignTicket => cases hq
      | changeState =>
        simp only [PageCall.request?] at hq
        split at hq
        next => cases hq
        next => cases hq
  | assigned => cases hv; rfl
  | changed => cases hv; rfl

/-- What holds of every state of a run without such actions. -/
structure DetailSession.Faithful (w : World) (s : DetailSession) : Prop where
  sound : s.Sound w
  clocked : s.Clocked
  read : ∀ t, s.page.ticket? = some t → s.Read t

theorem DetailSession.Faithful.complete (h : s.Faithful w) (empty : w.attachments.rows = []) :
    s.ShowsComplete := fun t ht => (h.read t ht).complete h.sound empty

theorem DetailSession.Faithful.settle_read (h : s.Faithful w) {i : Nat} {c : Call}
    {r : Except ClientError TicketJson} (call : s.calls[i]? = some c)
    (outcome : ∀ t, r = .ok t → s.outcome? c = some r)
    (unseen : ∀ t, r = .ok t → c.call.isAction = true → s.page.visible = false)
    (ht : (s.settle i c r).page.ticket? = some t) : s.Read t := by
  rcases TicketDetailPage.settle_ticket? ht with ht | ⟨rfl, hvisible⟩
  · exact h.read t ht
  · refine h.sound.answer_read h.clocked call (outcome t rfl) ?_
    by_contra haction
    have haction : c.call.isAction = true := by simpa using haction
    cases (unseen t rfl haction).symm.trans (hvisible haction)

theorem DetailSession.Moves.faithful {e : DetailEvent} (hm : s.Moves e s')
    (clock : clockGoesOn s e = true) (good : noneSucceeds s e = true) (h : s.Faithful w) :
    s'.Faithful w where
  sound := hm.sound h.sound
  clocked := hm.clocked h.sound clock h.clocked
  read t ht := by
    refine hm.read_stays ?_
    cases hm with
    | still => exact h.read t ht
    | navigated => simp [TicketDetailPage.ticket?, TicketDetailPage.navigate,
        TicketDetailPage.visible] at ht
    | ran => exact h.read t ht
    | refused => exact h.read t ht
    | delivered => exact h.read t ht
    | served => exact h.read t ht
    | failed call =>
      exact h.settle_read call (fun _ hr => by cases hr) (fun _ hr _ => by cases hr) ht
    | answered call outcome =>
      refine h.settle_read call (fun _ _ => outcome) (fun t' hr haction => ?_) ht
      subst hr
      simpa [noneSucceeds, call, outcome, haction] using good

/-- An action that succeeds in sight leaves the bare row on the page. -/
theorem DetailSession.Moves.not_complete {e : DetailEvent} (hm : s.Moves e s') (sound : s.Sound w)
    (bad : noneSucceeds s e = false) : ¬ s'.ShowsComplete := by
  cases hm with
  | still other =>
    cases e with
    | answer i => exact absurd rfl (other i)
    | _ => cases bad
  | answered call outcome =>
    simp only [noneSucceeds, call, outcome] at bad
    split at bad
    next t heq =>
      cases heq
      simp only [Bool.not_eq_false', Bool.and_eq_true] at bad
      obtain ⟨haction, hvisible⟩ := bad
      intro hshows
      have hcomplete := hshows t (TicketDetailPage.settle_action haction hvisible)
      rw [sound.answer_bare call outcome haction] at hcomplete
      exact TicketJson.not_complete _ hcomplete
    next => cases bad
  | _ => cases bad

end Complete

theorem mounted_faithful {w : World} {server : Server}
    (served : Run (fun _ _ => true) { world := w } server) (user : User) (opened : Time)
    (id : Uuid) : (DetailSession.mounted user opened id server).Faithful w where
  sound := mounted_sound served
  clocked i c n hc hn := by
    rw [DetailSession.mounted, List.getElem?_singleton] at hc
    split at hc
    next => cases hc; cases hn
    next => cases hc
  read _ ht := nomatch ht

/-- A run shows what the server has all along exactly when no action of the panel succeeds in it
while the page shows a ticket. -/
theorem shows_complete_iff {w : World} {server : Server} (empty : w.attachments.rows = [])
    (served : Run (fun _ _ => true) { world := w } server) (user : User) (opened : Time) (id : Uuid)
    (events : List DetailEvent) (s : DetailSession)
    (run : Reactive.replay DetailSession.next clockGoesOn events
      (.mounted user opened id server) = some s) :
    (∀ n s', Reactive.replay DetailSession.next clockGoesOn (events.take n)
      (.mounted user opened id server) = some s' → s'.ShowsComplete) ↔
    Reactive.replay DetailSession.next (both clockGoesOn noneSucceeds) events
      (.mounted user opened id server) = some s := by
  have hstart := mounted_faithful served user opened id
  have hfaithful : ∀ s, Runs DetailSession.next (both clockGoesOn noneSucceeds)
      (.mounted user opened id server) s → s.Faithful w := by
    refine fun s hr => hr.invariant hstart fun s e s' hs hok hnext => ?_
    obtain ⟨clock, good⟩ := Bool.and_eq_true_iff.mp hok
    exact (DetailSession.next_moves hnext).faithful clock good hs
  refine replay_iff (hstart.complete empty) (fun s e s' hr clock hnext => ?_) run
  have hm := DetailSession.next_moves hnext
  constructor
  · intro hshows
    by_contra hbad
    exact hm.not_complete (hfaithful s hr).sound (by simpa using hbad) hshows
  · exact fun good => (hm.faithful clock good (hfaithful s hr)).complete empty

namespace Sample

/-- A ticket, with id 122, that has a file. -/
def filed : Server := (play uploading (filing 0)).get (by decide +kernel)

theorem filed_served : Run (fun _ _ => true) { world := world } filed := by
  have hrun : Run uploading { world := world } filed := play_run (by decide +kernel)
  exact hrun.mono fun _ _ _ => rfl

/-- An agente opens the page of that ticket. -/
def inspect (ok : DetailSession → DetailEvent → Bool) (events : List DetailEvent) :
    Option DetailSession :=
  Reactive.replay DetailSession.next ok events (.mounted agente 0 122 filed)

/-- Somebody else takes the ticket first: the assign is a conflict, and the page refetches. -/
def beaten : List DetailEvent :=
  answered 0 3 2 ++ .select .adjuntos :: .select .detalle ::
    .server (.arrive (.assign 122 ⟨4, 0⟩ suplente)) :: (steps 4 40 7).map .server ++
    .press .assignMe :: answered 1 5 3 ++ answered 2 6 2

def taken : DetailSession :=
  (inspect clockGoesOn (answered 0 3 2 ++ .press .assignMe :: answered 1 4 7)).get
    (by decide +kernel)

end Sample

open Sample in
theorem shows_complete_beaten : (inspect clockGoesOn beaten).isSome ∧
    ∀ n s, inspect clockGoesOn (beaten.take n) = some s → s.ShowsComplete := by
  have hgood : (inspect (both clockGoesOn noneSucceeds) beaten).isSome := by decide +kernel
  have hrun : inspect clockGoesOn beaten = some _ :=
    replay_mono (fun _ _ h => (Bool.and_eq_true_iff.mp h).1) (Option.some_get hgood).symm
  refine ⟨Option.isSome_of_eq_some hrun, ?_⟩
  exact (shows_complete_iff rfl filed_served agente 0 122 beaten _ hrun).mpr
    (Option.some_get hgood).symm

open Sample in
/-- After "Asignarme" the page of a ticket with a file and a due date shows neither. -/
theorem bare_after_assign : ¬ ∀ (w : World) (server : Server), w.attachments.rows = [] →
    Run (fun _ _ => true) { world := w } server →
      ∀ (user : User) (opened : Time) (id : Uuid) (s : DetailSession),
        Runs DetailSession.next clockGoesOn (.mounted user opened id server) s →
          s.ShowsComplete := by
  intro hall
  have hrun : Runs DetailSession.next clockGoesOn (.mounted agente 0 122 filed) taken :=
    Runs.of_replay (Option.some_get _).symm .start
  have hlisted : taken.page.ticket?.map extractAttachments = some [] := by decide +kernel
  have hlinked : (taken.server.world.attachmentsOf 122).length = 1 := by decide +kernel
  have hid : taken.page.ticket?.map (·.ticket.id) = some 122 := by decide +kernel
  cases ht : taken.page.ticket? with
  | none =>
    rw [ht] at hid
    cases hid
  | some t =>
    rw [ht, Option.map_some] at hlisted hid
    have hperm := (hall world filed rfl filed_served agente 0 122 taken hrun t ht).attachments
    rw [Option.some.inj hlisted, Option.some.inj hid] at hperm
    have hlength := hperm.length_eq
    rw [List.length_map, hlinked] at hlength
    cases hlength

end TicketSystem
