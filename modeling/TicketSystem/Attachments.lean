import TicketSystem.Evolution

namespace TicketSystem

open Relational Interleaved

def Attachment.Pending (a : Attachment) : Prop :=
  a.status = .pending ∧ a.ticketId = none ∧ a.attachedAt = none ∧ a.expiresAt.isSome

def Attachment.Attached (a : Attachment) : Prop :=
  a.status = .attached ∧ a.ticketId.isSome ∧ a.attachedAt.isSome ∧ a.expiresAt = none

/-- An upload that a create links: named in its body, its user's own, and waiting. -/
def CreateTicketDto.qualifies (dto : CreateTicketDto) (user : User) (a : Attachment) : Bool :=
  (attachWhere (dto.attachments.getD []) user).matches a

theorem qualifies_iff {dto : CreateTicketDto} {user : User} {a : Attachment} :
    dto.qualifies user a = true ↔ a.id ∈ dto.attachments.getD [] ∧ a.uploaderId = user.id ∧
      a.status = .pending ∧ a.ticketId = none := by
  simp [CreateTicketDto.qualifies, AttachmentWhere.matches, attachWhere, and_assoc]

def Attachment.link (a : Attachment) (t : Ticket) (now : Time) : Attachment :=
  (attachUpdate t now).rewrite.run a

theorem linkedAttachments_rows (dto : CreateTicketDto) (user : User) (t : Ticket) (o : Oracle)
    (as : Table Attachment Attachment.clash) :
    (linkedAttachments dto user t o as).rows =
      as.rows.map fun a => if dto.qualifies user a then a.link t o.now else a := by
  unfold linkedAttachments
  cases hd : dto.attachments with
  | none => simp [CreateTicketDto.qualifies, AttachmentWhere.matches, attachWhere, hd]
  | some ids =>
    dsimp only
    split
    next =>
      refine List.map_congr_left fun a _ => ?_
      simp [Table.Rewrite.at, CreateTicketDto.qualifies, hd, Attachment.link]
    next hlen =>
      have hnil : ids = [] := List.eq_nil_of_length_eq_zero (by omega)
      simp [CreateTicketDto.qualifies, AttachmentWhere.matches, attachWhere, hd, hnil]

/-- Where an attachment of a later table comes from: it was there, it was linked, or it is new. -/
inductive Upload (e : Executed) (a : Attachment) : Prop
  | kept (before : a ∈ e.before.attachments.rows)
  | linked {dto : CreateTicketDto} {user : User} {key : Option String} {priority : Priority}
      {slaDueAt : Option Time} {o : Oracle} {b : Attachment}
      (obs : Seen.created? e.obs =
        some (insertedTicket dto user key priority slaDueAt o e.before))
      (inserted : e.after.ticket? o.uuid =
        some (insertedTicket dto user key priority slaDueAt o e.before))
      (before : b ∈ e.before.attachments.rows) (qualified : dto.qualifies user b = true)
      (link : a = b.link (insertedTicket dto user key priority slaDueAt o e.before) o.now)
  | new {dto : CreateAttachmentDto} {user : User} {key : String} {now : Time} {o : Oracle}
      (row : a = (pendingAttachment dto user key now).row o)

theorem Effect.upload {q : Request} {past : List Seen} {e : Executed} (h : Effect q past e)
    {a : Attachment} (ha : a ∈ e.after.attachments.rows) : Upload e a := by
  cases h with
  | quiet _ kept => exact .kept (kept.attachments ▸ ha)
  | @created dto user key priority slaDueAt o _ _ obs write =>
    rw [write.attachments, linkedAttachments_rows] at ha
    obtain ⟨b, hb, rfl⟩ := List.mem_map.mp ha
    split
    next hq =>
      refine .linked obs ?_ hb hq rfl
      rw [write.ticket?]
      exact if_pos rfl
    next => exact .kept hb
  | updated _ _ write => exact .kept (write.attachments ▸ ha)
  | recorded _ _ _ _ write => exact .kept (write.attachments ▸ ha)
  | noted _ _ _ write => exact .kept (write.attachments ▸ ha)
  | uploaded _ _ _ write =>
    rw [Table.insert?_rows write.attachments] at ha
    rcases List.mem_append.mp ha with ha | ha
    · exact .kept ha
    · exact .new (List.mem_singleton.mp ha)

/-- An attachment that no longer waits stays as it is. -/
theorem Effect.keeps_upload {q : Request} {past : List Seen} {e : Executed} (h : Effect q past e)
    {a : Attachment} (ha : a ∈ e.before.attachments.rows) (hs : a.status ≠ .pending) :
    a ∈ e.after.attachments.rows := by
  cases h with
  | quiet _ kept => exact kept.attachments ▸ ha
  | created _ _ _ write =>
    rw [write.attachments, linkedAttachments_rows]
    refine List.mem_map.mpr ⟨a, ha, if_neg fun hq => ?_⟩
    exact hs (qualifies_iff.mp hq).2.2.1
  | updated _ _ write => exact write.attachments ▸ ha
  | recorded _ _ _ _ write => exact write.attachments ▸ ha
  | noted _ _ _ write => exact write.attachments ▸ ha
  | uploaded _ _ _ write =>
    rw [Table.insert?_rows write.attachments]
    exact List.mem_append_left _ ha

/-- What holds of the uploads of every reachable world. -/
structure World.Filed (w : World) : Prop where
  shape : ∀ a ∈ w.attachments.rows, a.Pending ∨ a.Attached
  owner : ∀ a ∈ w.attachments.rows, ∀ id, a.ticketId = some id →
    ∃ t, w.ticket? id = some t ∧ t.reporterId = a.uploaderId

theorem Effect.filed {q : Request} {past : List Seen} {e : Executed} (h : Effect q past e)
    (hf : e.before.Filed) : e.after.Filed where
  shape a ha := by
    cases h.upload ha with
    | kept before => exact hf.shape a before
    | linked _ _ _ _ link => exact .inr (link ▸ ⟨rfl, rfl, rfl, rfl⟩)
    | new row => exact .inl (row ▸ ⟨rfl, rfl, rfl, rfl⟩)
  owner a ha id hid := by
    cases h.upload ha with
    | kept before =>
      obtain ⟨t, ht, howner⟩ := hf.owner a before id hid
      obtain ⟨t', ht', hevolves⟩ := h.evolves id t ht
      exact ⟨t', ht', hevolves.reporterId.trans howner⟩
    | linked _ inserted _ qualified link =>
      subst link
      cases hid
      exact ⟨_, inserted, (qualifies_iff.mp qualified).2.1.symm⟩
    | new row => subst row; cases hid

/-- A create linked the attachment to the ticket it made. -/
def Links (e : Executed) (id : Uuid) : Prop :=
  ∃ t a, Seen.created? e.obs = some t ∧ a ∈ e.after.attachments.rows ∧ a.id = id ∧
    a.ticketId = some t.id

theorem Effect.new_ticket {q : Request} {past : List Seen} {e : Executed} (h : Effect q past e)
    {t : Ticket} (hc : Seen.created? e.obs = some t) :
    e.before.ticket? t.id = none ∧ e.after.ticket? t.id = some t := by
  cases h.row t.id with
  | same _ _ elsewhere => exact absurd rfl (elsewhere t hc)
  | updated _ obs => cases (Seen.update?_of_created hc).symm.trans obs
  | inserted _ obs _ before after =>
    cases hc.symm.trans obs
    exact ⟨before, after⟩

/-- A create that inserts no ticket leaves the attachments alone. -/
theorem Effect.attachments_kept {dto : CreateTicketDto} {user : User} {key : Option String}
    {past : List Seen} {e : Executed} (h : Effect (.create dto user key) past e)
    (hno : Seen.created? e.obs = none) : e.after.attachments = e.before.attachments := by
  cases h with
  | quiet _ kept => exact kept.attachments
  | created _ _ obs _ => cases hno.symm.trans obs
  | updated _ _ write => exact write.attachments
  | recorded _ _ _ _ write => exact write.attachments
  | noted _ _ _ write => exact write.attachments
  | uploaded request => cases request

def World.KeepsAttached (u v : World) : Prop :=
  ∀ a ∈ u.attachments.rows, a.Attached → a ∈ v.attachments.rows

def Attachment.expiredAt (a : Attachment) (now : Time) : Bool := a.expiresAt.any (· ≤ now)

def World.LinkedTo (w : World) (id ticketId : Uuid) : Prop :=
  ∃ a ∈ w.attachments.rows, a.id = id ∧ a.ticketId = some ticketId

/-- What should become of the uploads when a create makes the ticket `t`. -/
structure LinksUnexpired (dto : CreateTicketDto) (user : User) (t : Ticket) (w w' : World) :
    Prop where
  expired : ∀ a ∈ w.attachments.rows, a.expiredAt t.createdAt = true → ¬ w'.LinkedTo a.id t.id
  linked : ∀ a ∈ w.attachments.rows, a.id ∈ dto.attachments.getD [] → a.uploaderId = user.id →
    a.status = .pending → a.expiredAt t.createdAt = false → w'.LinkedTo a.id t.id

def NamesNoExpired (dto : CreateTicketDto) (user : User) (now : Time) (w : World) : Prop :=
  ∀ a ∈ w.attachments.rows, a.id ∈ dto.attachments.getD [] → a.uploaderId = user.id →
    a.status = .pending → a.expiredAt now = false

instance (w : World) (id ticketId : Uuid) : Decidable (w.LinkedTo id ticketId) :=
  inferInstanceAs (Decidable (∃ a ∈ _, _))

instance (dto : CreateTicketDto) (user : User) (now : Time) (w : World) :
    Decidable (NamesNoExpired dto user now w) :=
  inferInstanceAs (Decidable (∀ a ∈ _, _))

section Runs

variable {ok : Server → Action → Bool} {w : World} {s : Server}

theorem Run.filed (empty : w.attachments.rows = []) (h : Run ok { world := w } s) :
    ∀ u ∈ s.moments w, u.Filed := by
  refine h.linked.always (I := World.Filed) ⟨by simp [empty], by simp [empty]⟩ fun e he hf => ?_
  obtain ⟨h₁, h₂, hh⟩ := List.append_of_mem he
  obtain ⟨_, _, heff⟩ := h.effect hh
  exact heff.filed hf

theorem Run.filed_at (empty : w.attachments.rows = [])
    (h : Run ok { world := w } s) {h₁ h₂ : List Executed} {e : Executed}
    (he : s.history = h₁ ++ e :: h₂) : e.before.Filed ∧ e.after.Filed := by
  have hmem : e ∈ s.history := he ▸ List.mem_append_right _ List.mem_cons_self
  exact ⟨Run.filed empty h _ (h.linked.before_mem hmem),
    Run.filed empty h _ (List.mem_cons_of_mem _ (List.mem_map_of_mem hmem))⟩

theorem Run.keeps_attached (h : Run ok { world := w } s) :
    (s.moments w).Pairwise World.KeepsAttached := by
  refine h.linked.pairwise (r := World.KeepsAttached)
    (fun _ _ _ huv hvx a ha hat => hvx a (huv a ha hat) hat) fun e he a ha hat => ?_
  obtain ⟨h₁, h₂, hh⟩ := List.append_of_mem he
  obtain ⟨_, _, heff⟩ := h.effect hh
  exact heff.keeps_upload ha (by simp [hat.1])

/-- Between two entries of a run what was attached stays. -/
theorem Run.attached_between (h : Run ok { world := w } s) {h₁ h₂ h₃ : List Executed}
    {e e' : Executed} (he : s.history = h₁ ++ e :: (h₂ ++ e' :: h₃)) :
    e.after.KeepsAttached e'.after := by
  have hpairs := Run.keeps_attached h
  simp only [Server.moments, he, List.map_append, List.map_cons] at hpairs
  have htail := (List.pairwise_append.mp (List.pairwise_cons.mp hpairs).2).2.1
  exact (List.pairwise_cons.mp htail).1 _ (by simp)

theorem Run.links_once (empty : w.attachments.rows = [])
    (h : Run ok { world := w } s) {h₁ h₂ h₃ : List Executed} {e e' : Executed} {id : Uuid}
    (he : s.history = h₁ ++ e :: (h₂ ++ e' :: h₃)) (hl : Links e id) : ¬ Links e' id := by
  rintro ⟨t', a', hc', ha', hid', hticket'⟩
  obtain ⟨t, a, hc, ha, hid, hticket⟩ := hl
  have he' : s.history = (h₁ ++ e :: h₂) ++ e' :: h₃ := by simpa using he
  obtain ⟨_, _, heff⟩ := h.effect he
  obtain ⟨_, _, heff'⟩ := h.effect he'
  have hattached : a.Attached := by
    rcases (Run.filed_at empty h he).2.shape a ha with hp | hat
    · cases hp.2.1.symm.trans hticket
    · exact hat
  have hstays := Run.attached_between h he a ha hattached
  have heq : a' = a := Table.eq_of_clash ha' hstays (.inl (hid'.trans hid.symm))
  subst heq
  have hsame : t.id = t'.id := Option.some.inj (hticket.symm.trans hticket')
  obtain ⟨row, hrow, _⟩ := Run.evolves h he _ _ (heff.new_ticket hc).2
  cases (hsame ▸ (heff'.new_ticket hc').1).symm.trans hrow

/-- The life of the attachments: each is pending or attached, in the latter case to a ticket of
its uploader; an attached one stays as it is, no two creates link the same one, and a create
that makes no ticket changes none. -/
structure Server.Files (w : World) (s : Server) : Prop where
  shape : ∀ a ∈ s.world.attachments.rows, a.Pending ∨ a.Attached
  owner : ∀ a ∈ s.world.attachments.rows, a.Attached → ∃ id t, a.ticketId = some id ∧
    s.world.ticket? id = some t ∧ t.reporterId = a.uploaderId
  frozen : (s.moments w).Pairwise World.KeepsAttached
  once : ∀ h₁ e h₂ e' h₃ id, s.history = h₁ ++ e :: (h₂ ++ e' :: h₃) →
    Links e id → ¬ Links e' id
  idle : ∀ (i : Nat) (t : Task) dto user key, s.threads[i]? = some t →
    t.request = .create dto user key →
    (∀ e ∈ s.history, e.tid = i → Seen.created? e.obs = none) →
    ∀ e ∈ s.history, e.tid = i → e.after.attachments = e.before.attachments

theorem Run.idle (h : Run ok { world := w } s) {i : Nat} {t : Task} {dto : CreateTicketDto}
    {user : User} {key : Option String} (ht : s.threads[i]? = some t)
    (hq : t.request = .create dto user key) {e : Executed} (he : e ∈ s.history) (htid : e.tid = i)
    (hno : Seen.created? e.obs = none) : e.after.attachments = e.before.attachments := by
  obtain ⟨h₁, h₂, hh⟩ := List.append_of_mem he
  obtain ⟨t', ht', heff⟩ := h.effect hh
  cases ht.symm.trans (htid ▸ ht')
  rw [hq] at heff
  exact heff.attachments_kept hno

theorem attachments_filed (empty : w.attachments.rows = []) (h : Run ok { world := w } s) :
    s.Files w where
  shape := (Run.filed empty h _ h.linked.end_mem).shape
  owner a ha hat := by
    obtain ⟨id, hid⟩ := Option.isSome_iff_exists.mp hat.2.1
    obtain ⟨t, ht, howner⟩ := (Run.filed empty h _ h.linked.end_mem).owner a ha id hid
    exact ⟨id, t, hid, ht, howner⟩
  frozen := Run.keeps_attached h
  once _ _ _ _ _ _ he hl := Run.links_once empty h he hl
  idle _ _ _ _ _ ht hq hno e he htid := Run.idle h ht hq he htid (hno e he htid)

/-! ### Expired uploads -/

theorem Effect.creation {dto : CreateTicketDto} {user : User} {key : Option String}
    {past : List Seen} {e : Executed} (h : Effect (.create dto user key) past e) {t : Ticket}
    (hc : Seen.created? e.obs = some t) : ∃ o, e.before.Created dto user o t e.after := by
  cases h with
  | quiet calm _ => cases calm.created.symm.trans hc
  | created request _ obs write =>
    cases request
    cases obs.symm.trans hc
    exact ⟨_, write⟩
  | updated _ obs _ => cases (Seen.update?_of_created hc).symm.trans obs
  | recorded _ _ _ obs _ => cases (Seen.event?_of_created hc).symm.trans obs
  | noted _ _ obs _ => cases (Seen.event?_of_created hc).symm.trans obs
  | uploaded request => cases request

section Creation

variable {dto : CreateTicketDto} {user : User} {o : Oracle} {t : Ticket} {w w' : World}
  {a : Attachment}

/-- A create links every pending upload of its user that it names, expired or not. -/
theorem World.Created.links (write : w.Created dto user o t w') (filed : w.Filed)
    (ha : a ∈ w.attachments.rows) (hnamed : a.id ∈ dto.attachments.getD [])
    (howner : a.uploaderId = user.id) (hpending : a.status = .pending) :
    w'.LinkedTo a.id t.id := by
  have hticket : a.ticketId = none := by
    rcases filed.shape a ha with hp | hat
    · exact hp.2.1
    · cases hpending.symm.trans hat.1
  have hqualifies := qualifies_iff.mpr ⟨hnamed, howner, hpending, hticket⟩
  refine ⟨a.link t o.now, ?_, rfl, rfl⟩
  rw [write.attachments, linkedAttachments_rows]
  exact List.mem_map.mpr ⟨a, ha, if_pos hqualifies⟩

/-- Whatever is linked to the new ticket was such an upload. -/
theorem World.Created.linked (write : w.Created dto user o t w') (filed : w.Filed)
    (ha : a ∈ w.attachments.rows) (hl : w'.LinkedTo a.id t.id) :
    a.id ∈ dto.attachments.getD [] ∧ a.uploaderId = user.id ∧ a.status = .pending := by
  obtain ⟨a', ha', hid, hticket⟩ := hl
  rw [write.attachments, linkedAttachments_rows] at ha'
  obtain ⟨b, hb, rfl⟩ := List.mem_map.mp ha'
  split at hid
  next hqualifies =>
    have heq : b = a := Table.eq_of_clash hb ha (.inl hid)
    obtain ⟨hnamed, howner, hpending, _⟩ := qualifies_iff.mp (heq ▸ hqualifies)
    exact ⟨hnamed, howner, hpending⟩
  next hno =>
    rw [if_neg hno] at hticket
    obtain ⟨row, hrow, _⟩ := filed.owner b hb t.id hticket
    cases write.absent.symm.trans hrow

end Creation

/-- Exactly if no pending upload of the user that the body names has expired, the create links
his unexpired ones and no expired one. -/
theorem links_unexpired_iff (empty : w.attachments.rows = []) (h : Run ok { world := w } s)
    {h₁ h₂ : List Executed} {e : Executed} (he : s.history = h₁ ++ e :: h₂) {thread : Task}
    (hthread : s.threads[e.tid]? = some thread) {dto : CreateTicketDto} {user : User}
    {key : Option String} (hq : thread.request = .create dto user key) {t : Ticket}
    (hc : Seen.created? e.obs = some t) :
    LinksUnexpired dto user t e.before e.after ↔
      NamesNoExpired dto user t.createdAt e.before := by
  obtain ⟨thread', hthread', heff⟩ := h.effect he
  cases hthread.symm.trans hthread'
  rw [hq] at heff
  obtain ⟨o, write⟩ := heff.creation hc
  have filed := (Run.filed_at empty h he).1
  constructor
  · intro hlinks a ha hnamed howner hpending
    by_contra hexpired
    exact hlinks.expired a ha (by simpa using hexpired)
      (write.links filed ha hnamed howner hpending)
  · refine fun hnames => ⟨fun a ha hexpired hlinked => ?_, fun a ha hnamed howner hpending _ =>
      write.links filed ha hnamed howner hpending⟩
    obtain ⟨hnamed, howner, hpending⟩ := write.linked filed ha hlinked
    have hno := hnames a ha hnamed howner hpending
    rw [hexpired] at hno
    cases hno

end Runs

/-- Uploads, downloads and creates. -/
def uploading (s : Server) : Action → Bool
  | .arrive (.createUpload _ _) | .arrive (.create _ _ _) | .arrive (.getDownload _ _) => true
  | .run _ o => decide (o.Unused s.world)
  | _ => false

namespace Sample

def file : CreateAttachmentDto where
  filename := "traza.log"
  contentType := "text/plain"
  sizeBytes := 2048
  filenameLength := by decide
  contentTypeLength := by decide
  sizeRange := by decide

def withFiles : CreateTicketDto :=
  { body with attachments := some [112, 112, 999], attachmentsSize := by rintro _ ⟨⟩; decide }

def stepsAt (now : Time) (i n k : Nat) : List Action :=
  (List.range k).map fun j => .run i { now := now, uuid := 100 + n + j }

/-- A file, with id 112, and a ticket that names it twice, `hours` later; then another one does. -/
def filing (hours : Int) : List Action :=
  .arrive (.createUpload file reportante) :: stepsAt 0 0 10 4 ++
    [.arrive (.create withFiles reportante none)] ++ stepsAt (hours * 3600000) 1 20 3 ++
    [.arrive (.create withFiles reportante none)] ++ stepsAt (hours * 3600000) 2 30 3

def filedInTime : Server := (play uploading (filing 1)).get (by decide +kernel)

def filedTooLate : Server := (play uploading (filing 25)).get (by decide +kernel)

end Sample

open Sample in
theorem attachments_filed_in_time : filedInTime.Files world := by
  have hrun : Run uploading { world := world } filedInTime := play_run (by decide +kernel)
  exact attachments_filed rfl hrun

open Sample in
theorem links_unexpired_in_time : ∃ e ∈ filedInTime.history, ∃ t,
    Seen.created? e.obs = some t ∧ LinksUnexpired withFiles reportante t e.before e.after := by
  have hrun : Run uploading { world := world } filedInTime := play_run (by decide +kernel)
  obtain ⟨e, he, hcheck⟩ : ∃ e ∈ filedInTime.history, (e.tid == 1 && (Seen.created? e.obs).any
      fun t => decide (NamesNoExpired withFiles reportante t.createdAt e.before)) = true :=
    List.any_eq_true.mp (by decide +kernel)
  obtain ⟨htid, hcreated⟩ := Bool.and_eq_true_iff.mp hcheck
  obtain ⟨t, hc, hnames⟩ := (Option.any_eq_true _ _).mp hcreated
  obtain ⟨h₁, h₂, hh⟩ := List.append_of_mem he
  have hthread : filedInTime.threads[e.tid]? = some filedInTime.threads[1] :=
    (beq_iff_eq.mp htid).symm ▸ rfl
  have hrequest : filedInTime.threads[1].request = .create withFiles reportante none := rfl
  exact ⟨e, he, t, hc,
    (links_unexpired_iff rfl hrun hh hthread hrequest hc).mpr (of_decide_eq_true hnames)⟩

/-- A file uploaded 25 hours before is linked all the same. -/
theorem expired_upload_linked : ¬ ∀ s, Run uploading { world := Sample.world } s →
    ∀ e ∈ s.history, ∀ (thread : Task) dto user key t, s.threads[e.tid]? = some thread →
      thread.request = .create dto user key → Seen.created? e.obs = some t →
      LinksUnexpired dto user t e.before e.after := by
  intro h
  have hrun : Run uploading { world := Sample.world } Sample.filedTooLate :=
    Sample.play_run (by decide +kernel)
  obtain ⟨e, he, hcheck⟩ : ∃ e ∈ Sample.filedTooLate.history, (e.tid == 1 &&
      (Seen.created? e.obs).any fun t => e.before.attachments.rows.any fun a =>
        a.expiredAt t.createdAt && decide (e.after.LinkedTo a.id t.id)) = true :=
    List.any_eq_true.mp (by decide +kernel)
  obtain ⟨htid, hcreated⟩ := Bool.and_eq_true_iff.mp hcheck
  obtain ⟨t, hc, hlinked⟩ := (Option.any_eq_true _ _).mp hcreated
  obtain ⟨a, ha, hboth⟩ := List.any_eq_true.mp hlinked
  obtain ⟨hexpired, hlinked⟩ := Bool.and_eq_true_iff.mp hboth
  have hthread : Sample.filedTooLate.threads[e.tid]? = some Sample.filedTooLate.threads[1] :=
    (beq_iff_eq.mp htid).symm ▸ rfl
  exact (h _ hrun e he _ _ _ _ t hthread rfl hc).expired a ha hexpired (of_decide_eq_true hlinked)

end TicketSystem
