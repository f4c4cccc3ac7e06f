import TicketSystem.Attachments

namespace TicketSystem

open Relational Interleaved

/-- The event row a download of a linked attachment leaves. -/
structure TicketEvent.Downloads (ev : TicketEvent) (a : Attachment) (ticketId : Uuid)
    (user : User) : Prop where
  eventType : ev.eventType = .adjuntoDescargado
  ticketId : ev.ticketId = ticketId
  actorId : ev.actorId = user.id
  payload : ev.payload = .adjuntoDescargado a.id a.s3Key

/-- What a download by a reportante gives, in one world: his own uploads, with an event when they
are linked to a ticket, and of anything else what an unknown id gives. -/
structure DownloadsOwn (id : Uuid) (user : User) (os : Nat → Oracle) (w : World) : Prop where
  granted : (∃ d, ((getDownload id user).alone Cmd.exec os w).1 = .ok d) ↔
    ∃ a ∈ w.attachments.rows, a.id = id ∧ a.uploaderId = user.id
  refused : (¬ ∃ d, ((getDownload id user).alone Cmd.exec os w).1 = .ok d) →
    (getDownload id user).alone Cmd.exec os w = (.error (.http attachmentNotFound), w)
  recorded : ∀ d w', (getDownload id user).alone Cmd.exec os w = (.ok d, w') →
    ∀ a ∈ w.attachments.rows, a.id = id →
      (a.ticketId = none → w' = w) ∧
      ∀ ticketId, a.ticketId = some ticketId → ∃ ev : TicketEvent,
        w'.events.rows = w.events.rows ++ [ev] ∧ ev.Downloads a ticketId user

section Alone

variable {id : Uuid} {user : User} {os : Nat → Oracle} {w : World} {a : Attachment}

/-- The check goes through the ticket, whose reporter is the uploader. -/
theorem assertCanAccess_alone (os : Nat → Oracle) (hf : ∀ n, (os n).fault = none)
    (hrole : user.role = .reportante)
    (filed : w.Filed) (ha : a ∈ w.attachments.rows) :
    (assertCanAccess a user).alone Cmd.exec os w =
      (if a.uploaderId = user.id then .ok () else .error (.http attachmentNotFound), w) := by
  have hrole' : ¬ user.role ≠ .reportante := not_not.mpr hrole
  unfold assertCanAccess
  rw [if_neg hrole']
  cases hticket : a.ticketId with
  | none =>
    by_cases hown : a.uploaderId = user.id
    · simp only [hown, ne_eq, not_true_eq_false, if_false, if_true]
      rfl
    · simp only [hown, ne_eq, not_false_eq_true, if_false, if_true]
      rfl
  | some ticketId =>
    obtain ⟨t, ht, hreporter⟩ := filed.owner a ha ticketId hticket
    refine (call_alone (hf 0) (a := some t) (by rw [Stmt.exec, ht])).trans ?_
    by_cases hown : a.uploaderId = user.id
    · simp only [Option.all_some, hreporter, hown, ne_eq, not_true_eq_false, decide_false,
        Bool.false_eq_true, if_false, if_true]
      rfl
    · simp only [Option.all_some, hreporter, hown, ne_eq, not_false_eq_true, decide_true, if_false,
        if_true]
      rfl

theorem recordDownload_alone (a : Attachment) (user : User) (os : Nat → Oracle)
    (hf : ∀ n, (os n).fault = none)
    (hun : ∀ n, ∀ e ∈ w.events.rows, e.id ≠ (os n).uuid) :
    ∃ w', (recordDownload a user).alone Cmd.exec os w = (.ok (), w') ∧
      (a.ticketId = none → w' = w) ∧
      ∀ ticketId, a.ticketId = some ticketId → ∃ ev : TicketEvent,
        w'.events.rows = w.events.rows ++ [ev] ∧ ev.Downloads a ticketId user := by
  unfold recordDownload
  cases hticket : a.ticketId with
  | none => exact ⟨w, rfl, fun _ => rfl, by simp⟩
  | some ticketId =>
    obtain ⟨events, hexec, hrows⟩ :=
      exec_ticketEventCreate (adjuntoDescargadoEvent a ticketId user) (hun 0)
    refine ⟨_, call_alone (hf 0) hexec, by simp, fun id hid => ?_⟩
    cases hid
    exact ⟨_, hrows, rfl, rfl, rfl, rfl⟩

theorem getDownload_missing (hf : ∀ n, (os n).fault = none)
    (hnone : w.attachments.lookup Attachment.id id = none) :
    (getDownload id user).alone Cmd.exec os w = (.error (.http attachmentNotFound), w) := by
  have hexec : Stmt.exec (os 0) (.attachmentFindUnique id) w = (.ok none, w) := by
    rw [Stmt.exec, hnone]
  exact (call_alone (hf 0) hexec).trans rfl

theorem getDownload_foreign (hf : ∀ n, (os n).fault = none) (hrole : user.role = .reportante)
    (filed : w.Filed) (ha : w.attachments.lookup Attachment.id id = some a)
    (hforeign : a.uploaderId ≠ user.id) :
    (getDownload id user).alone Cmd.exec os w = (.error (.http attachmentNotFound), w) := by
  have hexec : Stmt.exec (os 0) (.attachmentFindUnique id) w = (.ok (some a), w) := by
    rw [Stmt.exec, ha]
  have hcheck := assertCanAccess_alone (fun n => os (n + 1)) (fun n => hf _) hrole filed
    (Table.lookup_mem ha)
  rw [if_neg hforeign] at hcheck
  exact (call_alone (hf 0) hexec).trans (Prog.alone_bind_of_error hcheck)

theorem getDownload_own (hf : ∀ n, (os n).fault = none) (hrole : user.role = .reportante)
    (hun : ∀ n, ∀ e ∈ w.events.rows, e.id ≠ (os n).uuid) (filed : w.Filed)
    (ha : w.attachments.lookup Attachment.id id = some a) (hown : a.uploaderId = user.id) :
    ∃ d w', (getDownload id user).alone Cmd.exec os w = (.ok d, w') ∧
      (a.ticketId = none → w' = w) ∧
      ∀ ticketId, a.ticketId = some ticketId → ∃ ev : TicketEvent,
        w'.events.rows = w.events.rows ++ [ev] ∧ ev.Downloads a ticketId user := by
  have hexec : Stmt.exec (os 0) (.attachmentFindUnique id) w = (.ok (some a), w) := by
    rw [Stmt.exec, ha]
  have hcheck := assertCanAccess_alone (fun n => os (n + 1)) (fun n => hf _) hrole filed
    (Table.lookup_mem ha)
  rw [if_pos hown] at hcheck
  obtain ⟨n, hchecked⟩ := Prog.alone_bind_of_ok hcheck (f := fun _ =>
    (call (.presignGet a.s3Key DOWNLOAD_TTL_SECONDS)).bind fun downloadUrl : String =>
      (recordDownload a user).bind fun _ =>
        .pure ({ downloadUrl := downloadUrl, expiresIn := DOWNLOAD_TTL_SECONDS } : Download))
  obtain ⟨w', hrecord, hquiet⟩ := recordDownload_alone a user
    (fun m => os (n + (m + 1) + 1)) (fun _ => hf _) (fun _ => hun _)
  obtain ⟨m, hrecorded⟩ := Prog.alone_bind_of_ok hrecord (f := fun _ =>
    .pure ({ downloadUrl := (os (n + 0 + 1)).url, expiresIn := DOWNLOAD_TTL_SECONDS } : Download))
  refine ⟨{ downloadUrl := (os (n + 0 + 1)).url, expiresIn := DOWNLOAD_TTL_SECONDS }, w',
    (call_alone (hf 0) hexec).trans (hchecked.trans ?_), hquiet⟩
  have hn := hf (n + 0 + 1)
  exact (call_alone hn rfl).trans hrecorded

theorem DownloadsOwn.of_refused (hout : (getDownload id user).alone Cmd.exec os w =
      (.error (.http attachmentNotFound), w))
    (hno : ∀ a ∈ w.attachments.rows, a.id = id → a.uploaderId ≠ user.id) :
    DownloadsOwn id user os w where
  granted := by
    constructor
    · rintro ⟨d, hd⟩
      rw [hout] at hd
      cases hd
    · rintro ⟨a, ha, hid, hown⟩
      exact absurd hown (hno a ha hid)
  refused _ := hout
  recorded d w' hd := by cases hout.symm.trans hd

end Alone

section Runs

variable {ok : Server → Action → Bool} {w : World} {s : Server}

/-- In every world a run reaches, a reportante downloads what he uploaded and nothing else. -/
theorem downloads_own (empty : w.attachments.rows = []) (h : Run ok { world := w } s) (id : Uuid)
    (user : User) (hrole : user.role = .reportante) (os : Nat → Oracle)
    (hf : ∀ n, (os n).fault = none) (hun : ∀ n, (os n).Unused s.world) :
    DownloadsOwn id user os s.world := by
  have filed := Run.filed empty h _ h.linked.end_mem
  have hevents := fun n => (hun n).2.1
  have hid : ∀ {a b : Attachment}, s.world.attachments.lookup Attachment.id id = some a →
      b ∈ s.world.attachments.rows → b.id = id → b = a := fun ha hb hb' =>
    Table.eq_of_clash hb (Table.lookup_mem ha) (.inl (hb'.trans (Table.lookup_key ha).symm))
  cases ha : s.world.attachments.lookup Attachment.id id with
  | none =>
    have hnone := Table.lookup_eq_none.mp ha
    exact .of_refused (getDownload_missing hf ha) fun a hmem hkey => absurd hkey (hnone a hmem)
  | some a =>
    by_cases hown : a.uploaderId = user.id
    · obtain ⟨d, w', hgranted, hquiet⟩ := getDownload_own hf hrole hevents filed ha hown
      refine ⟨⟨fun _ => ⟨a, Table.lookup_mem ha, Table.lookup_key ha, hown⟩, fun _ => ?_⟩,
        fun hno => ?_, fun d' w'' hd b hb hb' => ?_⟩
      · exact ⟨d, congrArg Prod.fst hgranted⟩
      · exact absurd ⟨d, congrArg Prod.fst hgranted⟩ hno
      · cases hgranted.symm.trans hd
        cases hid ha hb hb'
        exact hquiet
    · refine .of_refused (getDownload_foreign hf hrole filed ha hown) fun b hb hb' howner => ?_
      cases hid ha hb hb'
      exact hown howner

end Runs

open Sample in
theorem downloads_own_filed :
    DownloadsOwn 112 reportante (fun n => { uuid := 200 + n }) filedInTime.world := by
  have hrun : Run uploading { world := world } filedInTime := play_run (by decide +kernel)
  have htickets : ∀ t ∈ filedInTime.world.tickets.rows, t.id < 200 := by decide +kernel
  have hevents : ∀ e ∈ filedInTime.world.events.rows, e.id < 200 := by decide +kernel
  have husers : ∀ u ∈ filedInTime.world.users.rows, u.id < 200 := by decide +kernel
  refine downloads_own rfl hrun 112 reportante rfl _ (fun _ => rfl) fun n => ⟨?_, ?_, ?_⟩
  · exact fun t ht => ((htickets t ht).trans_le (Nat.le_add_right 200 n)).ne
  · exact fun e he => ((hevents e he).trans_le (Nat.le_add_right 200 n)).ne
  · exact fun u hu => ((husers u hu).trans_le (Nat.le_add_right 200 n)).ne

end TicketSystem
