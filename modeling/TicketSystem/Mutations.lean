import TicketSystem.Contract

namespace TicketSystem

open Relational Interleaved

theorem Intent.id {q : Request} {past : List Seen} {g : TicketWhere} {d : TicketUpdate}
    {ev : TicketEventCreate} (h : Intent q past g d ev) : g.id = some ev.ticketId := by
  cases h <;> rfl

/-- What one executed command did: nothing to the tickets, their events and the attachments,
or one of the five kinds of write. -/
inductive Effect (q : Request) (past : List Seen) (e : Executed) : Prop
  | quiet (calm : Seen.Calm e.obs) (kept : e.before.RolledBack e.after)
  | created {dto : CreateTicketDto} {user : User} {key : Option String} {priority : Priority}
      {slaDueAt : Option Time} {o : Oracle} (request : q = .create dto user key)
      (first : Unwritten past)
      (obs : Seen.created? e.obs =
        some (insertedTicket dto user key priority slaDueAt o e.before))
      (write : e.before.Created dto user o
        (insertedTicket dto user key priority slaDueAt o e.before) e.after)
  | updated {g : TicketWhere} {d : TicketUpdate} {ev : TicketEventCreate}
      (intent : Intent q past g d ev) (obs : Seen.update? e.obs = some (g, d))
      (write : e.before.Updated ev.ticketId g d e.after)
  | recorded {g : TicketWhere} {d : TicketUpdate} {ev : TicketEventCreate} {first : List Seen}
      {u : Seen} {o : Oracle} (intent : Intent q first g d ev) (due : past = first ++ [u])
      (committed : u.update? = some (g, d)) (obs : Seen.event? e.obs = some (ev.row o))
      (write : e.before.Recorded (ev.row o) e.after)
  | noted {d : TicketEventCreate} {o : Oracle} (notes : Notes q d) (first : Unwritten past)
      (obs : Seen.event? e.obs = some (d.row o)) (write : e.before.Recorded (d.row o) e.after)
  | uploaded {dto : CreateAttachmentDto} {user : User} {key : String} {now : Time} {o : Oracle}
      (request : q = .createUpload dto user) (first : Unwritten past) (calm : Seen.Calm e.obs)
      (write : e.before.Uploaded ((pendingAttachment dto user key now).row o) e.after)

theorem Effect.committed {q : Request} {past : List Seen} {e : Executed} {g : TicketWhere}
    {d : TicketUpdate} (h : Effect q past e) (hu : Seen.update? e.obs = some (g, d)) :
    ∃ ev, Intent q past g d ev ∧ e.before.Updated ev.ticketId g d e.after := by
  cases h with
  | quiet calm _ => cases hu.symm.trans calm.update
  | created _ _ obs _ => cases hu.symm.trans (Seen.update?_of_created obs)
  | updated intent obs write => cases obs.symm.trans hu; exact ⟨_, intent, write⟩
  | recorded _ _ _ obs _ => cases hu.symm.trans (Seen.update?_of_event obs)
  | noted _ _ obs _ => cases hu.symm.trans (Seen.update?_of_event obs)
  | uploaded _ _ calm _ => cases hu.symm.trans calm.update

theorem effect_of_issues {q : Request} {past : List Seen} {e : Executed} {o : Oracle}
    (hi : Issues q past e.obs.cmd)
    (hx : Cmd.exec o e.obs.cmd e.before = (e.obs.answer, e.after)) : Effect q past e := by
  obtain ⟨tid, ⟨cmd, answer⟩, before, after⟩ := e
  have hreads : cmd.reads = true → Effect q past ⟨tid, ⟨cmd, answer⟩, before, after⟩ := by
    intro reads
    have hsame := Cmd.exec_reads (o := o) (w := before) reads
    rw [hx] at hsame
    exact .quiet (Seen.calm_of_reads reads) hsame.rolledBack
  cases hi with
  | reads reads _ _ => exact hreads reads
  | readBack => exact hreads rfl
  | update intent =>
    rcases exec_updateMany intent.id before hx with ⟨hu, hs⟩ | ⟨hu, hw⟩
    · exact .quiet ⟨hu, rfl, rfl⟩ hs.rolledBack
    · exact .updated intent hu hw
  | event intent committed =>
    rcases exec_eventCreate before hx with ⟨err, rfl, hs⟩ | ⟨rfl, hw⟩
    · exact .quiet Seen.calm_of_error hs.rolledBack
    · exact .recorded intent rfl committed rfl hw
  | note notes calm =>
    rcases exec_eventCreate before hx with ⟨err, rfl, hs⟩ | ⟨rfl, hw⟩
    · exact .quiet Seen.calm_of_error hs.rolledBack
    · exact .noted notes calm rfl hw
  | upload calm =>
    rcases exec_attachmentCreate before hx with ⟨err, rfl, hs⟩ | ⟨rfl, hw⟩
    · exact .quiet Seen.calm_of_error hs.rolledBack
    · exact .uploaded rfl calm Seen.calm_of_upload hw
  | @register data _ _ =>
    have hsame := exec_userCreate o data before
    rw [hx] at hsame
    exact .quiet ⟨rfl, rfl, rfl⟩ hsame.rolledBack
  | create calm =>
    rcases exec_create before hx with ⟨err, rfl, hs⟩ | ⟨rfl, hw⟩
    · exact .quiet Seen.calm_of_error hs
    · exact .created rfl calm rfl hw

/-- Every executed command of a run did what its request may do. -/
theorem Run.effect {ok : Server → Action → Bool} {w : World} {s : Server}
    (h : Run ok { world := w } s) {h₁ h₂ : List Executed} {e : Executed}
    (he : s.history = h₁ ++ e :: h₂) :
    ∃ t, s.threads[e.tid]? = some t ∧ Effect t.request (own e.tid h₁) e := by
  obtain ⟨t, ht, hi, o, hx⟩ := h.issued serve_kept he
  exact ⟨t, ht, effect_of_issues hi hx⟩

/-- A statement that succeeded was executed. -/
theorem Run.executed {ok : Server → Action → Bool} {w : World} {s : Server}
    (h : Run ok { world := w } s) {h₁ h₂ : List Executed} {e : Executed}
    (he : s.history = h₁ ++ e :: h₂) {stmt : Stmt} {a : stmt.Res}
    (hobs : e.obs = ⟨.one stmt, .ok a⟩) : ∃ o, stmt.exec o e.before = (.ok a, e.after) := by
  obtain ⟨_, _, _, o, hx⟩ := h.issued serve_kept he
  obtain ⟨tid, obs, before, after⟩ := e
  cases hobs
  rcases Cmd.exec_one o stmt before with hc | hc
  · cases hc.symm.trans hx
  · exact ⟨o, hc.symm.trans hx⟩

end TicketSystem
