import Mathlib.Data.Fintype.EquivFin
import TicketSystem.IdempotencyWindow
import TicketSystem.OwnData

namespace TicketSystem

open Relational Interleaved

/-- The uploads of the user, linked or not. -/
def World.uploads (w : World) (user : User) : List Attachment :=
  w.attachments.rows.filter fun a => a.uploaderId == user.id

/-- The two databases agree on the users, the rules, the sequence and all that is the user's. -/
structure AgreeForWrites (user : User) (w w' : World) : Prop where
  users : w'.users = w.users
  slaRules : w'.slaRules = w.slaRules
  seq : w'.ticketNumberSeq = w.ticketNumberSeq
  tickets : (w'.ownTickets user).Perm (w.ownTickets user)
  events : (w'.ownEvents user).Perm (w.ownEvents user)
  uploads : (w'.uploads user).Perm (w.uploads user)

/-- The ticket is one that another user reported. -/
def World.Foreign (w : World) (user : User) (id : Uuid) : Prop :=
  ∃ t ∈ w.tickets.rows, t.id = id ∧ t.reporterId ≠ user.id

/-- Some ticket has the number that the sequence gives next. -/
def World.NumberTaken (w : World) : Prop :=
  ∃ t ∈ w.tickets.rows, t.ticketNumber = ticketNumber (w.ticketNumberSeq + 1)

/-- What the user writes with the id comes to the same in both databases, whatever fails in
between: a comment, and a ticket with the id among its attachments. -/
structure WritesSilent (user : User) (id : Uuid) (w w' : World) : Prop where
  comment : ∀ message os, (∀ n, (os n).Unused w ∧ (os n).Unused w') →
    ((addComment id user message).alone Cmd.exec os w').1 =
        ((addComment id user message).alone Cmd.exec os w).1 ∧
      ∀ err, ((addComment id user message).alone Cmd.exec os w).1 = .error err →
        ((addComment id user message).alone Cmd.exec os w).2.events = w.events ∧
          ((addComment id user message).alone Cmd.exec os w').2.events = w'.events
  create : ∀ dto : CreateTicketDto, id ∈ dto.attachments.getD [] →
    ∀ os, (∀ n, (os n).Unused w ∧ (os n).Unused w') →
      ((create dto user none).alone Cmd.exec os w').1 =
          ((create dto user none).alone Cmd.exec os w).1 ∧
        (((create dto user none).alone Cmd.exec os w').2.uploads user).Perm
          (((create dto user none).alone Cmd.exec os w).2.uploads user)

section Comment

variable {user : User} {id : Uuid} {message : String} {os : Nat → Oracle} {w : World}

/-- A notification never fails what it is part of. -/
theorem notifyReporter_bind {α : Type} (t : Ticket) (type : TicketNotifyType)
    (subject body : String) (a : α) (os : Nat → Oracle) (w : World) :
    ∃ w', ((notifyReporter t type subject body).bind fun _ => .pure a).alone Cmd.exec os w =
      (.ok a, w') := by
  obtain ⟨v, hv⟩ := Prog.alone_swallow Cmd.exec _ os w
  obtain ⟨n, hn⟩ := Prog.alone_bind_of_ok (f := fun _ => .pure a) hv
  exact ⟨v, hn⟩

/-- What comes of a comment on the ticket that is read. -/
def commentOutcome (ticket : Option Ticket) (id : Uuid) (user : User) (message : String)
    (os : Nat → Oracle) : Except Err TicketEvent :=
  if (os 0).fault.isSome then .error .failed
  else
    match ticket with
    | none => .error (.http ticketNotFound)
    | some t =>
      if user.role = .reportante ∧ t.reporterId ≠ user.id then
        .error (.http (.forbidden "No puedes comentar un ticket que no es tuyo"))
      else if (os 1).fault.isSome then .error .failed
      else .ok ((comentarioEvent id user message).row (os 1))

theorem addComment_alone (id : Uuid) (user : User) (message : String)
    (hos : ∀ n, (os n).Unused w) : ∃ v,
    (addComment id user message).alone Cmd.exec os w =
        (commentOutcome (w.ticket? id) id user message os, v) ∧
      ∀ err, commentOutcome (w.ticket? id) id user message os = .error err →
        v.events = w.events := by
  unfold addComment commentOutcome
  by_cases hstruck : (os 0).fault.isSome = true
  · have hexec : Cmd.exec (os 0) (.one (.ticketFindUnique id)) w = (.error .failed, w) :=
      Cmd.exec_struck hstruck rfl w
    rw [if_pos hstruck]
    exact ⟨w, Prog.alone_bind_of_error (Prog.alone_perform hexec), fun _ _ => rfl⟩
  · rw [if_neg hstruck]
    have hfind := fun f : Option Ticket → Service TicketEvent =>
      call_alone (s := .ticketFindUnique id) (f := f) (by simpa using hstruck)
        (rfl : Stmt.exec (os 0) (.ticketFindUnique id) w = (.ok (w.ticket? id), w))
    simp only [Prog.bind_eq]
    rw [hfind]
    cases w.ticket? id with
    | none => exact ⟨w, rfl, fun _ _ => rfl⟩
    | some t =>
      dsimp only
      split
      next => exact ⟨w, rfl, fun _ _ => rfl⟩
      next =>
        by_cases hevent : (os 1).fault.isSome = true
        · have hexec : Cmd.exec (os 1)
              (.one (.ticketEventCreate (comentarioEvent id user message))) w =
                (.error .failed, w) := Cmd.exec_struck hevent rfl w
          rw [if_pos hevent]
          exact ⟨w, Prog.alone_bind_of_error (Prog.alone_perform hexec), fun _ _ => rfl⟩
        · rw [if_neg hevent]
          obtain ⟨events, hexec, _⟩ :=
            exec_ticketEventCreate (comentarioEvent id user message) (hos 1).2.1
          rw [call_alone (by simpa using hevent) hexec]
          obtain ⟨v, hv⟩ := notifyReporter_bind t _ _ _ _ _ _
          exact ⟨v, hv, fun _ h => by cases h⟩

end Comment

/-- The databases have the same sequence and the same uploads of the user. -/
structure Alongside (user : User) (w w' : World) : Prop where
  seq : w'.ticketNumberSeq = w.ticketNumberSeq
  uploads : (w'.uploads user).Perm (w.uploads user)

/-- Two executions that end alike. -/
structure Alike {α : Type} (user : User) (r r' : Except Err α × World) : Prop where
  answer : r'.1 = r.1
  worlds : Alongside user r.2 r'.2

section Transaction

variable {user : User} {o : Oracle} {w w' : World}

/-- The rule for one statement of a transaction, and what follows it. -/
theorem Tx.run_alike {α : Type} {s : Stmt} {k : s.Res → Tx α} (hw : Alongside user w w')
    (hexec : Alike user (s.exec o w) (s.exec o w'))
    (hnext : ∀ a v v', s.exec o w = (.ok a, v) → s.exec o w' = (.ok a, v') → Alongside user v v' →
      ∀ f, Alike user (Tx.run o (k a) f v) (Tx.run o (k a) f v')) (f : Option Nat) :
    Alike user (Tx.run o ((tx s).bind k) f w) (Tx.run o ((tx s).bind k) f w') := by
  obtain ⟨K, hK, hok, herror⟩ : ∃ K : Except Err s.Res → Tx α, (tx s).bind k = .stmt s K ∧
      (∀ a, K (.ok a) = k a) ∧ ∀ e, K (.error e) = .throw e :=
    ⟨_, rfl, fun _ => rfl, fun _ => rfl⟩
  have hrest : ∀ f, Alike user (Tx.run o (K (s.exec o w).1) f (s.exec o w).2)
      (Tx.run o (K (s.exec o w').1) f (s.exec o w').2) := by
    intro f
    rw [hexec.answer]
    cases ha : (s.exec o w).1 with
    | error e =>
      rw [herror]
      cases f <;> exact ⟨rfl, hexec.worlds⟩
    | ok a =>
      rw [hok]
      exact hnext a _ _ (Prod.ext ha rfl) (Prod.ext (hexec.answer.trans ha) rfl) hexec.worlds f
  rw [hK]
  cases f with
  | none => exact hrest none
  | some n =>
    simp only [Tx.run]
    split
    next =>
      cases n with
      | zero =>
        simp only [herror]
        exact ⟨rfl, hw⟩
      | succ n => exact hrest (some n)
    next => exact hrest (some n)

/-- Without a key, only the number of a new ticket can clash. -/
theorem insert?_newTicket (dto : CreateTicketDto) (user : User) (priority : Priority)
    (slaDueAt : Option Time) (hunused : o.Unused w) :
    w.tickets.insert? (insertedTicket dto user none priority slaDueAt o w) = none ↔
      w.NumberTaken := by
  rw [Table.insert?_eq_none]
  refine exists_congr fun t => and_congr_right fun ht => ?_
  have hid : t.id ≠ o.uuid := hunused.1 t ht
  constructor
  · rintro (h | h | ⟨hsome, hkey⟩)
    · exact absurd h hid
    · exact h
    · rw [hkey] at hsome
      cases hsome
  · exact fun h => .inr (.inl h)

theorem ticketCreate_alike {dto : CreateTicketDto} {priority : Priority} {slaDueAt : Option Time}
    (hw : Alongside user w w') (hunused : o.Unused w) (hunused' : o.Unused w')
    (hnumber : w.NumberTaken ↔ w'.NumberTaken) :
    Alike user (Stmt.exec o (.ticketCreate (newTicket dto user none priority slaDueAt)) w)
      (Stmt.exec o (.ticketCreate (newTicket dto user none priority slaDueAt)) w') := by
  have hrow : insertedTicket dto user none priority slaDueAt o w' =
      insertedTicket dto user none priority slaDueAt o w := by
    rw [insertedTicket, insertedTicket, hw.seq]
  have hafter : ∀ t t', Alongside user
      { w with tickets := t, ticketNumberSeq := w.ticketNumberSeq + 1 }
      { w' with tickets := t', ticketNumberSeq := w'.ticketNumberSeq + 1 } :=
    fun _ _ => ⟨congrArg (· + 1) hw.seq, hw.uploads⟩
  cases hi : w.tickets.insert? (insertedTicket dto user none priority slaDueAt o w) with
  | none =>
    have htaken := (insert?_newTicket dto user priority slaDueAt hunused).mp hi
    have hi' := (insert?_newTicket dto user priority slaDueAt hunused').mpr (hnumber.mp htaken)
    rw [exec_ticketCreate_refused hi, exec_ticketCreate_refused hi']
    exact ⟨rfl, hafter w.tickets w'.tickets⟩
  | some tickets =>
    cases hi' : w'.tickets.insert? (insertedTicket dto user none priority slaDueAt o w') with
    | none =>
      have htaken := (insert?_newTicket dto user priority slaDueAt hunused').mp hi'
      have hnone := (insert?_newTicket dto user priority slaDueAt hunused).mpr (hnumber.mpr htaken)
      cases hi.symm.trans hnone
    | some tickets' =>
      rw [exec_ticketCreate_stored hi, exec_ticketCreate_stored hi']
      exact ⟨congrArg Except.ok hrow, hafter tickets tickets'⟩

theorem ticketEventCreate_alike (d : TicketEventCreate) (hw : Alongside user w w')
    (hid : ∀ e ∈ w.events.rows, e.id ≠ o.uuid) (hid' : ∀ e ∈ w'.events.rows, e.id ≠ o.uuid) :
    Alike user (Stmt.exec o (.ticketEventCreate d) w) (Stmt.exec o (.ticketEventCreate d) w') := by
  obtain ⟨events, hexec, _⟩ := exec_ticketEventCreate d hid
  obtain ⟨events', hexec', _⟩ := exec_ticketEventCreate d hid'
  rw [hexec, hexec']
  exact ⟨rfl, hw.seq, hw.uploads⟩

/-- The rewrite of some uploads of the user is a rewrite among his uploads. -/
theorem uploads_updateMany {q : AttachmentWhere} {d : AttachmentUpdate} :
    World.uploads { w with attachments := w.attachments.updateMany q.matches d.rewrite } user =
      (w.uploads user).map (d.rewrite.at q.matches) := by
  have huploader : ∀ a, (d.rewrite.at q.matches a).uploaderId = a.uploaderId := by
    intro a
    unfold Table.Rewrite.at
    split <;> rfl
  simp only [World.uploads, Table.updateMany_rows, List.filter_map, Function.comp_def, huploader]

theorem attachmentUpdateMany_alike (ids : List Uuid) (d : AttachmentUpdate)
    (hw : Alongside user w w') :
    Alike user (Stmt.exec o (.attachmentUpdateMany (attachWhere ids user) d) w)
      (Stmt.exec o (.attachmentUpdateMany (attachWhere ids user) d) w') := by
  have hcount : ∀ v : World, v.attachments.count (attachWhere ids user).matches =
      (v.uploads user).countP (attachWhere ids user).matches := by
    refine fun v => countP_of_imp fun a _ ha => ?_
    simp only [AttachmentWhere.matches, attachWhere, Bool.and_eq_true] at ha
    exact ha.1.1.2
  constructor
  · have hsame : w'.attachments.count (attachWhere ids user).matches =
        w.attachments.count (attachWhere ids user).matches := by
      rw [hcount, hcount]
      exact hw.uploads.countP_eq _
    exact congrArg Except.ok hsame
  · refine ⟨hw.seq, ?_⟩
    simp only [Stmt.exec, uploads_updateMany]
    exact hw.uploads.map _

theorem linkAttachments_alike {dto : CreateTicketDto} {t : Ticket} (hw : Alongside user w w')
    (f : Option Nat) :
    Alike user (Tx.run o ((linkAttachments dto user t).bind fun _ => .pure t) f w)
      (Tx.run o ((linkAttachments dto user t).bind fun _ => .pure t) f w') := by
  have hcommit : ∀ v v' : World, Alongside user v v' → ∀ f,
      Alike user (Tx.run o (.pure t) f v) (Tx.run o (.pure t) f v') := by
    intro v v' hv f
    cases f <;> exact ⟨rfl, hv⟩
  unfold linkAttachments
  split
  next => exact hcommit w w' hw f
  next ids _ =>
    split
    next =>
      simp only [Prog.bind_eq, Prog.bind_assoc]
      refine Tx.run_alike (s := .now) hw ⟨rfl, hw⟩ (fun now v v' _ _ hv => ?_) f
      refine Tx.run_alike hv (attachmentUpdateMany_alike ids _ hv) fun _ u u' _ _ hu => ?_
      exact hcommit u u' hu
    next => exact hcommit w w' hw f

theorem createTransaction_alike (dto : CreateTicketDto) (priority : Priority)
    (slaDueAt : Option Time) (hw : Alongside user w w') (hunused : o.Unused w)
    (hunused' : o.Unused w') (hnumber : w.NumberTaken ↔ w'.NumberTaken) (f : Option Nat) :
    Alike user (Tx.run o (createTransaction dto user none priority slaDueAt) f w)
      (Tx.run o (createTransaction dto user none priority slaDueAt) f w') := by
  have hevents : ∀ (d : TicketCreate) (u v : World) (t : Ticket),
      Stmt.exec o (.ticketCreate d) u = (.ok t, v) → v.events = u.events := by
    intro d u v t h
    simp only [Stmt.exec] at h
    split at h
    next => cases h; rfl
    next => cases h
  refine Tx.run_alike hw (ticketCreate_alike hw hunused hunused' hnumber)
    (fun t v v' hv hv' halong => ?_) f
  have hid := hunused.2.1
  have hid' := hunused'.2.1
  rw [← hevents _ _ _ _ hv] at hid
  rw [← hevents _ _ _ _ hv'] at hid'
  refine Tx.run_alike halong (ticketEventCreate_alike _ halong hid hid') fun _ u u' _ _ hu => ?_
  exact linkAttachments_alike hu

theorem exec_create_alike (dto : CreateTicketDto) (priority : Priority) (slaDueAt : Option Time)
    (hw : Alongside user w w') (hunused : o.Unused w) (hunused' : o.Unused w')
    (hnumber : w.NumberTaken ↔ w'.NumberTaken) :
    Alike user (Cmd.exec o (.transaction (createTransaction dto user none priority slaDueAt)) w)
      (Cmd.exec o (.transaction (createTransaction dto user none priority slaDueAt)) w') := by
  have halike := createTransaction_alike dto priority slaDueAt
    hw hunused hunused' hnumber o.fault
  simp only [Cmd.exec]
  generalize Tx.run o (createTransaction dto user none priority slaDueAt) o.fault w = r
    at halike ⊢
  generalize Tx.run o (createTransaction dto user none priority slaDueAt) o.fault w' = r'
    at halike ⊢
  obtain ⟨a, v⟩ := r
  obtain ⟨a', v'⟩ := r'
  obtain ⟨ha, hv⟩ := halike
  cases ha
  cases a with
  | ok t => exact ⟨rfl, hv⟩
  | error e => exact ⟨rfl, hv.seq, hw.uploads⟩

end Transaction

section Create

variable {dto : CreateTicketDto} {user : User} {priority : Priority}

theorem create_keyless : create dto user none = insertTicket dto user none := rfl

/-- Without a key nothing is recovered from: the transaction decides. -/
theorem saveTicket_alone (slaDueAt : Option Time) (os : Nat → Oracle) (w : World) :
    (saveTicket dto user none priority slaDueAt).alone Cmd.exec os w =
      let r := Cmd.exec (os 0) (.transaction (createTransaction dto user none priority slaDueAt)) w
      (r.1.map fun t => { ticket := t, created := true }, r.2) := by
  simp only [saveTicket, Prog.perform, Prog.bind, Prog.tryCatch, Prog.alone]
  cases (Cmd.exec (os 0) (.transaction (createTransaction dto user none priority slaDueAt)) w).1 <;>
    rfl

end Create

/-! ### What the writes tell -/

theorem World.foreign_iff {w : World} {user : User} {id : Uuid} :
    w.Foreign user id ↔ ∃ t, w.ticket? id = some t ∧ t.reporterId ≠ user.id := by
  constructor
  · rintro ⟨t, ht, rfl, hother⟩
    exact ⟨t, World.ticket?_of_mem ht, hother⟩
  · rintro ⟨t, ht, hother⟩
    exact ⟨t, World.ticket?_mem ht, World.ticket?_id ht, hother⟩

theorem AgreeForWrites.symm {user : User} {w w' : World} (h : AgreeForWrites user w w') :
    AgreeForWrites user w' w where
  users := h.users.symm
  slaRules := h.slaRules.symm
  seq := h.seq.symm
  tickets := h.tickets.symm
  events := h.events.symm
  uploads := h.uploads.symm

theorem WritesSilent.symm {user : User} {id : Uuid} {w w' : World}
    (h : WritesSilent user id w w') : WritesSilent user id w' w where
  comment message os hos := by
    obtain ⟨hsame, hevents⟩ := h.comment message os fun n => (hos n).symm
    refine ⟨hsame.symm, fun err herr => ?_⟩
    exact (hevents err (hsame.symm.trans herr)).symm
  create dto hid os hos := by
    obtain ⟨hsame, huploads⟩ := h.create dto hid os fun n => (hos n).symm
    exact ⟨hsame.symm, huploads.symm⟩

section

variable {user : User} {id : Uuid} {w w' : World}

theorem AgreeForWrites.ticket? (h : AgreeForWrites user w w') {t : Ticket}
    (ht : w.ticket? id = some t) (hown : t.reporterId = user.id) : w'.ticket? id = some t :=
  World.own_ticket? h.tickets ht hown

theorem commentOutcome_agree (hrole : user.role = .reportante) (h : AgreeForWrites user w w')
    (hforeign : w.Foreign user id ↔ w'.Foreign user id) (message : String) (os : Nat → Oracle) :
    commentOutcome (w'.ticket? id) id user message os =
      commentOutcome (w.ticket? id) id user message os := by
  have hother : ∀ t : Ticket, t.reporterId ≠ user.id →
      commentOutcome (some t) id user message os = if (os 0).fault.isSome then .error .failed else
        .error (.http (.forbidden "No puedes comentar un ticket que no es tuyo")) := by
    intro t ht
    simp only [commentOutcome, if_pos (And.intro hrole ht)]
  rw [World.foreign_iff, World.foreign_iff] at hforeign
  cases ht : w.ticket? id with
  | some t =>
    by_cases hown : t.reporterId = user.id
    · rw [h.ticket? ht hown]
    · obtain ⟨t', ht', hown'⟩ := hforeign.mp ⟨t, ht, hown⟩
      rw [ht', hother t hown, hother t' hown']
  | none =>
    cases ht' : w'.ticket? id with
    | none => rfl
    | some t' =>
      by_cases hown' : t'.reporterId = user.id
      · cases ht.symm.trans (h.symm.ticket? ht' hown')
      · obtain ⟨t, ht'', _⟩ := hforeign.mpr ⟨t', ht', hown'⟩
        cases ht.symm.trans ht''

theorem create_alike (dto : CreateTicketDto) {os : Nat → Oracle} (h : AgreeForWrites user w w')
    (hos : ∀ n, (os n).Unused w ∧ (os n).Unused w') (hnumber : w.NumberTaken ↔ w'.NumberTaken) :
    Alike user ((create dto user none).alone Cmd.exec os w)
      ((create dto user none).alone Cmd.exec os w') := by
  obtain ⟨priority, n, slaDueAt, hrun⟩ := insertTicket_saves dto user none os w.slaRules
  have halong : Alongside user w w' := ⟨h.seq, h.uploads⟩
  rw [create_keyless, hrun w rfl, hrun w' h.slaRules]
  split
  next => exact ⟨rfl, halong⟩
  next =>
    have hexec := exec_create_alike dto priority slaDueAt halong (hos (n + 0)).1 (hos (n + 0)).2
      hnumber
    rw [saveTicket_alone, saveTicket_alone]
    exact ⟨congrArg (Except.map _) hexec.answer, hexec.worlds⟩

theorem exists_unused (w w' : World) :
    ∃ o : Oracle, o.fault = none ∧ o.Unused w ∧ o.Unused w' := by
  have hids : ∀ v : World, ∃ l : List Uuid, ∀ o : Oracle, o.uuid ∉ l → o.Unused v := by
    intro v
    refine ⟨v.tickets.rows.map Ticket.id ++ v.events.rows.map TicketEvent.id ++
      v.users.rows.map User.id, fun o ho => ?_⟩
    simp only [List.mem_append, List.mem_map, not_or, not_exists, not_and] at ho
    exact ⟨ho.1.1, ho.1.2, ho.2⟩
  obtain ⟨l, hl⟩ := hids w
  obtain ⟨l', hl'⟩ := hids w'
  obtain ⟨k, hk⟩ := Infinite.exists_notMem_finset (l ++ l').toFinset
  simp only [List.mem_toFinset, List.mem_append, not_or] at hk
  exact ⟨{ uuid := k }, rfl, hl _ hk.1, hl' _ hk.2⟩

/-- The two refusals tell whether a foreign ticket is there. -/
theorem WritesSilent.foreign (hrole : user.role = .reportante) (h : AgreeForWrites user w w')
    (hsilent : WritesSilent user id w w') (hforeign : w.Foreign user id) :
    w'.Foreign user id := by
  obtain ⟨o, hf, hw, hw'⟩ := exists_unused w w'
  obtain ⟨t, ht, hother⟩ := World.foreign_iff.mp hforeign
  obtain ⟨v, hv, _⟩ := addComment_alone id user "" fun _ => hw
  obtain ⟨v', hv', _⟩ := addComment_alone id user "" fun _ => hw'
  have hsame := (hsilent.comment "" (fun _ => o) fun _ => ⟨hw, hw'⟩).1
  rw [hv, hv', ht] at hsame
  cases ht' : w'.ticket? id with
  | none =>
    rw [ht'] at hsame
    simp [commentOutcome, hf, hrole, hother, ticketNotFound] at hsame
  | some t' =>
    refine World.foreign_iff.mpr ⟨t', ht', fun hown => hother ?_⟩
    cases ht.symm.trans (h.symm.ticket? ht' hown)
    exact hown

/-- With nothing failing from outside, a ticket is stored unless its number is taken. -/
theorem exec_create_isOk {o : Oracle} {dto : CreateTicketDto} {priority : Priority}
    {slaDueAt : Option Time} (hf : o.fault = none) (hunused : o.Unused w) :
    (Cmd.exec o (.transaction (createTransaction dto user none priority slaDueAt)) w).1.isOk =
      true ↔ ¬ w.NumberTaken := by
  have hnumber := insert?_newTicket dto user priority slaDueAt hunused
  rw [Table.insert?_eq_none] at hnumber
  rcases exec_create_undisturbed dto user none priority slaDueAt hf hunused with
    ⟨v, hexec, _, hnone⟩ | ⟨v, hexec, _, hclash⟩
  · have hfree : ¬ w.NumberTaken := by
      rw [← hnumber]
      rintro ⟨t, ht, hclash⟩
      exact hnone t ht hclash
    simp [hexec, hfree, Except.isOk, Except.toBool]
  · simp [hexec, hnumber.mp hclash, Except.isOk, Except.toBool]

/-- A body with the id among its attachments. -/
def naming (id : Uuid) : CreateTicketDto :=
  { Sample.body with
    attachments := some [id]
    attachmentsSize := by rintro _ ⟨⟩; simp }

theorem WritesSilent.numberTaken (h : AgreeForWrites user w w')
    (hsilent : WritesSilent user id w w') (hnumber : w.NumberTaken) : w'.NumberTaken := by
  obtain ⟨o, hf, hw, hw'⟩ := exists_unused w w'
  obtain ⟨priority, n, slaDueAt, hrun⟩ :=
    insertTicket_saves (naming id) user none (fun _ => o) w.slaRules
  have hsame := (hsilent.create (naming id) (List.mem_singleton_self id) (fun _ => o)
    fun _ => ⟨hw, hw'⟩).1
  have hstruck : ¬ o.fault.isSome = true := by simp [hf]
  have hok : ∀ r : Except Err Ticket, (r.map fun t : Ticket =>
      ({ ticket := t, created := true } : CreateResult)).isOk = r.isOk := by
    intro r
    cases r <;> rfl
  rw [create_keyless, hrun w rfl, hrun w' h.slaRules, if_neg hstruck, if_neg hstruck,
    saveTicket_alone, saveTicket_alone] at hsame
  have hisOk := congrArg Except.isOk hsame
  rw [hok, hok, Bool.eq_iff_iff, exec_create_isOk hf hw', exec_create_isOk hf hw] at hisOk
  exact not_not.mp fun hfree => hisOk.mp hfree hnumber

end

/-- The writes tell nothing exactly when the foreign ticket is in both databases or in neither,
and so is the next number. -/
theorem writes_silent_iff {user : User} {id : Uuid} {w w' : World}
    (hrole : user.role = .reportante) (h : AgreeForWrites user w w') :
    WritesSilent user id w w' ↔ (w.Foreign user id ↔ w'.Foreign user id) ∧
      (w.NumberTaken ↔ w'.NumberTaken) := by
  constructor
  · intro hsilent
    exact ⟨⟨hsilent.foreign hrole h, hsilent.symm.foreign hrole h.symm⟩,
      ⟨hsilent.numberTaken h, hsilent.symm.numberTaken h.symm⟩⟩
  · rintro ⟨hforeign, hnumber⟩
    constructor
    · intro message os hos
      have hsame := commentOutcome_agree hrole h hforeign message os
      obtain ⟨v, hv, hevents⟩ := addComment_alone id user message fun n => (hos n).1
      obtain ⟨v', hv', hevents'⟩ := addComment_alone id user message fun n => (hos n).2
      rw [hv, hv']
      exact ⟨hsame, fun err herr => ⟨hevents err herr, hevents' err (hsame.trans herr)⟩⟩
    · intro dto _ os hos
      have halike := create_alike dto h hos hnumber
      exact ⟨halike.answer, halike.worlds.uploads⟩

namespace Sample

/-- A ticket of the neighbour, with id 10. -/
def ticketOfVecina : Ticket where
  id := 10
  ticketNumber := ticketNumber 1
  type := .incidente
  title := "No arranca el servicio"
  description := "El servicio de pagos responde 500 desde las nueve"
  severity := 2
  impact := 2
  priority := .alta
  reporterId := vecina.id
  slaDueAt := none
  idempotencyKey := none
  createdAt := 0

def withoutVecina : World := { world with ticketNumberSeq := 1 }

def withVecina : World :=
  { withoutVecina with tickets := ⟨[ticketOfVecina], List.pairwise_singleton _ _⟩ }

theorem vecina_agree : AgreeForWrites reportante withoutVecina withVecina where
  users := rfl
  slaRules := rfl
  seq := rfl
  tickets := .nil
  events := .nil
  uploads := .nil

end Sample

open Sample in
/-- An id that is in neither database. -/
theorem writes_silent_unknown : WritesSilent reportante 11 withoutVecina withVecina := by
  refine (writes_silent_iff rfl vecina_agree).mpr ⟨?_, ?_⟩
  · simp [World.Foreign, withVecina, withoutVecina, world, Table.empty, ticketOfVecina]
  · have hne : ticketNumber 1 ≠ ticketNumber 2 := by decide +kernel
    simp [World.NumberTaken, withVecina, withoutVecina, world, Table.empty, ticketOfVecina, hne]

open Sample in
/-- A comment on a foreign ticket is answered with 403, on one that is not there with 404. -/
theorem comment_tells : ¬ ∀ (user : User) (id : Uuid) (w w' : World), user.role = .reportante →
    AgreeForWrites user w w' → WritesSilent user id w w' := by
  intro h
  have hsame := ((h reportante 10 withoutVecina withVecina rfl vecina_agree).comment "Hola"
    (fun _ => { uuid := 100 }) fun _ => by decide).1
  have hwithout : ((addComment 10 reportante "Hola").alone Cmd.exec (fun _ => { uuid := 100 })
      withoutVecina).1 = .error (.http ticketNotFound) := rfl
  have hwith : ((addComment 10 reportante "Hola").alone Cmd.exec (fun _ => { uuid := 100 })
      withVecina).1 =
        .error (.http (.forbidden "No puedes comentar un ticket que no es tuyo")) := rfl
  rw [hwithout, hwith, ticketNotFound] at hsame
  cases hsame

end TicketSystem
