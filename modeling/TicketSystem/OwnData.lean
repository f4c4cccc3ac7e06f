import TicketSystem.Effects
import TicketSystem.Server

namespace TicketSystem

open Relational Interleaved

/-- The ticket is one the user reported. -/
def World.Owns (w : World) (user : User) (ticketId : Uuid) : Bool :=
  w.tickets.rows.any fun t => t.id == ticketId && t.reporterId == user.id

def World.ownTickets (w : World) (user : User) : List Ticket :=
  w.tickets.rows.filter fun t => t.reporterId == user.id

def World.ownEvents (w : World) (user : User) : List TicketEvent :=
  w.events.rows.filter fun e => w.Owns user e.ticketId

def World.ownAttachments (w : World) (user : User) : List Attachment :=
  w.attachments.rows.filter fun a => a.ticketId.any (w.Owns user)

/-- The foreign keys of the schema. -/
structure World.Referential (w : World) : Prop where
  reporter : ∀ t ∈ w.tickets.rows, ∃ u ∈ w.users.rows, u.id = t.reporterId
  assignee : ∀ t ∈ w.tickets.rows, ∀ id, t.assigneeId = some id → ∃ u ∈ w.users.rows, u.id = id
  event : ∀ e ∈ w.events.rows, ∃ t ∈ w.tickets.rows, t.id = e.ticketId
  actor : ∀ e ∈ w.events.rows, ∃ u ∈ w.users.rows, u.id = e.actorId
  uploader : ∀ a ∈ w.attachments.rows, ∃ u ∈ w.users.rows, u.id = a.uploaderId
  attachment : ∀ a ∈ w.attachments.rows, ∀ id, a.ticketId = some id →
    ∃ t ∈ w.tickets.rows, t.id = id

/-- The two databases agree on the users and on what belongs to the user's tickets. Attachments
of one `createdAt` come in the order they are stored in, so they agree in that too. -/
structure AgreeFor (user : User) (w w' : World) : Prop where
  users : w'.users = w.users
  ilike : w'.ilike = w.ilike
  tickets : (w'.ownTickets user).Perm (w.ownTickets user)
  events : (w'.ownEvents user).Perm (w.ownEvents user)
  attachments : w'.ownAttachments user = w.ownAttachments user

inductive OwnRead where
  | list (query : ListTicketsQuery)
  | getForUser (id : Uuid)
  | events (id : Uuid) (query : ListEventsQuery)

def OwnRead.request (user : User) : OwnRead → Request
  | .list query => .list query user
  | .getForUser id => .getForUser id user
  | .events id query => .events id query user

def OwnRead.outcome (x : OwnRead) (user : User) (os : Nat → Oracle) (w : World) :
    Except Err Response :=
  ((serve (x.request user)).alone Cmd.exec os w).1

/-- The read has one outcome in all databases that agree with this one on the user's data. -/
def OwnRead.Sealed (user : User) (os : Nat → Oracle) (w : World) (x : OwnRead) : Prop :=
  ∀ w', w'.Referential → AgreeFor user w w' → x.outcome user os w' = x.outcome user os w

/-- The read has no cursor that the database looks for, or its cursor names something of
the user's, or there is at most one row to page through; or the user is the only one. -/
def OwnRead.Secluded (user : User) (w : World) : OwnRead → Prop
  | .list query => (∀ v ∈ w.users.rows, v.id = user.id) ∨
    ∀ f c, listWhere query user = .ok f → f.q.all storable = true →
      cursorArg query.cursor = .ok (some c) →
        (∃ t ∈ w.ownTickets user, t.id = c) ∨ w.tickets.rows.countP (f.matches w.ilike) < 2
  | .getForUser _ => True
  | .events id query => (∀ v ∈ w.users.rows, v.id = user.id) ∨
    ∀ c, cursorArg query.cursor = .ok (some c) → w.Owns user id = true →
      (∃ e ∈ w.ownEvents user, e.id = c) ∨ w.events.rows.countP (·.ticketId == id) < 2

theorem queueLe_iff {a b : Ticket} : a.queueLe b = true ↔
    a.priority.rank < b.priority.rank ∨ (a.priority.rank = b.priority.rank ∧
      (@LT.lt Int _ a.createdAt b.createdAt ∨
        (@Eq Int a.createdAt b.createdAt ∧ @LE.le Nat _ a.id b.id))) := by
  simp [Ticket.queueLe]

theorem historyLe_iff {a b : TicketEvent} : a.historyLe b = true ↔
    @LT.lt Int _ a.createdAt b.createdAt ∨
      (@Eq Int a.createdAt b.createdAt ∧ @LE.le Nat _ a.id b.id) := by
  simp [TicketEvent.historyLe]

theorem queueLe_sorts : Sorts Ticket.queueLe where
  trans a b c hab hbc := by
    rw [queueLe_iff] at *
    omega
  total a b := by
    rw [Bool.or_eq_true, queueLe_iff, queueLe_iff]
    omega

theorem historyLe_sorts : Sorts TicketEvent.historyLe where
  trans a b c hab hbc := by
    rw [historyLe_iff] at *
    omega
  total a b := by
    rw [Bool.or_eq_true, historyLe_iff, historyLe_iff]
    omega

theorem queueLe_id {a b : Ticket} (hab : a.queueLe b = true) (hba : b.queueLe a = true) :
    a.id = b.id := by
  rw [queueLe_iff] at hab hba
  have hid : @Eq Nat a.id b.id := by omega
  exact hid

theorem historyLe_id {a b : TicketEvent} (hab : a.historyLe b = true)
    (hba : b.historyLe a = true) : a.id = b.id := by
  rw [historyLe_iff] at hab hba
  have hid : @Eq Nat a.id b.id := by omega
  exact hid

theorem World.owns_iff {w : World} {user : User} {id : Uuid} :
    w.Owns user id = true ↔ ∃ t ∈ w.ownTickets user, t.id = id := by
  simp only [World.Owns, World.ownTickets, List.any_eq_true, List.mem_filter, Bool.and_eq_true,
    beq_iff_eq]
  constructor
  · rintro ⟨t, ht, hid, hown⟩
    exact ⟨t, ⟨ht, hown⟩, hid⟩
  · rintro ⟨t, ⟨ht, hown⟩, hid⟩
    exact ⟨t, ht, hid, hown⟩

theorem World.mem_ownTickets {w : World} {user : User} {t : Ticket} :
    t ∈ w.ownTickets user ↔ t ∈ w.tickets.rows ∧ t.reporterId = user.id := by
  simp [World.ownTickets]

theorem World.mem_ownEvents {w : World} {user : User} {e : TicketEvent} :
    e ∈ w.ownEvents user ↔ e ∈ w.events.rows ∧ w.Owns user e.ticketId = true := by
  simp [World.ownEvents]

/-- The page of the queue a list answers. -/
def World.queuePage (w : World) (f : TicketListWhere) (cursor : Option Uuid) (limit : Nat) :
    List Ticket :=
  findMany Ticket.queueLe (f.matches w.ilike) (cursor.map fun id t => t.id == id)
    (cursorSkip cursor) limit w.tickets.rows

def World.historyPage (w : World) (ticketId : Uuid) (cursor : Option Uuid) (limit : Nat) :
    List TicketEvent :=
  findMany TicketEvent.historyLe (fun e => e.ticketId == ticketId)
    (cursor.map fun id e => e.id == id) (cursorSkip cursor) limit w.events.rows

def World.attachedTo (w : World) (id : Uuid) : List Attachment :=
  (w.attachments.rows.filter fun a => a.ticketId == some id && a.status == .attached).mergeSort
    fun a b => a.createdAt ≤ b.createdAt

def World.detail (w : World) (t : Ticket) (now : Time) : TicketWithAttachments where
  ticket := t
  attachments := (w.attachedTo t.id).map fun a => { id := a.id, filename := a.originalFilename }
  slaStatus := (computeSlaFields t.slaDueAt now).slaStatus
  slaOffByDays := (computeSlaFields t.slaDueAt now).slaOffByDays

section Alone

variable {user : User} {os : Nat → Oracle} {w : World} {id : Uuid}

theorem exec_findPage {o : Oracle} {f : TicketListWhere} (hq : f.q.all storable = true)
    (cursor : Option Uuid) (limit : Nat) :
    Stmt.exec o (.ticketFindPage f cursor (cursorSkip cursor) limit) w =
      (.ok (w.queuePage f cursor limit), w) := by
  simp only [Stmt.exec, hq, if_true]
  rfl

/-- A page that was answered is the one of the table. -/
theorem findPage_answered {o : Oracle} {f : TicketListWhere} {cursor : Option Uuid} {limit : Nat}
    {items : List Ticket} {w' : World} (h : Stmt.exec o
      (.ticketFindPage f cursor (cursorSkip cursor) limit) w = (.ok items, w')) :
    w.queuePage f cursor limit = items := by
  by_cases hq : f.q.all storable = true
  · rw [exec_findPage hq] at h
    exact Except.ok.inj (congrArg Prod.fst h)
  · simp only [Stmt.exec, hq, Bool.false_eq_true, if_false] at h
    cases (Prod.mk.inj h).1

theorem list_alone (hf : ∀ n, (os n).fault = none) (query : ListTicketsQuery) :
    ((list query user).alone Cmd.exec os w).1 =
      (do
        let f ← listWhere query user
        let cursor ← cursorArg query.cursor
        if f.q.all storable then
          .ok (toPage Ticket.id (query.limit.getD DEFAULT_LIMIT)
            (w.queuePage f cursor (query.limit.getD DEFAULT_LIMIT)))
        else .error .prismaUnknownRequest) := by
  unfold list
  cases hwhere : listWhere query user with
  | error e => rfl
  | ok f =>
    cases hcursor : cursorArg query.cursor with
    | error e => rfl
    | ok cursor =>
      simp only [bind, Except.bind]
      by_cases hq : f.q.all storable = true
      · rw [if_pos hq]
        exact congrArg Prod.fst (call_alone (hf 0) (exec_findPage hq cursor _))
      · rw [if_neg hq]
        have hexec : Stmt.exec (os 0) (.ticketFindPage f cursor (cursorSkip cursor)
            (query.limit.getD DEFAULT_LIMIT)) w = (.error .prismaUnknownRequest, w) := by
          simp only [Stmt.exec, hq, Bool.false_eq_true, if_false]
        exact congrArg Prod.fst (Prog.alone_bind_of_error
          (Prog.alone_perform ((Cmd.exec_one_of_ok (hf 0) _ w).trans hexec)))

theorem exec_findWithAttachments {o : Oracle} {t : Ticket} (ht : w.ticket? id = some t) :
    Stmt.exec o (.ticketFindUniqueWithAttachments id) w = (.ok (some (t, w.attachedTo id)), w) := by
  simp only [Stmt.exec, ht, Option.map_some]
  rfl

theorem getForUser_foreign (hf : ∀ n, (os n).fault = none) (hrole : user.role = .reportante)
    (hforeign : ¬ w.Owns user id = true) :
    (getForUser id user).alone Cmd.exec os w = (.error (.http ticketNotFound), w) := by
  cases ht : w.ticket? id with
  | none =>
    have hexec : Stmt.exec (os 0) (.ticketFindUniqueWithAttachments id) w = (.ok none, w) := by
      simp only [Stmt.exec, ht, Option.map_none]
    exact (call_alone (hf 0) hexec).trans rfl
  | some t =>
    have howner : t.reporterId ≠ user.id := fun h => hforeign (World.owns_iff.mpr
      ⟨t, World.mem_ownTickets.mpr ⟨World.ticket?_mem ht, h⟩, World.ticket?_id ht⟩)
    refine (call_alone (hf 0) (exec_findWithAttachments ht)).trans ?_
    simp only [requireOwnTicket, hrole, howner, ne_eq, not_false_eq_true, and_self, if_true]
    rfl

theorem getForUser_visible (hf : ∀ n, (os n).fault = none) {t : Ticket}
    (ht : w.ticket? id = some t) (hvisible : requireOwnTicket t user = .ok ()) :
    (getForUser id user).alone Cmd.exec os w = (.ok (w.detail t (os 1).now), w) := by
  refine (call_alone (hf 0) (exec_findWithAttachments ht)).trans ?_
  simp only [hvisible]
  refine (call_alone (hf 1) rfl).trans ?_
  rw [World.detail, World.ticket?_id ht]
  rfl

theorem requireOwnTicket_own {t : Ticket} (hown : t.reporterId = user.id) :
    requireOwnTicket t user = .ok () := by
  simp [requireOwnTicket, hown]

theorem events_foreign (hf : ∀ n, (os n).fault = none) (hrole : user.role = .reportante)
    (query : ListEventsQuery) (hforeign : ¬ w.Owns user id = true) :
    ((events id query user).alone Cmd.exec os w).1 = .error (.http ticketNotFound) :=
  congrArg Prod.fst (Prog.alone_bind_of_error (getForUser_foreign hf hrole hforeign))

theorem events_visible (hf : ∀ n, (os n).fault = none) (query : ListEventsQuery) {t : Ticket}
    (ht : w.ticket? id = some t) (hvisible : requireOwnTicket t user = .ok ()) :
    ((events id query user).alone Cmd.exec os w).1 =
      (do
        let cursor ← cursorArg query.cursor
        .ok (toPage (fun x => x.event.id) (query.limit.getD DEFAULT_LIMIT)
          ((w.historyPage id cursor (query.limit.getD DEFAULT_LIMIT)).map
            (TicketEvent.withActor w.users)))) := by
  obtain ⟨n, hn⟩ := Prog.alone_bind_of_ok (getForUser_visible hf ht hvisible) (f := fun _ =>
    (Service.ofExcept (cursorArg query.cursor)).bind fun cursor =>
      (call (.ticketEventFindPage id cursor (cursorSkip cursor)
        (query.limit.getD DEFAULT_LIMIT))).bind fun items : List EventWithActor =>
        .pure (toPage (fun x : EventWithActor => x.event.id) (query.limit.getD DEFAULT_LIMIT)
          items))
  refine (congrArg Prod.fst hn).trans ?_
  cases hcursor : cursorArg query.cursor with
  | error e => rfl
  | ok cursor =>
    have hn := hf (n + 0)
    exact congrArg Prod.fst (call_alone hn rfl)

end Alone

theorem filter_of_imp {ι : Type} {l : List ι} {p q : ι → Bool}
    (h : ∀ x ∈ l, p x = true → q x = true) : l.filter p = (l.filter q).filter p := by
  rw [List.filter_filter]
  refine List.filter_congr fun x hx => ?_
  cases hp : p x with
  | false => rfl
  | true => simp [h x hx hp]

theorem countP_of_imp {ι : Type} {l : List ι} {p q : ι → Bool}
    (h : ∀ x ∈ l, p x = true → q x = true) : l.countP p = (l.filter q).countP p := by
  rw [List.countP_eq_length_filter, filter_of_imp h, List.countP_eq_length_filter]

/-- Neither the implicit filter nor the text that is sought depends on the other arguments. -/
theorem listWhere_fields {query : ListTicketsQuery} {user : User} {f : TicketListWhere}
    (h : listWhere query user = .ok f) :
    f.reporterId = (if user.role = .reportante then some user.id else none) ∧
      f.q = truthy query.q := by
  unfold listWhere at h
  cases hfrom : dateArg query.createdFrom with
  | error e => rw [hfrom] at h; cases h
  | ok gte =>
    cases hto : dateArg query.createdTo with
    | error e => rw [hfrom, hto] at h; cases h
    | ok lte =>
      cases ha : listAssignee query.assigneeId user with
      | error e => rw [hfrom, hto, ha] at h; cases h
      | ok a =>
        rw [hfrom, hto, ha] at h
        cases h
        exact ⟨rfl, rfl⟩

theorem listWhere_reporter {query : ListTicketsQuery} {user : User} {f : TicketListWhere}
    (hrole : user.role = .reportante) (h : listWhere query user = .ok f) :
    f.reporterId = some user.id :=
  (listWhere_fields h).1.trans (if_pos hrole)

theorem matches_reporter {f : TicketListWhere} {user : User} {ilike : String → String → Bool}
    {t : Ticket} (hf : f.reporterId = some user.id) (hm : f.matches ilike t = true) :
    t.reporterId = user.id := by
  simp only [TicketListWhere.matches, hf, Option.all_some, Bool.and_eq_true, beq_iff_eq] at hm
  exact hm.1.1.1.1.1.1.1

/-- Databases with the same tickets of the user show him the same ones. -/
theorem World.own_ticket? {user : User} {w w' : World}
    (h : (w'.ownTickets user).Perm (w.ownTickets user)) {id : Uuid} {t : Ticket}
    (ht : w.ticket? id = some t) (hown : t.reporterId = user.id) : w'.ticket? id = some t := by
  have hmem : t ∈ w'.ownTickets user :=
    h.mem_iff.mpr (World.mem_ownTickets.mpr ⟨World.ticket?_mem ht, hown⟩)
  rw [← World.ticket?_id ht]
  exact World.ticket?_of_mem (World.mem_ownTickets.mp hmem).1

namespace AgreeFor

variable {user : User} {w w' : World}

theorem owns (h : AgreeFor user w w') (id : Uuid) : w'.Owns user id = w.Owns user id := by
  rw [Bool.eq_iff_iff, World.owns_iff, World.owns_iff]
  simp only [h.tickets.mem_iff]

theorem ticket? (h : AgreeFor user w w') {id : Uuid} {t : Ticket} (ht : w.ticket? id = some t)
    (hown : t.reporterId = user.id) : w'.ticket? id = some t :=
  World.own_ticket? h.tickets ht hown

theorem attachedTo (h : AgreeFor user w w') {id : Uuid} (hown : w.Owns user id = true) :
    w'.attachedTo id = w.attachedTo id := by
  have hfilter : ∀ v : World, v.Owns user id = true →
      v.attachments.rows.filter (fun a => a.ticketId == some id && a.status == .attached) =
        (v.ownAttachments user).filter fun a => a.ticketId == some id && a.status == .attached := by
    intro v hv
    refine filter_of_imp fun a _ ha => ?_
    simp only [Bool.and_eq_true, beq_iff_eq] at ha
    simp [ha.1, hv]
  rw [World.attachedTo, World.attachedTo, hfilter w hown, hfilter w' ((h.owns id).trans hown),
    h.attachments]

/-- Whatever only the user's tickets match gives the same rows in both databases. -/
theorem filter_tickets (h : AgreeFor user w w') {p : Ticket → Bool}
    (hp : ∀ t, p t = true → t.reporterId = user.id) :
    (w'.tickets.rows.filter p).Perm (w.tickets.rows.filter p) := by
  have hown : ∀ v : World, v.tickets.rows.filter p = (v.ownTickets user).filter p :=
    fun v => filter_of_imp fun t _ ht => by simp [hp t ht]
  rw [hown w, hown w']
  exact h.tickets.filter p

theorem filter_events (h : AgreeFor user w w') {id : Uuid} (hown : w.Owns user id = true) :
    (w'.events.rows.filter fun e => e.ticketId == id).Perm
      (w.events.rows.filter fun e => e.ticketId == id) := by
  have hfilter : ∀ v : World, v.Owns user id = true →
      v.events.rows.filter (fun e => e.ticketId == id) =
        (v.ownEvents user).filter fun e => e.ticketId == id := by
    intro v hv
    refine filter_of_imp fun e _ he => ?_
    rw [beq_iff_eq.mp he]
    exact hv
  rw [hfilter w hown, hfilter w' ((h.owns id).trans hown)]
  exact h.events.filter _

theorem queuePage (h : AgreeFor user w w') {f : TicketListWhere}
    (hf : f.reporterId = some user.id) {cursor : Option Uuid}
    (hc : ∀ c, cursor = some c → w'.ticket? c = w.ticket? c) (limit : Nat) :
    w'.queuePage f cursor limit = w.queuePage f cursor limit := by
  have hmatches : ∀ t, f.matches w.ilike t = true → t.reporterId = user.id :=
    fun _ => matches_reporter hf
  rw [World.queuePage, World.queuePage, h.ilike]
  refine findMany_congr queueLe_sorts (h.filter_tickets hmatches) (fun a ha b hb hab hba => ?_)
    (fun names hnames => ?_) _ _
  · exact Table.eq_of_clash (List.mem_of_mem_filter ha) (List.mem_of_mem_filter hb)
      (Ticket.clash_of_id (queueLe_id hab hba))
  · obtain ⟨c, hcursor, rfl⟩ := Option.map_eq_some_iff.mp hnames
    exact hc c hcursor

theorem historyPage (h : AgreeFor user w w') {id : Uuid} (hown : w.Owns user id = true)
    {cursor : Option Uuid} (hc : ∀ c, cursor = some c →
      w'.events.lookup TicketEvent.id c = w.events.lookup TicketEvent.id c) (limit : Nat) :
    w'.historyPage id cursor limit = w.historyPage id cursor limit := by
  refine findMany_congr historyLe_sorts (h.filter_events hown) (fun a ha b hb hab hba => ?_)
    (fun names hnames => ?_) _ _
  · exact Table.eq_of_clash (List.mem_of_mem_filter ha) (List.mem_of_mem_filter hb)
      (historyLe_id hab hba)
  · obtain ⟨c, hcursor, rfl⟩ := Option.map_eq_some_iff.mp hnames
    exact hc c hcursor

theorem event_lookup (h : AgreeFor user w w') {e : TicketEvent} (he : e ∈ w.ownEvents user) :
    w'.events.lookup TicketEvent.id e.id = w.events.lookup TicketEvent.id e.id := by
  have he' := World.mem_ownEvents.mp (h.events.mem_iff.mpr he)
  have hclash : ∀ a b : TicketEvent, a.id = b.id → TicketEvent.clash a b := fun _ _ hid => hid
  exact (Table.lookup_of_mem hclash he'.1).trans
    (Table.lookup_of_mem hclash (World.mem_ownEvents.mp he).1).symm

theorem ticket_lookup (h : AgreeFor user w w') {t : Ticket} (ht : t ∈ w.ownTickets user) :
    w'.ticket? t.id = w.ticket? t.id := by
  obtain ⟨hmem, hown⟩ := World.mem_ownTickets.mp ht
  rw [World.ticket?_of_mem hmem, h.ticket? (World.ticket?_of_mem hmem) hown]

end AgreeFor

/-! ### Secluded reads -/

section Secluded

variable {user : User} {os : Nat → Oracle} {w w' : World}

/-- Without another user there is nothing foreign to find. -/
theorem own_of_only (hw : w.Referential) (only : ∀ v ∈ w.users.rows, v.id = user.id) {t : Ticket}
    (ht : t ∈ w.tickets.rows) : t ∈ w.ownTickets user := by
  obtain ⟨v, hv, hid⟩ := hw.reporter t ht
  exact World.mem_ownTickets.mpr ⟨ht, hid.symm.trans (only v hv)⟩

theorem event_of_only (hw : w.Referential) (only : ∀ v ∈ w.users.rows, v.id = user.id)
    {e : TicketEvent} (he : e ∈ w.events.rows) : e ∈ w.ownEvents user := by
  obtain ⟨t, ht, hid⟩ := hw.event e he
  exact World.mem_ownEvents.mpr ⟨he, World.owns_iff.mpr ⟨t, own_of_only hw only ht, hid⟩⟩

theorem ticket?_none {c : Uuid} (hno : ¬ ∃ t ∈ w.ownTickets user, t.id = c)
    (hall : ∀ t ∈ w.tickets.rows, t ∈ w.ownTickets user) : w.ticket? c = none :=
  Table.lookup_eq_none.mpr fun t ht hid => hno ⟨t, hall t ht, hid⟩

theorem event_none {c : Uuid} (hno : ¬ ∃ e ∈ w.ownEvents user, e.id = c)
    (hall : ∀ e ∈ w.events.rows, e ∈ w.ownEvents user) :
    w.events.lookup TicketEvent.id c = none :=
  Table.lookup_eq_none.mpr fun e he hid => hno ⟨e, hall e he, hid⟩

theorem queuePage_secluded (hw : w.Referential) (hw' : w'.Referential) (h : AgreeFor user w w')
    {f : TicketListWhere} (hf : f.reporterId = some user.id) {cursor : Option Uuid}
    (hx : (∀ v ∈ w.users.rows, v.id = user.id) ∨ ∀ c, cursor = some c →
      (∃ t ∈ w.ownTickets user, t.id = c) ∨ w.tickets.rows.countP (f.matches w.ilike) < 2)
    (limit : Nat) : w'.queuePage f cursor limit = w.queuePage f cursor limit := by
  cases cursor with
  | none => exact h.queuePage hf (by simp) limit
  | some c =>
    by_cases hown : ∃ t ∈ w.ownTickets user, t.id = c
    · obtain ⟨t, ht, rfl⟩ := hown
      exact h.queuePage hf (fun _ hc => Option.some.inj hc ▸ h.ticket_lookup ht) limit
    rcases hx with only | hx
    · refine h.queuePage hf (fun c' hc => ?_) limit
      cases hc
      have hown' : ¬ ∃ t ∈ w'.ownTickets user, t.id = c := by
        simpa only [h.tickets.mem_iff] using hown
      rw [ticket?_none hown fun t => own_of_only hw only,
        ticket?_none hown' fun t => own_of_only hw' (h.users ▸ only)]
    · have hshort := (hx c rfl).resolve_left hown
      have hcount : w'.tickets.rows.countP (f.matches w'.ilike) =
          w.tickets.rows.countP (f.matches w.ilike) := by
        rw [h.ilike, List.countP_eq_length_filter, List.countP_eq_length_filter]
        exact (h.filter_tickets fun t => matches_reporter hf).length_eq
      exact (findMany_short (hcount.trans_lt hshort) limit).trans (findMany_short hshort limit).symm

theorem historyPage_secluded (hw : w.Referential) (hw' : w'.Referential)
    (h : AgreeFor user w w') {id : Uuid} (hid : w.Owns user id = true) {cursor : Option Uuid}
    (hx : (∀ v ∈ w.users.rows, v.id = user.id) ∨ ∀ c, cursor = some c →
      (∃ e ∈ w.ownEvents user, e.id = c) ∨ w.events.rows.countP (·.ticketId == id) < 2)
    (limit : Nat) : w'.historyPage id cursor limit = w.historyPage id cursor limit := by
  cases cursor with
  | none => exact h.historyPage hid (by simp) limit
  | some c =>
    by_cases hown : ∃ e ∈ w.ownEvents user, e.id = c
    · obtain ⟨e, he, rfl⟩ := hown
      exact h.historyPage hid (fun _ hc => Option.some.inj hc ▸ h.event_lookup he) limit
    rcases hx with only | hx
    · refine h.historyPage hid (fun c' hc => ?_) limit
      cases hc
      have hown' : ¬ ∃ e ∈ w'.ownEvents user, e.id = c := by
        simpa only [h.events.mem_iff] using hown
      rw [event_none hown fun e => event_of_only hw only,
        event_none hown' fun e => event_of_only hw' (h.users ▸ only)]
    · have hshort := (hx c rfl).resolve_left hown
      have hcount : w'.events.rows.countP (fun e => e.ticketId == id) =
          w.events.rows.countP (fun e => e.ticketId == id) := by
        rw [List.countP_eq_length_filter, List.countP_eq_length_filter]
        exact (h.filter_events hid).length_eq
      exact (findMany_short (hcount.trans_lt hshort) limit).trans (findMany_short hshort limit).symm

theorem list_secluded (hrole : user.role = .reportante) (hf : ∀ n, (os n).fault = none)
    (hw : w.Referential) (hw' : w'.Referential) (h : AgreeFor user w w')
    {query : ListTicketsQuery} (hx : (OwnRead.list query).Secluded user w) :
    ((list query user).alone Cmd.exec os w').1 = ((list query user).alone Cmd.exec os w).1 := by
  rw [list_alone hf, list_alone hf]
  cases hwhere : listWhere query user with
  | error e => rfl
  | ok f =>
    cases hcursor : cursorArg query.cursor with
    | error e => rfl
    | ok cursor =>
      by_cases hq : f.q.all storable = true
      · have hpage := queuePage_secluded hw hw' h (listWhere_reporter hrole hwhere)
          (hx.imp_right fun hx c hc => hx f c hwhere hq (hc ▸ hcursor))
          (query.limit.getD DEFAULT_LIMIT)
        simp only [bind, Except.bind, hpage]
      · simp only [bind, Except.bind, hq, Bool.false_eq_true, if_false]

theorem getForUser_secluded (hrole : user.role = .reportante) (hf : ∀ n, (os n).fault = none)
    (h : AgreeFor user w w') (id : Uuid) :
    ((getForUser id user).alone Cmd.exec os w').1 =
      ((getForUser id user).alone Cmd.exec os w).1 := by
  by_cases hid : w.Owns user id = true
  · obtain ⟨t, ht, rfl⟩ := World.owns_iff.mp hid
    obtain ⟨hmem, hown⟩ := World.mem_ownTickets.mp ht
    have hread := World.ticket?_of_mem hmem
    have hvisible := requireOwnTicket_own hown
    rw [getForUser_visible hf hread hvisible,
      getForUser_visible hf (h.ticket? hread hown) hvisible]
    simp only [World.detail, h.attachedTo hid]
  · rw [getForUser_foreign hf hrole hid, getForUser_foreign hf hrole (h.owns id ▸ hid)]

theorem events_secluded (hrole : user.role = .reportante) (hf : ∀ n, (os n).fault = none)
    (hw : w.Referential) (hw' : w'.Referential) (h : AgreeFor user w w') {id : Uuid}
    {query : ListEventsQuery} (hx : (OwnRead.events id query).Secluded user w) :
    ((events id query user).alone Cmd.exec os w').1 =
      ((events id query user).alone Cmd.exec os w).1 := by
  by_cases hid : w.Owns user id = true
  · obtain ⟨t, ht, rfl⟩ := World.owns_iff.mp hid
    obtain ⟨hmem, hown⟩ := World.mem_ownTickets.mp ht
    have hread := World.ticket?_of_mem hmem
    have hvisible := requireOwnTicket_own hown
    rw [events_visible hf query hread hvisible,
      events_visible hf query (h.ticket? hread hown) hvisible]
    cases hcursor : cursorArg query.cursor with
    | error e => rfl
    | ok cursor =>
      have hpage := historyPage_secluded hw hw' h hid
        (hx.imp_right fun hx c hc => hx c (hc ▸ hcursor) hid) (query.limit.getD DEFAULT_LIMIT)
      simp only [bind, Except.bind, h.users, hpage]
  · rw [events_foreign hf hrole query hid, events_foreign hf hrole query (h.owns id ▸ hid)]

/-- An outcome is what the service answers. -/
theorem outcome_list (query : ListTicketsQuery) :
    (OwnRead.list query).outcome user os w =
      ((list query user).alone Cmd.exec os w).1.map .page :=
  congrArg Prod.fst (respond_alone ..)

theorem outcome_events (id : Uuid) (query : ListEventsQuery) :
    (OwnRead.events id query).outcome user os w =
      ((events id query user).alone Cmd.exec os w).1.map .eventPage :=
  congrArg Prod.fst (respond_alone ..)

theorem outcome_getForUser (id : Uuid) :
    (OwnRead.getForUser id).outcome user os w =
      ((getForUser id user).alone Cmd.exec os w).1.map .detail :=
  congrArg Prod.fst (respond_alone ..)

/-- A secluded read has the same outcome in every database that agrees on the user's data. -/
theorem OwnRead.Secluded.sealed (hrole : user.role = .reportante)
    (hf : ∀ n, (os n).fault = none) (hw : w.Referential) {x : OwnRead}
    (hx : x.Secluded user w) : x.Sealed user os w := by
  intro w' hw' h
  cases x with
  | list query => rw [outcome_list, outcome_list, list_secluded hrole hf hw hw' h hx]
  | getForUser id =>
    rw [outcome_getForUser, outcome_getForUser, getForUser_secluded hrole hf h id]
  | events id query =>
    rw [outcome_events, outcome_events, events_secluded hrole hf hw hw' h hx]

end Secluded

end TicketSystem
