import TicketSystem.Evolution
import TicketSystem.Outbound

namespace TicketSystem

open Relational Interleaved

def World.user? (w : World) (id : Uuid) : Option User := w.users.lookup User.id id

/-- The entry is the upsert of a login that gives the user with this email the role of his
groups. -/
def Server.Syncs (s : Server) (e : Executed) (email : String) (role : Role) : Prop :=
  ∃ t groups, s.threads[e.tid]? = some t ∧
    t.request = .exchangeCode (.claims (some email) groups) ∧ mapGroupsToRole groups = role ∧
    e.obs.cmd = .one (.userUpsert email role (some role))

/-- The entry is the look an assign of this ticket takes at its assignee, who is no reportante. -/
def Server.ChecksAssignee (s : Server) (e : Executed) (id a : Uuid) : Prop :=
  ∃ t dto actor u, s.threads[e.tid]? = some t ∧ t.request = .assign id dto actor ∧
    dto.assigneeId = a ∧ e.obs = ⟨.one (.userFindUnique a), .ok (some u)⟩ ∧
    e.before.user? a = some u ∧ u.role ≠ .reportante

/-- Every assignee is a user with a role that may be assigned. -/
def Server.AssigneesStaff (s : Server) : Prop :=
  ∀ id t a, s.world.ticket? id = some t → t.assigneeId = some a →
    ∃ u, s.world.user? a = some u ∧ (u.role = .agente ∨ u.role = .administrador)

/-- Every assignee is a user who was no reportante when the assign looked at him, and is one now
only if a login made him one after that. -/
def Server.AssigneesChecked (s : Server) : Prop :=
  ∀ id t a, s.world.ticket? id = some t → t.assigneeId = some a →
    ∃ u, s.world.user? a = some u ∧ ∃ h₁ e h₂, s.history = h₁ ++ e :: h₂ ∧
      s.ChecksAssignee e id a ∧ (u.role = .reportante → ∃ x ∈ h₂, s.Syncs x u.email .reportante)

theorem World.Silent.user? {w w' : World} (h : w.Silent w') {id : Uuid} {u : User}
    (hu : w.user? id = some u) : w'.user? id = some u :=
  Table.lookup_prefix h.users hu

/-- An upsert that sets a role keeps everybody else, and everything else about him. -/
theorem exec_sync {o : Oracle} (email : String) (role : Role) {w : World} {id : Uuid} {u : User}
    (hu : w.user? id = some u) :
    (Cmd.exec o (.one (.userUpsert email role (some role))) w).2.user? id = some u ∨
      (u.email = email ∧
        (Cmd.exec o (.one (.userUpsert email role (some role))) w).2.user? id =
          some { u with role := role }) := by
  rcases Cmd.exec_one o (.userUpsert email role (some role)) w with he | he
  · rw [he]
    exact .inl hu
  · rw [he]
    simp only [Stmt.exec]
    split
    next =>
      have hlookup : (w.users.updateMany (fun v => v.email == email)
          (roleRewrite role)).lookup User.id id =
            (w.user? id).map ((roleRewrite role).at fun v => v.email == email) :=
        Table.lookup_updateMany w.users _ _ (fun _ => rfl) id
      have hafter := hlookup.trans (congrArg (Option.map _) hu)
      by_cases heq : u.email = email
      · refine .inr ⟨heq, hafter.trans ?_⟩
        simp [Table.Rewrite.at, heq, roleRewrite]
      · refine .inl (hafter.trans ?_)
        simp [Table.Rewrite.at, heq]
    next =>
      split
      next hi => exact .inl (Table.lookup_prefix (Table.insert?_rows hi ▸ List.prefix_append _ _) hu)
      next => exact .inl hu

/-- A user stays, and only a login with his email changes his role. -/
theorem Says.user_kept {q : Request} {past : List Seen} {c : Cmd} (h : Says q past c) {o : Oracle}
    {w : World} {id : Uuid} {u : User} (hu : w.user? id = some u) :
    ∃ role, (c.exec o w).2.user? id = some { u with role := role } ∧ (role = u.role ∨
      ∃ groups, q = .exchangeCode (.claims (some u.email) groups) ∧
        mapGroupsToRole groups = role ∧ c = .one (.userUpsert u.email role (some role))) := by
  have said : ∀ s : Stmt, (s.exec o w).2.users = w.users →
      (Cmd.exec o (.one s) w).2.user? id = some u := by
    intro s hs
    rcases Cmd.exec_one o s w with he | he
    · rw [he]
      exact hu
    · rw [he, World.user?, hs]
      exact hu
  cases h with
  | plain plain => exact ⟨u.role, (Cmd.exec_silent plain).user? hu, .inl rfl⟩
  | @sync email groups =>
    rcases exec_sync (o := o) email (mapGroupsToRole groups) hu with he | ⟨rfl, he⟩
    · exact ⟨u.role, he, .inl rfl⟩
    · exact ⟨_, he, .inr ⟨groups, rfl, rfl, rfl⟩⟩
  | publish => exact ⟨u.role, said _ rfl, .inl rfl⟩
  | notify => exact ⟨u.role, said _ rfl, .inl rfl⟩
  | mail => exact ⟨u.role, said _ rfl, .inl rfl⟩

section Runs

variable {ok : Server → Action → Bool} {w : World} {s : Server}

theorem Run.user_kept (h : Run ok { world := w } s) {h₁ h₂ : List Executed} {e : Executed}
    (he : s.history = h₁ ++ e :: h₂) {id : Uuid} {u : User} (hu : e.before.user? id = some u) :
    ∃ role, e.after.user? id = some { u with role := role } ∧
      (role = u.role ∨ s.Syncs e u.email role) := by
  obtain ⟨t, ht, hsays, o, hx⟩ := h.issued serve_outbound he
  obtain ⟨role, hafter, hrole⟩ := Says.user_kept hsays (o := o) hu
  rw [hx] at hafter
  refine ⟨role, hafter, hrole.imp_right fun ⟨groups, hq, hgroups, hcmd⟩ => ?_⟩
  exact ⟨t, groups, ht, hq, hgroups, hcmd⟩

/-- Over a part of a run a user keeps his role, or a login of that part gave him the role he has. -/
theorem Run.user_tracked (h : Run ok { world := w } s) {h₁ h₂ h₃ : List Executed} {v v' : World}
    (he : s.history = h₁ ++ h₂ ++ h₃) (hl : Linked v h₂ v') {id : Uuid} {u : User}
    (hu : v.user? id = some u) :
    ∃ role, v'.user? id = some { u with role := role } ∧
      (role = u.role ∨ ∃ x ∈ h₂, s.Syncs x u.email role) := by
  refine hl.invariant (I := fun m v => ∃ role, v.user? id = some { u with role := role } ∧
    (role = u.role ∨ ∃ x ∈ m, s.Syncs x u.email role)) ⟨u.role, hu, .inl rfl⟩ ?_
  rintro a e b rfl ⟨role, hbefore, hrole⟩
  have hsplit : s.history = (h₁ ++ a) ++ e :: (b ++ h₃) := by simpa using he
  obtain ⟨role', hafter, hrole'⟩ := Run.user_kept h hsplit hbefore
  refine ⟨role', hafter, ?_⟩
  rcases hrole' with rfl | hsync
  · exact hrole.imp_right fun ⟨x, hx, hs⟩ => ⟨x, List.mem_append_left _ hx, hs⟩
  · exact .inr ⟨e, List.mem_append_right _ (List.mem_singleton_self e), hsync⟩

theorem Run.user_read (h : Run ok { world := w } s) {h₁ h₂ : List Executed} {e : Executed}
    (he : s.history = h₁ ++ e :: h₂) {id : Uuid} {u : User}
    (hobs : e.obs = ⟨.one (.userFindUnique id), .ok (some u)⟩) :
    e.before.user? id = some u ∧ e.after = e.before := by
  obtain ⟨o, hx⟩ := Run.executed h he hobs
  simp only [Stmt.exec, Prod.mk.injEq, Except.ok.injEq] at hx
  exact ⟨hx.1, hx.2.symm⟩

/-- The updates but that of an assign leave the assignee. -/
theorem Intent.assignee {q : Request} {past : List Seen} {g : TicketWhere} {d : TicketUpdate}
    {ev : TicketEventCreate} (h : Intent q past g d ev) {t : Ticket} {a : Uuid}
    (ha : (d.apply t).assigneeId = some a) :
    t.assigneeId = some a ∨ ∃ dto actor, q = .assign ev.ticketId dto actor ∧
      dto.assigneeId = a ∧ CheckedStaff a past := by
  cases h with
  | assign _ _ staff =>
    cases Option.some.inj ha
    exact .inr ⟨_, _, rfl, rfl, staff⟩
  | changeState => exact .inl ((stateUpdate_kept _ _ t).1 ▸ ha)
  | escalateOne => exact .inl ha
  | sweep => exact .inl ha

/-- Whoever a ticket is assigned to was looked at by an assign of that ticket. -/
theorem Run.assignee_checked (fresh : w.Fresh) (h : Run ok { world := w } s) :
    ∀ id t a, s.world.ticket? id = some t → t.assigneeId = some a →
      ∃ e ∈ s.history, s.ChecksAssignee e id a := by
  refine h.linked.invariant (I := fun m v => ∀ id t a, v.ticket? id = some t →
    t.assigneeId = some a → ∃ e ∈ m, s.ChecksAssignee e id a) (fun id t a ht => ?_) ?_
  · cases (fresh.ticket? id).symm.trans ht
  intro h₁ e h₂ he hi id t a ht ha
  obtain ⟨thread, hthread, heff⟩ := h.effect he
  have held : ∀ t', e.before.ticket? id = some t' → t'.assigneeId = some a →
      ∃ x ∈ h₁ ++ [e], s.ChecksAssignee x id a := by
    intro t' ht' ha'
    obtain ⟨x, hx, hchecks⟩ := hi id t' a ht' ha'
    exact ⟨x, List.mem_append_left _ hx, hchecks⟩
  cases heff.row id with
  | same kept => exact held t (kept.symm.trans ht) ha
  | inserted _ _ _ _ after =>
    cases after.symm.trans ht
    cases ha
  | updated intent _ target before _ after =>
    cases after.symm.trans ht
    rcases intent.assignee ha with ha | ⟨dto, actor, hq, hdto, u, hmem, hrole⟩
    · exact held _ before ha
    · obtain ⟨x, hx, htid, hobs⟩ := mem_own.mp hmem
      obtain ⟨b, c, rfl⟩ := List.append_of_mem hx
      have hsplit : s.history = b ++ x :: (c ++ e :: h₂) := by simpa using he
      exact ⟨x, List.mem_append_left _ hx, thread, dto, actor, u, htid ▸ hthread,
        target ▸ hq, hdto, hobs, (Run.user_read h hsplit hobs).1, hrole⟩

/-- Every assignee was staff when he was chosen, and only a login took that away from him. -/
theorem assignees_checked (fresh : w.Fresh) (h : Run ok { world := w } s) :
    s.AssigneesChecked := by
  intro id t a ht ha
  obtain ⟨e, he, hchecks⟩ := Run.assignee_checked fresh h id t a ht ha
  obtain ⟨h₁, h₂, hh⟩ := List.append_of_mem he
  have hlooked := hchecks
  obtain ⟨_, _, _, u, _, _, _, hobs, hu, hrole⟩ := hlooked
  have hl : Linked w (h₁ ++ e :: h₂) s.world := hh ▸ h.linked
  have hafter := (Run.user_read h hh hobs).2
  have hsplit : s.history = (h₁ ++ [e]) ++ h₂ ++ [] := by simpa using hh
  obtain ⟨role, hnow, hsync⟩ := Run.user_tracked h hsplit hl.at.2 (hafter ▸ hu)
  refine ⟨_, hnow, h₁, e, h₂, hh, hchecks, fun hrep => ?_⟩
  rcases hsync with rfl | hsync
  · exact absurd hrep hrole
  · cases hrep
    exact hsync

end Runs

/-- Logins, new users and the operations that assign a ticket, with nothing failing. -/
def provisioning (s : Server) : Action → Bool
  | .arrive (.exchangeCode _) | .arrive (.createUser _) | .arrive (.create _ _ _)
  | .arrive (.assign _ _ _) | .arrive (.changeState _ _ _) => true
  | .run _ o => decide (o.Unused s.world) && o.fault.isNone
  | _ => false

namespace Sample

/-- The assignee of a ticket logs in after he left the group of the agents. -/
def demotion : List Action :=
  created ++ [.arrive (.assign 102 ⟨3, 0⟩ administrador)] ++ steps 1 10 7 ++
    [.arrive (.exchangeCode (.claims (some "beto@sample") none))] ++ steps 2 20 2

def demoted : Server := (play provisioning demotion).get (by decide)

end Sample

open Sample in
theorem assignees_checked_demoted : demoted.AssigneesChecked := by
  have hrun : Run provisioning { world := world } demoted := play_run (by decide)
  exact assignees_checked world_fresh hrun

open Sample in
theorem assignee_not_staff :
    ¬ ∀ s, Run provisioning { world := world } s → s.AssigneesStaff := by
  intro h
  have hrun : Run provisioning { world := world } demoted := play_run (by decide)
  obtain ⟨t, ht, ha⟩ := (Option.any_eq_true (·.assigneeId == some 3) (demoted.world.ticket? 102)).mp
    (by decide)
  obtain ⟨u, hu, hrole⟩ := (Option.any_eq_true (·.role == .reportante) (demoted.world.user? 3)).mp
    (by decide)
  obtain ⟨u', hu', hstaff⟩ := h _ hrun 102 t 3 ht (beq_iff_eq.mp ha)
  cases hu.symm.trans hu'
  rw [beq_iff_eq.mp hrole] at hstaff
  rcases hstaff with hs | hs <;> cases hs

end TicketSystem
