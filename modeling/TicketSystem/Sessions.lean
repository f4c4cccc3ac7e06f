import TicketSystem.Assignees
import TicketSystem.DetailSession
import TicketSystem.Permissions

namespace TicketSystem

open Relational Interleaved

/-- Every user of the one is in the other, but for his role. -/
def World.KeepsUsers (w w' : World) : Prop :=
  ∀ id u, w.user? id = some u → ∃ role, w'.user? id = some { u with role := role }

theorem World.KeepsUsers.refl (w : World) : w.KeepsUsers w := fun _ u hu => ⟨u.role, hu⟩

theorem World.KeepsUsers.trans {u v w : World} (h : u.KeepsUsers v) (h' : v.KeepsUsers w) :
    u.KeepsUsers w := by
  intro id x hx
  obtain ⟨role, hv⟩ := h id x hx
  obtain ⟨role', hw⟩ := h' id _ hv
  exact ⟨role', hw⟩

theorem World.Silent.keepsUsers {w w' : World} (h : w.Silent w') : w.KeepsUsers w' :=
  fun _ u hu => ⟨u.role, h.user? hu⟩

theorem Stmt.exec_keepsUsers (o : Oracle) (s : Stmt) (w : World) :
    w.KeepsUsers (s.exec o w).2 := by
  by_cases hout : s.outbound = false
  · exact (Stmt.exec_silent hout).keepsUsers
  · cases s with
    | enqueue => exact .refl w
    | sendEmail => exact .refl w
    | userUpsert email create update =>
      intro id u hu
      simp only [Stmt.exec]
      split
      next v _ =>
        have hlookup : (w.users.updateMany (fun v => v.email == email)
            (roleRewrite (update.getD v.role))).lookup User.id id =
              (w.user? id).map ((roleRewrite (update.getD v.role)).at fun v => v.email == email) :=
          Table.lookup_updateMany w.users _ _ (fun _ => rfl) id
        have hafter := hlookup.trans (congrArg (Option.map _) hu)
        by_cases heq : u.email = email
        · refine ⟨update.getD v.role, hafter.trans ?_⟩
          simp [Table.Rewrite.at, heq, roleRewrite]
        · refine ⟨u.role, hafter.trans ?_⟩
          simp [Table.Rewrite.at, heq]
      next =>
        split
        next hi =>
          exact ⟨u.role, Table.lookup_prefix (Table.insert?_rows hi ▸ List.prefix_append _ _) hu⟩
        next => exact ⟨u.role, hu⟩
    | _ => exact absurd rfl hout

theorem Tx.run_keepsUsers (o : Oracle) {α : Type} (p : Tx α) (f : Option Nat) (w : World) :
    w.KeepsUsers (p.run o f w).2 := by
  induction p generalizing f w with
  | pure a => cases f <;> exact .refl w
  | throw e => cases f <;> exact .refl w
  | stmt s k ih =>
    have hrun := fun f => (Stmt.exec_keepsUsers o s w).trans (ih (s.exec o w).1 f (s.exec o w).2)
    cases f with
    | none => exact hrun none
    | some n =>
      simp only [Tx.run]
      split
      next =>
        cases n with
        | zero => exact ih (.error .failed) none w
        | succ n => exact hrun (some n)
      next => exact hrun (some n)

theorem Cmd.exec_keepsUsers (o : Oracle) (c : Cmd) (w : World) :
    w.KeepsUsers (c.exec o w).2 := by
  cases c with
  | one s =>
    rcases Cmd.exec_one o s w with he | he
    · rw [he]
      exact .refl w
    · rw [he]
      exact Stmt.exec_keepsUsers o s w
  | transaction body =>
    have hrun := Tx.run_keepsUsers o body o.fault w
    rw [Cmd.exec]
    split
    next he =>
      rw [he] at hrun
      exact hrun
    next => exact .refl w

/-- No run loses a user. -/
theorem keepsUsers_of_reach {Q β : Type} {program : Q → Prog Cmd Cmd.Res Err β}
    {ok : Pool Cmd Cmd.Res Err β Q World → Move Q Oracle → Prop}
    {s s' : Pool Cmd Cmd.Res Err β Q World} (h : Reach program Cmd.exec ok s s') :
    s.world.KeepsUsers s'.world := by
  induction h with
  | start => exact .refl _
  | next _ _ hstep ih =>
    cases hstep with
    | arrive q => exact ih
    | run o thread => exact ih.trans (Cmd.exec_keepsUsers o _ _)
    | stop thread => exact ih

/-! ### The sessions that are given out -/

/-- The row was found by its email, or made sure of. -/
def Loaded (u : User) (past : List Seen) : Prop :=
  (∃ email, ⟨.one (.userFindByEmail email), .ok (some u)⟩ ∈ past) ∨
    ∃ email create update, ⟨.one (.userUpsert email create update), .ok u⟩ ∈ past

/-- The session is one of this user. -/
structure SessionResult.Of (r : SessionResult) (u : User) : Prop where
  token : ∃ now : Time, r.token = { sub := u.id, iat := now / 1000 }
  user : r.user = { id := u.id, email := u.email, role := u.role }

def sessions : Contract Cmd Cmd.Res Err Response Request where
  answers _ _ := True
  issues _ _ _ := True
  returns _ past r := ∀ v, r = .ok (.session v) → ∃ u, Loaded u past ∧ v.Of u

theorem Loaded.append {u : User} {past more : List Seen} (h : Loaded u past) :
    Loaded u (past ++ more) := by
  rcases h with ⟨email, h⟩ | ⟨email, create, update, h⟩
  · exact .inl ⟨email, List.mem_append_left _ h⟩
  · exact .inr ⟨email, create, update, List.mem_append_left _ h⟩

theorem buildSession_gives {u : User} {past : List Seen} (h : Loaded u past) :
    Turns past (buildSession u) fun past r => ∀ v, r = .ok v → ∃ u, Loaded u past ∧ v.Of u := by
  refine Prog.obeys_perform_bind.mpr ⟨trivial, fun now _ v hv => ?_, fun _ _ _ hv => nomatch hv⟩
  cases hv
  exact ⟨u, h.append, ⟨now, rfl⟩, rfl⟩

theorem login_gives (provider : AuthProvider) (email : String) :
    Turns [] (login provider email) fun past r => ∀ v, r = .ok v → ∃ u, Loaded u past ∧ v.Of u := by
  cases provider with
  | cognito => exact fun _ hv => nomatch hv
  | mock =>
    refine Prog.obeys_perform_bind.mpr ⟨trivial, fun found _ => ?_, fun _ _ _ hv => nomatch hv⟩
    cases found with
    | none => exact fun _ hv => nomatch hv
    | some u => exact buildSession_gives (.inl ⟨email, List.mem_singleton_self _⟩)

theorem exchangeCode_gives (exchange : CodeExchange) :
    Turns [] (exchangeCode exchange) fun past r =>
      ∀ v, r = .ok v → ∃ u, Loaded u past ∧ v.Of u := by
  cases exchange with
  | claims email groups =>
    simp only [exchangeCode]
    split
    next => exact fun _ hv => nomatch hv
    next email _ =>
      refine Prog.obeys_perform_bind.mpr ⟨trivial, fun u _ => ?_, fun _ _ _ hv => nomatch hv⟩
      exact buildSession_gives (.inr ⟨email, _, _, List.mem_singleton_self _⟩)
  | _ => exact fun _ hv => nomatch hv

theorem respond_gives {α : Type} {f : α → Response} {p : Service α}
    {S : List Seen → SessionResult → Prop} (hf : ∀ a v, f a ≠ .session v) :
    Turns [] (respond f p) fun past r => ∀ v, r = .ok (.session v) → S past v := by
  refine Prog.Obeys.bind (turns_any p) (fun past a _ v hv => ?_) fun _ _ _ _ hv => nomatch hv
  exact absurd (Except.ok.inj hv) (hf a v)

theorem respond_session {p : Service SessionResult} {S : List Seen → SessionResult → Prop}
    (h : Turns [] p fun past r => ∀ v, r = .ok v → S past v) :
    Turns [] (respond .session p) fun past r => ∀ v, r = .ok (.session v) → S past v := by
  refine Prog.Obeys.bind h (fun past a ha v hv => ?_) fun _ _ _ _ hv => nomatch hv
  cases hv
  exact ha _ rfl

theorem serve_sessions : sessions.Kept serve Cmd.exec where
  answers _ _ _ := trivial
  obeys q := by
    cases q with
    | login provider email => exact respond_session (login_gives provider email)
    | exchangeCode exchange => exact respond_session (exchangeCode_gives exchange)
    | _ => exact respond_gives fun _ _ => nofun

/-- A user that was loaded was a row. -/
theorem Stmt.exec_loaded {o : Oracle} {w w' : World} {u : User} {email : String} :
    ((Stmt.userFindByEmail email).exec o w = (.ok (some u), w') → w'.user? u.id = some u) ∧
      ∀ create update, (Stmt.userUpsert email create update).exec o w = (.ok u, w') →
        w'.user? u.id = some u := by
  have of_mem : ∀ {v : World}, u ∈ v.users.rows → v.user? u.id = some u := fun h =>
    Table.lookup_of_mem (fun _ _ h => .inl h) h
  constructor
  · intro h
    simp only [Stmt.exec, Prod.mk.injEq, Except.ok.injEq] at h
    obtain ⟨hfound, rfl⟩ := h
    exact of_mem (Table.lookup_mem hfound)
  · intro create update h
    simp only [Stmt.exec] at h
    split at h
    next v hv =>
      obtain ⟨hu, rfl⟩ := Prod.mk.inj h
      cases Except.ok.inj hu
      refine of_mem (List.mem_map.mpr ⟨v, Table.lookup_mem hv, ?_⟩)
      have hemail : v.email = email := Table.lookup_key hv
      simp [Table.Rewrite.at, hemail, roleRewrite]
    next =>
      split at h
      next hi =>
        obtain ⟨hu, rfl⟩ := Prod.mk.inj h
        cases Except.ok.inj hu
        exact of_mem (Table.insert?_rows hi ▸ List.mem_concat_self)
      next => cases (Prod.mk.inj h).1

/-- Whoever a session was given to is a user from then on. -/
theorem Run.session_user {ok : Server → Action → Bool} {w : World} {s : Server}
    (h : Run ok { world := w } s) {j : Nat} {t : Task} {v : SessionResult}
    (ht : s.threads[j]? = some t) (hr : t.result? = some (.ok (.session v))) :
    ∃ u role, s.world.user? u.id = some { u with role := role } ∧ v.Of u := by
  obtain ⟨u, hloaded, hof⟩ := h.returned serve_sessions ht hr v rfl
  obtain ⟨x, hx, hu⟩ : ∃ x ∈ s.history, x.after.user? u.id = some u := by
    rcases hloaded with ⟨email, hmem⟩ | ⟨email, create, update, hmem⟩
    · obtain ⟨x, hx, o, hexec⟩ := h.seen_executed hmem
      exact ⟨x, hx, Stmt.exec_loaded.1 hexec⟩
    · obtain ⟨x, hx, o, hexec⟩ := h.seen_executed hmem
      exact ⟨x, hx, Stmt.exec_loaded.2 create update hexec⟩
  obtain ⟨h₁, h₂, hh⟩ := List.append_of_mem hx
  have hl : Linked w (h₁ ++ x :: h₂) s.world := hh ▸ h.linked
  have hkeeps : x.after.KeepsUsers s.world := by
    refine hl.at.2.relates World.KeepsUsers.refl (fun _ _ _ => World.KeepsUsers.trans)
      fun y hy => ?_
    obtain ⟨a, b, rfl⟩ := List.append_of_mem hy
    obtain ⟨_, _, _, o, hexec⟩ := h.issued serve_sessions
      (show s.history = (h₁ ++ x :: a) ++ y :: b by simpa using hh)
    have hkeep := Cmd.exec_keepsUsers o y.obs.cmd y.before
    rw [hexec] at hkeep
    exact hkeep
  obtain ⟨role, hrow⟩ := hkeeps _ u hu
  exact ⟨u, role, hrow, hof⟩

/-- The first statement of a call that a guard stands before is the look-up of its subject. -/
def lookups : Contract Cmd Cmd.Res Err Reply ApiCall where
  answers _ _ := True
  issues call past c := past = [] → ∀ headers handler sub id, call = .http headers handler →
    handler.isPublic = false → headers.sub? = some sub → Uuid.parseStr? sub = some id →
      c = .one (.userFindUnique id)
  returns _ _ _ := True

theorem program_of_sub {auth : AuthConfig} {headers : AuthHeaders} {handler : Handler}
    {sub : String} {id : Uuid} (hguarded : handler.isPublic = false)
    (hsub : headers.sub? = some sub) (hid : Uuid.parseStr? sub = some id) :
    (api auth).program serve (.http headers handler) = (call (.userFindUnique id)).bind fun found =>
      (handler.afterLookup auth found).bind ((api auth).proceed serve (.http headers handler)) := by
  have hfront : (api auth).front (.http headers handler) =
      (call (.userFindUnique id)).bind (handler.afterLookup auth) := front_of_sub hguarded hsub hid
  rw [Gate.program, hfront, Prog.bind_assoc]

theorem api_lookups (auth : AuthConfig) : lookups.Kept ((api auth).program serve) Cmd.exec where
  answers _ _ _ := trivial
  obeys call := by
    by_cases hcall : ∃ headers handler sub id, call = .http headers handler ∧
        handler.isPublic = false ∧ headers.sub? = some sub ∧ Uuid.parseStr? sub = some id
    · obtain ⟨headers, handler, sub, id, rfl, hguarded, hsub, hid⟩ := hcall
      rw [program_of_sub hguarded hsub hid]
      refine Prog.obeys_perform_bind.mpr ⟨fun _ headers' handler' sub' id' hq _ hsub' hid' => ?_,
        fun found _ => ?_, fun _ _ => trivial⟩
      · cases hq
        cases hsub.symm.trans hsub'
        cases hid.symm.trans hid'
        rfl
      · refine ((Prog.obeys_any _ _).keeps (I := fun past => past ≠ []) (fun _ _ _ _ _ _ => by simp)
          (by simp)).mono (fun past _ h hnil => absurd hnil h.2) fun _ _ _ => trivial
    · refine (Prog.obeys_any _ _).mono (fun past c _ _ headers handler sub id hq hp hs hi => ?_)
        fun _ _ _ => trivial
      exact absurd ⟨headers, handler, sub, id, hq, hp, hs, hi⟩ hcall

/-- The answers that are given without a service are successes and tell no session, and `me` tells
its user. -/
theorem Handler.answers_of {auth : AuthConfig} {handler : Handler} {user : Option User}
    {reply : Reply} (h : handler.handle auth user = .ok (.answers reply)) :
    (∀ v, reply.body ≠ .served v) ∧ (handler = .me → ∃ u, user = some u ∧
      reply = { status := 200, body := .me { id := u.id, email := u.email, role := u.role } }) ∧
        reply.status = 200 := by
  cases handler with
  | liveness =>
    cases h
    refine ⟨fun _ hbody => ?_, fun hme => ?_, rfl⟩
    · cases hbody
    · cases hme
  | config =>
    cases h
    refine ⟨fun _ hbody => ?_, fun hme => ?_, rfl⟩
    · cases hbody
    · cases hme
  | me =>
    obtain ⟨u, hu, h⟩ := currentUser_bind.mp h
    cases h
    refine ⟨fun _ hbody => ?_, fun _ => ⟨u, hu, rfl⟩, rfl⟩
    cases hbody
  | enqueue body => cases h
  | login | exchange | exportCsv =>
    obtain ⟨_, _, h⟩ := validated_bind.mp h
    cases h
  | create | list | createUpload =>
    simp only [Handler.handle, validated_bind, currentUser_bind] at h
    obtain ⟨_, _, _, _, h⟩ := h
    cases h
  | getOne | download =>
    simp only [Handler.handle, parseUuid_bind, currentUser_bind] at h
    obtain ⟨_, _, _, _, h⟩ := h
    cases h
  | events | assign | changeState | addComment =>
    simp only [Handler.handle, parseUuid_bind, validated_bind, currentUser_bind] at h
    obtain ⟨_, _, _, _, _, _, h⟩ := h
    cases h

theorem SessionResult.Of.sub? {r : SessionResult} {u : User} (h : r.Of u) :
    (authorized r.token.text).sub? = some r.user.id.text := by
  obtain ⟨⟨now, htoken⟩, huser⟩ := h
  have htext : r.token.text = buildSessionToken u.id.text now := by
    rw [htoken]
    rfl
  rw [htext, huser, authorized_sub? (Uuid.text_ne_empty u.id)]

section Runs

variable {auth : AuthConfig} {ok : ApiServer → Move ApiCall Oracle → Prop} {w : World}
  {s s' : ApiServer}

/-- A session that was given out is one of a user. -/
theorem ApiRun.session_user (h : ApiRun auth ok { world := w } s) {i : Nat} {x : ApiThread}
    {reply : Reply} {r : SessionResult} (hx : s.threads[i]? = some x)
    (hr : x.result? = some (.ok reply)) (hsession : reply.body = .served (.session r)) :
    ∃ u role, s.world.user? u.id = some { u with role := role } ∧ r.Of u := by
  obtain ⟨t, seat, ht, hm⟩ := h.mirrored
  obtain ⟨past, _, hfront | ⟨j, y, v, _, hy, hv, hreply, _⟩⟩ := hm.answered hx hr
  · have hentered := hfront _ rfl
    generalize x.request = call at hentered
    cases hentered with
    | http _ handled => exact absurd hsession ((Handler.answers_of handled).1 _)
  · have hbody : (x.request.reply v).body = .served v := by
      cases hq : x.request <;> cases v <;> rfl
    rw [hreply] at hsession
    cases hbody.symm.trans hsession
    rw [← hm.world]
    exact ht.session_user hy hv

/-- A user of the start is one whenever a call that arrives later executes a statement. -/
theorem ApiRun.user_then (h : ApiRun auth ok { world := w } s) (h' : ApiRun auth ok s s') {j : Nat}
    (hj : s.threads.length ≤ j) {o : Seen} (ho : (own j s'.history).head? = some o) :
    ∃ h₁ e h₂, s'.history = h₁ ++ e :: h₂ ∧ e.tid = j ∧ e.obs = o ∧ own j h₁ = [] ∧
      s.world.KeepsUsers e.before := by
  obtain ⟨h₁, e, h₂, hh, htid, hobs, hnone⟩ := own_head ho
  refine ⟨h₁, e, h₂, hh, htid, hobs, hnone, ?_⟩
  obtain ⟨later, hlater, _⟩ := h'.grows
  have hnew : e ∉ s.history := fun he => by
    have hlt := h.tid_lt (by simp) e he
    omega
  obtain ⟨g, hg⟩ : ∃ g, s'.history = s.history ++ g ++ e :: h₂ := by
    rcases List.append_eq_append_iff.mp (hh.symm.trans hlater) with ⟨a, ha, hrest⟩ | ⟨c, hc, hrest⟩
    · cases a with
      | nil => exact ⟨[], by rw [hh, ha]; simp⟩
      | cons y a =>
        cases hrest
        exact absurd (ha ▸ by simp) hnew
    · exact ⟨c, by rw [hh, hc]⟩
  obtain ⟨q, u, k, o', hmoment, _⟩ := h'.moment hg
  rw [← hmoment.before]
  exact keepsUsers_of_reach hmoment.reach

theorem ApiRun.finds (h : ApiRun auth ok { world := w } s) (h' : ApiRun auth ok s s') {u : User}
    {role : Role} {r : SessionResult} (hu : s.world.user? u.id = some { u with role := role })
    (hof : r.Of u) (hid : r.user.id < 16 ^ 32) {j : Nat} {y : ApiThread} {handler : Handler}
    (hj : s.threads.length ≤ j) (hy : s'.threads[j]? = some y)
    (hq : y.request = .http (authorized r.token.text) handler) (hguarded : handler.isPublic = false)
    {o : Seen} (ho : (own j s'.history).head? = some o) :
    o = ⟨.one (.userFindUnique r.user.id), .error .failed⟩ ∨ ∃ v : User,
      o = ⟨.one (.userFindUnique r.user.id), .ok (some v)⟩ ∧ v.id = r.user.id ∧
        v.email = r.user.email := by
  have hruser := hof.user
  obtain ⟨h₁, e, h₂, hh, rfl, rfl, hnone, hkeeps⟩ := h.user_then h' hj ho
  obtain ⟨y', hy', hissues, o, hexec⟩ := (h.trans h').issued (api_lookups auth) hh
  cases hy.symm.trans hy'
  have hcmd := hissues hnone _ _ _ _ hq hguarded hof.sub? (Uuid.parseStr?_text hid)
  obtain ⟨role', hrow⟩ := hkeeps _ _ hu
  obtain ⟨tid, ⟨cmd, answer⟩, before, after⟩ := e
  cases hcmd
  have hid' : u.id = r.user.id := by rw [hof.user]
  have hfound : before.users.lookup User.id r.user.id = some { u with role := role' } := hid' ▸ hrow
  rcases Cmd.exec_one o (.userFindUnique r.user.id) before with he | he
  · obtain ⟨rfl, _⟩ := Prod.mk.inj (he.symm.trans hexec)
    exact .inl rfl
  · obtain ⟨rfl, _⟩ := Prod.mk.inj (he.symm.trans hexec)
    refine .inr ⟨{ u with role := role' }, ?_, hid', ?_⟩
    · rw [hfound]
    · rw [hof.user]

/-- The user of a look-up by id. -/
def Seen.foundUser? : Seen → Option User
  | ⟨.one (.userFindUnique _), .ok found⟩ => found
  | _ => none

end Runs

namespace Sample

def doraLogin : LoginDto := ⟨"dora@sample", "secreta", by decide⟩

/-- A login of the user with id 5. -/
def loginMoves : List (Move ApiCall Oracle) :=
  .arrive (.http {} (.login (some doraLogin))) :: apiSteps 0 0 2

def loggedIn? : Option ApiServer :=
  Pool.replay ((api {}).program serve) Cmd.exec withoutJobs loginMoves { world := world }

theorem loggedIn_isSome : loggedIn?.isSome := by decide +kernel

def loggedIn : ApiServer := loggedIn?.get loggedIn_isSome

def doraSession : SessionResult where
  token := { sub := 5, iat := 0 }
  user := { id := 5, email := "dora@sample", role := .administrador }

/-- Who bears the token asks who he is. -/
def askMoves : List (Move ApiCall Oracle) :=
  .arrive (.http (authorized doraSession.token.text) .me) :: apiSteps 1 10 1

def asked? : Option ApiServer :=
  Pool.replay ((api {}).program serve) Cmd.exec withoutJobs askMoves loggedIn

theorem asked_isSome : asked?.isSome := by decide +kernel

def asked : ApiServer := asked?.get asked_isSome

end Sample

end TicketSystem
