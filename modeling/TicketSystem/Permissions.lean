import TicketSystem.Controllers
import TicketSystem.History

namespace TicketSystem

open Relational Interleaved

/-- What the roles guard lets through. -/
def Handler.Allows (handler : Handler) (role : Role) : Prop :=
  ∀ required, handler.requiredRoles = some required → role ∈ required

/-- The guards let a call pass, after these statements, with this user. -/
inductive Passes (headers : AuthHeaders) (handler : Handler) : List Seen → Option User → Prop
  | anyone (isPublic : handler.isPublic = true) : Passes headers handler [] none
  | user {sub : String} {user : User} (guarded : handler.isPublic = false)
      (bears : headers.sub? = some sub) (named : Uuid.parseStr? sub = some user.id)
      (allowed : handler.Allows user.role) :
      Passes headers handler [⟨.one (.userFindUnique user.id), .ok (some user)⟩] (some user)

/-- A call comes in, after these statements of the guard. -/
inductive Entered (auth : AuthConfig) : ApiCall → List Seen → Entrance Reply Request → Prop
  | http {headers : AuthHeaders} {handler : Handler} {past : List Seen} {user : Option User}
      {entrance : Entrance Reply Request} (passes : Passes headers handler past user)
      (handled : handler.handle auth user = .ok entrance) :
      Entered auth (.http headers handler) past entrance
  | job {work : Job} : Entered auth (.job work) [] (.enters work.request)

/-- A user that is found has the id that was asked for. -/
def Cmd.FindsById : (c : Cmd) → Except Err c.Res → Prop
  | .one (.userFindUnique id), .ok found =>
    let found : Option User := found
    ∀ user, found = some user → user.id = id
  | _, _ => True

def admission (auth : AuthConfig) : Contract Cmd Cmd.Res Err (Entrance Reply Request) ApiCall where
  answers := Cmd.FindsById
  issues call past c := ∃ headers handler sub id, call = .http headers handler ∧ past = [] ∧
    handler.isPublic = false ∧ headers.sub? = some sub ∧ Uuid.parseStr? sub = some id ∧
    c = .one (.userFindUnique id)
  returns call past r := ∀ entrance, r = .ok entrance → Entered auth call past entrance

theorem Cmd.exec_findsById (o : Oracle) (c : Cmd) (w : World) : c.FindsById (c.exec o w).1 := by
  cases c with
  | transaction => trivial
  | one s =>
    cases s with
    | userFindUnique id =>
      rcases Cmd.exec_one o (.userFindUnique id) w with he | he
      · rw [he]
        trivial
      · rw [he]
        exact fun user hfound => Table.lookup_key hfound
    | _ => trivial

theorem RolesGuard.canActivate_ok {handler : Handler} {user : User}
    (h : RolesGuard.canActivate handler.requiredRoles (some user) = .ok ()) :
    handler.Allows user.role := by
  intro required hrequired
  rw [hrequired] at h
  cases required with
  | nil => cases handler <;> cases hrequired
  | cons role roles =>
    simp only [RolesGuard.canActivate] at h
    split at h
    next hany => simpa using hany
    next => cases h

/-- What follows the look-up of the guard. -/
def Handler.afterLookup (auth : AuthConfig) (handler : Handler) (found : Option User) :
    Service (Entrance Reply Request) :=
  match found with
  | none => throwHttp (.unauthorized "El sujeto del token no existe")
  | some user =>
    (Service.ofExcept (RolesGuard.canActivate handler.requiredRoles (some user))).bind fun _ =>
      Service.ofExcept (handler.handle auth (some user))

section Front

variable {auth : AuthConfig} {headers : AuthHeaders} {handler : Handler} {sub : String}

theorem front_without_sub (hguarded : handler.isPublic = false) (h : headers.sub? = none) :
    ∃ message, ApiCall.front auth (.http headers handler) = throwHttp (.unauthorized message) := by
  obtain ⟨message, hcode⟩ := canActivate_without_sub h
  refine ⟨message, ?_⟩
  simp only [ApiCall.front, hguarded, hcode]
  rfl

theorem front_unspelled (hguarded : handler.isPublic = false) (h : headers.sub? = some sub)
    (hid : Uuid.parseStr? sub = none) :
    ApiCall.front auth (.http headers handler) = .throw (.prisma .P2023) := by
  simp only [ApiCall.front, hguarded, canActivate_of_sub h, findById, uuidArg, hid]
  rfl

theorem front_of_sub {id : Uuid} (hguarded : handler.isPublic = false) (h : headers.sub? = some sub)
    (hid : Uuid.parseStr? sub = some id) :
    ApiCall.front auth (.http headers handler) =
      (call (.userFindUnique id)).bind (handler.afterLookup auth) := by
  have hfind : findById sub = call (.userFindUnique id) := by
    simp only [findById, uuidArg, hid]
    rfl
  simp only [ApiCall.front, hguarded, canActivate_of_sub h, hfind, Prog.bind_eq, Prog.bind_assoc]
  congr 1
  funext found
  cases found <;> rfl

end Front

theorem admission_kept (auth : AuthConfig) :
    (admission auth).Kept (api auth).front Cmd.exec where
  answers := Cmd.exec_findsById
  obeys call := by
    have handled : ∀ {call' : ApiCall} {past : List Seen} {r : Except Err (Entrance Reply Request)},
        (∀ entrance, r = .ok entrance → Entered auth call' past entrance) →
        (Service.ofExcept r).Obeys Cmd.FindsById ((admission auth).issues call')
          ((admission auth).returns call') past := by
      intro call' past r h
      cases r with
      | ok entrance => exact fun a ha => h a ha
      | error e => exact fun _ ha => nomatch ha
    cases call with
    | job work => exact fun q hq => by cases hq; exact .job
    | http headers handler =>
      show (ApiCall.front auth (.http headers handler)).Obeys _ _ _ _
      cases hpublic : handler.isPublic with
      | true =>
        have hroles : handler.requiredRoles = none := by cases handler <;> first | rfl | cases hpublic
        simp only [ApiCall.front, hpublic, hroles]
        exact handled fun _ ha => .http (.anyone hpublic) ha
      | false =>
        cases hsub : headers.sub? with
        | none =>
          obtain ⟨message, hcode⟩ : ∃ message, ApiCall.front auth (.http headers handler) =
              throwHttp (.unauthorized message) := front_without_sub hpublic hsub
          rw [hcode]
          exact fun q hq => nomatch hq
        | some sub =>
          cases hid : Uuid.parseStr? sub with
          | none =>
            rw [front_unspelled hpublic hsub hid]
            exact fun q hq => nomatch hq
          | some id =>
            rw [front_of_sub hpublic hsub hid]
            refine Prog.obeys_perform_bind.mpr
              ⟨⟨headers, handler, sub, id, rfl, rfl, hpublic, hsub, hid, rfl⟩, fun found hfound => ?_,
                fun _ _ q hq => nomatch hq⟩
            cases found with
            | none => exact fun q hq => nomatch hq
            | some user =>
              cases hfound user rfl
              cases hroles : RolesGuard.canActivate handler.requiredRoles (some user) with
              | error e =>
                simp only [Handler.afterLookup, hroles]
                exact fun q hq => nomatch hq
              | ok _ =>
                simp only [Handler.afterLookup, hroles]
                exact handled fun _ ha =>
                  .http (.user hpublic hsub hid (RolesGuard.canActivate_ok hroles)) ha

theorem ApiRun.mirror {auth : AuthConfig} {w : World} {s : ApiServer}
    {ok : ApiServer → Move ApiCall Oracle → Prop} {ok' : Server → Action → Bool}
    (harrive : ∀ u q, ok' u (.arrive q) = true) (hstop : ∀ u j, ok' u (.stop j) = true)
    (hrun : ∀ (s : ApiServer) (t : Server) i j o, t.world = s.world → ok s (.run i o) →
      ok' t (.run j o) = true)
    (h : ApiRun auth ok { world := w } s) : ∃ t seat, Run ok' { world := w } t ∧
      (api auth).Mirror serve (admission auth) none s t seat := by
  refine Gate.mirrored (admission_kept auth) ?_ harrive hstop hrun h
  rintro call past c ⟨headers, handler, sub, id, rfl, rfl, -, -, -, rfl⟩ o w
  rcases Cmd.exec_one o (.userFindUnique id) w with he | he <;> rw [he]
  rfl

/-- The look-up by which the guard of a call finds its user: the one with the id in the token. -/
def ApiServer.GuardLookup (s : ApiServer) (e : Executed) : Prop :=
  ∃ (x : ApiThread) (headers : AuthHeaders) (handler : Handler) (sub : String) (id : Uuid),
    s.threads[e.tid]? = some x ∧ x.request = .http headers handler ∧ handler.isPublic = false ∧
      headers.sub? = some sub ∧ Uuid.parseStr? sub = some id ∧ e.obs.1 = .one (.userFindUnique id)

theorem ApiServer.guardLookup_of_asks {auth : AuthConfig} {s : ApiServer} {e : Executed}
    (h : (admission auth).Asks s.threads e) : s.GuardLookup e := by
  obtain ⟨x, _, hx, headers, handler, sub, id, hcall, _, guarded, bears, named, hc⟩ := h
  exact ⟨x, headers, handler, sub, id, hx, hcall, guarded, bears, named, hc⟩

/-- The services `t` do what the API `s` does. Without the look-ups of the guard, which change
nothing, they execute the same statements; each of their requests is one that a call came in with,
and a call is answered with its answer. -/
structure ApiServer.Refines (auth : AuthConfig) (s : ApiServer) (t : Server) : Prop where
  world : t.world = s.world
  statements : ∃ seat, Shadow s.GuardLookup seat s.history t.history
  requests : ∀ (j : Nat) (y : Task), t.threads[j]? = some y → ∃ i x past,
    s.threads[i]? = some x ∧ Entered auth x.request past (.enters y.request) ∧
      own i s.history = past ++ own j t.history ∧ x.state = (api auth).served x.request y.state
  replies : ∀ (i : Nat) (x : ApiThread) reply, s.threads[i]? = some x →
    x.result? = some (.ok reply) → ∃ past, past <+: own i s.history ∧
      (Entered auth x.request past (.answers reply) ∨ ∃ (j : Nat) (y : Task) (v : Response),
        t.threads[j]? = some y ∧ Entered auth x.request past (.enters y.request) ∧
          y.result? = some (.ok v) ∧ reply = x.request.reply v)

theorem api_refines {auth : AuthConfig} {w : World} {s : ApiServer}
    {ok : ApiServer → Move ApiCall Oracle → Prop} {ok' : Server → Action → Bool}
    (harrive : ∀ u q, ok' u (.arrive q) = true) (hstop : ∀ u j, ok' u (.stop j) = true)
    (hrun : ∀ (s : ApiServer) (t : Server) i j o, t.world = s.world → ok s (.run i o) →
      ok' t (.run j o) = true)
    (h : ApiRun auth ok { world := w } s) :
    ∃ t, Run ok' { world := w } t ∧ s.Refines auth t := by
  obtain ⟨t, seat, ht, hm⟩ := h.mirror harrive hstop hrun
  have statements := hm.shadow.mono (fun _ => ApiServer.guardLookup_of_asks) fun _ _ => id
  refine ⟨t, ht, hm.world, ⟨seat, statements⟩, fun j y hy => ?_, fun i x reply hx hr => ?_⟩
  · obtain ⟨i, x, past, hx, hbecomes, hown⟩ := hm.origin hy
    exact ⟨i, x, past, hx, hbecomes.admitted _ rfl, hown, hbecomes.state⟩
  · obtain ⟨past, hpast, hfront | ⟨j, y, v, _, hy, hv, hreply, hinside⟩⟩ := hm.answered hx hr
    · exact ⟨past, hpast, .inl (hfront _ rfl)⟩
    · exact ⟨past, hpast, .inr ⟨j, y, v, hy, hinside _ rfl, hv, hreply⟩⟩

/-! ### Who did it -/

/-- The events that a request records. -/
def Request.Records (e : TicketEvent) : Request → Prop
  | .create _ user _ => e.eventType = .ticketCreado ∧ e.actorId = user.id
  | .assign id _ actor => e.eventType = .asignacion ∧ e.ticketId = id ∧ e.actorId = actor.id
  | .changeState id _ actor =>
    (e.eventType = .cambioEstado ∨ e.eventType = .resolucion) ∧ e.ticketId = id ∧
      e.actorId = actor.id
  | .addComment id actor _ => e.eventType = .comentario ∧ e.ticketId = id ∧ e.actorId = actor.id
  | .getDownload _ user => e.eventType = .adjuntoDescargado ∧ e.actorId = user.id
  | .sweep _ | .escalateOne _ _ _ _ => e.eventType = .escalamiento
  | _ => False

/-- The events that a method records. -/
def Handler.Records (e : TicketEvent) : Handler → Prop
  | .create _ _ => e.eventType = .ticketCreado
  | .assign id _ => e.eventType = .asignacion ∧ Uuid.parse? id = some e.ticketId
  | .changeState id _ =>
    (e.eventType = .cambioEstado ∨ e.eventType = .resolucion) ∧ Uuid.parse? id = some e.ticketId
  | .addComment id _ => e.eventType = .comentario ∧ Uuid.parse? id = some e.ticketId
  | .download _ => e.eventType = .adjuntoDescargado
  | _ => False

theorem Intent.records {q : Request} {past : List Seen} {g : TicketWhere} {d : TicketUpdate}
    {ev : TicketEventCreate} (h : Intent q past g d ev) (o : Oracle) : q.Records (ev.row o) := by
  cases h with
  | assign => exact ⟨rfl, rfl, rfl⟩
  | @changeState id dto actor ticket =>
    refine ⟨?_, rfl, rfl⟩
    rcases dto with ⟨target⟩
    cases target
    · exact .inl rfl
    · exact .inr rfl
  | escalateOne => rfl
  | sweep => rfl

theorem Notes.records {q : Request} {d : TicketEventCreate} (h : Notes q d) (o : Oracle) :
    q.Records (d.row o) := by
  cases h with
  | comment => exact ⟨rfl, rfl, rfl⟩
  | download => exact ⟨rfl, rfl⟩

/-- An event that a statement adds is one that its request records. -/
theorem Effect.records {q : Request} {past : List Seen} {x : Executed} (h : Effect q past x)
    {e : TicketEvent} (he : e ∈ x.after.events.rows) : e ∈ x.before.events.rows ∨ q.Records e := by
  cases h with
  | quiet _ kept => exact .inl (kept.events ▸ he)
  | created request _ _ write =>
    rw [Table.insert?_rows write.events] at he
    rcases List.mem_append.mp he with he | he
    · exact .inl he
    · cases List.mem_singleton.mp he
      exact .inr (request ▸ ⟨rfl, rfl⟩)
  | updated _ _ write => exact .inl (write.events ▸ he)
  | recorded intent _ _ _ write =>
    rw [write.events] at he
    rcases List.mem_append.mp he with he | he
    · exact .inl he
    · cases List.mem_singleton.mp he
      exact .inr (intent.records _)
  | noted notes _ _ write =>
    rw [write.events] at he
    rcases List.mem_append.mp he with he | he
    · exact .inl he
    · cases List.mem_singleton.mp he
      exact .inr (notes.records _)
  | uploaded _ _ _ write => exact .inl (write.events ▸ he)

theorem Run.event_recorded {ok : Server → Action → Bool} {w : World} {s : Server}
    (h : Run ok { world := w } s) {e : TicketEvent} (he : e ∈ s.world.events.rows) :
    e ∈ w.events.rows ∨ ∃ (i : Nat) (t : Task), s.threads[i]? = some t ∧ t.request.Records e := by
  refine h.linked.invariant (I := fun _ v => e ∈ v.events.rows → e ∈ w.events.rows ∨
    ∃ (i : Nat) (t : Task), s.threads[i]? = some t ∧ t.request.Records e) .inl
    (fun h₁ x h₂ hh ih hx => ?_) he
  obtain ⟨t, ht, heffect⟩ := h.effect hh
  rcases heffect.records hx with hx | hrecords
  · exact ih hx
  · exact .inr ⟨x.tid, t, ht, hrecords⟩

theorem validated_bind {α β : Type} {dto : Option α} {f : α → Except Err β} {b : β} :
    (validated dto >>= f) = .ok b ↔ ∃ d, dto = some d ∧ f d = .ok b := by
  cases dto with
  | none => simp [validated, bind, Except.bind]
  | some d => simp [validated, bind, Except.bind]

theorem parseUuid_bind {β : Type} {id : String} {f : Uuid → Except Err β} {b : β} :
    (parseUuid id >>= f) = .ok b ↔ ∃ i, Uuid.parse? id = some i ∧ f i = .ok b := by
  unfold parseUuid
  cases Uuid.parse? id with
  | none => simp [bind, Except.bind]
  | some i => simp [bind, Except.bind]

theorem currentUser_bind {β : Type} {user : Option User} {f : User → Except Err β} {b : β} :
    (currentUser user >>= f) = .ok b ↔ ∃ u, user = some u ∧ f u = .ok b := by
  cases user with
  | none => simp [currentUser, bind, Except.bind]
  | some u => simp [currentUser, bind, Except.bind]

theorem entered {q q' : Request} :
    (pure (.enters q) : Except Err (Entrance Reply Request)) = .ok (.enters q') ↔ q = q' := by
  simp [pure, Except.pure]

/-- A method that hands on a request that records an event records it too, for its caller. -/
theorem Handler.records_of {auth : AuthConfig} {handler : Handler} {user : Option User}
    {q : Request} {e : TicketEvent} (h : handler.handle auth user = .ok (.enters q))
    (hrecords : q.Records e) :
    handler.Records e ∧ ∃ u, user = some u ∧ u.id = e.actorId := by
  cases handler with
  | liveness => cases h
  | config => cases h
  | me =>
    obtain ⟨u, _, h⟩ := currentUser_bind.mp h
    cases h
  | enqueue body => cases h; cases hrecords
  | login dto =>
    obtain ⟨d, _, h⟩ := validated_bind.mp h
    cases entered.mp h
    cases hrecords
  | exchange dto =>
    obtain ⟨d, _, h⟩ := validated_bind.mp h
    cases entered.mp h
    cases hrecords
  | exportCsv query =>
    obtain ⟨d, _, h⟩ := validated_bind.mp h
    cases entered.mp h
    cases hrecords
  | list query =>
    simp only [Handler.handle, validated_bind, currentUser_bind, entered] at h
    obtain ⟨d, _, u, _, rfl⟩ := h
    cases hrecords
  | createUpload dto =>
    simp only [Handler.handle, validated_bind, currentUser_bind, entered] at h
    obtain ⟨d, _, u, _, rfl⟩ := h
    cases hrecords
  | events id query =>
    simp only [Handler.handle, parseUuid_bind, validated_bind, currentUser_bind, entered] at h
    obtain ⟨i, _, d, _, u, _, rfl⟩ := h
    cases hrecords
  | getOne id =>
    simp only [Handler.handle, parseUuid_bind, currentUser_bind, entered] at h
    obtain ⟨i, _, u, _, rfl⟩ := h
    cases hrecords
  | create dto idempotencyKey =>
    simp only [Handler.handle, validated_bind, currentUser_bind, entered] at h
    obtain ⟨d, _, u, hu, rfl⟩ := h
    obtain ⟨htype, hactor⟩ := hrecords
    exact ⟨htype, u, hu, hactor.symm⟩
  | download id =>
    simp only [Handler.handle, parseUuid_bind, currentUser_bind, entered] at h
    obtain ⟨i, _, u, hu, rfl⟩ := h
    obtain ⟨htype, hactor⟩ := hrecords
    exact ⟨htype, u, hu, hactor.symm⟩
  | assign id dto =>
    simp only [Handler.handle, parseUuid_bind, validated_bind, currentUser_bind, entered] at h
    obtain ⟨i, hi, d, _, u, hu, rfl⟩ := h
    obtain ⟨htype, hticket, hactor⟩ := hrecords
    exact ⟨⟨htype, hticket ▸ hi⟩, u, hu, hactor.symm⟩
  | changeState id dto =>
    simp only [Handler.handle, parseUuid_bind, validated_bind, currentUser_bind, entered] at h
    obtain ⟨i, hi, d, _, u, hu, rfl⟩ := h
    obtain ⟨htype, hticket, hactor⟩ := hrecords
    exact ⟨⟨htype, hticket ▸ hi⟩, u, hu, hactor.symm⟩
  | addComment id dto =>
    simp only [Handler.handle, parseUuid_bind, validated_bind, currentUser_bind, entered] at h
    obtain ⟨i, hi, d, _, u, hu, rfl⟩ := h
    obtain ⟨htype, hticket, hactor⟩ := hrecords
    exact ⟨⟨htype, hticket ▸ hi⟩, u, hu, hactor.symm⟩

/-- The first thing call `i` did was to look up the subject of its token, and it found this row. -/
def ApiServer.Identified (s : ApiServer) (i : Nat) (headers : AuthHeaders) (user : User) : Prop :=
  (∃ sub, headers.sub? = some sub ∧ Uuid.parseStr? sub = some user.id) ∧
    (own i s.history).head? = some ⟨.one (.userFindUnique user.id), .ok (some user)⟩

/-- Whatever was done was done for the subject of a token, who was found with a role that may. -/
structure ApiServer.Accountable (w : World) (s : ApiServer) : Prop where
  answered : ∀ i x headers handler reply, s.threads[i]? = some x →
    x.request = .http headers handler → x.result? = some (.ok reply) →
    handler.isPublic = true ∨ ∃ user, s.Identified i headers user ∧ handler.Allows user.role
  events : ∀ e ∈ s.world.events.rows, e ∈ w.events.rows ∨ e.eventType = .escalamiento ∨
    ∃ i x headers handler user, s.threads[i]? = some x ∧ x.request = .http headers handler ∧
      handler.Records e ∧ s.Identified i headers user ∧ handler.Allows user.role ∧
      user.id = e.actorId
  exports : ∀ (i : Nat) (x : ApiThread) query reply, s.threads[i]? = some x →
    x.request.exports? = some query → x.result? = some (.ok reply) →
    ∃ i' x' headers user, s.threads[i']? = some x' ∧
      x'.request = .http headers (.exportCsv (some query)) ∧ s.Identified i' headers user ∧
      user.role = .administrador

theorem Passes.identified {s : ApiServer} {i : Nat} {headers : AuthHeaders} {handler : Handler}
    {past : List Seen} {user : User} (h : Passes headers handler past (some user))
    (hpast : past <+: own i s.history) :
    s.Identified i headers user ∧ handler.Allows user.role := by
  cases h with
  | user _ bears named allowed =>
    obtain ⟨more, hown⟩ := hpast
    exact ⟨⟨⟨_, bears, named⟩, by rw [← hown]; rfl⟩, allowed⟩

theorem Passes.of_guarded {headers : AuthHeaders} {handler : Handler} {past : List Seen}
    {user : Option User} (h : Passes headers handler past user)
    (hguarded : handler.isPublic = false) : ∃ u, user = some u := by
  cases h with
  | anyone isPublic => cases hguarded.symm.trans isPublic
  | user => exact ⟨_, rfl⟩

section Runs

variable {auth : AuthConfig} {w : World} {s : ApiServer}

theorem ApiRun.mirrored {ok : ApiServer → Move ApiCall Oracle → Prop}
    (h : ApiRun auth ok { world := w } s) : ∃ t seat, Run (fun _ _ => true) { world := w } t ∧
      (api auth).Mirror serve (admission auth) none s t seat :=
  h.mirror (fun _ _ => rfl) (fun _ _ => rfl) fun _ _ _ _ _ _ _ => rfl

/-- A call that was answered had come in. -/
theorem ApiRun.entered {ok : ApiServer → Move ApiCall Oracle → Prop}
    (h : ApiRun auth ok { world := w } s) {i : Nat} {x : ApiThread}
    {reply : Reply} (hx : s.threads[i]? = some x) (hr : x.result? = some (.ok reply)) :
    ∃ past entrance, past <+: own i s.history ∧ Entered auth x.request past entrance := by
  obtain ⟨t, seat, _, hm⟩ := h.mirrored
  obtain ⟨past, hpast, hfront | ⟨j, y, a, _, _, _, _, hinside⟩⟩ := hm.answered hx hr
  · exact ⟨past, _, hpast, hfront _ rfl⟩
  · exact ⟨past, _, hpast, hinside _ rfl⟩

theorem ApiRun.answered {ok : ApiServer → Move ApiCall Oracle → Prop}
    (h : ApiRun auth ok { world := w } s) {i : Nat} {x : ApiThread}
    {headers : AuthHeaders} {handler : Handler} {reply : Reply} (hx : s.threads[i]? = some x)
    (hq : x.request = .http headers handler) (hr : x.result? = some (.ok reply)) :
    handler.isPublic = true ∨ ∃ user, s.Identified i headers user ∧ handler.Allows user.role := by
  obtain ⟨past, entrance, hpast, hentered⟩ := h.entered hx hr
  rw [hq] at hentered
  cases hentered with
  | @http _ _ _ user _ passes _ =>
    cases hpublic : handler.isPublic with
    | true => exact .inl rfl
    | false =>
      obtain ⟨u, rfl⟩ := passes.of_guarded hpublic
      exact .inr ⟨u, passes.identified hpast⟩

theorem ApiRun.event_recorded {ok : ApiServer → Move ApiCall Oracle → Prop}
    (h : ApiRun auth ok { world := w } s) {e : TicketEvent} (he : e ∈ s.world.events.rows) :
    e ∈ w.events.rows ∨ e.eventType = .escalamiento ∨
      ∃ i x headers handler user, s.threads[i]? = some x ∧ x.request = .http headers handler ∧
        handler.Records e ∧ s.Identified i headers user ∧ handler.Allows user.role ∧
        user.id = e.actorId := by
  obtain ⟨t, seat, ht, hm⟩ := h.mirrored
  rcases ht.event_recorded (hm.world ▸ he) with he | ⟨j, y, hy, hrecords⟩
  · exact .inl he
  · refine .inr ?_
    obtain ⟨i, x, past, hx, hbecomes, hown⟩ := hm.origin hy
    have hpast : past <+: own i s.history := hown ▸ List.prefix_append _ _
    have hentered := hbecomes.admitted _ rfl
    generalize hq : x.request = call at hentered
    generalize hentrance : (.enters y.request : Entrance Reply Request) = entrance at hentered
    cases hentered with
    | http passes handled =>
      cases hentrance
      obtain ⟨hhandler, u, rfl, hid⟩ := Handler.records_of handled hrecords
      obtain ⟨hidentified, hallows⟩ := passes.identified hpast
      exact .inr ⟨i, x, _, _, u, hx, hq, hhandler, hidentified, hallows, hid⟩
    | @job work =>
      rw [Entrance.enters.inj hentrance] at hrecords
      cases work with
      | sweep now => exact .inl hrecords
      | poll z batchSize => cases hrecords
      | exportTurn n query cursor => cases hrecords

/-- A turn of an export comes after another, or after the call, of the same query. -/
theorem ApiRun.follows (h : ApiRun auth ExportsFollow { world := w } s) {i n : Nat} {x : ApiThread}
    {query : ReportQuery} {cursor : Uuid} (hx : s.threads[i]? = some x)
    (hq : x.request = .job (.exportTurn n query cursor)) :
    n < i ∧ ∃ (y : ApiThread) (reply : Reply), s.threads[n]? = some y ∧
      y.request.exports? = some query ∧ y.result? = some (.ok reply) := by
  have stays : ∀ {s s' : ApiServer} {m : Move ApiCall Oracle},
      Step ((api auth).program serve) Cmd.exec s m s' →
      (∃ (y : ApiThread) (reply : Reply), s.threads[n]? = some y ∧
        y.request.exports? = some query ∧ y.result? = some (.ok reply)) →
      ∃ (y : ApiThread) (reply : Reply), s'.threads[n]? = some y ∧
        y.request.exports? = some query ∧ y.result? = some (.ok reply) := by
    rintro s s' m hstep ⟨y, reply, hy, hexports, hr⟩
    obtain ⟨y', hy', hq', hr'⟩ := hstep.result_stays hy hr
    exact ⟨y', reply, hy', hq'.symm ▸ hexports, hr'⟩
  induction h generalizing x with
  | start => simp at hx
  | next hr hok hstep ih =>
    rcases hstep.thread_before hx with ⟨x', hx', hsame⟩ | ⟨rfl, rfl⟩
    · obtain ⟨hlt, hbefore⟩ := ih hx' (hsame.trans hq)
      exact ⟨hlt, stays hstep hbefore⟩
    · rw [hq] at hok
      obtain ⟨y, reply, p, hy, hexports, hanswered, _, _⟩ := hok
      exact ⟨(List.getElem?_eq_some_iff.mp hy).1, stays hstep ⟨y, reply, hy, hexports, hanswered⟩⟩

theorem ApiRun.export_origin (h : ApiRun auth ExportsFollow { world := w } s) {i : Nat}
    {x : ApiThread} {query : ReportQuery} {reply : Reply} (hx : s.threads[i]? = some x)
    (hexports : x.request.exports? = some query) (hr : x.result? = some (.ok reply)) :
    ∃ i' x' headers user, s.threads[i']? = some x' ∧
      x'.request = .http headers (.exportCsv (some query)) ∧ s.Identified i' headers user ∧
      user.role = .administrador := by
  induction i using Nat.strong_induction_on generalizing x reply with
  | _ i ih =>
    cases hq : x.request with
    | http headers handler =>
      rw [hq] at hexports
      cases handler with
      | exportCsv query' =>
        cases hexports
        rcases h.answered hx hq hr with hpublic | ⟨user, hidentified, hallows⟩
        · cases hpublic
        · exact ⟨i, x, headers, user, hx, hq, hidentified, by simpa using hallows _ rfl⟩
      | _ => cases hexports
    | job work =>
      rw [hq] at hexports
      cases work with
      | exportTurn n query' cursor =>
        cases hexports
        obtain ⟨hlt, y, reply', hy, hexports', hr'⟩ := h.follows hx hq
        exact ih n hlt hy hexports' hr'
      | _ => cases hexports

end Runs

/-- Nobody is answered but by right, no event is in another's name, and the rows of the report go
to administrators only. -/
theorem api_accountable {auth : AuthConfig} {w : World} {s : ApiServer}
    (h : ApiRun auth ExportsFollow { world := w } s) : s.Accountable w where
  answered _ _ _ _ _ hx hq hr := h.answered hx hq hr
  events _ he := h.event_recorded he
  exports _ _ _ _ hx hexports hr := h.export_origin hx hexports hr

namespace Sample

/-- The headers of a session of the user with id 5. -/
def administradorHeaders : AuthHeaders where
  authorization := some ("Bearer eyJhbGciOiJub25lIn0." ++
    "eyJzdWIiOiIwMDAwMDAwMC0wMDAwLTAwMDAtMDAwMC0wMDAwMDAwMDAwMDUifQ.sig")

def apiSteps (i n k : Nat) : List (Move ApiCall Oracle) :=
  (List.range k).map fun j => .run i { uuid := 100 + n + j }

def withoutJobs (_ : ApiServer) : Move ApiCall Oracle → Bool
  | .arrive (.job _) => false
  | _ => true

def everyReport : ReportQuery where
  assigneeIdLength := ListTicketsQuery.assigneeId_left_out

/-- A ticket is created and assigned, and the resolved ones are exported. -/
def apiMoves : List (Move ApiCall Oracle) :=
  .arrive (.http reportanteHeaders (.create (some body) none)) :: apiSteps 0 0 4 ++
    .arrive (.http administradorHeaders (.assign (Uuid.text 103) (some ⟨agente.id, 0⟩))) ::
      apiSteps 1 10 8 ++
    .arrive (.http administradorHeaders (.exportCsv (some everyReport))) :: apiSteps 2 20 2

def apiPlay : Option ApiServer :=
  Pool.replay ((api {}).program serve) Cmd.exec withoutJobs apiMoves { world := world }

theorem apiPlay_isSome : apiPlay.isSome := by decide +kernel

def apiPlayed : ApiServer := apiPlay.get apiPlay_isSome

theorem apiPlayed_run : ApiRun {} ExportsFollow { world := world } apiPlayed := by
  have hrun : ApiRun {} (fun s m => withoutJobs s m = true) { world := world } apiPlayed :=
    .of_replay (Option.some_get _).symm
  refine hrun.mono fun s m hm => ?_
  cases m with
  | arrive call =>
    cases call with
    | http headers handler => trivial
    | job work => cases hm
  | _ => trivial

end Sample

theorem apiPlayed_refines : ∃ t, Run (fun _ _ => true) { world := Sample.world } t ∧
    Sample.apiPlayed.Refines {} t :=
  api_refines (fun _ _ => rfl) (fun _ _ => rfl) (fun _ _ _ _ _ _ _ => rfl) Sample.apiPlayed_run

theorem apiPlayed_accountable : Sample.apiPlayed.Accountable Sample.world :=
  api_accountable Sample.apiPlayed_run

end TicketSystem
