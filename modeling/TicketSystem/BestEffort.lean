import TicketSystem.Lib.Beside
import TicketSystem.Outbound

namespace TicketSystem

open Interleaved

/-- What `notifyReporter` asks for: the user, after the event of the request was inserted, and the
queue. -/
def Cmd.aside (own : List Seen) : Cmd → Bool
  | .one (.enqueue _) => true
  | .one (.userFindUnique _) => own.any fun o => o.event?.isSome
  | _ => false

abbrev NotificationSide := Side Cmd Cmd.Res Err World

abbrev Answered := Outcome Cmd Cmd.Res Err Response World

structure Asked where
  request : Request
  draws : Nat → Oracle

/-- Requests of a session, one after the other; the notification side behaves as it likes during
each of them. -/
def session : (Nat → NotificationSide) → List Asked → World → List Answered × World
  | _, [], w => ([], w)
  | sides, a :: asks, w =>
    let answered := (serve a.request).beside Cmd.exec Cmd.aside (sides 0) [] [] a.draws w
    let rest := session (fun n => sides (n + 1)) asks answered.world
    (answered :: rest.1, rest.2)

/-- The operations on tickets, those of the escalation worker among them. -/
def Request.operates : Request → Bool
  | .create _ _ _ | .assign _ _ _ | .changeState _ _ _ | .addComment _ _ _ | .sweep _
  | .escalateOne _ _ _ _ => true
  | _ => false

/-- The ticket a request notifies its reporter of when it succeeds, and as what. -/
def Request.notice? : Request → Option (Uuid × TicketNotifyType)
  | .assign id _ _ => some (id, .assigned)
  | .changeState id dto _ => if dto.targetState = .resuelto then some (id, .resolved) else none
  | .addComment ticketId _ _ => some (ticketId, .commented)
  | _ => none

def Seen.offered? : Seen → Option Json
  | ⟨.one (.enqueue body), _⟩ => some body
  | _ => none

/-- The messages that were offered to the queue, whatever became of them. -/
def offered (said : List Seen) : List Json := said.filterMap Seen.offered?

/-- The user that a lookup answered, if he wants mails. -/
def wanting : Except Err (Option User) → Option User
  | .ok (some user) => if user.notifyEmail then some user else none
  | _ => none

/-- The reporter was looked up, and a message was offered for the user that the lookup answered. -/
def ReporterTold (t : Ticket) (type : TicketNotifyType) (said : List Seen) : Prop :=
  ∃ (answer : Except Err (Option User)) (subject body : String),
    said.head? = some ⟨.one (.userFindUnique t.reporterId), answer⟩ ∧
      offered said = (wanting answer).toList.map fun u => (notification t u type subject body).json

/-- A request that succeeded and has a notice tells it; any other does not even look the reporter
up. -/
structure Notified (a : Asked) (o : Answered) : Prop where
  told : ∀ id type v, a.request.notice? = some (id, type) → o.result = .ok v →
    ∃ t, o.world.ticket? id = some t ∧ ReporterTold t type o.asides
  silent : a.request.notice? = none ∨ (∃ e, o.result = .error e) → o.asides = []

theorem notifyReporter_ends {picks : Cmd → Bool} (t : Ticket) (type : TicketNotifyType)
    (subject body : String) (asks : picks (.one (.userFindUnique t.reporterId)) = true)
    (offers : ∀ json, picks (.one (.enqueue json)) = true) :
    (notifyReporter t type subject body).Ends picks (.ok ()) (ReporterTold t type) [] := by
  refine ⟨asks, fun answer => ?_⟩
  cases answer with
  | error e => exact ⟨rfl, .error e, subject, body, rfl, rfl⟩
  | ok reporter =>
    cases reporter with
    | none => exact ⟨rfl, .ok none, subject, body, rfl, rfl⟩
    | some reporter =>
      dsimp only [Prog.bind]
      split
      next hemail =>
        have wants : reporter.notifyEmail = true := by simpa [resolveChannels] using hemail
        refine ⟨offers _, fun r => ?_⟩
        have told : ReporterTold t type [⟨.one (.userFindUnique t.reporterId), .ok (some reporter)⟩,
            ⟨.one (.enqueue (notification t reporter type subject body).json), r⟩] :=
          ⟨.ok (some reporter), subject, body, rfl,
            by simp only [wanting, wants, if_true]; rfl⟩
        cases r with
        | ok messageId => exact ⟨rfl, told⟩
        | error e => exact ⟨rfl, told⟩
      next hno =>
        have unwanted : reporter.notifyEmail = false := by simpa [resolveChannels] using hno
        exact ⟨rfl, .ok (some reporter), subject, body, rfl,
          by simp only [wanting, unwanted, Bool.false_eq_true, if_false]; rfl⟩

/-- After these statements the ticket is `t`. -/
def LeavesRow (id : Uuid) (t : Ticket) (own : List Seen) : Prop :=
  ∀ w w', Executes Cmd.exec w own w' → w'.ticket? id = some t

theorem leaves_readBack {id : Uuid} {t : Ticket} {own : List Seen} :
    LeavesRow id t (own ++ [⟨.one (.ticketFindUniqueOrThrow id), .ok t⟩]) := by
  intro w w' h
  obtain ⟨o, u, _, hx⟩ := h.last
  rcases Cmd.exec_one o (.ticketFindUniqueOrThrow id) u with he | he
  · cases he.symm.trans hx
  · have hx : Stmt.exec o (.ticketFindUniqueOrThrow id) u = (.ok t, w') := he.symm.trans hx
    simp only [Stmt.exec] at hx
    split at hx
    next t' ht =>
      cases hx
      exact ht
    next => cases hx

theorem leaves_commented {id : Uuid} {t : Ticket} {d : TicketEventCreate} {e : TicketEvent}
    (own : List Seen) : LeavesRow id t (own ++ [⟨.one (.ticketFindUnique id), .ok (some t)⟩] ++
      [⟨.one (.ticketEventCreate d), .ok e⟩]) := by
  intro w w' h
  obtain ⟨o, v, h, hx⟩ := h.last
  obtain ⟨o', u, _, hread⟩ := h.last
  have hv : v.ticket? id = some t := by
    rcases Cmd.exec_one o' (.ticketFindUnique id) u with he | he
    · cases he.symm.trans hread
    · have hread : (Except.ok (u.ticket? id), u) = (Except.ok (some t), v) := he.symm.trans hread
      obtain ⟨hfound, rfl⟩ := Prod.mk.inj hread
      exact Except.ok.inj hfound
  rcases exec_eventCreate v hx with ⟨err, herr, _⟩ | ⟨_, recorded⟩
  · cases herr
  · exact (recorded.ticket? id).trans hv

/-- How a request ends: it tells its notice, or says nothing. -/
structure Closing (q : Request) (own : List Seen) (r : Except Err Response) (said : List Seen) :
    Prop where
  told : ∀ id type v, q.notice? = some (id, type) → r = .ok v →
    ∃ t, LeavesRow id t own ∧ ReporterTold t type said
  silent : q.notice? = none ∨ (∃ e, r = .error e) → said = []

theorem Closing.failed {q : Request} {own : List Seen} {e : Err} : Closing q own (.error e) [] :=
  ⟨fun _ _ _ _ h => (nomatch h), fun _ => rfl⟩

theorem Closing.notifies {q : Request} {own said : List Seen} {v : Response} {id : Uuid}
    {t : Ticket} {type : TicketNotifyType} (notice : q.notice? = some (id, type))
    (leaves : LeavesRow id t own) (told : ReporterTold t type said) : Closing q own (.ok v) said := by
  refine ⟨fun id' type' _ hn _ => ?_, fun hno => ?_⟩
  · cases notice.symm.trans hn
    exact ⟨t, leaves, told⟩
  · rcases hno with hno | ⟨e, he⟩
    · cases hno.symm.trans notice
    · cases he

theorem Closing.quiet {q : Request} (h : q.notice? = none) (own : List Seen)
    (r : Except Err Response) : Closing q own r [] :=
  ⟨fun _ _ _ hn _ => (nomatch h.symm.trans hn), fun _ => rfl⟩

abbrev Settles (q : Request) : Prop := (serve q).Closes Cmd.aside (Closing q) []

/-- A piece of a service that ends as its request may; `f` makes the response of its value. -/
abbrev Ending (q : Request) {α : Type} (f : α → Response) (p : Service α) (own : List Seen) : Prop :=
  p.Closes Cmd.aside (fun own r said => Closing q own (r.map f) said) own

section Operations

variable {q : Request} {id : Uuid} {own : List Seen} {α : Type} {f : α → Response}

/-- One call of the database, and what follows it. -/
theorem ending_call {s : Stmt} {rest : s.Res → Service α} (hown : (Cmd.one s).aside own = false)
    (hrest : ∀ a, Ending q f (rest a) (own ++ [⟨.one s, .ok a⟩])) :
    Ending q f ((call s).bind rest) own :=
  Prog.closes_perform_bind hown hrest fun _ => .failed

theorem ending_notify {t : Ticket} {type : TicketNotifyType} {subject body : String} {a : α}
    (notice : q.notice? = some (id, type)) (leaves : LeavesRow id t own)
    (recorded : own.any (fun o => o.event?.isSome) = true) :
    Ending q f ((notifyReporter t type subject body).bind fun _ => .pure a) own := by
  refine Prog.Ends.closes (r := .ok a) ?_
  refine (notifyReporter_ends t type _ _ recorded fun _ => rfl).bind fun said told => ?_
  exact ⟨rfl, .notifies notice leaves told⟩

/-- What `assign` and `changeState` do after their checks. -/
theorem ending_mutation {g : TicketWhere} {d : TicketUpdate} {ev : TicketEventCreate} {miss : Err}
    {rest : Ticket → Service α}
    (hrest : ∀ own t, LeavesRow id t own → own.any (fun o => o.event?.isSome) = true →
      Ending q f (rest t) own) :
    Ending q f
      ((call (.ticketUpdateMany g d)).bind fun count : Nat =>
        if count = 0 then .throw miss
        else (call (.ticketEventCreate ev)).bind fun _ =>
          (call (.ticketFindUniqueOrThrow id)).bind rest) own := by
  refine ending_call rfl fun (count : Nat) => ?_
  split
  next => exact Closing.failed
  next =>
    refine ending_call rfl fun event => ending_call rfl fun t => hrest _ t leaves_readBack ?_
    simp [Seen.event?]

theorem assign_settles (id : Uuid) (dto : AssignTicketDto) (actor : User) :
    Settles (.assign id dto actor) := by
  refine Prog.Closes.map ?_
  refine ending_call rfl fun ticket => ?_
  cases ticket with
  | none => exact Closing.failed
  | some ticket =>
    refine ending_call rfl fun assignee => ?_
    split
    next => exact Closing.failed
    next => exact ending_mutation fun own t leaves recorded => ending_notify rfl leaves recorded

theorem changeState_settles (id : Uuid) (dto : ChangeStateDto) (actor : User) :
    Settles (.changeState id dto actor) := by
  refine Prog.Closes.map ?_
  refine ending_call rfl fun ticket => ?_
  cases ticket with
  | none => exact Closing.failed
  | some ticket =>
    cases hcheck : checkChangeState ticket dto actor with
    | error e =>
      simp only [hcheck]
      exact Closing.failed
    | ok _ =>
      simp only [hcheck]
      cases htarget : dto.targetState with
      | enProgreso =>
        have silent : (Request.changeState id dto actor).notice? = none := by
          simp [Request.notice?, htarget]
        simp only [readClockIf, reduceCtorEq, decide_false, Bool.false_eq_true, if_false]
        exact ending_mutation fun _ _ _ _ => .quiet silent _ _
      | resuelto =>
        have notice : (Request.changeState id dto actor).notice? = some (id, .resolved) := by
          simp [Request.notice?, htarget]
        simp only [readClockIf, decide_true, if_true]
        refine ending_call rfl fun now => ending_mutation fun own t leaves recorded => ?_
        exact ending_notify notice leaves recorded

theorem addComment_settles (ticketId : Uuid) (actor : User) (message : String) :
    Settles (.addComment ticketId actor message) := by
  refine Prog.Closes.map ?_
  refine ending_call rfl fun ticket => ?_
  cases ticket with
  | none => exact Closing.failed
  | some ticket =>
    dsimp only
    split
    next => exact Closing.failed
    next =>
      refine ending_call rfl fun event => ?_
      exact ending_notify rfl (leaves_commented []) rfl

end Operations

theorem Cmd.not_aside {c : Cmd} (h : c.Plain ∧ c.seeks = false) (own : List Seen) :
    c.aside own = false := by
  cases c with
  | transaction => rfl
  | one s =>
    cases s with
    | enqueue => cases h.1
    | userFindUnique => cases h.2
    | _ => rfl

theorem Mute.settles {q : Request} {α : Type} {f : α → Response} {p : Service α} (h : Mute p)
    (hq : q.notice? = none) : (respond f p).Closes Cmd.aside (Closing q) [] :=
  (Prog.Only.closes (h.mono fun _ hc => Cmd.not_aside hc) (fun _ _ => .quiet hq _ _) []).map

theorem settles {q : Request} (h : q.operates = true) : Settles q := by
  cases q with
  | create dto user key => exact (create_mute dto user key).settles rfl
  | assign id dto actor => exact assign_settles id dto actor
  | changeState id dto actor => exact changeState_settles id dto actor
  | addComment ticketId actor message => exact addComment_settles ticketId actor message
  | sweep now => exact (sweep_mute now).settles rfl
  | escalateOne id current target actor =>
    exact (escalateOne_mute id current target actor).settles rfl
  | _ => cases h

/-- What a request comes to is settled before the notification side is asked for anything. -/
theorem answered_settled {a : Asked} (h : a.request.operates = true) (w : World) :
    ∃ r w', ∀ side, let o : Answered :=
      (serve a.request).beside Cmd.exec Cmd.aside side [] [] a.draws w
      o.result = r ∧ o.world = w' ∧ Notified a o := by
  have start : Executes Cmd.exec w [] w := .nil
  obtain ⟨r, w', past, executed, hside⟩ := (settles h).beside a.draws start
  refine ⟨r, w', fun side => ?_⟩
  obtain ⟨said, ho, closing⟩ := hside side
  rw [ho]
  refine ⟨rfl, rfl, fun id type v hn hr => ?_, closing.silent⟩
  obtain ⟨t, leaves, told⟩ := closing.told id type v hn hr
  exact ⟨t, leaves w w' executed, told⟩

/-- Results and database are those of any other behaviour of the notification side, and the messages
offered are those of the requests that succeeded. -/
theorem notified_exactly (sides sides' : Nat → NotificationSide) {asks : List Asked}
    (h : ∀ a ∈ asks, a.request.operates = true) (w : World) :
    (session sides asks w).1.map Outcome.result = (session sides' asks w).1.map Outcome.result ∧
      (session sides asks w).2 = (session sides' asks w).2 ∧
        List.Forall₂ Notified asks (session sides asks w).1 := by
  induction asks generalizing sides sides' w with
  | nil => exact ⟨rfl, rfl, .nil⟩
  | cons a asks ih =>
    obtain ⟨r, w', hside⟩ := answered_settled (h a (List.mem_cons_self ..)) w
    obtain ⟨hr, hw, notified⟩ := hside (sides 0)
    obtain ⟨hr', hw', _⟩ := hside (sides' 0)
    obtain ⟨hresults, hworld, hall⟩ := ih (fun n => sides (n + 1)) (fun n => sides' (n + 1))
      (fun b hb => h b (List.mem_cons_of_mem _ hb)) w'
    simp only [session, List.map_cons, hr, hr', hw, hw']
    exact ⟨congrArg _ hresults, hworld, .cons notified hall⟩

/-- Whoever succeeded has sent one message, whenever the reporter is there and wants mails. -/
def Reaches (a : Asked) (o : Answered) : Prop :=
  ∀ id type v t u, a.request.notice? = some (id, type) → o.result = .ok v →
    o.world.ticket? id = some t → o.world.users.lookup User.id t.reporterId = some u →
      u.notifyEmail = true →
        ∃ subject body, offered o.asides = [(notification t u type subject body).json]

namespace Sample

/-- The database and the queue answer for themselves. -/
def reachable : NotificationSide := fun w _ c => (Cmd.exec { uuid := 0, messageId := "m" } c w).1

def unreachable : NotificationSide := fun _ _ _ => .error .failed

def asking (n : Nat) (q : Request) : Asked := ⟨q, fun k => { uuid := 100 + n + k }⟩

def commented : List Asked :=
  [asking 0 (.create body reportante none), asking 10 (.addComment 102 agente "Estamos en ello")]

def handled : List Asked :=
  commented ++ [asking 20 (.assign 102 ⟨agente.id, 0⟩ agente),
    asking 30 (.changeState 102 (start 1) agente), asking 40 (.changeState 102 (solve 2) agente)]

example : (session (fun _ => reachable) handled world).1.map (fun o => (offered o.asides).length) =
    [0, 1, 1, 0, 1] := by decide +kernel

end Sample

open Sample in
theorem notified_handled :
    (session (fun _ => unreachable) handled world).1.map Outcome.result =
        (session (fun _ => reachable) handled world).1.map Outcome.result ∧
      (session (fun _ => unreachable) handled world).2 =
          (session (fun _ => reachable) handled world).2 ∧
        List.Forall₂ Notified handled (session (fun _ => unreachable) handled world).1 :=
  notified_exactly _ _ (by decide +kernel) world

open Sample in
/-- The lookup of the reporter fails: his ticket has a new comment, and nothing is offered. -/
theorem comment_untold : ¬ ∀ (sides : Nat → NotificationSide) (asks : List Asked) (w : World),
    (∀ a ∈ asks, a.request.operates = true) →
      List.Forall₂ Reaches asks (session sides asks w).1 := by
  intro hall
  have hreaches := hall (fun _ => unreachable) commented world (by decide +kernel)
  obtain ⟨_, hrest⟩ := List.forall₂_cons.mp hreaches
  obtain ⟨hcomment, _⟩ := List.forall₂_cons.mp hrest
  obtain ⟨subject, body, hoffered⟩ :=
    hcomment 102 .commented _ _ reportante rfl rfl rfl rfl rfl
  cases hoffered

end TicketSystem
