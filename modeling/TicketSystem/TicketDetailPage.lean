import TicketSystem.FormTexts
import TicketSystem.Json
import TicketSystem.Lib.Machine
import TicketSystem.QueuePage
import TicketSystem.Server

namespace TicketSystem

open Interleaved

/-- An entry of the property `attachments`. -/
inductive AttachmentJson where
  | string (s : String)
  | object (fields : List (String × JsonField))
  | other
  deriving DecidableEq, Repr

/-- A ticket as a response has it. The last three properties are undefined in most responses;
`attachments` also counts as undefined when it is no array. -/
structure TicketJson where
  ticket : Ticket
  attachments : Option (List AttachmentJson) := none
  slaStatus : Option (Option SlaStatus) := none
  slaOffByDays : Option (Option Int) := none
  deriving DecidableEq, Repr

def TicketWithAttachments.json (d : TicketWithAttachments) : TicketJson where
  ticket := d.ticket
  attachments := some (d.attachments.map fun a =>
    .object [("id", .string a.id.text), ("filename", .string a.filename)])
  slaStatus := some d.slaStatus
  slaOffByDays := some d.slaOffByDays

def Response.json? : Response → Option TicketJson
  | .detail d => some d.json
  | .ticket t => some { ticket := t }
  | _ => none

/-- The status of the exceptions; the filter catches no others, and they are answered with 500. -/
def HttpException.status : HttpException → Nat
  | .badRequest _ => 400
  | .unauthorized _ => 401
  | .forbidden _ => 403
  | .notFound _ => 404
  | .unprocessableEntity _ _ => 422
  | .conflict _ _ => 409
  | .serviceUnavailable _ => 503

def Err.status : Err → Nat
  | .http e => e.status
  | _ => 500

structure AttachmentItem where
  id : String
  filename : String
  deriving DecidableEq, Repr

def AttachmentJson.item? : AttachmentJson → Option AttachmentItem
  | .string s => some { id := s, filename := s }
  | .object fields =>
    let obj := Json.object fields
    match (obj.string? "id").or (obj.string? "attachmentId") with
    | none => none
    | some id =>
      if id = "" then none else some { id := id, filename := (obj.string? "filename").getD id }
  | .other => none

def extractAttachments (ticket : TicketJson) : List AttachmentItem :=
  (ticket.attachments.getD []).filterMap AttachmentJson.item?

/-- The text under "Estado SLA (servidor)"; undefined is not null. -/
def slaStatusLabel : Option (Option SlaStatus) → String
  | some none => "—"
  | some (some .vencido) => "vencido"
  | some (some .aTiempo) => "a tiempo"
  | none => "a tiempo"

/-- No comparison holds of undefined, and its negation is `NaN`. -/
def slaOffByDaysLabel : Option (Option Int) → String
  | some none => "—"
  | some (some days) =>
    if days = 0 then "vence hoy"
    else if 0 < days then
      "vencido por " ++ toString days ++ " día" ++ (if days = 1 then "" else "s")
    else "faltan " ++ toString (-days) ++ " día" ++ (if -days = 1 then "" else "s")
  | none => "faltan NaN días"

inductive ActionCall where
  | assignTicket (ticketId : Uuid) (body : AssignTicketDto)
  | changeState (ticketId : Uuid) (body : ChangeStateRequest)
  deriving DecidableEq, Repr

/-- The load of an effect, the action of a `run` with the id that its `onConflictRefetch` has
captured, or that refetch. `mount` tells which of the panels mounted so far it is of. -/
inductive PageCall where
  | load (id : Uuid)
  | run (action : ActionCall) (mount : Nat) (refetchId : Uuid)
  | refetch (id : Uuid) (mount : Nat)
  deriving DecidableEq, Repr

/-- Where a call is; a body is refused when its texts are too short for the server. -/
inductive Flight where
  | sent
  | refused
  | served (i : Nat)
  | settled
  deriving DecidableEq, Repr

structure Call where
  call : PageCall
  flight : Flight := .sent
  deriving DecidableEq, Repr

def PageCall.mount? : PageCall → Option Nat
  | .load _ => none
  | .run _ mount _ => some mount
  | .refetch _ mount => some mount

def PageCall.request? (user : User) : PageCall → Option Request
  | .load id => some (.getForUser id user)
  | .refetch id _ => some (.getForUser id user)
  | .run (.assignTicket ticketId body) _ _ => some (.assign ticketId body user)
  | .run (.changeState ticketId body) _ _ =>
    if h : body.TextRules then some (.changeState ticketId (body.validate h) user) else none

/-- The call that follows the answer of another: the refetch after a conflict. -/
def PageCall.next : PageCall → Except ClientError TicketJson → List Call
  | .run _ mount refetchId, .error (.api 409) => [{ call := .refetch refetchId mount }]
  | _, _ => []

/-! ### The panel of actions -/

structure ActionsPanel where
  form : ResolveForm := {}
  busy : Bool := false
  error : Option ClientError := none
  conflictNotice : Bool := false
  deriving DecidableEq, Repr

def canChangeState (ticket : Ticket) (user : User) : Bool :=
  user.role == .administrador || ticket.assigneeId == some user.id

def showAssignMe (ticket : Ticket) : Bool := ticket.status == .abierto && ticket.assigneeId.isNone

def showStartWork (ticket : Ticket) : Bool := ticket.status == .abierto && ticket.assigneeId.isSome

def showResolveForm (ticket : Ticket) (user : User) : Bool :=
  ticket.status == .enProgreso || (ticket.status == .abierto && user.role == .administrador)

inductive PanelButton where
  | assignMe
  | startWork
  | resolve
  deriving DecidableEq, Repr

/-- What a button asks for, when it is there and enabled. -/
def ActionsPanel.action? (p : ActionsPanel) (ticket : Ticket) (user : User) :
    PanelButton → Option ActionCall
  | .assignMe =>
    if showAssignMe ticket && !p.busy then
      some (.assignTicket ticket.id { assigneeId := user.id, expectedVersion := ticket.version })
    else none
  | .startWork =>
    if showStartWork ticket && !p.busy && canChangeState ticket user then
      some (.changeState ticket.id
        { targetState := .enProgreso, expectedVersion := ticket.version })
    else none
  | .resolve =>
    if showResolveForm ticket user && !p.busy && canChangeState ticket user &&
        p.form.resolveValid then
      some (.changeState ticket.id (p.form.body ticket.version))
    else none

/-- `run` as far as its `await`. -/
def ActionsPanel.run (p : ActionsPanel) : ActionsPanel :=
  { p with busy := true, error := none, conflictNotice := false }

/-- The rest of `run`; it stays busy until the refetch is over. -/
def ActionsPanel.settle (p : ActionsPanel) : PageCall → Except ClientError TicketJson → ActionsPanel
  | .load _, _ => p
  | .run _ _ _, .ok _ => { p with form := {}, busy := false }
  | .run _ _ _, .error (.api 409) => { p with conflictNotice := true }
  | .run _ _ _, .error err => { p with error := some err, busy := false }
  | .refetch _ _, _ => { p with busy := false }

/-! ### The page -/

inductive TabId where
  | detalle | historial | comentarios | adjuntos
  deriving DecidableEq, Repr

/-- The id in the URL and the state of `TicketDetailPage`, its tab apart. `effect` is the call of
the last effect; the loads of the effects before it are cancelled. -/
structure TicketDetailPage where
  id : Uuid
  ticket : Option TicketJson := none
  loading : Bool := true
  error : Option ClientError := none
  effect : Nat := 0
  deriving DecidableEq, Repr

def TicketDetailPage.visible (p : TicketDetailPage) : Bool := !p.loading && p.error.isNone

def TicketDetailPage.ticket? (p : TicketDetailPage) : Option TicketJson :=
  if p.visible then p.ticket else none

/-- The URL has another id, and the effect runs again. The ticket stays. -/
def TicketDetailPage.navigate (p : TicketDetailPage) (id : Uuid) (effect : Nat) :
    TicketDetailPage :=
  { p with id := id, loading := true, error := none, effect := effect }

/-- Call `i` is answered. What `onTicketUpdated` and `refetch` store is stored whatever the page
has come to show by then. -/
def TicketDetailPage.settle (p : TicketDetailPage) (i : Nat) :
    PageCall → Except ClientError TicketJson → TicketDetailPage
  | .load _, .ok t => if i = p.effect then { p with ticket := some t, loading := false } else p
  | .load _, .error err =>
    if i = p.effect then { p with error := some err, loading := false } else p
  | .run _ _ _, .ok t => { p with ticket := some t }
  | .run _ _ _, .error _ => p
  | .refetch _ _, .ok t => { p with ticket := some t }
  | .refetch _ _, .error _ => p

/-! ### The page, the network and the server together -/

/-- One page that stays mounted, with its panel and its calls, oldest first, and the server.
`received` has the versions of the responses for the ticket of the URL since the last
navigation; it is recorded only. -/
structure DetailSession where
  user : User
  opened : Time
  page : TicketDetailPage
  activeTab : TabId := .detalle
  panel : ActionsPanel := {}
  mount : Nat := 0
  calls : List Call
  received : List Nat := []
  server : Server

/-- A call is delivered once, and answered or given up by the browser once. -/
inductive DetailEvent where
  | navigate (id : Uuid)
  | select (tab : TabId)
  | edit (form : ResolveForm)
  | press (button : PanelButton)
  | deliver (i : Nat)
  | answer (i : Nat)
  | fail (i : Nat)
  | server (m : Action)

/-- The ticket of the panel, while it is on the page. -/
def DetailSession.panelTicket? (s : DetailSession) : Option Ticket :=
  if s.activeTab = .detalle ∧ s.user.role ≠ .reportante then s.page.ticket?.map (·.ticket) else none

def DetailSession.outcome? (s : DetailSession) (c : Call) :
    Option (Except ClientError TicketJson) :=
  match c.flight with
  | .refused => some (.error (.api 400))
  | .served n =>
    match (s.server.threads[n]?).bind Thread.result? with
    | some (.ok v) => v.json?.map .ok
    | some (.error e) => some (.error (.api e.status))
    | none => none
  | .sent => none
  | .settled => none

def DetailSession.fly (s : DetailSession) (i : Nat) (c : Call) (f : Flight) : DetailSession :=
  { s with calls := s.calls.set i { c with flight := f } }

/-- The version of a response, when it is for the ticket of the URL. -/
def TicketDetailPage.news (p : TicketDetailPage) : Except ClientError TicketJson → List Nat
  | .ok t => if t.ticket.id = p.id then [t.ticket.version] else []
  | .error _ => []

def DetailSession.settle (s : DetailSession) (i : Nat) (c : Call)
    (r : Except ClientError TicketJson) : DetailSession :=
  { s with
    page := s.page.settle i c.call r
    panel := if c.call.mount? = some s.mount then s.panel.settle c.call r else s.panel
    calls := s.calls.set i { c with flight := .settled } ++ c.call.next r
    received := s.received ++ s.page.news r }

def DetailSession.next (s : DetailSession) : DetailEvent → Option DetailSession
  | .navigate id =>
    if id = s.page.id then some s
    else
      -- the page shows its spinner, and the panel is unmounted
      some { s with page := s.page.navigate id s.calls.length, panel := {}, mount := s.mount + 1
                    calls := s.calls ++ [{ call := .load id }], received := [] }
  | .select tab =>
    if s.page.ticket?.isNone then none
    else if tab = .detalle then some { s with activeTab := tab }
    else some { s with activeTab := tab, panel := {}, mount := s.mount + 1 }
  | .edit form =>
    match s.panelTicket? with
    | some ticket =>
      if showResolveForm ticket s.user && !s.panel.busy && canChangeState ticket s.user then
        some { s with panel := { s.panel with form := form } }
      else none
    | none => none
  | .press button =>
    (s.panelTicket?.bind fun ticket => s.panel.action? ticket s.user button).map fun action =>
      { s with panel := s.panel.run
               calls := s.calls ++ [{ call := .run action s.mount s.page.id }] }
  | .deliver i =>
    match s.calls[i]? with
    | some { call, flight := .sent } =>
      match call.request? s.user with
      | none => some (s.fly i { call := call } .refused)
      | some q =>
        (s.server.next serve Cmd.exec (.arrive q)).map fun server =>
          { s.fly i { call := call } (.served s.server.threads.length) with server := server }
    | _ => none
  | .answer i =>
    match s.calls[i]? with
    | some c => (s.outcome? c).map fun r => s.settle i c r
    | none => none
  | .fail i =>
    match s.calls[i]? with
    | some c => if c.flight = .settled then none else some (s.settle i c (.error .network))
    | none => none
  | .server m => (s.server.next serve Cmd.exec m).map fun server => { s with server := server }

/-- The page as it is mounted: its effect loads at once. -/
def DetailSession.mounted (user : User) (opened : Time) (id : Uuid) (server : Server) :
    DetailSession where
  user := user
  opened := opened
  page := { id := id }
  calls := [{ call := .load id }]
  server := server

end TicketSystem
