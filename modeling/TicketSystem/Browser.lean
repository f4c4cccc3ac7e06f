import TicketSystem.Lib.Client
import TicketSystem.Refusals

namespace JsonText

/-- Whether there is a digit other than zero before the exponent. -/
def NumberText.nonzero (n : NumberText) : Bool :=
  (n.chars.takeWhile fun c => c ≠ 'e' && c ≠ 'E').any fun c => c.isDigit && c ≠ '0'

def Value.truthy : Value → Bool
  | .null => false
  | .bool b => b
  | .number n => n.nonzero
  | .string s => s ≠ ""
  | .array _ | .object _ => true

end JsonText

namespace TicketSystem

open Interleaved

/-- `Session`, as `AuthContext` has it in its state and `client` in the storage. -/
structure StoredSession where
  token : String
  user : JsonText.Value

def StoredSession.value (x : StoredSession) : JsonText.Value :=
  .object [("token", .string x.token), ("user", x.user)]

/-- What is stored of a session. -/
def StoredSession.text (x : StoredSession) : String := String.ofList (JsonText.stringify x.value)

def readSession (storage : Option String) : Option StoredSession := do
  let raw ← storage.filter (· ≠ "")
  let parsed ← JsonText.parse raw.toList
  let token ← (parsed.get? "token").bind JsonText.Value.string?
  let user ← (parsed.get? "user").filter JsonText.Value.truthy
  pure { token := token, user := user }

def Role.text : Role → String
  | .reportante => "reportante"
  | .agente => "agente"
  | .administrador => "administrador"

def SessionUser.value (user : SessionUser) : JsonText.Value :=
  .object [("id", .string user.id.text), ("email", .string user.email),
    ("role", .string user.role.text)]

/-- The `{ token, user }` of an answer. -/
def SessionResult.stored (r : SessionResult) : StoredSession where
  token := r.token.text
  user := r.user.value

/-- `roles.includes(session.user.role)` -/
def StoredSession.hasRole (x : StoredSession) (roles : List Role) : Bool :=
  ((x.user.get? "role").bind JsonText.Value.string?).any fun role =>
    roles.any fun r => r.text == role

/-! ### The routes -/

/-- The paths behind `RequireAuth`. -/
inductive GuardedPath where
  | home
  | tickets
  | nuevo
  | detail (id : String)
  | sla
  | reports
  deriving DecidableEq, Repr

/-- The path of the location, and of the login page the `from` of its state. -/
inductive Route where
  | login (origin : Option GuardedPath)
  | callback
  | guarded (path : GuardedPath)
  | unknown
  deriving DecidableEq, Repr

/-- The roles of a `RequireRole`. -/
def GuardedPath.roles : GuardedPath → Option (List Role)
  | .sla => some [.agente, .administrador]
  | .reports => some [.administrador]
  | _ => none

/-- Where the elements of a route navigate to instead of showing a page. -/
def Route.redirect? (session : Option StoredSession) : Route → Option Route
  | .login origin => session.map fun _ => .guarded (origin.getD .tickets)
  | .callback => none
  | .unknown => some (.guarded .tickets)
  | .guarded path =>
    match session with
    | none => some (.login (some path))
    | some x =>
      if path = .home then some (.guarded .tickets)
      else if path.roles.all x.hasRole then none
      else some (.guarded .tickets)

def Route.redirected (session : Option StoredSession) (route : Route) : Route :=
  (route.redirect? session).getD route

/-- Where a location ends up. -/
def Route.land (session : Option StoredSession) (route : Route) : Route :=
  (route.redirected session).redirected session

structure NavItem where
  target : GuardedPath
  roles : List Role

def NAV_ITEMS : List NavItem :=
  [⟨.tickets, [.reportante, .agente, .administrador]⟩,
    ⟨.nuevo, [.reportante, .agente, .administrador]⟩,
    ⟨.sla, [.agente, .administrador]⟩,
    ⟨.reports, [.administrador]⟩]

def Sidebar.items (session : Option StoredSession) : List NavItem :=
  NAV_ITEMS.filter fun item => session.any fun x => x.hasRole item.roles

/-! ### The calls of the pages -/

/-- A call with the document it was made in, and where a login goes on to. -/
structure BrowserCall where
  page : Nat
  headers : AuthHeaders
  handler : Handler
  next : GuardedPath := .tickets

/-- The session that a login or an exchange is answered with. -/
def BrowserCall.session? (call : BrowserCall) (reply : Reply) : Option StoredSession :=
  match call.handler, reply.body with
  | .login _, .served (.session r) => some r.stored
  | .exchange _, .served (.session r) => some r.stored
  | _, _ => none

/-- Whether a 401 clears the stored session: not if the call is made with `skipAuth`, nor in the
download of the report, which goes without the client. -/
def Handler.clears : Handler → Bool
  | .liveness | .config | .login _ | .exchange _ | .exportCsv _ => false
  | _ => true

/-- A document: the session in the state of its `AuthProvider`, its location, and whether the login
page is to be loaded in its place. -/
structure Tab where
  page : Nat
  session : Option StoredSession
  route : Route
  leaving : Bool := false

/-- The calls a document makes: through the client with the stored session, or with that of its
state, or with none. A page that is no longer shown may go on. -/
def Tab.call? (tab : Tab) (storage : Option String) (handler : Handler) : Option BrowserCall :=
  let plain : BrowserCall := { page := tab.page, headers := {}, handler := handler }
  match handler with
  | .liveness | .enqueue _ => none
  | .config => some plain
  | .login _ =>
    match tab.route with
    | .login origin => some { plain with next := origin.getD .tickets }
    | _ => none
  | .exchange _ => if tab.route = .callback then some plain else none
  | .exportCsv _ => tab.session.map fun x => { plain with headers := authorized x.token }
  | _ => some { plain with headers := (readSession storage).elim {} fun x => authorized x.token }

/-! ### The browser -/

/-- The tabs of one browser share its `localStorage`. -/
structure Browser where
  storage : Option String := none
  tabs : List Tab := []
  pages : Nat := 0

inductive BrowserAct where
  | visit (route : Route)
  | reload (i : Nat) (route : Route)
  | close (i : Nat)
  | navigate (i : Nat) (route : Route)
  | send (i : Nat) (handler : Handler)
  | logout (i : Nat)

namespace Browser

/-- The `AuthProvider` of a new document reads the storage. -/
def document (b : Browser) (route : Route) : Tab where
  page := b.pages
  session := readSession b.storage
  route := route.land (readSession b.storage)

def act (b : Browser) : BrowserAct → Option (Browser × List BrowserCall)
  | .visit route =>
    some ({ b with tabs := b.tabs ++ [b.document route], pages := b.pages + 1 }, [])
  | .reload i route =>
    (b.tabs[i]?).bind fun tab =>
      if tab.leaving = true ∧ route ≠ .login none then none
      else some ({ b with tabs := b.tabs.set i (b.document route), pages := b.pages + 1 }, [])
  | .close i => some ({ b with tabs := b.tabs.eraseIdx i }, [])
  | .navigate i route =>
    (b.tabs[i]?).map fun tab =>
      ({ b with tabs := b.tabs.set i { tab with route := route.land tab.session } }, [])
  | .send i handler =>
    (b.tabs[i]?).bind fun tab => (tab.call? b.storage handler).map fun call => (b, [call])
  | .logout i =>
    (b.tabs[i]?).map fun tab =>
      ({ b with storage := none
                tabs := b.tabs.set i { tab with session := none, route := .login none } }, [])

/-- `setSession`, and on to the page that was asked for. -/
def signIn (b : Browser) (i : Nat) (tab : Tab) (x : StoredSession) (next : GuardedPath) : Browser :=
  let route := Route.land (some x) (.guarded next)
  { b with storage := some x.text
           tabs := b.tabs.set i { tab with session := some x, route := route } }

/-- `clearSession`, and `location.assign('/login')` on any other page. -/
def expel (b : Browser) (i : Nat) (tab : Tab) : Browser :=
  { b with storage := none
           tabs := match tab.route with
            | .login _ => b.tabs
            | _ => b.tabs.set i { tab with leaving := true } }

/-- A document that is gone is told nothing. -/
def settle (b : Browser) (call : BrowserCall) (r : Except (Option Err) Reply) : Browser :=
  match b.tabs.findIdx? fun tab => tab.page == call.page with
  | none => b
  | some i =>
    (b.tabs[i]?).elim b fun tab =>
      match r with
      | .ok reply =>
        (call.session? reply).elim b fun x => b.signIn i tab x call.next
      | .error (some e) =>
        if e.status = 401 ∧ call.handler.clears = true then b.expel i tab else b
      | .error none => b

def ui : Ui Browser BrowserAct BrowserCall ApiCall Err Reply where
  act _ := act
  request call := .http call.headers call.handler
  settle _ b call r := (b.settle call r, [])

end Browser

/-- One browser with the calls of all its tabs, and the API. -/
abbrev BrowserSession := Client Browser BrowserCall Cmd Cmd.Res Err Reply ApiCall World

abbrev BrowserEvent := ClientMove BrowserAct ApiCall Oracle

def BrowserSession.next (auth : AuthConfig) (s : BrowserSession) (e : BrowserEvent) :
    Option BrowserSession :=
  Client.next Browser.ui ((api auth).program serve) Cmd.exec s e

end TicketSystem
