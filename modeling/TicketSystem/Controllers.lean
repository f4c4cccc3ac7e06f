import TicketSystem.Lib.Gate
import TicketSystem.SessionTokens

namespace TicketSystem

open Relational Interleaved

structure CognitoConfig where
  userPoolId : String
  clientId : String
  domain : String
  redirectUri : String
  logoutUri : Option String
  region : Option String
  deriving DecidableEq, Repr

structure PublicCognitoConfig where
  domain : String
  clientId : String
  redirectUri : String
  logoutUri : Option String
  scope : String
  deriving DecidableEq, Repr

structure PublicAuthConfig where
  provider : AuthProvider
  cognito : Option PublicCognitoConfig
  deriving DecidableEq, Repr

def OAUTH_SCOPE : String := "openid email profile"

/-- The `auth` part of the configuration. -/
structure AuthConfig where
  provider : AuthProvider := .mock
  cognito : Option CognitoConfig := none
  deriving DecidableEq, Repr

def getPublicConfig (auth : AuthConfig) : PublicAuthConfig where
  provider := auth.provider
  cognito := auth.cognito.map fun c =>
    { domain := c.domain, clientId := c.clientId, redirectUri := c.redirectUri,
      logoutUri := c.logoutUri, scope := OAUTH_SCOPE }

/-! ### The calls -/

structure LoginDto where
  email : String
  password : String
  passwordLength : 1 ≤ validatorLength password
  deriving DecidableEq, Repr

structure CreateCommentDto where
  message : String
  messageLength : 1 ≤ validatorLength message
  deriving DecidableEq, Repr

/-- The methods of the controllers, with what the caller sends. A body or a query is what the
validation makes of it, nothing if a rule is broken; an authorization code is what it gives.
`readiness`, which asks the database for no row, is left out. -/
inductive Handler where
  | liveness
  | config
  | login (dto : Option LoginDto)
  | exchange (dto : Option CodeExchange)
  | me
  | create (dto : Option CreateTicketDto) (idempotencyKey : Option String)
  | list (query : Option ListTicketsQuery)
  | events (id : String) (query : Option ListEventsQuery)
  | getOne (id : String)
  | assign (id : String) (dto : Option AssignTicketDto)
  | changeState (id : String) (dto : Option ChangeStateDto)
  | addComment (id : String) (dto : Option CreateCommentDto)
  | createUpload (dto : Option CreateAttachmentDto)
  | download (id : String)
  | exportCsv (query : Option ReportQuery)
  | enqueue (body : Json)

/-- `@Public()` -/
def Handler.isPublic : Handler → Bool
  | .liveness | .config | .login _ | .exchange _ => true
  | _ => false

/-- `@RequireRole(...)` -/
def Handler.requiredRoles : Handler → Option (List Role)
  | .assign _ _ | .changeState _ _ => some [.agente, .administrador]
  | .exportCsv _ => some [.administrador]
  | _ => none

/-- What runs on the services besides the calls: the sweep of the escalation worker, the polls of
the consumer, and the turns of the loop of an export after its first. -/
inductive Job where
  | sweep (now : Time)
  | poll (z : Zod) (batchSize : Nat)
  | exportTurn (call : Nat) (query : ReportQuery) (cursor : Uuid)

def Job.request : Job → Request
  | .sweep now => .sweep now
  | .poll z batchSize => .poll z batchSize
  | .exportTurn _ query cursor => .streamBatch query (some cursor)

inductive ApiCall where
  | http (headers : AuthHeaders) (handler : Handler)
  | job (work : Job)

inductive ReplyBody where
  | alive
  | config (c : PublicAuthConfig)
  | me (user : SessionUser)
  | served (v : Response)
  deriving DecidableEq, Repr

structure Reply where
  status : Nat
  location : Option String := none
  body : ReplyBody
  deriving DecidableEq, Repr

/-- The status of a method: what `@HttpCode` says, or 201 for a POST and 200 for the others. -/
def Handler.status : Handler → Nat
  | .create _ _ | .assign _ _ | .addComment _ _ | .createUpload _ => 201
  | .enqueue _ => 202
  | _ => 200

/-- What is made of the answer of the service; `create` sets the status and a header itself. -/
def ApiCall.reply (call : ApiCall) (v : Response) : Reply :=
  match call, v with
  | .http _ _, .created r =>
    { status := if r.created then 201 else 200
      location := some ("/v1/tickets/" ++ r.ticket.ticketNumber)
      body := .served v }
  | .http _ handler, v => { status := handler.status, body := .served v }
  | .job _, v => { status := 200, body := .served v }

def RolesGuard.canActivate (required : Option (List Role)) (user : Option User) : Except Err Unit :=
  match required with
  | none | some [] => .ok ()
  | some required =>
    if user.any (fun u => required.contains u.role) then .ok ()
    else .error (.http (.forbidden "Rol insuficiente para esta operación"))

/-- `ParseUUIDPipe` -/
def parseUuid (id : String) : Except Err Uuid :=
  match Uuid.parse? id with
  | some id => .ok id
  | none => .error (.http (.badRequest "Validation failed (uuid is expected)"))

/-- `ValidationPipe`; the list of the broken rules is not modelled. -/
def validated {α : Type} (dto : Option α) : Except Err α :=
  match dto with
  | some dto => .ok dto
  | none => .error (.http (.badRequest "Bad Request Exception"))

/-- `@CurrentUser()`; without one the service fails when it looks at the user. -/
def currentUser (user : Option User) : Except Err User :=
  match user with
  | some user => .ok user
  | none => .error .failed

/-- A method up to its call of the service. -/
def Handler.handle (auth : AuthConfig) (user : Option User) :
    Handler → Except Err (Entrance Reply Request)
  | .liveness => .ok (.answers { status := 200, body := .alive })
  | .config => .ok (.answers { status := 200, body := .config (getPublicConfig auth) })
  | .login dto => do
    let dto ← validated dto
    pure (.enters (.login auth.provider dto.email))
  | .exchange dto => do
    let dto ← validated dto
    pure (.enters (.exchangeCode dto))
  | .me => do
    let user ← currentUser user
    pure (.answers { status := 200,
                     body := .me { id := user.id, email := user.email, role := user.role } })
  | .create dto idempotencyKey => do
    let dto ← validated dto
    let user ← currentUser user
    pure (.enters (.create dto user idempotencyKey))
  | .list query => do
    let query ← validated query
    let user ← currentUser user
    pure (.enters (.list query user))
  | .events id query => do
    let id ← parseUuid id
    let query ← validated query
    let user ← currentUser user
    pure (.enters (.events id query user))
  | .getOne id => do
    let id ← parseUuid id
    let user ← currentUser user
    pure (.enters (.getForUser id user))
  | .assign id dto => do
    let id ← parseUuid id
    let dto ← validated dto
    let user ← currentUser user
    pure (.enters (.assign id dto user))
  | .changeState id dto => do
    let id ← parseUuid id
    let dto ← validated dto
    let user ← currentUser user
    pure (.enters (.changeState id dto user))
  | .addComment id dto => do
    let id ← parseUuid id
    let dto ← validated dto
    let user ← currentUser user
    pure (.enters (.addComment id user dto.message))
  | .createUpload dto => do
    let dto ← validated dto
    let user ← currentUser user
    pure (.enters (.createUpload dto user))
  | .download id => do
    let id ← parseUuid id
    let user ← currentUser user
    pure (.enters (.getDownload id user))
  | .exportCsv query => do
    let query ← validated query
    pure (.enters (.streamBatch query none))
  | .enqueue body => .ok (.enters (.enqueue body))

/-- A call up to its call of the service: `JwtAuthGuard`, then `RolesGuard`, then the pipes. -/
def ApiCall.front (auth : AuthConfig) : ApiCall → Service (Entrance Reply Request)
  | .http headers handler => do
    let user ← canActivate handler.isPublic headers
    Service.ofExcept (RolesGuard.canActivate handler.requiredRoles user)
    Service.ofExcept (handler.handle auth user)
  | .job work => pure (.enters work.request)

def api (auth : AuthConfig) : Gate Cmd Cmd.Res Err Response Reply ApiCall Request where
  front := ApiCall.front auth
  reply := ApiCall.reply

abbrev ApiThread := Thread Cmd Cmd.Res Err Reply ApiCall

abbrev ApiServer := Pool Cmd Cmd.Res Err Reply ApiCall World

abbrev ApiRun (auth : AuthConfig) (ok : ApiServer → Move ApiCall Oracle → Prop) :
    ApiServer → ApiServer → Prop :=
  Reach ((api auth).program serve) Cmd.exec ok

def ApiCall.exports? : ApiCall → Option ReportQuery
  | .http _ (.exportCsv query) => query
  | .job (.exportTurn _ query _) => some query
  | _ => none

/-- A turn of an export follows on one that was answered with a full batch. -/
def ExportsFollow (s : ApiServer) : Move ApiCall Oracle → Prop
  | .arrive (.job (.exportTurn n query cursor)) => ∃ (x : ApiThread) (reply : Reply) (p : Page Row),
      s.threads[n]? = some x ∧ x.request.exports? = some query ∧ x.result? = some (.ok reply) ∧
      reply.body = .served (.batch p) ∧ p.nextCursor = some cursor
  | _ => True

end TicketSystem
