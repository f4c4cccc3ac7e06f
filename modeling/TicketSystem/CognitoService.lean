import TicketSystem.TicketsService

namespace TicketSystem

open Interleaved

/-- What an authorization code gives: the claims of the verified ID token as the service looks
at them (an email that is a string, groups that are an array), or the step that failed. -/
inductive CodeExchange where
  | notConfigured
  | unreachable
  | refused
  | noIdToken
  | invalidIdToken
  | claims (email : Option String) (groups : Option (List String))
  deriving DecidableEq, Repr

/-- The payload of a session token. -/
structure SessionToken where
  sub : Uuid
  iat : Int
  deriving DecidableEq, Repr

structure SessionUser where
  id : Uuid
  email : String
  role : Role
  deriving DecidableEq, Repr

structure SessionResult where
  token : SessionToken
  user : SessionUser
  deriving DecidableEq, Repr

def mapGroupsToRole (groups : Option (List String)) : Role :=
  let list := groups.getD []
  if list.contains "administrador" then .administrador
  else if list.contains "agente" then .agente
  else .reportante

def buildSession (user : User) : Service SessionResult := do
  let now : Time ← call .now
  pure { token := { sub := user.id, iat := now / 1000 }
         user := { id := user.id, email := user.email, role := user.role } }

/-- In the first login a row is inserted; later ones synchronise its role. -/
def upsertByEmail (email : String) (role : Role) : Service User :=
  call (.userUpsert email role (some role))

def exchangeCode : CodeExchange → Service SessionResult
  | .notConfigured => throwHttp (.serviceUnavailable "SSO (Cognito) no está configurado")
  | .unreachable => .throw .failed
  | .refused => throwHttp (.unauthorized "No se pudo intercambiar el código con Cognito")
  | .noIdToken => throwHttp (.unauthorized "Respuesta de Cognito sin id_token")
  | .invalidIdToken => throwHttp (.unauthorized "ID token de Cognito inválido")
  | .claims email groups =>
    match truthy email with
    | none => throwHttp (.unauthorized "El ID token de Cognito no incluye email")
    | some email => do
      let user ← upsertByEmail email (mapGroupsToRole groups)
      buildSession user

inductive AuthProvider where
  | mock | cognito
  deriving DecidableEq, Repr

def login (provider : AuthProvider) (email : String) : Service SessionResult :=
  match provider with
  | .cognito => throwHttp (.forbidden "Login por contraseña deshabilitado; usa SSO corporativo")
  | .mock => do
    let user : Option User ← call (.userFindByEmail email)
    match user with
    | none => throwHttp (.unauthorized "Credenciales inválidas")
    | some user => buildSession user

def createUser (data : UserCreate) : Service User := call (.userCreate data)

end TicketSystem
