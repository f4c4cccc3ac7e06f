import TicketSystem.Dto
import TicketSystem.Lib.JsonText
import TicketSystem.Lib.PercentEncoding
import TicketSystem.Lib.Url

namespace TicketSystem

structure Env where
  SECRET_ARN : Option String := none
  DATABASE_URL : Option String := none
  AWS_REGION : Option String := none
  DB_HOST : Option String := none
  DB_PORT : Option String := none
  DB_NAME : Option String := none
  deriving DecidableEq, Repr

/-- An error the loader throws, or one of what it calls. -/
inductive LoadError where
  | error (message : String)
  | typeError
  | sdk (name : String)
  deriving DecidableEq, Repr

structure GetSecretValueOutput where
  SecretString : Option String := none
  deriving DecidableEq, Repr

/-- How the language takes a value that is not a string: whether it counts as true, and its text
where that does not throw. -/
structure Coercion where
  truthy : JsonText.Value → Bool
  text? : JsonText.Value → Option String

def encodeURIComponent (s : String) : String := String.ofList (PercentEncoding.encode s.toList)

def Coercion.present (coercion : Coercion) : Option JsonText.Value → Option JsonText.Value
  | some (.string s) => if s = "" then none else some (.string s)
  | some v => if coercion.truthy v then some v else none
  | none => none

def Coercion.encodeURIComponent (coercion : Coercion) : JsonText.Value → Except LoadError String
  | .string s => .ok (TicketSystem.encodeURIComponent s)
  | v =>
    match coercion.text? v with
    | some s => .ok (TicketSystem.encodeURIComponent s)
    | none => .error .typeError

def databaseUrl (user pass host port dbName : String) : String :=
  "postgresql://" ++ user ++ ":" ++ pass ++ "@" ++ host ++ ":" ++ port ++ "/" ++ dbName ++
    "?schema=public"

section

variable (coercion : Coercion) (send : String → String → Except LoadError GetSecretValueOutput)

/-- What follows once the secret is read. -/
def composeDatabaseUrl (env : Env) (secretArn : String) (parsed : JsonText.Value) :
    Except LoadError Env :=
  match parsed with
  -- null has no properties to take apart
  | .null => .error .typeError
  | parsed =>
    match coercion.present (parsed.get? "username"), coercion.present (parsed.get? "password") with
    | some username, some password =>
      match truthy env.DB_HOST, truthy env.DB_NAME with
      | some host, some dbName => do
        let user ← coercion.encodeURIComponent username
        let pass ← coercion.encodeURIComponent password
        let port := env.DB_PORT.getD "5432"
        .ok { env with DATABASE_URL := some (databaseUrl user pass host port dbName) }
      | _, _ => .error (.error ("DB_HOST y DB_NAME deben estar definidos en el entorno " ++
          "(ConfigMap) para componer DATABASE_URL."))
    | _, _ => .error (.error ("El secret " ++ secretArn ++
        " debe contener \"username\" y \"password\"."))

def loadSecretIntoEnv (env : Env) : Except LoadError Env :=
  match truthy env.SECRET_ARN with
  | none => .ok env
  | some secretArn =>
    match truthy env.DATABASE_URL with
    | some _ => .ok env
    | none => do
      let response ← send (env.AWS_REGION.getD "us-east-1") secretArn
      match truthy response.SecretString with
      | none => .error (.error ("El secret " ++ secretArn ++
          " no contiene SecretString (¿es binario?)."))
      | some secretString =>
        match JsonText.parse secretString.toList with
        | none => .error (.error ("El SecretString de " ++ secretArn ++ " no es JSON válido."))
        | some parsed => composeDatabaseUrl coercion env secretArn parsed

/-! ### The URL it composes -/

/-- The credentials of the secret and where the environment says the database is. -/
structure Composes (env : Env) (username password host port dbName : String) : Prop where
  unset : truthy env.DATABASE_URL = none
  secret : ∃ secretArn secretString parsed, truthy env.SECRET_ARN = some secretArn ∧
    send (env.AWS_REGION.getD "us-east-1") secretArn = .ok ⟨some secretString⟩ ∧
    JsonText.parse secretString.toList = some parsed ∧
    parsed.get? "username" = some (.string username) ∧
    parsed.get? "password" = some (.string password)
  username : username ≠ ""
  password : password ≠ ""
  host : truthy env.DB_HOST = some host
  port : env.DB_PORT.getD "5432" = port
  dbName : truthy env.DB_NAME = some dbName

end

def Undelimited (s : String) : Prop := ∀ c ∈ [':', '/', '@', '?', '#'], c ∉ s.toList

instance (s : String) : Decidable (Undelimited s) := List.decidableBAll _ _

def postgresql : List Char := "postgresql".toList

def schemaPublic : List Char := "schema=public".toList

/-- Split and decoded, the URL says what it was composed from; its authority has one `@`, so that
the host is the same wherever the userinfo is taken to end. -/
structure CredentialsSurvive (url username password host port dbName : String) : Prop where
  split : ∃ parts, Url.split url.toList = some parts ∧ parts.scheme = postgresql ∧
    PercentEncoding.decode parts.username = username.toList ∧
    PercentEncoding.decode parts.password = password.toList ∧
    parts.host = host.toList ∧ parts.port = port.toList ∧ parts.path = dbName.toList ∧
    parts.query = schemaPublic
  authority : ∃ userinfo, Url.authority? url.toList =
    some (userinfo ++ '@' :: (host.toList ++ ':' :: port.toList)) ∧ '@' ∉ userinfo

def databaseParts (user pass host port dbName : String) : Url.Parts where
  scheme := postgresql
  username := user.toList
  password := pass.toList
  host := host.toList
  port := port.toList
  path := dbName.toList
  query := schemaPublic

theorem databaseUrl_toList (user pass host port dbName : String) :
    (databaseUrl user pass host port dbName).toList =
      (databaseParts user pass host port dbName).text := by
  have hscheme : "postgresql://".toList = postgresql ++ [':', '/', '/'] := by decide
  have hquery : "?schema=public".toList = '?' :: schemaPublic := by decide
  have hmarks : ":".toList = [':'] ∧ "@".toList = ['@'] ∧ "/".toList = ['/'] := by decide
  unfold databaseUrl databaseParts Url.Parts.text Url.Parts.authority
  simp only [String.toList_append]
  rw [hscheme, hquery, hmarks.1, hmarks.2.1, hmarks.2.2]
  simp only [List.append_assoc, List.cons_append, List.nil_append]

theorem decode_encodeURIComponent (s : String) :
    PercentEncoding.decode (encodeURIComponent s).toList = s.toList := by
  rw [encodeURIComponent, String.toList_ofList, PercentEncoding.decode_encode]

theorem undelimited_encodeURIComponent (s : String) : Undelimited (encodeURIComponent s) := by
  intro c hc
  have hescaped : ∀ d ∈ [':', '/', '@', '?', '#'], PercentEncoding.unreserved d = false ∧
      d ≠ '%' := by
    simp only [List.mem_cons, List.not_mem_nil, or_false]
    rintro d (rfl | rfl | rfl | rfl | rfl) <;> decide
  obtain ⟨hun, hne⟩ := hescaped c hc
  rw [encodeURIComponent, String.toList_ofList]
  exact PercentEncoding.notMem_encode hun hne s.toList

theorem Undelimited.endsAuthority {s : String} (h : Undelimited s) :
    ∀ c ∈ s.toList, Url.endsAuthority c = false := by
  intro c hc
  have hne : ∀ d ∈ [':', '/', '@', '?', '#'], c ≠ d := by
    rintro d hd rfl
    exact h c hd hc
  have hslash := hne '/' (by simp)
  have hquestion := hne '?' (by simp)
  have hhash := hne '#' (by simp)
  simp [Url.endsAuthority, hslash, hquestion, hhash]

section

variable {user pass username password host port dbName : String}

theorem databaseParts_separable (huser : Undelimited user) (hpass : Undelimited pass)
    (hhost : Undelimited host) (hport : Undelimited port) (hdbName : Undelimited dbName) :
    (databaseParts user pass host port dbName).Separable where
  scheme := (by decide : ':' ∉ postgresql)
  username := ⟨huser ':' (by simp), huser '@' (by simp)⟩
  password := hpass '@' (by simp)
  host := ⟨hhost ':' (by simp), hhost '/' (by simp)⟩
  port := hport '/' (by simp)
  path := hdbName '?' (by simp)

theorem databaseParts_authority (huser : Undelimited user) (hpass : Undelimited pass)
    (hhost : Undelimited host) (hport : Undelimited port) (dbName : String) :
    ∀ c ∈ (databaseParts user pass host port dbName).authority, Url.endsAuthority c = false := by
  intro c hc
  simp only [Url.Parts.authority, databaseParts, List.mem_append, List.mem_cons] at hc
  rcases hc with hc | rfl | hc | rfl | hc | rfl | hc
  · exact huser.endsAuthority c hc
  · rfl
  · exact hpass.endsAuthority c hc
  · rfl
  · exact hhost.endsAuthority c hc
  · rfl
  · exact hport.endsAuthority c hc

theorem databaseUrl_survives (username password : String) (hhost : Undelimited host)
    (hport : Undelimited port) (hdbName : Undelimited dbName) :
    CredentialsSurvive (databaseUrl (encodeURIComponent username) (encodeURIComponent password) host
      port dbName) username password host port dbName := by
  have huser := undelimited_encodeURIComponent username
  have hpass := undelimited_encodeURIComponent password
  have hseparable := databaseParts_separable huser hpass hhost hport hdbName
  have hauthority := Url.authority?_text hseparable.scheme
    (databaseParts_authority huser hpass hhost hport dbName)
  constructor
  · rw [databaseUrl_toList]
    exact ⟨_, Url.split_text hseparable, rfl, decode_encodeURIComponent _,
      decode_encodeURIComponent _, rfl, rfl, rfl, rfl⟩
  · refine ⟨(encodeURIComponent username).toList ++ ':' :: (encodeURIComponent password).toList,
      ?_, ?_⟩
    · rw [databaseUrl_toList, hauthority]
      simp [Url.Parts.authority, databaseParts]
    · simp [huser '@' (by simp), hpass '@' (by simp)]

/-- The loader composes the URL from the credentials of the secret. -/
theorem loadSecretIntoEnv_composes {coercion : Coercion}
    {send : String → String → Except LoadError GetSecretValueOutput} {env : Env}
    (h : Composes send env username password host port dbName) :
    loadSecretIntoEnv coercion send env = .ok { env with
      DATABASE_URL := some (databaseUrl (encodeURIComponent username) (encodeURIComponent password)
        host port dbName) } := by
  obtain ⟨secretArn, secretString, parsed, harn, hsend, hparse, husername, hpassword⟩ := h.secret
  have hstring : truthy (some secretString) = some secretString := by
    refine truthy_eq_some.mpr ⟨rfl, ?_⟩
    rintro rfl
    cases hparse
  have hpresent : ∀ s : String, s ≠ "" →
      coercion.present (some (.string s)) = some (.string s) := fun s hs => if_neg hs
  have hcompose : loadSecretIntoEnv coercion send env =
      composeDatabaseUrl coercion env secretArn parsed := by
    simp only [loadSecretIntoEnv, harn, h.unset, hsend, bind, Except.bind, hstring, hparse]
  cases parsed with
  | object fields =>
    rw [hcompose]
    simp only [composeDatabaseUrl, husername, hpassword, hpresent _ h.username,
      hpresent _ h.password, h.host, h.dbName, h.port]
    rfl
  | _ => cases husername

end

theorem credentials_survive {coercion : Coercion}
    {send : String → String → Except LoadError GetSecretValueOutput} {env : Env}
    {username password host port dbName : String}
    (h : Composes send env username password host port dbName) (hhost : Undelimited host)
    (hport : Undelimited port) (hdbName : Undelimited dbName) :
    ∃ url, loadSecretIntoEnv coercion send env = .ok { env with DATABASE_URL := some url } ∧
      CredentialsSurvive url username password host port dbName :=
  ⟨_, loadSecretIntoEnv_composes h, databaseUrl_survives username password hhost hport hdbName⟩

namespace Sample

def configMap : Env where
  SECRET_ARN := some "arn:secret"
  DB_HOST := some "db.internal"
  DB_NAME := some "tickets"

/-- The secret of a user whose password has delimiters of the URL in it. -/
def secretsManager (_region _secretArn : String) : Except LoadError GetSecretValueOutput :=
  .ok ⟨some "\x7b\"username\":\"user\",\"password\":\"p@ss/wórd\"\x7d"⟩

theorem configMap_composes :
    Composes secretsManager configMap "user" "p@ss/wórd" "db.internal" "5432" "tickets" where
  unset := rfl
  secret := by
    refine ⟨"arn:secret", _, .object [("username", .string "user"),
      ("password", .string "p@ss/wórd")], rfl, rfl, ?_, rfl, rfl⟩
    rfl
  username := by decide
  password := by decide
  host := rfl
  port := rfl
  dbName := rfl

end Sample

open Sample in
theorem credentials_survive_delimiters : ∃ url,
    loadSecretIntoEnv ⟨fun _ => true, fun _ => none⟩ secretsManager configMap =
      .ok { configMap with DATABASE_URL := some url } ∧
    CredentialsSurvive url "user" "p@ss/wórd" "db.internal" "5432" "tickets" :=
  credentials_survive configMap_composes (by decide) (by decide) (by decide)

end TicketSystem
