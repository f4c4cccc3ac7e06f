import TicketSystem.Schema
import TicketSystem.Uuid

namespace TicketSystem

/-- The `string | string[]` of a header, and of the messages of an exception. -/
inductive OneOrMany where
  | one (s : String)
  | many (ss : List String)
  deriving DecidableEq, Repr

abbrev Headers := List (String × OneOrMany)

structure HttpRequest where
  method : String
  url : String
  headers : Headers
  requestId : Option String := none
  deriving DecidableEq, Repr

/-- The JSON of an error, by RFC 9457. -/
structure Problem where
  type : String
  title : String
  status : Nat
  detail : Option OneOrMany
  instance_ : String
  request_id : OneOrMany
  timestamp : Time
  deriving DecidableEq, Repr

structure HttpResponse where
  headers : Headers := []
  status : Nat := 200
  json : Option Problem := none
  deriving DecidableEq, Repr

/-- A header that is set again replaces what it was. -/
def HttpResponse.setHeader (res : HttpResponse) (name : String) (value : OneOrMany) :
    HttpResponse :=
  { res with headers := (name, value) :: res.headers.filter (·.1 ≠ name) }

def REQUEST_ID_HEADER : String := "x-request-id"

/-! ### The middleware -/

/-- The value the middleware keeps; an empty string counts as none. -/
def incomingId (incoming : Option OneOrMany) : Option String :=
  (match incoming with
    | some (.many ss) => ss.head?
    | some (.one s) => some s
    | none => none).filter (· ≠ "")

def RequestIdMiddleware.use (randomUUID : Uuid) (req : HttpRequest) (res : HttpResponse) :
    HttpRequest × HttpResponse :=
  let id := (incomingId (req.headers.lookup REQUEST_ID_HEADER)).getD randomUUID.text
  ({ req with requestId := some id }, res.setHeader REQUEST_ID_HEADER (.one id))

/-! ### The filter -/

def problemType (status : Nat) : String :=
  match status with
  | 400 => "validation-error"
  | 401 => "unauthorized"
  | 403 => "forbidden"
  | 404 => "not-found"
  | 409 => "conflict"
  | 422 => "unprocessable"
  | status => if 500 ≤ status then "internal-error" else "about:blank"

structure ExceptionBody where
  message : Option OneOrMany := none
  type : Option String := none
  detail : Option OneOrMany := none
  deriving DecidableEq, Repr

inductive ExceptionResponse where
  | string (s : String)
  | object (body : ExceptionBody)
  deriving DecidableEq, Repr

def ExceptionResponse.body : ExceptionResponse → ExceptionBody
  | .string s => { detail := some (.one s) }
  | .object body => body

/-- An `HttpException` of the framework, of any kind. -/
structure CaughtException where
  status : Nat
  message : String
  response : ExceptionResponse
  deriving DecidableEq, Repr

structure LogEntry where
  request_id : OneOrMany
  method : String
  path : String
  statusCode : Nat
  message : Option OneOrMany
  deriving DecidableEq, Repr

/-- What is logged, and the response. -/
def HttpExceptionFilter.catch_ (randomUUID : Uuid) (now : Time) (exception : CaughtException)
    (request : HttpRequest) (response : HttpResponse) : LogEntry × HttpResponse :=
  let status := exception.status
  let requestId := (request.headers.lookup "x-request-id").getD (.one randomUUID.text)
  let body := exception.response.body
  let detail := body.detail.or body.message
  ({ request_id := requestId
     method := request.method
     path := request.url
     statusCode := status
     message := detail },
    { response.setHeader "x-request-id" requestId with
      status := status
      json := some {
        type := body.type.getD (problemType status)
        title := exception.message
        status := status
        detail := detail
        instance_ := request.url
        request_id := requestId
        timestamp := now } })

/-- What the run of a request leaves behind. -/
structure Failed where
  req : HttpRequest
  res : HttpResponse
  logged : LogEntry
  deriving DecidableEq, Repr

/-- The request goes through the middleware, then the handler changes the response and throws,
and the filter answers. The two components each draw an id of their own. -/
def failedRequest (first second : Uuid) (now : Time) (exception : CaughtException)
    (handler : HttpResponse → HttpResponse) (req : HttpRequest) : Failed :=
  let used := RequestIdMiddleware.use first req {}
  let caught := HttpExceptionFilter.catch_ second now exception used.1 (handler used.2)
  { req := used.1, res := caught.2, logged := caught.1 }

/-- One id, not empty, is on the request, in the header and the body sent, and in the log. -/
def Failed.OneRequestId (f : Failed) : Prop :=
  ∃ id : String, id ≠ "" ∧ f.req.requestId = some id ∧
    f.res.headers.lookup REQUEST_ID_HEADER = some (.one id) ∧
    (∃ problem, f.res.json = some problem ∧ problem.request_id = .one id) ∧
    f.logged.request_id = .one id

theorem HttpResponse.lookup_setHeader (res : HttpResponse) (name : String) (value : OneOrMany) :
    (res.setHeader name value).headers.lookup name = some value :=
  List.lookup_cons_self

section

variable {first second : Uuid} {now : Time} {exception : CaughtException}
  {handler : HttpResponse → HttpResponse} {req : HttpRequest}

/-- The id of the middleware. -/
theorem failedRequest_requestId :
    (failedRequest first second now exception handler req).req.requestId =
      some ((incomingId (req.headers.lookup REQUEST_ID_HEADER)).getD first.text) := rfl

/-- The filter's id is on everything the filter writes, whatever the handler has done. -/
theorem failedRequest_filter {id : OneOrMany}
    (h : (req.headers.lookup REQUEST_ID_HEADER).getD (.one second.text) = id) :
    (failedRequest first second now exception handler req).res.headers.lookup REQUEST_ID_HEADER =
        some id ∧
      (∃ problem, (failedRequest first second now exception handler req).res.json = some problem ∧
        problem.request_id = id) ∧
      (failedRequest first second now exception handler req).logged.request_id = id := by
  subst h
  exact ⟨HttpResponse.lookup_setHeader _ _ _, ⟨_, rfl, rfl⟩, rfl⟩

/-- So there is one id exactly when both components find the same one. -/
theorem oneRequestId_iff_same :
    (failedRequest first second now exception handler req).OneRequestId ↔
      (req.headers.lookup REQUEST_ID_HEADER).getD (.one second.text) =
        .one ((incomingId (req.headers.lookup REQUEST_ID_HEADER)).getD first.text) := by
  constructor
  · rintro ⟨id, _, hrequest, _, _, hlogged⟩
    have hid := Option.some.inj (failedRequest_requestId.symm.trans hrequest)
    rw [hid]
    exact (failedRequest_filter rfl).2.2.symm.trans hlogged
  · intro hsame
    refine ⟨_, ?_, failedRequest_requestId, failedRequest_filter hsame⟩
    cases hincoming : incomingId (req.headers.lookup REQUEST_ID_HEADER) with
    | none => exact Uuid.text_ne_empty first
    | some id => exact of_decide_eq_true (Option.filter_eq_some_iff.mp hincoming).2

end

/-- Of a header that is present, only a string that is not empty gives both the same id. -/
theorem one_request_id_iff (first second : Uuid) (now : Time) (exception : CaughtException)
    (handler : HttpResponse → HttpResponse) (req : HttpRequest) :
    (failedRequest first second now exception handler req).OneRequestId ↔
      (∃ id, req.headers.lookup REQUEST_ID_HEADER = some (.one id) ∧ id ≠ "") ∨
        req.headers.lookup REQUEST_ID_HEADER = none ∧ second.text = first.text := by
  rw [oneRequestId_iff_same]
  cases req.headers.lookup REQUEST_ID_HEADER with
  | none => simp [incomingId]
  | some value =>
    cases value with
    | many ss => simp
    | one s =>
      by_cases hs : s = ""
      · have hne := (Uuid.text_ne_empty first).symm
        simp [incomingId, Option.filter, hs, hne]
      · simp [incomingId, Option.filter, hs]

/-- A request without the header gets one id from the middleware and another from the filter. -/
theorem two_request_ids : ¬ ∀ (first second : Uuid) (now : Time) (exception : CaughtException)
    (handler : HttpResponse → HttpResponse) (req : HttpRequest), first ≠ second →
      (failedRequest first second now exception handler req).OneRequestId := by
  intro h
  obtain ⟨id, _, hrequest, _, _, hlogged⟩ := h 1 2 0 ⟨404, "Ticket no encontrado",
    .string "Ticket no encontrado"⟩ (fun res => res)
    { method := "GET", url := "/v1/tickets/1", headers := [] } (by decide)
  have hfirst : some (Uuid.text 1) = some id := hrequest
  have hsecond : OneOrMany.one (Uuid.text 2) = .one id := hlogged
  rw [← Option.some.inj hfirst, OneOrMany.one.injEq] at hsecond
  exact absurd hsecond (by decide +kernel)

end TicketSystem
