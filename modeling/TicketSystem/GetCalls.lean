import TicketSystem.BoardWalk
import TicketSystem.Controllers
import TicketSystem.FullWalk
import TicketSystem.QueryStrings
import TicketSystem.ReportsPage

namespace TicketSystem

/-- The calls of the client that change nothing, with what the pages give them. -/
inductive GetCall where
  | queue (filters : Filters) (cursor : Option Uuid)
  | board (walk : FetchAll) (status : TicketStatus)
  | period (c : PeriodCall)
  | comments (ticketId : Uuid)
  | history (ticketId : Uuid) (cursor : Option Uuid)
  | getTicket (id : Uuid)
  | getDownloadUrl (attachmentId : Uuid)
  | reportsCsv (createdFrom createdTo : Time) (priority : Option Priority)
  | getAuthConfig
  | me

def idParam (id : Option Uuid) : Option QueryValue := id.map fun id => .string id.text

namespace GetCall

def path : GetCall → String
  | .queue _ _ | .board _ _ | .period _ => "/tickets"
  | .comments ticketId | .history ticketId _ => "/tickets/" ++ ticketId.text ++ "/events"
  | .getTicket id => "/tickets/" ++ id.text
  | .getDownloadUrl attachmentId => "/attachments/" ++ attachmentId.text ++ "/download"
  | .reportsCsv _ _ _ => "/reports/tickets.csv"
  | .getAuthConfig => "/auth/config"
  | .me => "/auth/me"

/-- The entries of the objects, in the order in which the pages build them. -/
def params : GetCall → QueryParams
  | .queue filters cursor =>
    let p := buildParams filters cursor
    [("status", p.status.map fun s => .string s.text),
      ("priority", p.priority.map fun x => .string x.text), ("severity", p.severity.map .number),
      ("assigneeId", p.assigneeId.map .string), ("q", p.q.map .string),
      ("cursor", idParam p.cursor)]
  | .board walk status =>
    let p := walk.params status
    [("status", p.status.map fun s => .string s.text), ("limit", p.limit.map .number),
      ("cursor", idParam p.cursor)]
  | .period c =>
    [("createdFrom", some (.string (toISOString c.filters.createdFrom))),
      ("createdTo", some (.string (toISOString c.filters.createdTo))),
      ("priority", c.filters.priority.map fun x => .string x.text),
      ("limit", some (.number ReportsData.PAGE_LIMIT)), ("cursor", idParam c.cursor)]
  | .comments _ => [("limit", some (.number CommentsTab.PAGE_SIZE))]
  | .history _ cursor =>
    [("limit", some (.number HistoryTab.PAGE_SIZE)), ("cursor", idParam cursor)]
  | .reportsCsv createdFrom createdTo priority =>
    [("from", some (.string (toISOString createdFrom))),
      ("to", some (.string (toISOString createdTo))),
      ("priority", priority.map fun x => .string x.text)]
  | .getTicket _ | .getDownloadUrl _ | .getAuthConfig | .me => []

def url (call : GetCall) : String := apiUrl call.path call.params

end GetCall

/-! ### The methods of the controllers that answer a GET -/

/-- The value of `:id` -/
def param? (segment : String) : Option String :=
  (PercentEncoding.decode? segment.toList).map String.ofList

/-- The routes, by the segments of the path; `readyz` is left out. -/
def route (w : Wire) (segments : List String) (query : List (String × String)) : Option Handler :=
  match segments with
  | ["", "healthz"] => some .liveness
  | ["", "v1", "auth", "config"] => some .config
  | ["", "v1", "auth", "me"] => some .me
  | ["", "v1", "tickets"] => some (.list (ListTicketsQuery.read w query))
  | ["", "v1", "tickets", id] => (param? id).map .getOne
  | ["", "v1", "tickets", id, "events"] =>
    (param? id).map fun id => .events id (ListEventsQuery.read w query)
  | ["", "v1", "attachments", id, "download"] => (param? id).map .download
  | ["", "v1", "reports", "tickets.csv"] => some (.exportCsv (ReportQuery.read w query))
  | _ => none

/-- The method that answers a GET of a target. -/
def Wire.get (w : Wire) (target : String) : Option Handler :=
  let parts := splitTarget target.toList
  route w ((parts.1.splitOn '/').map String.ofList) (w.qs parts.2)

theorem queue_assignee_length {onlyMine : Bool} (s : String)
    (h : (if onlyMine then some "me" else none) = some s) : validatorLength s ≤ 64 := by
  cases onlyMine with
  | false => cases h
  | true =>
    rw [← Option.some.inj h]
    decide

theorem buildParams_q {filters : Filters} {cursor : Option Uuid} {s : String}
    (h : (buildParams filters cursor).q = some s) : s = trim filters.q ∧ s ≠ "" := by
  obtain ⟨hne, hs⟩ := Option.ite_none_right_eq_some.mp h
  cases hs
  exact ⟨rfl, hne⟩

/-- What the filters of the queue ask for; a severity that is none of the four, and a search text
of more than 200 characters, are refused. -/
def queueQuery (filters : Filters) (cursor : Option Uuid) : Option ListTicketsQuery :=
  if h : (∀ n, filters.severity = some n → 1 ≤ n ∧ n ≤ 4) ∧ validatorLength (trim filters.q) ≤ 200
  then
    some { status := filters.status
           priority := filters.priority
           assigneeId := if filters.onlyMine then some "me" else none
           severity := filters.severity
           q := (buildParams filters cursor).q
           cursor := cursor.map Uuid.text
           assigneeIdLength := queue_assignee_length
           severityRange := h.1
           qLength := fun _ hs => (buildParams_q hs).1 ▸ h.2
           limitRange := ListTicketsQuery.limit_left_out }
  else none

def periodReport (createdFrom createdTo : Time) (priority : Option Priority) : ReportQuery where
  resolvedFrom := some (.time createdFrom)
  resolvedTo := some (.time createdTo)
  priority := priority
  assigneeIdLength := ListTicketsQuery.assigneeId_left_out

def GetCall.handler : GetCall → Handler
  | .queue filters cursor => .list (queueQuery filters cursor)
  | .board walk status =>
    .list (some { statusQuery status with cursor := walk.cursor.map Uuid.text })
  | .period c => .list (some c.query)
  | .comments ticketId => .events ticketId.text (some commentsQuery)
  | .history ticketId cursor => .events ticketId.text (some (historyQuery cursor))
  | .getTicket id => .getOne id.text
  | .getDownloadUrl attachmentId => .download attachmentId.text
  | .reportsCsv createdFrom createdTo priority =>
    .exportCsv (some (periodReport createdFrom createdTo priority))
  | .getAuthConfig => .config
  | .me => .me

def GetCall.names : GetCall → List String
  | .queue _ _ => ["status", "priority", "severity", "assigneeId", "q", "cursor"]
  | .board _ _ => ["status", "limit", "cursor"]
  | .period _ => ["createdFrom", "createdTo", "priority", "limit", "cursor"]
  | .comments _ => ["limit"]
  | .history _ _ => ["limit", "cursor"]
  | .reportsCsv _ _ _ => ["from", "to", "priority"]
  | .getTicket _ | .getDownloadUrl _ | .getAuthConfig | .me => []

theorem GetCall.map_params (call : GetCall) : call.params.map Prod.fst = call.names := by
  cases call
  all_goals rfl

theorem GetCall.plain (call : GetCall) : PlainNames call.params where
  letters := by
    have hletters : ∀ name ∈ call.names,
        name.toList ≠ [] ∧ name.toList.all Char.isAlpha = true := by
      cases call
      all_goals
        rw [GetCall.names]
        decide
    rw [call.map_params]
    intro name hname
    exact ⟨(hletters name hname).1, List.all_eq_true.mp (hletters name hname).2⟩
  nodup := by
    rw [call.map_params]
    cases call
    all_goals
      rw [GetCall.names]
      decide
  size := by
    cases call
    all_goals exact Nat.le_of_ble_eq_true rfl

def GetCall.segments : GetCall → List String
  | .queue _ _ | .board _ _ | .period _ => ["", "v1", "tickets"]
  | .comments ticketId | .history ticketId _ => ["", "v1", "tickets", ticketId.text, "events"]
  | .getTicket id => ["", "v1", "tickets", id.text]
  | .getDownloadUrl attachmentId => ["", "v1", "attachments", attachmentId.text, "download"]
  | .reportsCsv _ _ _ => ["", "v1", "reports", "tickets.csv"]
  | .getAuthConfig => ["", "v1", "auth", "config"]
  | .me => ["", "v1", "auth", "me"]

theorem Uuid.mem_text {id : Uuid} {c : Char} (h : c ∈ id.text.toList) :
    isHex c = true ∨ c = '-' := by
  have hdigit : ∀ k n, c ∈ hexDigits k n → isHex c = true := by
    intro k n hc
    exact List.all_eq_true.mp (all_hexDigits k n) c hc
  simp only [Uuid.text, String.toList_ofList, List.mem_append, List.mem_cons] at h
  rcases h with h | h | h | h | h | h | h | h | h
  · exact .inl (hdigit _ _ h)
  · exact .inr h
  · exact .inl (hdigit _ _ h)
  · exact .inr h
  · exact .inl (hdigit _ _ h)
  · exact .inr h
  · exact .inl (hdigit _ _ h)
  · exact .inr h
  · exact .inl (hdigit _ _ h)

theorem Uuid.notMem_text {c : Char} (hc : isHex c = false) (hne : c ≠ '-') (id : Uuid) :
    c ∉ id.text.toList := by
  intro h
  rcases Uuid.mem_text h with hhex | heq
  · rw [hc] at hhex
    cases hhex
  · exact hne heq

theorem param?_text (id : Uuid) : param? id.text = some id.text := by
  have hdecode := PercentEncoding.decode?_of_notMem (Uuid.notMem_text (by decide) (by decide) id)
  rw [param?, hdecode, Option.map_some, String.ofList_toList]

theorem GetCall.path_text (call : GetCall) : (API_PREFIX ++ call.path).toList =
    ['/'].intercalate (call.segments.map String.toList) := by
  cases call
  all_goals simp [API_PREFIX, GetCall.path, GetCall.segments]

theorem GetCall.segment_whole (call : GetCall) : ∀ s ∈ call.segments, '/' ∉ s.toList := by
  have hid : ∀ id : Uuid, '/' ∉ id.text.toList := Uuid.notMem_text (by decide) (by decide)
  cases call
  all_goals simp [GetCall.segments, hid]

theorem GetCall.segments_of_path (call : GetCall) :
    ((API_PREFIX ++ call.path).toList.splitOn '/').map String.ofList = call.segments := by
  have hwhole : ∀ cs ∈ call.segments.map String.toList, '/' ∉ cs := by
    intro cs hcs
    obtain ⟨s, hs, rfl⟩ := List.mem_map.mp hcs
    exact call.segment_whole s hs
  have hsome : call.segments.map String.toList ≠ [] := by
    cases call
    all_goals exact List.cons_ne_nil _ _
  have hsame : ∀ s ∈ call.segments, (String.ofList ∘ String.toList) s = s := fun s _ =>
    String.ofList_toList
  rw [call.path_text, List.splitOn_intercalate '/' hwhole hsome, List.map_map,
    List.map_congr_left hsame]
  exact List.map_id _

theorem GetCall.path_whole (call : GetCall) : '?' ∉ (API_PREFIX ++ call.path).toList := by
  have hid : ∀ id : Uuid, '?' ∉ id.text.toList := Uuid.notMem_text (by decide) (by decide)
  cases call
  all_goals simp [API_PREFIX, GetCall.path, hid]

/-- A target is taken apart into what it is put together from. -/
theorem Wire.Documented.get_url {w : Wire} (documented : w.Documented) (call : GetCall) :
    w.get call.url = route w call.segments (present call.params) := by
  have htarget : call.url.toList =
      (API_PREFIX ++ call.path).toList ++ (buildQueryString call.params).toList := by
    rw [GetCall.url, apiUrl, String.toList_append]
  obtain ⟨hpath, hquery⟩ := documented.reads call.plain call.path_whole
    (rfl : splitTarget _ = splitTarget _)
  rw [← htarget] at hpath hquery
  show route w ((List.splitOn '/' (splitTarget call.url.toList).1).map String.ofList) _ = _
  rw [hpath, hquery, call.segments_of_path]

/-- The text of a name is that of its value. -/
theorem GetCall.lookup {call : GetCall} {name : String} {value : Option QueryValue}
    (h : call.params.lookup name = some value) :
    (present call.params).lookup name = written value := by
  rw [lookup_present call.plain.nodup, h, Option.bind_some]

theorem GetCall.lookup_none {call : GetCall} {name : String} (h : call.params.lookup name = none) :
    (present call.params).lookup name = none := by
  rw [lookup_present call.plain.nodup, h, Option.bind_none]

theorem GetCall.all_declared {call : GetCall} {names : List String}
    (h : ∀ name ∈ call.names, name ∈ names) : declared names (present call.params) = some () := by
  refine declared_present ?_
  rw [call.map_params]
  exact h

theorem TicketStatus.text_ne_empty (s : TicketStatus) : s.text ≠ "" := by
  cases s
  all_goals decide

theorem Priority.text_ne_empty (p : Priority) : p.text ≠ "" := by
  cases p
  all_goals decide

theorem written_status (x : Option TicketStatus) :
    written (x.map fun s => .string s.text) = x.map TicketStatus.text :=
  written_string fun s _ => s.text_ne_empty

theorem written_priority (x : Option Priority) :
    written (x.map fun p => .string p.text) = x.map Priority.text :=
  written_string fun p _ => p.text_ne_empty

theorem written_id (x : Option Uuid) : written (idParam x) = x.map Uuid.text :=
  written_string fun id _ => id.text_ne_empty

theorem written_text {x : Option String} (h : ∀ s, x = some s → s ≠ "") :
    written (x.map .string) = x := (written_string h).trans Option.map_id'

theorem queue_assignee_ne_empty {onlyMine : Bool} (s : String)
    (h : (if onlyMine then some "me" else none) = some s) : s ≠ "" := by
  cases onlyMine with
  | false => cases h
  | true =>
    rw [← Option.some.inj h]
    decide

section Hear

variable {w : Wire}

theorem GetCall.dateless {call : GetCall} {name : String} (h : call.params.lookup name = none) :
    optional (isoDate w) ((present call.params).lookup name) = some none := by
  rw [GetCall.lookup_none h]
  rfl

theorem read_queue (filters : Filters) (cursor : Option Uuid) :
    ListTicketsQuery.read w (present (GetCall.queue filters cursor).params) =
      queueQuery filters cursor := by
  have hseverity : (present (GetCall.queue filters cursor).params).lookup "severity" =
      filters.severity.map toString := (GetCall.lookup rfl).trans (written_number _)
  have hq : (present (GetCall.queue filters cursor).params).lookup "q" =
      (buildParams filters cursor).q :=
    (GetCall.lookup rfl).trans (written_text fun _ hs => (buildParams_q hs).2)
  unfold queueQuery
  by_cases h : (∀ n, filters.severity = some n → 1 ≤ n ∧ n ≤ 4) ∧
      validatorLength (trim filters.q) ≤ 200
  · rw [dif_pos h]
    refine ListTicketsQuery.ReadAs.read
      ⟨GetCall.all_declared ?_, ?_, ?_, ?_, hseverity, ?_, ?_, hq, ?_, ?_⟩
    · rw [GetCall.names]
      decide
    · exact (GetCall.lookup rfl).trans (written_status _)
    · exact (GetCall.lookup rfl).trans (written_priority _)
    · exact (GetCall.lookup rfl).trans (written_text queue_assignee_ne_empty)
    · exact GetCall.dateless rfl
    · exact GetCall.dateless rfl
    · exact (GetCall.lookup rfl).trans (written_id _)
    · exact GetCall.lookup_none rfl
  · rw [dif_neg h]
    cases hread : ListTicketsQuery.read w (present (GetCall.queue filters cursor).params) with
    | none => rfl
    | some x =>
      obtain ⟨hrange, hlength⟩ := ListTicketsQuery.read_rules hread
      refine absurd ⟨fun n hn => hrange n ?_, ?_⟩ h
      · rw [hseverity, hn, Option.map_some]
      · by_cases hempty : trim filters.q = ""
        · rw [hempty]
          decide
        · exact hlength _ (hq.trans (if_pos hempty))

theorem read_board (walk : FetchAll) (status : TicketStatus) :
    ListTicketsQuery.read w (present (GetCall.board walk status).params) =
      some { statusQuery status with cursor := walk.cursor.map Uuid.text } := by
  refine ListTicketsQuery.ReadAs.read ⟨GetCall.all_declared ?_, ?_, ?_, ?_, ?_, ?_, ?_, ?_, ?_, ?_⟩
  · rw [GetCall.names]
    decide
  · exact (GetCall.lookup rfl).trans (written_status (some status))
  · exact GetCall.lookup_none rfl
  · exact GetCall.lookup_none rfl
  · exact GetCall.lookup_none rfl
  · exact GetCall.dateless rfl
  · exact GetCall.dateless rfl
  · exact GetCall.lookup_none rfl
  · exact (GetCall.lookup rfl).trans (written_id _)
  · exact (GetCall.lookup rfl).trans (written_number (some PAGE_LIMIT))

/-- The years of a period are written with four digits. -/
structure ShortYears (createdFrom createdTo : Time) : Prop where
  createdFrom : 0 ≤ Time.year createdFrom ∧ Time.year createdFrom ≤ 9999
  createdTo : 0 ≤ Time.year createdTo ∧ Time.year createdTo ≤ 9999

theorem Wire.Documented.dated (documented : w.Documented) {call : GetCall} {name : String}
    {t : Time} (hparam : call.params.lookup name = some (some (.string (toISOString t))))
    (h : 0 ≤ Time.year t ∧ Time.year t ≤ 9999) :
    optional (isoDate w) ((present call.params).lookup name) = some (some (.time t)) := by
  have hne : toISOString t ≠ "" := by
    intro he
    have hhead := head_toISOString h
    rw [he] at hhead
    cases hhead
  have hwritten := written_string (x := some t) fun a ha => Option.some.inj ha ▸ hne
  have hdate := documented.isoDate_toISOString h
  rw [Option.map_some] at hwritten
  rw [GetCall.lookup hparam, hwritten]
  show (isoDate w (toISOString t)).map some = _
  rw [hdate, Option.map_some]

theorem read_period (documented : w.Documented) (c : PeriodCall)
    (h : ShortYears c.filters.createdFrom c.filters.createdTo) :
    ListTicketsQuery.read w (present (GetCall.period c).params) = some c.query := by
  refine ListTicketsQuery.ReadAs.read ⟨GetCall.all_declared ?_, ?_, ?_, ?_, ?_, ?_, ?_, ?_, ?_, ?_⟩
  · rw [GetCall.names]
    decide
  · exact GetCall.lookup_none rfl
  · exact (GetCall.lookup rfl).trans (written_priority _)
  · exact GetCall.lookup_none rfl
  · exact GetCall.lookup_none rfl
  · exact documented.dated rfl h.createdFrom
  · exact documented.dated rfl h.createdTo
  · exact GetCall.lookup_none rfl
  · exact (GetCall.lookup rfl).trans (written_id _)
  · exact (GetCall.lookup rfl).trans (written_number (some ReportsData.PAGE_LIMIT))

theorem read_comments (ticketId : Uuid) :
    ListEventsQuery.read w (present (GetCall.comments ticketId).params) = some commentsQuery := by
  refine ListEventsQuery.ReadAs.read ⟨GetCall.all_declared ?_, ?_, ?_⟩
  · rw [GetCall.names]
    decide
  · exact GetCall.lookup_none rfl
  · exact (GetCall.lookup rfl).trans (written_number (some CommentsTab.PAGE_SIZE))

theorem read_history (ticketId : Uuid) (cursor : Option Uuid) :
    ListEventsQuery.read w (present (GetCall.history ticketId cursor).params) =
      some (historyQuery cursor) := by
  refine ListEventsQuery.ReadAs.read ⟨GetCall.all_declared ?_, ?_, ?_⟩
  · rw [GetCall.names]
    decide
  · exact (GetCall.lookup rfl).trans (written_id _)
  · exact (GetCall.lookup rfl).trans (written_number (some HistoryTab.PAGE_SIZE))

theorem read_reportsCsv (documented : w.Documented) {createdFrom createdTo : Time}
    (priority : Option Priority) (h : ShortYears createdFrom createdTo) :
    ReportQuery.read w (present (GetCall.reportsCsv createdFrom createdTo priority).params) =
      some (periodReport createdFrom createdTo priority) := by
  refine ReportQuery.ReadAs.read ⟨GetCall.all_declared ?_, ?_, ?_, ?_, ?_⟩
  · rw [GetCall.names]
    decide
  · exact documented.dated rfl h.createdFrom
  · exact documented.dated rfl h.createdTo
  · exact (GetCall.lookup rfl).trans (written_priority _)
  · exact GetCall.lookup_none rfl

/-- The calls whose dates, if there are any, have years of four digits. -/
def GetCall.Dated : GetCall → Prop
  | .period c => ShortYears c.filters.createdFrom c.filters.createdTo
  | .reportsCsv createdFrom createdTo _ => ShortYears createdFrom createdTo
  | _ => True

theorem GetCall.route_segments (documented : w.Documented) {call : GetCall} (h : call.Dated) :
    route w call.segments (present call.params) = some call.handler := by
  have hparam := param?_text
  cases call with
  | queue filters cursor =>
    exact congrArg (fun x => some (Handler.list x)) (read_queue filters cursor)
  | board walk status => exact congrArg (fun x => some (Handler.list x)) (read_board walk status)
  | period c => exact congrArg (fun x => some (Handler.list x)) (read_period documented c h)
  | comments ticketId =>
    show (param? ticketId.text).map _ = _
    rw [hparam, Option.map_some, read_comments]
    rfl
  | history ticketId cursor =>
    show (param? ticketId.text).map _ = _
    rw [hparam, Option.map_some, read_history]
    rfl
  | getTicket id =>
    show (param? id.text).map _ = _
    rw [hparam, Option.map_some]
    rfl
  | getDownloadUrl attachmentId =>
    show (param? attachmentId.text).map _ = _
    rw [hparam, Option.map_some]
    rfl
  | reportsCsv createdFrom createdTo priority =>
    exact congrArg (fun x => some (Handler.exportCsv x)) (read_reportsCsv documented priority h)
  | getAuthConfig => rfl
  | me => rfl

end Hear

/-! ### What the filters of the queue mean -/

/-- What the filters say of a ticket that is shown. -/
structure Filters.Shows (filters : Filters) (user : User) (u : World) (t : Ticket) : Prop where
  own : user.role = .reportante → t.reporterId = user.id
  status : ∀ s, filters.status = some s → t.status = s
  priority : ∀ p, filters.priority = some p → t.priority = p
  severity : ∀ n, filters.severity = some n → t.severity = n
  onlyMine : filters.onlyMine = true → t.assigneeId = some user.id
  q : trim filters.q ≠ "" →
    u.ilike (trim filters.q) t.title = true ∨ u.ilike (trim filters.q) t.description = true

theorem queueQuery_eq_some {filters : Filters} {cursor : Option Uuid} {query : ListTicketsQuery}
    (h : queueQuery filters cursor = some query) :
    query.status = filters.status ∧ query.priority = filters.priority ∧
      query.severity = filters.severity ∧
      query.assigneeId = (if filters.onlyMine then some "me" else none) ∧
      query.q = (buildParams filters cursor).q ∧ query.createdFrom = none ∧
      query.createdTo = none := by
  unfold queueQuery at h
  split at h
  next =>
    cases h
    exact ⟨rfl, rfl, rfl, rfl, rfl, rfl, rfl⟩
  next => cases h

theorem queueQuery_matches {filters : Filters} {cursor : Option Uuid} {query : ListTicketsQuery}
    (h : queueQuery filters cursor = some query) (user : User) (u : World) (t : Ticket) :
    query.Matches user u t ↔ filters.Shows user u t := by
  obtain ⟨hstatus, hpriority, hseverity, hassignee, hq, hfrom, hto⟩ := queueQuery_eq_some h
  have hparse : Uuid.parseStr? "me" = none := by decide
  constructor
  · intro m
    refine ⟨m.own, hstatus ▸ m.status, hpriority ▸ m.priority, hseverity ▸ m.severity, ?_, ?_⟩
    · intro hmine
      rw [hmine, if_pos rfl] at hassignee
      exact m.me hassignee
    · intro hne
      exact m.q _ (hq.trans (if_pos hne)) hne
  · intro m
    refine ⟨m.own, hstatus ▸ m.status, hpriority ▸ m.priority, hseverity ▸ m.severity, ?_, ?_, ?_,
      ?_, ?_⟩
    · intro hme
      rw [hassignee] at hme
      exact m.onlyMine (Option.ite_none_right_eq_some.mp hme).1
    · intro s id hs hid
      rw [hassignee] at hs
      obtain ⟨_, hsome⟩ := Option.ite_none_right_eq_some.mp hs
      cases hsome
      rw [hparse] at hid
      cases hid
    · intro x hx
      rw [hfrom] at hx
      cases hx
    · intro x hx
      rw [hto] at hx
      cases hx
    · intro s hs _
      rw [hq] at hs
      obtain ⟨rfl, hne⟩ := buildParams_q hs
      exact m.q hne

/-- The `where` clause of what the queue asks for is what its filters say. -/
theorem queueQuery_where {filters : Filters} {cursor : Option Uuid} {query : ListTicketsQuery}
    (h : queueQuery filters cursor = some query) (user : User) :
    ∃ f, listWhere query user = .ok f ∧
      ∀ (u : World) t, f.matches u.ilike t = true ↔ filters.Shows user u t := by
  obtain ⟨_, _, _, hassignee, _, hfrom, hto⟩ := queueQuery_eq_some h
  have sound : query.FiltersSound := by
    refine ⟨hfrom ▸ (Option.some_ne_none _).symm, hto ▸ (Option.some_ne_none _).symm, ?_⟩
    intro hother v hv
    rw [hassignee] at hv hother
    obtain ⟨hmine, _⟩ := Option.ite_none_right_eq_some.mp hv
    exact absurd (if_pos hmine) hother
  obtain ⟨f, hf, hmatches⟩ := listWhere_ok user sound
  exact ⟨f, hf, fun u t => (hmatches u t).trans (queueQuery_matches h user u t)⟩

/-- The filters that the API refuses: a severity that is none of the four, or a search text of more
than 200 characters. -/
def Filters.Refused (filters : Filters) : Prop :=
  (∃ n, filters.severity = some n ∧ ¬ (1 ≤ n ∧ n ≤ 4)) ∨ 200 < validatorLength (trim filters.q)

theorem queueQuery_eq_none {filters : Filters} {cursor : Option Uuid} :
    queueQuery filters cursor = none ↔ filters.Refused := by
  unfold queueQuery Filters.Refused
  by_cases h : (∀ n, filters.severity = some n → 1 ≤ n ∧ n ≤ 4) ∧
      validatorLength (trim filters.q) ≤ 200
  · rw [dif_pos h]
    refine ⟨fun hsome => (by cases hsome), ?_⟩
    rintro (⟨n, hn, hrange⟩ | hlength)
    · exact absurd (h.1 n hn) hrange
    · exact absurd h.2 (Nat.not_le.mpr hlength)
  · rw [dif_neg h]
    refine ⟨fun _ => ?_, fun _ => rfl⟩
    by_cases hlength : validatorLength (trim filters.q) ≤ 200
    · have hrange : ¬ ∀ n, filters.severity = some n → 1 ≤ n ∧ n ≤ 4 := fun hn => h ⟨hn, hlength⟩
      obtain ⟨n, hn⟩ := Classical.not_forall.mp hrange
      exact .inl ⟨n, Classical.not_imp.mp hn⟩
    · exact .inr (Nat.not_le.mp hlength)

/-- How a call is heard: by the method that it means, with the values it means. Only the queue is
refused, for what its filters have; if it is not, the tickets that are looked for are those that
its filters say, whoever asks. -/
structure GetCall.Heard (w : Wire) (call : GetCall) : Prop where
  method : w.get call.url = some call.handler
  refused : w.get call.url = some (.list none) ↔
    ∃ filters cursor, call = .queue filters cursor ∧ filters.Refused
  shown : ∀ filters cursor query, call = .queue filters cursor →
    w.get call.url = some (.list (some query)) → ∀ user, ∃ f, listWhere query user = .ok f ∧
      ∀ (u : World) t, f.matches u.ilike t = true ↔ filters.Shows user u t

theorem GetCall.handler_refused {call : GetCall} : call.handler = .list none ↔
    ∃ filters cursor, call = .queue filters cursor ∧ filters.Refused := by
  constructor
  · intro h
    cases call with
    | queue filters cursor =>
      exact ⟨filters, cursor, rfl, queueQuery_eq_none.mp (Handler.list.inj h)⟩
    | _ => cases h
  · rintro ⟨filters, cursor, rfl, hrefused⟩
    exact congrArg Handler.list (queueQuery_eq_none.mpr hrefused)

/-- Every call of the client that changes nothing is heard by the API as it is meant, whatever
characters its texts have. -/
theorem gets_heard {w : Wire} (documented : w.Documented) {call : GetCall} (dated : call.Dated) :
    call.Heard w := by
  have method : w.get call.url = some call.handler :=
    (documented.get_url call).trans (GetCall.route_segments documented dated)
  refine ⟨method, ?_, ?_⟩
  · rw [method, Option.some_inj]
    exact GetCall.handler_refused
  · rintro filters cursor query rfl hquery
    rw [method] at hquery
    exact queueQuery_where (Handler.list.inj (Option.some.inj hquery))

namespace Sample

/-- A parser that reads what a form is, and a validator that knows one format of dates. -/
def wire : Wire where
  qs cs := if cs = [] then [] else
    ((FormUrl.parse? cs).getD []).map fun f => (String.ofList f.1, String.ofList f.2)
  isISO8601 s := (isoTime? s.toList).isSome
  otherNumber _ := none
  otherDate _ := .invalid

theorem wire_documented : wire.Documented where
  empty := rfl
  plain cs fields h := by
    have hne : cs ≠ [] := by
      rintro rfl
      have hempty : FormUrl.parse? [] = some [([], [])] := by decide
      have hfields := Option.some.inj (hempty.symm.trans h.reads)
      exact (h.letters ([], []) (hfields ▸ List.mem_singleton_self _)).1 rfl
    show (if cs = [] then [] else _) = _
    rw [if_neg hne, h.reads, Option.getD_some]
  date s t h _ := by
    show (isoTime? s.toList).isSome = true
    rw [h, Option.isSome_some]

def newYear : PeriodCall where
  filters := { createdFrom := 1767225600000, createdTo := 1769903999999, priority := some .alta }
  since := 0
  cursor := some 102

end Sample

example : (GetCall.queue { q := " a&b = ñ%" } none).url =
    "/v1/tickets?q=a%26b+%3D+%C3%B1%25" := by decide +kernel

theorem gets_heard_newYear : (GetCall.period Sample.newYear).Dated ∧
    (GetCall.period Sample.newYear).Heard Sample.wire := by
  have hdated : (GetCall.period Sample.newYear).Dated :=
    ⟨by decide +kernel, by decide +kernel⟩
  exact ⟨hdated, gets_heard Sample.wire_documented hdated⟩

end TicketSystem
