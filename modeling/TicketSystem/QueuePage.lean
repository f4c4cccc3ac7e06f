import TicketSystem.CreateTicketPage
import TicketSystem.TicketsService

namespace TicketSystem

/-- What a call of the browser to the API fails with: it does not arrive, or it is answered with
a status that is no success. -/
inductive ClientError where
  | network
  | api (status : Nat)
  deriving DecidableEq, Repr

structure ListTicketsParams where
  status : Option TicketStatus := none
  priority : Option Priority := none
  severity : Option Nat := none
  assigneeId : Option String := none
  q : Option String := none
  cursor : Option Uuid := none
  limit : Option Nat := none
  deriving DecidableEq, Repr

/-! ### The filters of the queue -/

/-- An empty choice is none; `q` is the search after its pause. -/
structure Filters where
  status : Option TicketStatus := none
  priority : Option Priority := none
  severity : Option Nat := none
  onlyMine : Bool := false
  q : String := ""
  deriving DecidableEq, Repr

def INITIAL_FILTERS : Filters := {}

def buildParams (filters : Filters) (cursor : Option Uuid) : ListTicketsParams where
  status := filters.status
  priority := filters.priority
  severity := filters.severity
  assigneeId := if filters.onlyMine then some "me" else none
  q := if trim filters.q ≠ "" then some (trim filters.q) else none
  cursor := cursor

def Filters.hasActiveFilters (f : Filters) : Bool :=
  f.status.isSome || f.priority.isSome || f.severity.isSome || f.onlyMine || trim f.q != ""

/-- A choice in one of the controls that `updateFilter` serves. -/
inductive FilterChange where
  | status (value : Option TicketStatus)
  | priority (value : Option Priority)
  | severity (value : Option Nat)
  | onlyMine (value : Bool)
  deriving DecidableEq, Repr

def Filters.set (f : Filters) : FilterChange → Filters
  | .status value => { f with status := value }
  | .priority value => { f with priority := value }
  | .severity value => { f with severity := value }
  | .onlyMine value => { f with onlyMine := value }

/-! ### The page -/

/-- A request of the page, with what its handler captured when it was sent. -/
inductive QueueCall where
  | firstPage (seq : Nat) (current : Filters)
  | more (seq : Nat) (filters : Filters) (nextCursor : Uuid)
  | assign (ticketId : Uuid) (body : AssignTicketDto) (filters : Filters)
  deriving DecidableEq, Repr

inductive QueueReply where
  | page (r : Except ClientError (Page Ticket))
  | assigned (r : Except ClientError Ticket)

/-- The state of the page. `filtersEffect` says that the effect on `filters` has still to run;
`calls` are the requests sent so far, and `replies` those that have settled, by their places in
`calls`. -/
structure QueuePage where
  user : Option User
  tickets : List Ticket := []
  nextCursor : Option Uuid := none
  loading : Bool := true
  loadingMore : Bool := false
  error : Option ClientError := none
  notice : Option String := none
  assigningId : Option Uuid := none
  filters : Filters := INITIAL_FILTERS
  qInput : String := ""
  requestSeq : Nat := 0
  filtersEffect : Bool := true
  calls : List QueueCall := []
  replies : List (Nat × QueueReply) := []

def QueuePage.canAssign (s : QueuePage) : Bool :=
  s.user.any fun u => u.role == .agente || u.role == .administrador

/-- A button that is not on the page, or disabled, cannot be clicked. -/
def QueuePage.loadMoreShown (s : QueuePage) : Bool :=
  !s.loading && !s.tickets.isEmpty && s.nextCursor.isSome

def QueuePage.loadMoreEnabled (s : QueuePage) : Bool := !s.loadingMore

def QueuePage.assignMeEnabled (s : QueuePage) (ticket : Ticket) : Bool :=
  s.canAssign && !s.loading && s.tickets.contains ticket && ticket.status != .resuelto &&
    s.assigningId != some ticket.id

def QueuePage.inFlight (s : QueuePage) (i : Nat) : Bool :=
  i < s.calls.length && s.replies.all (·.1 != i)

def QueuePage.fetchFirstPage (s : QueuePage) (current : Filters) : QueuePage :=
  { s with requestSeq := s.requestSeq + 1, loading := true, error := none,
           calls := s.calls ++ [.firstPage (s.requestSeq + 1) current] }

def QueuePage.firstPageSettles (s : QueuePage) (seq : Nat) :
    Except ClientError (Page Ticket) → QueuePage
  | .ok response =>
    if seq ≠ s.requestSeq then s
    else { s with tickets := response.items, nextCursor := response.nextCursor, loading := false }
  | .error err =>
    if seq ≠ s.requestSeq then s else { s with error := some err, loading := false }

def QueuePage.loadMore (s : QueuePage) : QueuePage :=
  match s.nextCursor with
  | none => s
  | some nextCursor =>
    { s with loadingMore := true, error := none,
             calls := s.calls ++ [.more s.requestSeq s.filters nextCursor] }

def QueuePage.moreSettles (s : QueuePage) (seq : Nat) :
    Except ClientError (Page Ticket) → QueuePage
  | .ok response =>
    if seq ≠ s.requestSeq then s
    else { s with tickets := s.tickets ++ response.items, nextCursor := response.nextCursor,
                  loadingMore := false }
  | .error err =>
    if seq ≠ s.requestSeq then s else { s with error := some err, loadingMore := false }

def QueuePage.handleAssignMe (s : QueuePage) (ticket : Ticket) : QueuePage :=
  match s.user with
  | none => s
  | some user =>
    { s with assigningId := some ticket.id, error := none, notice := none,
             calls := s.calls ++ [.assign ticket.id ⟨user.id, ticket.version⟩ s.filters] }

/-- A conflict restarts the list, with the filters of the click. -/
def QueuePage.assignSettles (s : QueuePage) (filters : Filters) :
    Except ClientError Ticket → QueuePage
  | .ok updated =>
    { s with tickets := s.tickets.map fun t => if t.id = updated.id then updated else t,
             assigningId := none }
  | .error (.api 409) =>
    { { s with notice := some "El ticket cambió, vuelve a intentar." }.fetchFirstPage filters with
        assigningId := none }
  | .error err => { s with error := some err, assigningId := none }

inductive QueueEvent where
  | updateFilter (change : FilterChange)
  | search (text : String)
  | debounced
  | clearFilters
  | runEffect
  | loadMore
  | assignMe (ticket : Ticket)
  | settle (i : Nat) (reply : QueueReply)

/-- The user acts only after the effect on the filters has run. -/
def QueuePage.next (s : QueuePage) : QueueEvent → Option QueuePage
  | .updateFilter change =>
    if s.filtersEffect then none
    else some { s with filters := s.filters.set change, filtersEffect := true }
  | .search text => if s.filtersEffect then none else some { s with qInput := text }
  | .debounced =>
    if s.filters.q = s.qInput then some s
    else some { s with filters := { s.filters with q := s.qInput }, filtersEffect := true }
  | .clearFilters =>
    if s.filtersEffect || !s.filters.hasActiveFilters then none
    else some { s with qInput := "", filters := INITIAL_FILTERS, filtersEffect := true }
  | .runEffect =>
    if s.filtersEffect then
      some ({ s with filtersEffect := false }.fetchFirstPage s.filters)
    else none
  | .loadMore =>
    if s.filtersEffect || !s.loadMoreShown || !s.loadMoreEnabled then none else some s.loadMore
  | .assignMe ticket =>
    if s.filtersEffect || !s.assignMeEnabled ticket then none else some (s.handleAssignMe ticket)
  | .settle i reply =>
    if s.inFlight i then
      let settled := { s with replies := s.replies ++ [(i, reply)] }
      match s.calls[i]?, reply with
      | some (.firstPage seq _), .page r => some (settled.firstPageSettles seq r)
      | some (.more seq _ _), .page r => some (settled.moreSettles seq r)
      | some (.assign _ _ filters), .assigned r => some (settled.assignSettles filters r)
      | _, _ => none
    else none

end TicketSystem
