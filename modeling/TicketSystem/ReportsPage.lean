import TicketSystem.HistoryTab
import TicketSystem.ReportsData

namespace TicketSystem

open Interleaved

/-- The request of `fetchTicketsForPeriod`, with what its loop has gathered before. When the load
was submitted is recorded only. -/
structure PeriodCall where
  filters : PeriodFilters
  since : Nat
  tickets : List Ticket := []
  cursor : Option Uuid := none
  deriving DecidableEq, Repr

def PeriodCall.query (c : PeriodCall) : ListTicketsQuery :=
  { c.filters.query with cursor := c.cursor.map Uuid.text }

/-- What the loop makes of a page: the result, or its next request. -/
def PeriodCall.turn (c : PeriodCall) (page : Page Ticket) : PeriodTickets ⊕ PeriodCall :=
  let tickets := c.tickets ++ page.items
  if tickets.length ≥ MAX_REPORT_TICKETS then
    .inl { tickets := tickets.take MAX_REPORT_TICKETS, truncated := page.nextCursor.isSome }
  else
    match page.nextCursor with
    | some k => .inr { c with tickets := tickets, cursor := some k }
    | none => .inl { tickets := tickets, truncated := false }

/-- These are the turns of the loop. -/
theorem fetchTicketsForPeriod_turn {ε : Type} (listTickets : Option Uuid → Except ε (Page Ticket))
    (fuel : Nat) (c : PeriodCall) :
    fetchTicketsForPeriod listTickets (fuel + 1) c.tickets c.cursor =
      match (listTickets c.cursor).map c.turn with
      | .error e => some (.error e)
      | .ok (.inl r) => some (.ok r)
      | .ok (.inr c') => fetchTicketsForPeriod listTickets fuel c'.tickets c'.cursor := by
  cases hask : listTickets c.cursor with
  | error e => simp [fetchTicketsForPeriod, hask, Except.map]
  | ok page =>
    simp only [fetchTicketsForPeriod, hask, Except.map, PeriodCall.turn]
    split
    next => rfl
    next => cases page.nextCursor <;> rfl

/-! ### The page -/

inductive ReportsError where
  | client (e : ClientError)
  | invalidDate
  deriving DecidableEq, Repr

/-- A load: what it asks for, and when it was submitted. -/
structure PeriodLoad where
  filters : PeriodFilters
  since : Nat
  deriving DecidableEq, Repr

/-- The state of `ReportsPage`. The last three fields are recorded only: the newest submission, the
one that `data` is of, and whether the newest has failed. -/
structure ReportsPage where
  fromValue : String
  toValue : String
  priority : Option Priority := none
  data : Option PeriodTickets := none
  loading : Bool := true
  error : Option ReportsError := none
  downloading : Bool := false
  submitted : Option PeriodLoad := none
  loaded : Option PeriodLoad := none
  failed : Bool := false
  deriving DecidableEq, Repr

/-- The download of the CSV file shares only the error with the rest: its end is an event here,
with the error there was. -/
inductive ReportsAction where
  | setFrom (value : String)
  | setTo (value : String)
  | setPriority (priority : Option Priority)
  | submit
  | dismissError
  | download
  | downloaded (error : Option ReportsError)

def Response.tickets : Response → Page Ticket
  | .page p => p
  | _ => { items := [], nextCursor := none }

namespace ReportsPage

variable (dayStart dayEnd : String → Option Time)

/-- `load`; the text of a date that is none makes `toISOString` throw. -/
def load (moment : Nat) (p : ReportsPage) : ReportsPage × List PeriodCall :=
  match dayStart p.fromValue, dayEnd p.toValue with
  | some createdFrom, some createdTo =>
    let filters : PeriodFilters := { createdFrom, createdTo, priority := p.priority }
    ({ p with loading := true, error := none, submitted := some ⟨filters, moment⟩,
              failed := false },
      [{ filters := filters, since := moment }])
  | _, _ => ({ p with loading := false, error := some .invalidDate, failed := true }, [])

/-- The button of the form is disabled while tickets are loading, and that of the download while
one goes on. -/
def act (moment : Nat) (p : ReportsPage) : ReportsAction → Option (ReportsPage × List PeriodCall)
  | .setFrom value => some ({ p with fromValue := value }, [])
  | .setTo value => some ({ p with toValue := value }, [])
  | .setPriority priority => some ({ p with priority := priority }, [])
  | .submit => if p.loading then none else some (p.load dayStart dayEnd moment)
  | .dismissError => some ({ p with error := none }, [])
  | .download =>
    if p.downloading then none else some ({ p with downloading := true, error := none }, [])
  | .downloaded error =>
    if p.downloading then some ({ p with downloading := false, error := error.or p.error }, [])
    else none

def settle (p : ReportsPage) (c : PeriodCall) :
    Except (Option Err) Response → ReportsPage × List PeriodCall
  | .error e =>
    ({ p with loading := false, error := some (.client (clientError e)), failed := true }, [])
  | .ok v =>
    match c.turn v.tickets with
    | .inl r =>
      ({ p with data := some r, loading := false, loaded := some ⟨c.filters, c.since⟩ }, [])
    | .inr c' => (p, [c'])

def ui (user : User) : Ui ReportsPage ReportsAction PeriodCall Request Err Response where
  act := act dayStart dayEnd
  request c := .list c.query user
  settle _ := settle

end ReportsPage

/-- The page, with its requests, and the server. -/
abbrev ReportsSession := Client ReportsPage PeriodCall Cmd Cmd.Res Err Response Request World

abbrev ReportsEvent := ClientMove ReportsAction Request Oracle

section Session

variable (dayStart dayEnd : String → Option Time)

def ReportsSession.next (user : User) (s : ReportsSession) (e : ReportsEvent) :
    Option ReportsSession :=
  Client.next (ReportsPage.ui dayStart dayEnd user) serve Cmd.exec s e

/-- The page as it is mounted: its effect loads the default period. -/
def ReportsSession.mounted (defaultFrom today : String) (server : Server) : ReportsSession :=
  let page : ReportsPage := { fromValue := defaultFrom, toValue := today }
  Client.send { ui := page, server := server } (page.load dayStart dayEnd server.history.length)

end Session

end TicketSystem
