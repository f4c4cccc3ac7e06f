import TicketSystem.CommentsTab
import TicketSystem.CsvText
import TicketSystem.Lib.Client

namespace TicketSystem

open Interleaved

def HistoryTab.PAGE_SIZE : Nat := 20

def EVENT_TYPES : List EventType :=
  [.ticketCreado, .asignacion, .cambioEstado, .resolucion, .escalamiento, .comentario,
    .adjuntoAgregado, .adjuntoDescargado]

/-- The state of `HistoryTab`. -/
structure HistoryTab where
  events : List EventWithActor := []
  nextCursor : Option Uuid := none
  loading : Bool := true
  loadingMore : Bool := false
  error : Option ClientError := none
  enabledTypes : List EventType := EVENT_TYPES
  deriving DecidableEq, Repr

inductive HistoryAction where
  | loadMore
  | toggleType (type : EventType)
  | dismissError

/-- `listEvents(ticketId, { limit: PAGE_SIZE, ...(cursor ? { cursor } : {}) })` -/
def historyQuery (cursor : Option Uuid) : ListEventsQuery where
  cursor := cursor.map Uuid.text
  limit := some HistoryTab.PAGE_SIZE
  limitRange := by rintro _ ⟨⟩; decide

def clientError : Option Err → ClientError
  | none => .network
  | some e => .api e.status

/-- The cursor after a page of the history. -/
def Response.eventCursor : Response → Option Uuid
  | .eventPage p => p.nextCursor
  | _ => none

namespace HistoryTab

def visibleEvents (t : HistoryTab) : List EventWithActor :=
  t.events.filter fun x => t.enabledTypes.contains x.event.eventType

def toggleType (t : HistoryTab) (type : EventType) : HistoryTab :=
  { t with enabledTypes :=
      if t.enabledTypes.contains type then t.enabledTypes.filter (· ≠ type)
      else t.enabledTypes ++ [type] }

/-- What the user can do, and the cursors of the pages that are asked for then. While the first
page is loading there is nothing but a spinner; `Cargar más` is there only with a next cursor, and
disabled while a page is on its way. -/
def act (t : HistoryTab) (a : HistoryAction) : Option (HistoryTab × List (Option Uuid)) :=
  if t.loading then none
  else
    match a with
    | .loadMore =>
      match t.nextCursor with
      | none => none
      | some c =>
        if t.loadingMore then none
        else some ({ t with loadingMore := true, error := none }, [some c])
    | .toggleType type => some (t.toggleType type, [])
    | .dismissError => some ({ t with error := none }, [])

/-- The page after a cursor is answered, or the first one. -/
def settle (t : HistoryTab) : Option Uuid → Except (Option Err) Response → HistoryTab
  | none, .ok v =>
    { t with events := v.eventItems, nextCursor := v.eventCursor, loading := false }
  | none, .error e => { t with error := some (clientError e), loading := false }
  | some _, .ok v =>
    { t with events := t.events ++ v.eventItems, nextCursor := v.eventCursor,
             loadingMore := false }
  | some _, .error e => { t with error := some (clientError e), loadingMore := false }

/-- `handleExportCsv`: the text of the file, of the events as the page has them. -/
def exportCsv (t : HistoryTab) (json : EventWithActor → TicketEventJson) : String :=
  eventsToCsv (t.visibleEvents.map json)

def ui (user : User) (ticketId : Uuid) :
    Ui HistoryTab HistoryAction (Option Uuid) Request Err Response where
  act _ := act
  request cursor := .events ticketId (historyQuery cursor) user
  settle _ t cursor r := (t.settle cursor r, [])

end HistoryTab

/-- One tab that stays mounted, with its calls, and the server. -/
abbrev HistorySession := Client HistoryTab (Option Uuid) Cmd Cmd.Res Err Response Request World

abbrev HistoryEvent := ClientMove HistoryAction Request Oracle

def HistorySession.next (user : User) (ticketId : Uuid) (s : HistorySession) (e : HistoryEvent) :
    Option HistorySession :=
  Client.next (HistoryTab.ui user ticketId) serve Cmd.exec s e

/-- The tab as it is mounted: its effect loads the first page. -/
def HistorySession.mounted (server : Server) : HistorySession where
  ui := {}
  calls := [.new none server]
  server := server

end TicketSystem
