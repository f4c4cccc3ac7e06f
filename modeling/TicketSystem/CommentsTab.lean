import TicketSystem.FormTexts
import TicketSystem.TicketDetailPage

namespace TicketSystem

open Relational Interleaved

instance (b : CreateCommentRequest) : Decidable b.TextRules :=
  inferInstanceAs (Decidable (_ ≤ _))

def CommentsTab.PAGE_SIZE : Nat := 50

/-- `listEvents(ticketId, { limit: PAGE_SIZE })` -/
def commentsQuery : ListEventsQuery where
  limit := some CommentsTab.PAGE_SIZE
  limitRange := by rintro _ ⟨⟩; decide

/-- The state of `CommentsTab`. -/
structure CommentsTab where
  events : List EventWithActor := []
  loading : Bool := true
  error : Option ClientError := none
  message : String := ""
  submitting : Bool := false
  submitError : Option ClientError := none
  deriving DecidableEq, Repr

def EventWithActor.isComment (x : EventWithActor) : Bool := x.event.eventType = .comentario

def CommentsTab.comments (t : CommentsTab) : List EventWithActor :=
  t.events.filter EventWithActor.isComment

/-- The load of the effect, and the two calls of `handleSubmit`. The second tells which request
of the server the first one was; that is recorded only. -/
inductive TabCall where
  | load
  | createComment (body : CreateCommentRequest)
  | reload (posted : Nat)
  deriving DecidableEq, Repr

structure SentCall where
  call : TabCall
  flight : Flight := .sent
  deriving DecidableEq, Repr

def TabCall.request? (user : User) (ticketId : Uuid) : TabCall → Option Request
  | .load | .reload _ => some (.events ticketId commentsQuery user)
  | .createComment body =>
    if body.TextRules then some (.addComment ticketId user (norm body.message)) else none

/-- What `handleSubmit` does next, once its comment is accepted as request `n`. -/
def TabCall.next (n : Nat) : TabCall → List SentCall
  | .createComment _ => [{ call := .reload n }]
  | _ => []

/-- The items of a page of the history. -/
def Response.eventItems : Response → List EventWithActor
  | .eventPage p => p.items
  | _ => []

/-- `handleSubmit` as far as its first `await`. -/
def CommentsTab.submit (t : CommentsTab) : CommentsTab :=
  { t with submitting := true, submitError := none }

/-- A call is answered. The text of a 403 is replaced by another, which is not modelled. -/
def CommentsTab.settle (t : CommentsTab) : TabCall → Except ClientError Response → CommentsTab
  | .load, .ok v => { t with events := v.eventItems, loading := false }
  | .load, .error err => { t with error := some err, loading := false }
  | .createComment _, .ok _ => { t with message := "" }
  | .createComment _, .error err => { t with submitError := some err, submitting := false }
  | .reload _, .ok v => { t with events := v.eventItems, submitting := false }
  | .reload _, .error err => { t with submitError := some err, submitting := false }

/-! ### The tab, the network and the server together -/

/-- The requests behind what the tab shows: the load that brought the page and, when that load
ended a `handleSubmit`, the comment. -/
structure LastLoad where
  read : Nat
  posted : Option Nat
  deriving DecidableEq, Repr

def TabCall.lastLoad? (n : Nat) : TabCall → Option LastLoad
  | .load => some { read := n, posted := none }
  | .reload posted => some { read := n, posted := some posted }
  | .createComment _ => none

/-- One tab that stays mounted, with its calls, oldest first, and the server. `lastLoad` is
recorded only. -/
structure CommentsSession where
  user : User
  ticketId : Uuid
  tab : CommentsTab := {}
  calls : List SentCall
  lastLoad : Option LastLoad := none
  server : Server

inductive CommentsEvent where
  | edit (message : String)
  | submit
  | dismissError
  | dismissSubmitError
  | deliver (i : Nat)
  | answer (i : Nat)
  | fail (i : Nat)
  | server (m : Action)

namespace CommentsSession

def fly (s : CommentsSession) (i : Nat) (c : TabCall) (f : Flight) : CommentsSession :=
  { s with calls := s.calls.set i { call := c, flight := f } }

/-- Call `i`, which became request `n`, is answered with `v`. -/
def succeed (s : CommentsSession) (i : Nat) (c : TabCall) (n : Nat) (v : Response) :
    CommentsSession :=
  { s with
    tab := s.tab.settle c (.ok v)
    calls := s.calls.set i { call := c, flight := .settled } ++ c.next n
    lastLoad := (c.lastLoad? n).or s.lastLoad }

def reject (s : CommentsSession) (i : Nat) (c : TabCall) (err : ClientError) : CommentsSession :=
  { s.fly i c .settled with tab := s.tab.settle c (.error err) }

def next (s : CommentsSession) : CommentsEvent → Option CommentsSession
  | .edit message =>
    if s.tab.loading || s.tab.submitting then none
    else some { s with tab := { s.tab with message := message } }
  | .submit =>
    if s.tab.loading then none
    else if canSubmit s.tab.message && !s.tab.submitting then
      some { s with
        tab := s.tab.submit
        calls := s.calls ++ [{ call := .createComment (commentBody s.tab.message) }] }
    else some s
  | .dismissError => some { s with tab := { s.tab with error := none } }
  | .dismissSubmitError => some { s with tab := { s.tab with submitError := none } }
  | .deliver i =>
    match s.calls[i]? with
    | some { call, flight := .sent } =>
      match call.request? s.user s.ticketId with
      | none => some (s.fly i call .refused)
      | some q =>
        (s.server.next serve Cmd.exec (.arrive q)).map fun server =>
          { s.fly i call (.served s.server.threads.length) with server := server }
    | _ => none
  | .answer i =>
    match s.calls[i]? with
    | some { call, flight := .refused } => some (s.reject i call (.api 400))
    | some { call, flight := .served n } =>
      match (s.server.threads[n]?).bind Thread.result? with
      | some (.ok v) => some (s.succeed i call n v)
      | some (.error e) => some (s.reject i call (.api e.status))
      | none => none
    | _ => none
  | .fail i =>
    match s.calls[i]? with
    | some c => if c.flight = .settled then none else some (s.reject i c.call .network)
    | none => none
  | .server m => (s.server.next serve Cmd.exec m).map fun server => { s with server := server }

/-- The tab as it is mounted: its effect loads at once. -/
def mounted (user : User) (ticketId : Uuid) (server : Server) : CommentsSession where
  user := user
  ticketId := ticketId
  calls := [{ call := .load }]
  server := server

end CommentsSession

end TicketSystem
