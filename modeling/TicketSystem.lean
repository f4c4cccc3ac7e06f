import TicketSystem.Lifecycle
import TicketSystem.OptimisticLocking
import TicketSystem.Versions
import TicketSystem.History
import TicketSystem.Numbering
import TicketSystem.ExactlyOnce
import TicketSystem.IdempotencyWindow
import TicketSystem.Frozen
import TicketSystem.Escalation
import TicketSystem.Assignees
import TicketSystem.Downloads
import TicketSystem.CursorProbe
import TicketSystem.Mails
import TicketSystem.QueueFilters
import TicketSystem.SlaPage
import TicketSystem.AttachmentsList
import TicketSystem.HistoryWalk
import TicketSystem.BoardWalk
import TicketSystem.ReportWalk
import TicketSystem.BestEffort
import TicketSystem.Consumers
import TicketSystem.CsvText
import TicketSystem.SlaVerdicts
import TicketSystem.FormTexts
import TicketSystem.FullWalk
import TicketSystem.QueriesAnswered
import TicketSystem.Sweeping
import TicketSystem.TicketDetailPage
import TicketSystem.DetailSession
import TicketSystem.DetailNewest
import TicketSystem.DetailComplete
import TicketSystem.ReportsData
import TicketSystem.UploadWhitelist
import TicketSystem.KeyViolations
import TicketSystem.SessionTokens
import TicketSystem.SecretLoader
import TicketSystem.OwnWrites
import TicketSystem.CommentsShown
import TicketSystem.RequestId
import TicketSystem.Controllers
import TicketSystem.Permissions
import TicketSystem.Sessions
import TicketSystem.HistoryShown
import TicketSystem.ReportsShown
import TicketSystem.WaitFree
import TicketSystem.BrowserSessions
import TicketSystem.Linearization
import TicketSystem.NotificationsWorker
import TicketSystem.GetCalls
