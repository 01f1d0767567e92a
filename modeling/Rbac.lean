import Rbac.Benchmark.Run
import Rbac.Main
import Rbac.Proofs.Dispatching
import Rbac.Proofs.Rules
import Rbac.Proofs.Draws
import Rbac.Proofs.Tables
import Rbac.Proofs.Permissions
import Rbac.Proofs.Naming
import Rbac.Proofs.Syncing
import Rbac.Proofs.Effects
import Rbac.Proofs.Runs
import Rbac.Proofs.Integrity
import Rbac.Proofs.RoleIntegrity
import Rbac.Proofs.SystemRoles
import Rbac.Proofs.Atomicity
import Rbac.Proofs.Replay
import Rbac.Proofs.History
import Rbac.Proofs.LastWrite
import Rbac.Proofs.Reach
import Rbac.Proofs.Delivery
import Rbac.Proofs.Announcements
import Rbac.Proofs.Sessions
import Rbac.Proofs.Bracket
import Rbac.Proofs.Chronology
import Rbac.Proofs.Database.Rows
import Rbac.Proofs.Database.Meaning
import Rbac.Proofs.Database.Exchanges
import Rbac.Proofs.Database.Mirrors
import Rbac.Proofs.Database.Grants
import Rbac.Proofs.Database.Writing
import Rbac.Proofs.Database.Saving
import Rbac.Proofs.Database.Agreeing
import Rbac.Proofs.Database.Agreement
import Rbac.Proofs.Database.Site
import Rbac.Proofs.Database.Refinement
import Rbac.Proofs.Validity
import Rbac.Proofs.Concurrency.Standing
import Rbac.Proofs.Concurrency.Race
import Rbac.Proofs.Concurrency.Contention
import Rbac.Proofs.Conflicts
import Rbac.Proofs.Concurrency.Uniqueness
import Rbac.Proofs.Concurrency.Deletion
import Rbac.Proofs.Http.Stages
import Rbac.Proofs.Http.Serving
import Rbac.Proofs.Http.Responses
import Rbac.Proofs.Http.Pipeline
import Rbac.Proofs.Http.Attribution
import Rbac.Proofs.Verdicts
import Rbac.Proofs.UpdateLaws
import Rbac.Proofs.Undoing
import Rbac.Proofs.Granting
import Rbac.Proofs.Database.ReadingBack
import Rbac.Proofs.Entitlements
import Rbac.Proofs.Database.Overwriting
import Rbac.Proofs.Database.StoredOrder
import Rbac.Proofs.Accounting
import Rbac.Proofs.Spellings
import Rbac.Proofs.Json.Strings
import Rbac.Proofs.Json.RoundTrip
import Rbac.Proofs.AuditEntries
import Rbac.Proofs.Matching
import Rbac.Proofs.ActionNames
import Rbac.Proofs.Grouping
import Rbac.Proofs.Contract
import Rbac.Proofs.Reports
import Rbac.Proofs.Resubmitting
import Rbac.Proofs.Numerals
import Rbac.Proofs.Identifiers
import Rbac.Proofs.Http.Headers
import Rbac.Proofs.Http.Sharing
import Rbac.Proofs.Http.Journals
import Rbac.Proofs.Http.Correlation
import Rbac.Proofs.Database.Texts
import Rbac.Proofs.Database.Asking
import Rbac.Proofs.Database.Placing
import Rbac.Proofs.Database.Scripts
import Rbac.Proofs.Summaries
