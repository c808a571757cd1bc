import GhostRecon.Enrichment.Contacts
import GhostRecon.Sequencing.EmailDelivery
import GhostRecon.Lib.Run
import GhostRecon.Meeting.Lifecycle
import GhostRecon.Sequencing.Activities
import GhostRecon.Sequencing.Effects
import GhostRecon.Sequencing.Operations
import GhostRecon.Sequencing.Invariants
import GhostRecon.Enrichment.Verification
import GhostRecon.Sequencing.Approvals
import GhostRecon.Sequencing.Drafts
import GhostRecon.Sequencing.Unsubscribes
import GhostRecon.Lib.Overlap
import GhostRecon.Sequencing.Interleavings
import GhostRecon.Enrichment.BlockedCandidates
import GhostRecon.Security.Gateway
import GhostRecon.Common.Json
import GhostRecon.Incidents.Parsers
import GhostRecon.Models.Incidents
import GhostRecon.Incidents.Candidates
import GhostRecon.Incidents.Repository
import GhostRecon.Incidents.Decisions
import GhostRecon.Incidents.Coverage
import GhostRecon.Incidents.Lifecycle
import GhostRecon.Incidents.Statuses
import GhostRecon.Incidents.Evidence
import GhostRecon.Incidents.Reverts
import GhostRecon.Sequencing.Mailbox
import GhostRecon.Sequencing.Prospects
import GhostRecon.Sequencing.Rounds
import GhostRecon.Lib.Calendar
import GhostRecon.Security.Sessions
import GhostRecon.Security.SessionRuns
import GhostRecon.Lib.Counting
import GhostRecon.Lib.Expiring
import GhostRecon.Security.Console
import GhostRecon.Security.Login
import GhostRecon.Security.Propagation
import GhostRecon.Security.Replay
import GhostRecon.Sequencing.RateLimits
import GhostRecon.Enrichment.VerifiedContacts
import GhostRecon.Governance.Deciders
import GhostRecon.Meeting.Outcomes
import GhostRecon.Meeting.Statuses
import GhostRecon.Scoring.Candidates
import GhostRecon.Enrichment.Reviews
import GhostRecon.Lib.Agreement
import GhostRecon.Sequencing.Progress
import GhostRecon.Sequencing.Advances
import GhostRecon.Sequencing.Completions
import GhostRecon.Sequencing.Pinning
import GhostRecon.Sources.Registry
import GhostRecon.Sources.Fetches
import GhostRecon.Meeting.Bookings
import GhostRecon.Meeting.Calendars
import GhostRecon.Sequencing.Bystanders
import GhostRecon.Sequencing.DueSteps
import GhostRecon.Sequencing.Links
import GhostRecon.Sequencing.Rebookings
import GhostRecon.Enrichment.Entities
import GhostRecon.Governance.ReviewDecisions
import GhostRecon.Lib.Paging
import GhostRecon.Reporting.ReviewQueue
import GhostRecon.Sequencing.Alerts
import GhostRecon.Events.Candidates
import GhostRecon.Events.Ordering
import GhostRecon.CrmExports.Attempts
import GhostRecon.CrmExports.Attio
import GhostRecon.CrmExports.Ordering
import GhostRecon.CrmExports.Outages
import GhostRecon.Enrichment.EmailCandidates
import GhostRecon.Events.NameKeys
import GhostRecon.Governance.BulkReplays
import GhostRecon.Governance.DecisionKeys
import GhostRecon.Incidents.Contexts
import GhostRecon.Lib.Rounding
import GhostRecon.Scoring.Monotonicity
import GhostRecon.Sequencing.Imports
import GhostRecon.Sequencing.StepOrders
import GhostRecon.Sources.Failures
import GhostRecon.Sources.Ics
import GhostRecon.Enrichment.Batches
import GhostRecon.Enrichment.Patterns
import GhostRecon.Enrichment.Targets
import GhostRecon.Events.IcsZones
import GhostRecon.Sources.IcsTexts
import GhostRecon.Common.Configuration
import GhostRecon.Common.JsonText
import GhostRecon.Events.Times
import GhostRecon.Events.Updates
import GhostRecon.Security.Audit
import GhostRecon.Security.Operations
import GhostRecon.Security.TaskArguments
import GhostRecon.Security.TokenErrors
import GhostRecon.CrmExports.Books
import GhostRecon.Governance.ReviewRuns
import GhostRecon.Incidents.Monitoring
import GhostRecon.Lib.Quota
import GhostRecon.Security.RateLimit
import GhostRecon.Sequencing.Templating
import GhostRecon.Sources.Health
import GhostRecon.CrmExports.SingleExport
