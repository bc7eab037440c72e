import StoryEngine.Pages.Exposure
import StoryEngine.Pages.PublishFailure
import StoryEngine.Pages.EditVisibility
import StoryEngine.Pages.ConcurrentEdits
import StoryEngine.Pages.EditSessions
import StoryEngine.Routes.Isolation
import StoryEngine.Approval.ConcurrentReviews
import StoryEngine.Accounts.Preservation
import StoryEngine.Approval.ConfiguredChain
import StoryEngine.Crm.Windows
import StoryEngine.Crm.Contacts
import StoryEngine.Crm.DomainOwners
import StoryEngine.Integrations.CallGaps
import StoryEngine.Integrations.OneExecution
import StoryEngine.Webhooks.Deliveries
import StoryEngine.Ingestion.Transcripts
import StoryEngine.Ingestion.ReviewQueue
import StoryEngine.Ingestion.ManualAssignments
import StoryEngine.Ingestion.Redelivery
import StoryEngine.Billing.TrialGate
import StoryEngine.Billing.Lifecycle
import StoryEngine.Billing.StripeWebhook
import StoryEngine.Billing.UsageRuns
import StoryEngine.Setup.PlanSelection
import StoryEngine.Ai.OneCharge
import StoryEngine.Processing.TranscriptRuns
import StoryEngine.Processing.CurrentChunks
import StoryEngine.Governance.VectorRetention
import StoryEngine.Security.DeletedKeys
import StoryEngine.Pages.Exports
import StoryEngine.Rag.AccountAccess
import StoryEngine.Access.TenantIsolation
import StoryEngine.Security.EndedSessions
import StoryEngine.Stories.QuoteLineage
import StoryEngine.Stories.ReadCalls
import StoryEngine.Stories.RawTranscripts
import StoryEngine.Access.Ownership
import StoryEngine.Ai.Pairing
import StoryEngine.Ai.Overshoot
import StoryEngine.Ai.LastWritten
import StoryEngine.Ai.OneAlert
import StoryEngine.Resolution.RowOrder
import StoryEngine.Notifications.ReadState
import StoryEngine.Ai.TenantCircuits
import StoryEngine.Tagging.CalibrationEnds
import StoryEngine.Tagging.SharedCache
import StoryEngine.Tagging.CallTags
import StoryEngine.Access.AuditPages
import StoryEngine.Stories.LibraryAccess
import StoryEngine.Quotes.QuoteLimits
import StoryEngine.Rag.SeparateKeys
import StoryEngine.Stories.DocumentSize
import StoryEngine.Tagging.CalibrationCurve
import StoryEngine.Processing.ChunkCoverage
import StoryEngine.Security.UrlSecurity
import StoryEngine.Processing.ChunkMasking
import StoryEngine.Scrub.CleanScrubbing
import StoryEngine.Pages.Markdown
import StoryEngine.Ai.RateLimiter
import StoryEngine.Integrations.OutboundRate
import StoryEngine.Pages.ExportSlots
import StoryEngine.Ai.LimitNotices
import StoryEngine.Processing.DeadLetters
import StoryEngine.Ai.FailoverDiscipline
import StoryEngine.Pipeline.ChunkWorkers
import StoryEngine.Accounts.FunnelStages
import StoryEngine.Scrub.CompanyNames
import StoryEngine.Quotes.QuoteLibrary
import StoryEngine.Security.RequestRates
import StoryEngine.Pipeline.TagCache
import StoryEngine.Integrations.GongAccounts
import StoryEngine.Pages.CustomCss
