import SeatFlow.Collections.FixedWindow
import SeatFlow.Collections.OrderedMap
import SeatFlow.Collections.Results
import SeatFlow.Commerce.Captures
import SeatFlow.Commerce.CheckoutRaces
import SeatFlow.Commerce.CheckoutService
import SeatFlow.Commerce.Fulfilment
import SeatFlow.Commerce.HoldConfiguration
import SeatFlow.Commerce.HoldExpiry
import SeatFlow.Commerce.HoldService
import SeatFlow.Commerce.Policy
import SeatFlow.Commerce.Sales
import SeatFlow.Commerce.SalesTransactions
import SeatFlow.Commerce.SeatAgreement
import SeatFlow.Commerce.WebhookService
import SeatFlow.Commerce.WebhookWrites
import SeatFlow.Database.Coherence
import SeatFlow.Database.CommerceConstraints
import SeatFlow.Database.Indexes
import SeatFlow.Database.RefundConstraints
import SeatFlow.Database.Schema
import SeatFlow.Database.Soundness
import SeatFlow.Database.TicketConstraints
import SeatFlow.Disputes.DeliveryOrder
import SeatFlow.Disputes.DisputeCommits
import SeatFlow.Disputes.DisputeEffects
import SeatFlow.Disputes.DisputeService
import SeatFlow.Disputes.DisputeWrites
import SeatFlow.Disputes.EvidenceDeadlines
import SeatFlow.Disputes.FinancialSystem
import SeatFlow.Disputes.LostDisputes
import SeatFlow.Disputes.RefundOverlap
import SeatFlow.Disputes.ReviewGate
import SeatFlow.Events.DateTime
import SeatFlow.Events.Money
import SeatFlow.Events.PlanningSchema
import SeatFlow.Events.PlanningServices
import SeatFlow.Events.PlanningStore
import SeatFlow.Events.PlanningSystem
import SeatFlow.Events.Pricing
import SeatFlow.Events.PublishedSessions
import SeatFlow.Events.SeasonCoherence
import SeatFlow.Events.SeatSelection
import SeatFlow.Events.SessionInventory
import SeatFlow.Events.Slugs
import SeatFlow.Events.VenueTenancy
import SeatFlow.Jobs.JobDelivery
import SeatFlow.Ledger.DivergenceProbe
import SeatFlow.Ledger.Entries
import SeatFlow.Numbers.Binary64
import SeatFlow.Numbers.Calendar
import SeatFlow.Numbers.Decimal
import SeatFlow.Operations.BackupSafety
import SeatFlow.Operations.DeploymentProfile
import SeatFlow.Operations.PaymentEnvironment
import SeatFlow.Outbox.DeliveryRetries
import SeatFlow.Outbox.InventoryDispatcher
import SeatFlow.Outbox.NotificationDispatcher
import SeatFlow.Platform.Permanence
import SeatFlow.Platform.ProviderIsolation
import SeatFlow.Platform.Reachability
import SeatFlow.Platform.RowOrder
import SeatFlow.Platform.SettledBalance
import SeatFlow.Platform.StrandedPayments
import SeatFlow.Realtime.InventoryInvalidation
import SeatFlow.Realtime.RequestRateLimit
import SeatFlow.Refunds.Adoption
import SeatFlow.Refunds.Ambiguity
import SeatFlow.Refunds.Approval
import SeatFlow.Refunds.Concurrency
import SeatFlow.Refunds.Consistency
import SeatFlow.Refunds.EventFrames
import SeatFlow.Refunds.EventProcessing
import SeatFlow.Refunds.FinishedRefunds
import SeatFlow.Refunds.Frames
import SeatFlow.Refunds.LedgerMirror
import SeatFlow.Refunds.Lifecycle
import SeatFlow.Refunds.OpenSeats
import SeatFlow.Refunds.OverRefund
import SeatFlow.Refunds.PaymentAggregate
import SeatFlow.Refunds.Policy
import SeatFlow.Refunds.ReachableStates
import SeatFlow.Refunds.ReconciliationService
import SeatFlow.Refunds.RefundPricing
import SeatFlow.Refunds.RefundService
import SeatFlow.Refunds.RefundSystem
import SeatFlow.Refunds.RefundWrites
import SeatFlow.Refunds.SeatCoverage
import SeatFlow.Refunds.SettlementCommits
import SeatFlow.Refunds.SettlementRace
import SeatFlow.Refunds.SettlementService
import SeatFlow.Refunds.SubmissionService
import SeatFlow.Refunds.Successes
import SeatFlow.Refunds.UnfinishedRefunds
import SeatFlow.Refunds.WebhookReplay
import SeatFlow.Relational.Coherent
import SeatFlow.Relational.DerivedTotal
import SeatFlow.Relational.Entity
import SeatFlow.Relational.Interference
import SeatFlow.Relational.Isolation
import SeatFlow.Relational.Program
import SeatFlow.Relational.Projection
import SeatFlow.Relational.Queue
import SeatFlow.Relational.ReadCommitted
import SeatFlow.Relational.Runs
import SeatFlow.Relational.Siblings
import SeatFlow.Relational.Steps
import SeatFlow.Relational.Table
import SeatFlow.Relational.VersionChain
import SeatFlow.SeatMaps.ClonedMaps
import SeatFlow.SeatMaps.DraftEditor
import SeatFlow.SeatMaps.DraftRemoval
import SeatFlow.SeatMaps.PublicationValidation
import SeatFlow.SeatMaps.PublishedMaps
import SeatFlow.SeatMaps.RowLabels
import SeatFlow.SeatMaps.Schema
import SeatFlow.SeatMaps.SeatMapService
import SeatFlow.SeatMaps.SeatMapStore
import SeatFlow.SeatMaps.SpaceCatalogue
import SeatFlow.SeatMaps.TidyMaps
import SeatFlow.SeatMaps.VenueServices
import SeatFlow.Security.AddressLabels
import SeatFlow.Security.AddressTexts
import SeatFlow.Security.ClientAddress
import SeatFlow.Security.DistributedRateLimit
import SeatFlow.Security.Hmac
import SeatFlow.Security.RateLimitPolicies
import SeatFlow.Text.CodeUnits
import SeatFlow.Text.Encodings
import SeatFlow.Text.Fields
import SeatFlow.Text.IpAddress
import SeatFlow.Text.Words
import SeatFlow.Tickets.CredentialChains
import SeatFlow.Tickets.DownloadGrants
import SeatFlow.Tickets.RepeatedIssuance
import SeatFlow.Tickets.Replays
import SeatFlow.Tickets.TicketPdf
