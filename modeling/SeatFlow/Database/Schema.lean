import SeatFlow.Database.Types
import SeatFlow.Relational.Entity

/-!
# Schema

Rows, the database state and its writes. A row has the columns that the
modelled services read or write; descriptive text (labels, titles, payloads)
that they only copy is left out. Child rows that are written with their parent
and never alone (hold items, order items, booking seats, refund seats) are lists
in the parent row. Outbox rows and ledger entries are keyed by their unique
deduplication and idempotency keys.
-/

namespace SeatFlow

open Relational

/-! ## §1 Catalogue and seats -/

structure Membership where
  organizationId : OrganizationId
  role : MembershipRole
  deriving DecidableEq

structure User where
  platformRole : PlatformRole
  memberships : List Membership
  deriving DecidableEq

structure Event where
  organizerOrganizationId : OrganizationId
  status : EventStatus
  deriving DecidableEq

structure EventSession where
  eventId : EventId
  /-- The organization that owns the session's venue. -/
  venueOrganizationId : OrganizationId
  status : EventSessionStatus
  startAt : Time
  endAt : Time
  salesStartAt : Time
  salesEndAt : Time
  cancelledAt : Option Time := none
  deriving DecidableEq

structure SessionSeatInventory where
  sessionId : SessionId
  seatId : SeatId
  sectionId : SectionId
  priceTierId : PriceTierId
  priceMinor : Money
  currency : Currency
  state : SeatInventoryState := .AVAILABLE
  currentHoldId : Option HoldId := none
  holdExpiresAt : Option Time := none
  deriving DecidableEq

structure SeatHoldItem where
  inventoryId : InventoryId
  priceMinor : Money
  currency : Currency
  deriving DecidableEq

structure SeatHold where
  publicToken : Reference
  sessionId : SessionId
  userId : UserId
  status : SeatHoldStatus := .ACTIVE
  idempotencyKey : RequestKey
  expiresAt : Time
  createdAt : Time
  releasedAt : Option Time := none
  expiredAt : Option Time := none
  convertedAt : Option Time := none
  items : List SeatHoldItem := []
  deriving DecidableEq

/-! ## §2 Orders, payments and bookings -/

structure CheckoutOrderItem where
  inventoryId : InventoryId
  seatId : SeatId
  sectionId : SectionId
  priceTierId : PriceTierId
  priceMinor : Money
  currency : Currency
  deriving DecidableEq

structure CheckoutOrder where
  publicReference : Reference
  userId : UserId
  organizationId : OrganizationId
  eventId : EventId
  sessionId : SessionId
  sourceHoldId : HoldId
  status : CheckoutOrderStatus := .PENDING
  currency : Currency
  subtotalMinor : Money
  totalMinor : Money
  idempotencyKey : RequestKey
  checkoutExpiresAt : Time
  createdAt : Time
  paidAt : Option Time := none
  fulfilledAt : Option Time := none
  failedAt : Option Time := none
  cancelledAt : Option Time := none
  expiredAt : Option Time := none
  safeFailureCode : Option Code := none
  version : Nat := 0
  financialReviewState : FinancialReviewState := .NONE
  items : List CheckoutOrderItem := []
  deriving DecidableEq

structure PaymentAttempt where
  orderId : OrderId
  provider : PaymentProviderName
  providerIntentId : Option ProviderRef := none
  providerIdempotencyKey : Reference
  status : PaymentAttemptStatus := .CREATED
  amountMinor : Money
  currency : Currency
  safeFailureCode : Option Code := none
  createdAt : Time
  succeededAt : Option Time := none
  failedAt : Option Time := none
  cancelledAt : Option Time := none
  refundedMinor : Money := 0
  inFlightRefundMinor : Money := 0
  deriving DecidableEq

structure PaymentWebhookEvent where
  provider : PaymentProviderName
  providerEventId : ProviderRef
  eventCategory : PaymentWebhookEventCategory := .PAYMENT
  providerIntentId : ProviderRef
  paymentAttemptId : Option AttemptId
  normalizedStatus : Option PaymentAttemptStatus := none
  normalizedRefundStatus : Option RefundStatus := none
  normalizedDisputeStatus : Option DisputeStatus := none
  amountMinor : Money
  currency : Currency
  signatureStatus : PaymentWebhookSignatureStatus := .VERIFIED
  processingStatus : PaymentWebhookProcessingStatus := .RECEIVED
  receivedAt : Time
  processedAt : Option Time := none
  providerOccurredAt : Option Time := none
  attemptCount : Nat := 0
  safeProcessingError : Option Code := none
  providerRefundId : Option ProviderRef := none
  providerDisputeId : Option ProviderRef := none
  refundId : Option RefundId := none
  disputeId : Option DisputeId := none
  deriving DecidableEq

structure BookingSeat where
  id : BookingSeatId
  inventoryId : InventoryId
  sessionId : SessionId
  seatId : SeatId
  sectionId : SectionId
  priceTierId : PriceTierId
  priceMinor : Money
  currency : Currency
  deriving DecidableEq

structure Booking where
  publicReference : Reference
  orderId : OrderId
  userId : UserId
  organizationId : OrganizationId
  eventId : EventId
  sessionId : SessionId
  status : BookingStatus := .CONFIRMED
  currency : Currency
  totalMinor : Money
  confirmedAt : Time
  createdAt : Time
  refundedAt : Option Time := none
  financialReviewState : FinancialReviewState := .NONE
  seats : List BookingSeat := []
  deriving DecidableEq

/-- One request a booking; `bookingId` is its key. -/
structure TicketIssuanceRequest where
  status : TicketIssuanceRequestStatus := .PENDING
  availableAt : Time
  attemptCount : Nat := 0
  processedAt : Option Time := none
  deadLetterAt : Option Time := none
  createdAt : Time
  deriving DecidableEq

/-- A credential text of the right shape, and its hash: keyed hashes, which the code
only compares. `deriveTicketCredential` computes a ticket's from its reference and
the version; a holder may present any other. -/
inductive CredentialToken
  | derived (ticketReference : Reference) (version : Nat)
  | other (text : Nat)
  deriving DecidableEq

structure Ticket where
  publicReference : Reference
  bookingId : BookingId
  bookingSeatId : BookingSeatId
  userId : UserId
  organizationId : OrganizationId
  eventId : EventId
  sessionId : SessionId
  status : TicketStatus := .ACTIVE
  issuedAt : Time
  revokedAt : Option Time := none
  revocationReason : Option Code := none
  revokedByUserId : Option UserId := none
  lastCredentialRotationAt : Option Time := none
  deriving DecidableEq

structure TicketCredential where
  ticketId : TicketId
  version : Nat
  credentialHash : CredentialToken
  status : TicketCredentialStatus := .ACTIVE
  issuedAt : Time
  revokedAt : Option Time := none
  replacedAt : Option Time := none
  usedAt : Option Time := none
  replacementCredentialId : Option CredentialId := none
  deriving DecidableEq

/-- One scan at the entrance. -/
structure TicketRedemptionEvent where
  ticketId : Option TicketId := none
  ticketCredentialId : Option CredentialId := none
  organizationId : OrganizationId
  eventId : EventId
  sessionId : SessionId
  scannerUserId : UserId
  outcome : TicketRedemptionOutcome
  scannedAt : Time
  scannerIdentifier : Option Code := none
  rejectionReason : Option TicketRedemptionOutcome := none
  idempotencyKey : Option RequestKey := none
  deriving DecidableEq

/-! ## §3 Refunds, disputes and the ledger -/

structure RefundSeat where
  bookingSeatId : BookingSeatId
  priceMinor : Money
  currency : Currency
  deriving DecidableEq

structure Refund where
  publicReference : Reference
  orderId : OrderId
  paymentAttemptId : AttemptId
  bookingId : BookingId
  requestedByUserId : Option UserId
  approvedByUserId : Option UserId
  initiator : RefundInitiator
  status : RefundStatus := .REQUESTED
  reasonCode : RefundReasonCode
  scope : RefundScope
  requestedAmountMinor : Money
  currency : Currency
  provider : PaymentProviderName
  providerRefundId : Option ProviderRef := none
  providerIdempotencyKey : AttemptId × RequestKey
  requestedAt : Time
  submittedAt : Option Time := none
  succeededAt : Option Time := none
  failedAt : Option Time := none
  cancelledAt : Option Time := none
  reviewRequiredAt : Option Time := none
  safeFailureCode : Option Code := none
  version : Nat := 0
  seats : List RefundSeat := []
  deriving DecidableEq

/-- One submission of a refund; its key is the refund and the attempt number,
from which its idempotency key is derived. -/
structure RefundAttempt where
  provider : PaymentProviderName
  providerRequestReference : Option ProviderRef := none
  status : RefundAttemptStatus
  startedAt : Time
  completedAt : Option Time := none
  safeFailureCode : Option Code := none
  deriving DecidableEq

structure PaymentDispute where
  publicReference : Reference
  paymentAttemptId : AttemptId
  orderId : OrderId
  bookingId : Option BookingId
  provider : PaymentProviderName
  providerDisputeId : ProviderRef
  status : DisputeStatus := .OPEN
  reasonCategory : DisputeReasonCategory := .UNRECOGNIZED
  disputedAmountMinor : Money
  currency : Currency
  openedAt : Time
  evidenceDueAt : Option Time := none
  closedAt : Option Time := none
  outcome : Option DisputeOutcome := none
  version : Nat := 0
  createdAt : Time
  deriving DecidableEq

/-- What was heard about a dispute; its key is the dispute and the provider's
event. -/
structure PaymentDisputeEvent where
  previousStatus : Option DisputeStatus
  newStatus : DisputeStatus
  effectiveAt : Time
  createdAt : Time
  safeMetadata : Option Code := none
  deriving DecidableEq

/-- What a ledger entry is about: a refund, the verified event that settled it,
or the chargeback that the event brought. -/
inductive LedgerCause
  | refund (id : RefundId)
  | webhook (id : WebhookId)
  | chargeback (id : WebhookId)
  deriving DecidableEq

/-- `${entryType}:${causeKey}`. -/
structure LedgerKey where
  entryType : LedgerEntryType
  cause : LedgerCause
  deriving DecidableEq

structure FinancialLedgerEntry where
  direction : LedgerDirection
  amountMinor : Money
  currency : Currency
  orderId : OrderId
  paymentAttemptId : AttemptId
  bookingId : Option BookingId
  refundId : Option RefundId
  disputeId : Option DisputeId := none
  provider : PaymentProviderName
  providerReference : Option ProviderRef
  effectiveAt : Time
  deriving DecidableEq

/-! ## §4 Outboxes -/

/-- Deduplication keys of the inventory outbox; the constructor is the key's
prefix and fixes the event type. -/
inductive InventoryEventKey
  | holdCreated (hold : HoldId)
  | holdReleased (hold : HoldId)
  | holdExpired (hold : HoldId)
  | sessionCancelled (session : SessionId)
  | checkoutCreated (order : OrderId)
  | paymentIntentCreated (attempt : AttemptId)
  | paymentSucceededReview (webhook : WebhookId)
  | paymentReview (webhook : WebhookId)
  | paymentFailed (webhook : WebhookId)
  | paymentSucceeded (webhook : WebhookId)
  | inventoryBooked (booking : BookingId)
  | bookingConfirmed (booking : BookingId)
  deriving DecidableEq

structure InventoryEvent where
  sessionId : SessionId
  createdAt : Time
  deriving DecidableEq

/-- Deduplication keys of the financial outbox. -/
inductive FinancialEventKey
  | refundRequested (refund : RefundId)
  | refundAmbiguous (refund : RefundId) (attemptNumber : Nat)
  | refundSubmitted (refund : RefundId)
  | refundFailed (refund : RefundId)
  | refundSucceeded (refund : RefundId)
  | refundRevocation (refund : RefundId)
  | refundReview (refund : RefundId)
  | disputeReview (dispute : DisputeId)
  | refundDisputeOverlap (dispute : DisputeId)
  | chargeback (dispute : DisputeId)
  | dispute (eventType : DisputeEventType) (dispute : DisputeId) (webhook : WebhookId)
  deriving DecidableEq

/-- The fields of the events' JSON payloads; an event carries some of them. -/
structure FinancialPayload where
  refundReference : Option Reference := none
  amountMinor : Option Money := none
  currency : Option Currency := none
  reasonCode : Option RefundReasonCode := none
  safeCode : Option Code := none
  attemptNumber : Option Nat := none
  ticketsRevoked : Option Nat := none
  usedTicketsPreserved : Option Nat := none
  revoked : Option Nat := none
  disputeStatus : Option DisputeStatus := none
  exceedsCaptured : Option Bool := none
  combinedMinor : Option Money := none
  deriving DecidableEq

structure FinancialEvent where
  orderId : OrderId
  refundId : Option RefundId := none
  disputeId : Option DisputeId := none
  bookingId : Option BookingId
  payload : FinancialPayload
  createdAt : Time
  deriving DecidableEq

/-! ## §5 The database -/

/-- Row triggers that are `DEFERRABLE INITIALLY DEFERRED`: queued by a write,
run at commit against the final state. -/
inductive DeferredTrigger
  | verifyOrderTotals (order : OrderId)
  | verifyBookingFulfillment (booking : BookingId)
  | verifyHoldConversion (hold : HoldId)
  | verifyRefundSeatTotal (refund : RefundId)
  | verifyBookingRefundCompletion (booking : BookingId)
  | verifyCredentialReplacement (credential : CredentialId)
  deriving DecidableEq

structure Db where
  users : Table UserId User := ∅
  events : Table EventId Event := ∅
  sessions : Table SessionId EventSession := ∅
  inventory : Table InventoryId SessionSeatInventory := ∅
  holds : Table HoldId SeatHold := ∅
  orders : Table OrderId CheckoutOrder := ∅
  attempts : Table AttemptId PaymentAttempt := ∅
  webhooks : Table WebhookId PaymentWebhookEvent := ∅
  bookings : Table BookingId Booking := ∅
  issuanceRequests : Table BookingId TicketIssuanceRequest := ∅
  tickets : Table TicketId Ticket := ∅
  credentials : Table CredentialId TicketCredential := ∅
  redemptions : Table RedemptionId TicketRedemptionEvent := ∅
  refunds : Table RefundId Refund := ∅
  refundAttempts : Table (RefundId × Nat) RefundAttempt := ∅
  disputes : Table DisputeId PaymentDispute := ∅
  disputeEvents : Table (DisputeId × ProviderRef) PaymentDisputeEvent := ∅
  ledger : Table LedgerKey FinancialLedgerEntry := ∅
  inventoryOutbox : Table InventoryEventKey InventoryEvent := ∅
  financialOutbox : Table FinancialEventKey FinancialEvent := ∅
  deferred : List DeferredTrigger := []
  deriving DecidableEq

/-- Storing a table that was just read changes nothing. -/
theorem Db.eta (db : Db) : { db with users := db.users } = db := rfl

/-- Row locks. -/
inductive RowKey
  | user (id : UserId)
  | event (id : EventId)
  | session (id : SessionId)
  | inventory (id : InventoryId)
  | hold (id : HoldId)
  | order (id : OrderId)
  | attempt (id : AttemptId)
  | webhook (id : WebhookId)
  | booking (id : BookingId)
  | issuanceRequest (id : BookingId)
  | ticket (id : TicketId)
  | credential (id : CredentialId)
  | redemption (id : RedemptionId)
  | refund (id : RefundId)
  | refundAttempt (id : RefundId × Nat)
  | dispute (id : DisputeId)
  | disputeEvent (id : DisputeId × ProviderRef)
  | ledger (key : LedgerKey)
  | inventoryOutbox (key : InventoryEventKey)
  | financialOutbox (key : FinancialEventKey)
  deriving DecidableEq

/-- Row writes; `defer` and `settled` only touch the transaction's own queue of
deferred triggers. -/
inductive Write
  | user (id : UserId) (row : User)
  | event (id : EventId) (row : Event)
  | session (id : SessionId) (row : EventSession)
  | inventory (id : InventoryId) (row : SessionSeatInventory)
  | hold (id : HoldId) (row : SeatHold)
  | order (id : OrderId) (row : CheckoutOrder)
  | attempt (id : AttemptId) (row : PaymentAttempt)
  | webhook (id : WebhookId) (row : PaymentWebhookEvent)
  | booking (id : BookingId) (row : Booking)
  | issuanceRequest (id : BookingId) (row : TicketIssuanceRequest)
  | ticket (id : TicketId) (row : Ticket)
  | credential (id : CredentialId) (row : TicketCredential)
  | redemption (id : RedemptionId) (row : TicketRedemptionEvent)
  | refund (id : RefundId) (row : Refund)
  | refundAttempt (id : RefundId × Nat) (row : RefundAttempt)
  | dispute (id : DisputeId) (row : PaymentDispute)
  | disputeEvent (id : DisputeId × ProviderRef) (row : PaymentDisputeEvent)
  | ledger (key : LedgerKey) (row : FinancialLedgerEntry)
  | inventoryOutbox (key : InventoryEventKey) (row : InventoryEvent)
  | financialOutbox (key : FinancialEventKey) (row : FinancialEvent)
  | defer (trigger : DeferredTrigger)
  | settled

def Write.apply : Write → Db → Db
  | .user id row, db => { db with users := db.users.insert id row }
  | .event id row, db => { db with events := db.events.insert id row }
  | .session id row, db => { db with sessions := db.sessions.insert id row }
  | .inventory id row, db => { db with inventory := db.inventory.insert id row }
  | .hold id row, db => { db with holds := db.holds.insert id row }
  | .order id row, db => { db with orders := db.orders.insert id row }
  | .attempt id row, db => { db with attempts := db.attempts.insert id row }
  | .webhook id row, db => { db with webhooks := db.webhooks.insert id row }
  | .booking id row, db => { db with bookings := db.bookings.insert id row }
  | .issuanceRequest id row, db =>
      { db with issuanceRequests := db.issuanceRequests.insert id row }
  | .ticket id row, db => { db with tickets := db.tickets.insert id row }
  | .credential id row, db => { db with credentials := db.credentials.insert id row }
  | .redemption id row, db => { db with redemptions := db.redemptions.insert id row }
  | .refund id row, db => { db with refunds := db.refunds.insert id row }
  | .refundAttempt id row, db => { db with refundAttempts := db.refundAttempts.insert id row }
  | .dispute id row, db => { db with disputes := db.disputes.insert id row }
  | .disputeEvent id row, db => { db with disputeEvents := db.disputeEvents.insert id row }
  | .ledger key row, db => { db with ledger := db.ledger.insert key row }
  | .inventoryOutbox key row, db => { db with inventoryOutbox := db.inventoryOutbox.insert key row }
  | .financialOutbox key row, db => { db with financialOutbox := db.financialOutbox.insert key row }
  | .defer trigger, db => { db with deferred := trigger :: db.deferred }
  | .settled, db => { db with deferred := [] }

def Write.key : Write → Option RowKey
  | .user id _ => some (.user id)
  | .event id _ => some (.event id)
  | .session id _ => some (.session id)
  | .inventory id _ => some (.inventory id)
  | .hold id _ => some (.hold id)
  | .order id _ => some (.order id)
  | .attempt id _ => some (.attempt id)
  | .webhook id _ => some (.webhook id)
  | .booking id _ => some (.booking id)
  | .issuanceRequest id _ => some (.issuanceRequest id)
  | .ticket id _ => some (.ticket id)
  | .credential id _ => some (.credential id)
  | .redemption id _ => some (.redemption id)
  | .refund id _ => some (.refund id)
  | .refundAttempt id _ => some (.refundAttempt id)
  | .dispute id _ => some (.dispute id)
  | .disputeEvent id _ => some (.disputeEvent id)
  | .ledger key _ => some (.ledger key)
  | .inventoryOutbox key _ => some (.inventoryOutbox key)
  | .financialOutbox key _ => some (.financialOutbox key)
  | .defer _ => none
  | .settled => none

instance : Store Db RowKey Write where
  apply := Write.apply
  key := Write.key

/-- Why a transaction was rolled back: a constraint or trigger rejected a write,
a record was missing, or the service threw a domain error. -/
inductive Failure
  | constraint (name : String)
  | notFound (model : String)
  | domain (code : String)
  deriving DecidableEq

abbrev Sql (α : Type) := Program Db RowKey Write Failure α

/-- An entity of this database. -/
abbrev Model (τ ρ : Type) [DecidableEq τ] := Entity Db RowKey Write Failure τ ρ

end SeatFlow
