import SeatFlow.Refunds.SettlementService

/-!
# Disputes

`features/disputes/lifecycle`, `dispute-service` and the dispute half of
`webhook-service`: a verified provider event opens a dispute or advances it, flags
the order, writes the ledger and, when the dispute is lost, revokes admission.
The raw event type that is kept with a dispute is descriptive text and left out.
-/

namespace SeatFlow

open Relational Program

/-! ## §1 Decisions -/

/-- `DISPUTE_OPEN_STATUSES`. -/
def isOpenDisputeStatus : DisputeStatus → Bool
  | .OPEN | .NEEDS_RESPONSE | .UNDER_REVIEW => true
  | .WON | .LOST | .CLOSED | .REQUIRES_REVIEW => false

def outcomeForTerminalStatus : DisputeStatus → Option DisputeOutcome
  | .WON => some .WON
  | .LOST => some .LOST
  | _ => none

inductive DisputeTransitionDecision
  | apply (status : DisputeStatus) (disputeOutcome : Option DisputeOutcome)
  | ignore (reason : Code)
  | review (safeCode : Code)
  deriving DecidableEq

def decideDisputeTransition (current incoming : DisputeStatus) : DisputeTransitionDecision :=
  if current = .REQUIRES_REVIEW then .ignore "ALREADY_UNDER_REVIEW"
  else if current = incoming then .ignore "DUPLICATE_STATUS"
  else if incoming = .REQUIRES_REVIEW then .review "PROVIDER_REQUESTED_REVIEW"
  else if isTerminalDisputeStatus current then
    if isTerminalDisputeStatus incoming then .review "CONTRADICTORY_DISPUTE_OUTCOME"
    else .ignore "STALE_EVENT_AFTER_TERMINAL"
  else .apply incoming (outcomeForTerminalStatus incoming)

/-- Whether a lost dispute revokes a ticket, as `decideDisputeTicketConsequence`
has it for `LOST`. -/
def decideDisputeTicketConsequence (status : TicketStatus) : Bool :=
  status == .ACTIVE

structure RefundDisputeOverlap where
  overlapping : Bool
  exceedsCaptured : Bool
  combinedMinor : Money

def detectRefundDisputeOverlap (succeededRefundMinor disputedAmountMinor capturedMinor : Money) :
    RefundDisputeOverlap :=
  { overlapping := 0 < succeededRefundMinor && 0 < disputedAmountMinor
    exceedsCaptured := capturedMinor < succeededRefundMinor + disputedAmountMinor
    combinedMinor := succeededRefundMinor + disputedAmountMinor }

/-- `LEDGER_TYPE_BY_STATUS`. -/
def ledgerTypeByStatus : DisputeStatus → Option LedgerEntryType
  | .OPEN => some .DISPUTE_OPENED
  | .NEEDS_RESPONSE | .UNDER_REVIEW | .CLOSED => some .DISPUTE_UPDATED
  | .WON => some .DISPUTE_WON
  | .LOST => some .DISPUTE_LOST
  | .REQUIRES_REVIEW => none

/-- The outbox event type of a dispute status. -/
def outboxTypeForStatus : DisputeStatus → DisputeEventType
  | .WON => .DISPUTE_WON
  | .LOST => .DISPUTE_LOST
  | .OPEN => .DISPUTE_OPENED
  | _ => .DISPUTE_UPDATED

/-! ## §2 Consequences -/

structure DisputeEventInput where
  webhookId : WebhookId
  providerEventId : ProviderRef
  providerIntentId : ProviderRef
  providerDisputeId : ProviderRef
  status : DisputeStatus
  reasonCategory : DisputeReasonCategory
  amountMinor : Money
  currency : Currency
  occurredAt : Option Time
  evidenceDueAt : Option Time
  now : Time

/-- What the database and the random generator supply for a new dispute. -/
structure FreshDispute where
  disputeId : DisputeId
  publicReference : Reference

inductive DisputeProcessingOutcome
  | OPENED (disputeId : DisputeId)
  | APPLIED (disputeId : DisputeId) (status : DisputeStatus)
  | IGNORED (disputeId : DisputeId) (reason : Code)
  | REVIEW (disputeId : DisputeId) (safeCode : Code)
  | UNKNOWN_PAYMENT
  deriving DecidableEq

/-- Append to the history; a duplicate delivery adds nothing. -/
def appendDisputeEvent (input : DisputeEventInput) (disputeId : DisputeId)
    (previousStatus : Option DisputeStatus) (newStatus : DisputeStatus)
    (safeMetadata : Option Code) : Sql Bool :=
  Prisma.paymentDisputeEvent.insertNew (disputeId, input.providerEventId)
    { previousStatus := previousStatus
      newStatus := newStatus
      effectiveAt := input.occurredAt.getD input.now
      createdAt := input.now
      safeMetadata := safeMetadata }

/-- `checkoutOrder.update({ data: { financialReviewState } })`. -/
def raiseReviewState (orderId : OrderId) (state : FinancialReviewState) : Sql Unit := do
  let _ ← Prisma.checkoutOrder.update orderId (fun o => { o with financialReviewState := state })
    (.notFound "CheckoutOrder")
  defer (.verifyOrderTotals orderId)

/-- Revoke one ticket for a lost dispute, unless it is used or revoked already. -/
def revokeDisputedTicket (now : Time) (ticket : TicketId × Ticket) : Sql Bool :=
  if decideDisputeTicketConsequence ticket.2.status then do
    revokeAdmission now "DISPUTE_LOST" ticket.1
    pure true
  else pure false

def revokeDisputedTickets (now : Time) : List (TicketId × Ticket) → Sql Nat
  | [] => pure 0
  | ticket :: tickets => do
      let revoked ← revokeDisputedTicket now ticket
      let rest ← revokeDisputedTickets now tickets
      pure (revoked.toNat + rest)

def revokeUnusedTicketsForLostDispute (bookingId : BookingId) (now : Time) : Sql Nat := do
  let tickets ← Prisma.ticket.findMany fun _ t => t.bookingId == bookingId
  revokeDisputedTickets now tickets

/-- What the consequences of a status are computed from. -/
structure DisputeConsequenceInput where
  disputeId : DisputeId
  status : DisputeStatus
  orderId : OrderId
  paymentAttemptId : AttemptId
  bookingId : Option BookingId
  amountMinor : Money
  currency : Currency
  provider : PaymentProviderName
  webhookId : WebhookId
  providerDisputeId : ProviderRef
  effectiveAt : Time
  now : Time
  capturedMinor : Money
  refundedMinor : Money

/-- The ledger entry of a dispute. -/
def DisputeConsequenceInput.ledgerEntry (input : DisputeConsequenceInput)
    (entryType : LedgerEntryType) (causeKey : LedgerCause) : AppendLedgerEntryInput :=
  { entryType := entryType
    amountMinor := input.amountMinor
    currency := input.currency
    orderId := input.orderId
    paymentAttemptId := input.paymentAttemptId
    bookingId := input.bookingId
    refundId := none
    disputeId := some input.disputeId
    provider := input.provider
    causeKey := causeKey
    providerReference := some input.providerDisputeId
    effectiveAt := input.effectiveAt }

/-- The outbox event of a dispute. -/
def DisputeConsequenceInput.financialEvent (input : DisputeConsequenceInput)
    (payload : FinancialPayload) : FinancialEvent :=
  { orderId := input.orderId
    disputeId := some input.disputeId
    bookingId := input.bookingId
    payload := payload
    createdAt := input.now }

/-- The chargeback of a lost dispute. -/
def recordChargeback (input : DisputeConsequenceInput) : Sql Unit := do
  let _ ← appendLedgerEntry
    (input.ledgerEntry .CHARGEBACK_RECORDED (.chargeback input.webhookId))
  raiseReviewState input.orderId .CHARGEBACK_REVIEW
  match input.bookingId with
  | some bookingId => do
      let _ ← revokeUnusedTicketsForLostDispute bookingId input.now
  | none => pure ()
  let _ ← enqueueFinancialEvent (.chargeback input.disputeId)
    (input.financialEvent
      { amountMinor := some input.amountMinor, currency := some input.currency })

def recordDisputeLedgerAndConsequences (input : DisputeConsequenceInput) : Sql Unit := do
  match ledgerTypeByStatus input.status with
  | some entryType => do
      let _ ← appendLedgerEntry (input.ledgerEntry entryType (.webhook input.webhookId))
  | none => pure ()
  let overlap := detectRefundDisputeOverlap input.refundedMinor input.amountMinor
    input.capturedMinor
  if overlap.overlapping then do
    raiseReviewState input.orderId
      (if overlap.exceedsCaptured then .CHARGEBACK_REVIEW else .DISPUTE_REVIEW)
    let _ ← enqueueFinancialEvent (.refundDisputeOverlap input.disputeId)
      (input.financialEvent
        { safeCode := some "REFUND_DISPUTE_OVERLAP"
          exceedsCaptured := some overlap.exceedsCaptured
          combinedMinor := some overlap.combinedMinor })
  if input.status = .LOST then recordChargeback input
  let _ ← enqueueFinancialEvent
    (.dispute (outboxTypeForStatus input.status) input.disputeId input.webhookId)
    (input.financialEvent
      { disputeStatus := some input.status
        amountMinor := some input.amountMinor
        currency := some input.currency })

/-! ## §3 `applyDisputeFromVerifiedEvent` -/

/-- The dispute that its first event opens. -/
def PaymentDispute.created (input : DisputeEventInput) (fresh : FreshDispute)
    (attemptId : AttemptId) (attempt : PaymentAttempt) (bookingId : Option BookingId) :
    PaymentDispute :=
  { publicReference := fresh.publicReference
    paymentAttemptId := attemptId
    orderId := attempt.orderId
    bookingId := bookingId
    provider := attempt.provider
    providerDisputeId := input.providerDisputeId
    status := input.status
    reasonCategory := input.reasonCategory
    disputedAmountMinor := input.amountMinor
    currency := input.currency
    openedAt := input.occurredAt.getD input.now
    evidenceDueAt := input.evidenceDueAt
    closedAt := if isTerminalDisputeStatus input.status then some input.now else none
    outcome := outcomeForTerminalStatus input.status
    createdAt := input.now }

/-- Link the event's record to its dispute. -/
def linkDispute (webhookId : WebhookId) (disputeId : DisputeId) : Sql Unit := do
  let _ ← Prisma.paymentWebhookEvent.update webhookId
    (fun w => { w with disputeId := some disputeId }) (.notFound "PaymentWebhookEvent")

def openDispute (input : DisputeEventInput) (fresh : FreshDispute) (attemptId : AttemptId)
    (attempt : PaymentAttempt) (bookingId : Option BookingId) : Sql DisputeProcessingOutcome := do
  Prisma.paymentDispute.insert fresh.disputeId
    (PaymentDispute.created input fresh attemptId attempt bookingId)
  linkDispute input.webhookId fresh.disputeId
  let _ ← appendDisputeEvent input fresh.disputeId none input.status none
  raiseReviewState attempt.orderId .DISPUTE_REVIEW
  match bookingId with
  | some id => do
      let _ ← Prisma.booking.update id
        (fun b => { b with financialReviewState := .DISPUTE_REVIEW }) (.notFound "Booking")
  | none => pure ()
  recordDisputeLedgerAndConsequences
    { disputeId := fresh.disputeId
      status := input.status
      orderId := attempt.orderId
      paymentAttemptId := attemptId
      bookingId := bookingId
      amountMinor := input.amountMinor
      currency := input.currency
      provider := attempt.provider
      webhookId := input.webhookId
      providerDisputeId := input.providerDisputeId
      effectiveAt := input.occurredAt.getD input.now
      now := input.now
      capturedMinor := attempt.amountMinor
      refundedMinor := attempt.refundedMinor }
  pure (.OPENED fresh.disputeId)

/-- Escalate a dispute. -/
def markDisputeUnderReview (input : DisputeEventInput) (disputeId : DisputeId)
    (dispute : PaymentDispute) (safeCode : Code) : Sql Unit := do
  let _ ← Prisma.paymentDispute.update disputeId
    (fun d => { d with status := .REQUIRES_REVIEW, version := d.version + 1 })
    (.notFound "PaymentDispute")
  raiseReviewState dispute.orderId .DISPUTE_REVIEW
  let _ ← appendDisputeEvent input disputeId (some dispute.status) .REQUIRES_REVIEW (some safeCode)
  let _ ← enqueueFinancialEvent (.disputeReview disputeId)
    { orderId := dispute.orderId
      disputeId := some disputeId
      bookingId := dispute.bookingId
      payload := { safeCode := some safeCode }
      createdAt := input.now }

/-- Advance a dispute. -/
def advanceDispute (input : DisputeEventInput) (attempt : PaymentAttempt) (disputeId : DisputeId)
    (dispute : PaymentDispute) (status : DisputeStatus) (outcome : Option DisputeOutcome) :
    Sql Unit := do
  let _ ← Prisma.paymentDispute.update disputeId
    (fun d => { d with
      status := status
      outcome := outcome
      closedAt := if isTerminalDisputeStatus status then some input.now else none
      evidenceDueAt := input.evidenceDueAt.or dispute.evidenceDueAt
      version := d.version + 1 })
    (.notFound "PaymentDispute")
  let _ ← appendDisputeEvent input disputeId (some dispute.status) status none
  recordDisputeLedgerAndConsequences
    { disputeId := disputeId
      status := status
      orderId := dispute.orderId
      paymentAttemptId := dispute.paymentAttemptId
      bookingId := dispute.bookingId
      amountMinor := dispute.disputedAmountMinor
      currency := dispute.currency
      provider := attempt.provider
      webhookId := input.webhookId
      providerDisputeId := input.providerDisputeId
      effectiveAt := input.occurredAt.getD input.now
      now := input.now
      capturedMinor := attempt.amountMinor
      refundedMinor := attempt.refundedMinor }

def applyDisputeFromVerifiedEvent (input : DisputeEventInput) (fresh : FreshDispute) :
    Sql DisputeProcessingOutcome := do
  -- by the payment intent alone
  let attempts ← Prisma.paymentAttempt.findMany fun _ a =>
    a.providerIntentId == some input.providerIntentId
  match attempts.head? with
  | none => pure .UNKNOWN_PAYMENT
  | some (attemptId, attempt) => do
      let bookings ← Prisma.booking.findMany fun _ b => b.orderId == attempt.orderId
      let existing ← Prisma.paymentDispute.lockMany fun _ d =>
        d.provider == attempt.provider && d.providerDisputeId == input.providerDisputeId
      match existing.head? with
      | none => openDispute input fresh attemptId attempt (bookings.head?.map Prod.fst)
      | some (disputeId, _) => do
          let dispute ← Prisma.paymentDispute.findOrThrow disputeId (.notFound "PaymentDispute")
          linkDispute input.webhookId disputeId
          match decideDisputeTransition dispute.status input.status with
          | .ignore reason => do
              let _ ← appendDisputeEvent input disputeId (some dispute.status) dispute.status
                (some reason)
              pure (.IGNORED disputeId reason)
          | .review safeCode => do
              markDisputeUnderReview input disputeId dispute safeCode
              pure (.REVIEW disputeId safeCode)
          | .apply status outcome => do
              advanceDispute input attempt disputeId dispute status outcome
              pure (.APPLIED disputeId status)

/-! ## §4 The event's record -/

/-- A verified dispute event, normalised by the provider adapter. -/
structure NormalizedDisputeWebhookEvent where
  providerEventId : ProviderRef
  providerIntentId : ProviderRef
  providerDisputeId : ProviderRef
  status : DisputeStatus
  reasonCategory : DisputeReasonCategory := .UNRECOGNIZED
  amountMinor : Money
  currency : Currency
  occurredAt : Option Time
  evidenceDueAt : Option Time := none

/-- `storeVerifiedFinancialWebhook` for a dispute event: the record has no column for the
reason and the deadline. -/
def storeVerifiedDisputeWebhook (provider : PaymentProviderName)
    (event : NormalizedDisputeWebhookEvent) (fresh : WebhookId) (now : Time) :
    Sql (WebhookId × Bool) := do
  let attempts ← Prisma.paymentAttempt.findMany fun _ a =>
    a.provider == provider && a.providerIntentId == some event.providerIntentId
  let existing ← Prisma.paymentWebhookEvent.findMany fun _ w =>
    w.provider == provider && w.providerEventId == event.providerEventId
  match existing.head? with
  | some (id, _) => pure (id, true)
  | none => do
      Prisma.paymentWebhookEvent.insert fresh
        { provider := provider
          providerEventId := event.providerEventId
          eventCategory := .DISPUTE
          providerIntentId := event.providerIntentId
          paymentAttemptId := attempts.head?.map Prod.fst
          normalizedDisputeStatus := some event.status
          amountMinor := event.amountMinor
          currency := event.currency
          receivedAt := now
          providerOccurredAt := event.occurredAt
          providerDisputeId := some event.providerDisputeId }
      pure (fresh, false)

/-- How an applied event closes its record. -/
def DisputeProcessingOutcome.processingStatus :
    DisputeProcessingOutcome → PaymentWebhookProcessingStatus
  | .REVIEW _ _ | .UNKNOWN_PAYMENT => .REQUIRES_REVIEW
  | .OPENED _ | .APPLIED _ _ | .IGNORED _ _ => .PROCESSED

def DisputeProcessingOutcome.processingError : DisputeProcessingOutcome → Option Code
  | .REVIEW _ safeCode => some safeCode
  | .UNKNOWN_PAYMENT => some "UNKNOWN_PAYMENT_INTENT"
  | .OPENED _ | .APPLIED _ _ | .IGNORED _ _ => none

/-- Apply the event and close its record in one transaction; `none` for a record
that is closed already. -/
def processVerifiedDisputeRecord (webhookId : WebhookId) (fresh : FreshDispute) (now : Time) :
    Sql (Option DisputeProcessingOutcome) := runInTransaction do
  let _ ← Prisma.paymentWebhookEvent.lock webhookId
  let webhook ← Prisma.paymentWebhookEvent.findOrThrow webhookId (.notFound "PaymentWebhookEvent")
  if webhook.processingStatus.isFinal then pure none
  else do
    require (webhook.signatureStatus = .VERIFIED) (.domain "PaymentWebhookSignatureError")
    match webhook.providerDisputeId, webhook.normalizedDisputeStatus with
    | some providerDisputeId, some status => do
        let applied ← applyDisputeFromVerifiedEvent
          { webhookId := webhookId
            providerEventId := webhook.providerEventId
            providerIntentId := webhook.providerIntentId
            providerDisputeId := providerDisputeId
            status := status
            reasonCategory := .UNRECOGNIZED
            amountMinor := webhook.amountMinor
            currency := webhook.currency
            occurredAt := webhook.providerOccurredAt
            evidenceDueAt := none
            now := now } fresh
        let _ ← Prisma.paymentWebhookEvent.update webhookId
          (fun w => { w with
            processingStatus := applied.processingStatus
            processedAt := some now
            attemptCount := w.attemptCount + 1
            safeProcessingError := applied.processingError })
          (.notFound "PaymentWebhookEvent")
        pure (some applied)
    | _, _ => .abort (.domain "PaymentWebhookValidationError")

end SeatFlow
