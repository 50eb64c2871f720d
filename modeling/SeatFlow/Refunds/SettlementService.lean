import SeatFlow.Refunds.RefundService

/-!
# Settling a refund

`settlement-service`, and the refund half of `webhook-service`: a verified
provider event is stored once and then processed in one transaction that settles
the refund and finalises the event's record.
-/

namespace SeatFlow

open Relational Program

structure SettleInput where
  webhookId : WebhookId
  providerRefundId : ProviderRef
  incomingStatus : RefundStatus
  amountMinor : Money
  currency : Currency
  occurredAt : Option Time
  now : Time

inductive RefundSettlementOutcome
  | APPLIED (status : RefundStatus)
  | IGNORED (reason : Code)
  | REVIEW (safeCode : Code)
  | UNKNOWN_REFUND
  deriving DecidableEq

/-! ## §1 Consequences of a settlement -/

/-- Revoke a ticket with its live credentials. The rows of the first statement stay
revoked, so their deferred trigger has nothing to say. -/
def revokeAdmission (now : Time) (safeReason : Code) (ticketId : TicketId) : Sql Unit := do
  let _ ← Prisma.ticketCredential.updateMany
    (fun _ c => c.ticketId == ticketId && c.status == .ACTIVE)
    (fun _ c => { c with status := .REVOKED, revokedAt := some now })
  let _ ← Prisma.ticket.update ticketId
    (fun t => { t with
      status := .REVOKED
      revokedAt := some now
      revocationReason := some safeReason })
    (.notFound "Ticket")

/-- Revoke one ticket, unless it is used or revoked already; whether it was revoked. -/
def revokeRefundedTicket (now : Time) (ticket : TicketId × Ticket) : Sql Bool :=
  if decideRefundTicketConsequence ticket.2.status then do
    revokeAdmission now "REFUNDED" ticket.1
    pure true
  else pure false

/-- Revoke a list of tickets, counting those revoked. -/
def revokeRefundedTickets (now : Time) : List (TicketId × Ticket) → Sql Nat
  | [] => pure 0
  | ticket :: tickets => do
      let revoked ← revokeRefundedTicket now ticket
      let rest ← revokeRefundedTickets now tickets
      pure (revoked.toNat + rest)

/-- Tickets revoked, and used tickets left as they are. -/
structure TicketConsequences where
  revoked : Nat
  preservedUsed : Nat

/-- Revoke the admission a refund paid for: the seats it names when it is
seat-scoped, the whole booking otherwise. -/
def applyTicketConsequences (refundId : RefundId) (bookingId : BookingId) (scope : RefundScope)
    (now : Time) : Sql TicketConsequences := do
  let refund ← Prisma.refund.findOrThrow refundId (.notFound "Refund")
  let tickets ← Prisma.ticket.findMany fun _ t =>
    t.bookingId == bookingId &&
      (scope != .SELECTED_SEATS ||
        refund.seats.any fun seat => seat.bookingSeatId == t.bookingSeatId)
  let revoked ← revokeRefundedTickets now tickets
  pure
    { revoked := revoked
      preservedUsed := tickets.countP fun e => e.2.status == .USED }

/-- Move a booking to `REFUNDED` once the succeeded refunds cover the payment. -/
def maybeMarkBookingFullyRefunded (bookingId : BookingId) (paymentAttemptId : AttemptId)
    (now : Time) : Sql Bool := do
  let attempt ← Prisma.paymentAttempt.findOrThrow paymentAttemptId (.notFound "PaymentAttempt")
  if attempt.refundedMinor < attempt.amountMinor then pure false
  else do
    let booking ← Prisma.booking.findOrThrow bookingId (.notFound "Booking")
    if booking.status ≠ .CONFIRMED then pure false
    else do
      let _ ← Prisma.booking.update bookingId
        (fun b => { b with status := .REFUNDED, refundedAt := some now }) (.notFound "Booking")
      defer (.verifyBookingRefundCompletion bookingId)
      pure true

/-- Flag the order of an escalated refund for the operators. -/
def flagOrderForReview (refundId : RefundId) (refund : Refund) (safeCode : Code) (now : Time) :
    Sql Unit := do
  let _ ← Prisma.checkoutOrder.update refund.orderId
    (fun o => { o with financialReviewState := .REFUND_REVIEW }) (.notFound "CheckoutOrder")
  defer (.verifyOrderTotals refund.orderId)
  let _ ← enqueueFinancialEvent (.refundReview refundId)
    (refund.financialEvent refundId
      { safeCode := some safeCode, refundReference := some refund.publicReference } now)

/-- Escalate a refund. -/
def markRefundUnderReview (refundId : RefundId) (refund : Refund) (safeCode : Code) (now : Time) :
    Sql Unit := do
  let _ ← updateRefundById refundId fun r =>
    { r with
      status := .REQUIRES_REVIEW
      reviewRequiredAt := some now
      safeFailureCode := some safeCode
      version := r.version + 1 }
  flagOrderForReview refundId refund safeCode now

/-! ## §2 `settleRefundFromVerifiedEvent` -/

/-- What follows from a success: its ledger entry, the revoked tickets, the
booking and the outbox events. -/
def applySuccessConsequences (input : SettleInput) (refundId : RefundId) (refund : Refund) :
    Sql Unit := do
  let _ ← appendLedgerEntry
    (refund.ledgerEntry refundId .REFUND_SUCCEEDED (.webhook input.webhookId)
      (input.occurredAt.getD input.now) (some input.providerRefundId))
  let consequences ← applyTicketConsequences refundId refund.bookingId refund.scope input.now
  let _ ← maybeMarkBookingFullyRefunded refund.bookingId refund.paymentAttemptId input.now
  let _ ← enqueueFinancialEvent (.refundSucceeded refundId)
    (refund.financialEvent refundId
      { refundReference := some refund.publicReference
        amountMinor := some refund.requestedAmountMinor
        currency := some refund.currency
        ticketsRevoked := some consequences.revoked
        usedTicketsPreserved := some consequences.preservedUsed } input.now)
  if 0 < consequences.revoked then do
    let _ ← enqueueFinancialEvent (.refundRevocation refundId)
      (refund.financialEvent refundId { revoked := some consequences.revoked } input.now)
  else pure ()

/-- The money moved. -/
def settleSucceeded (input : SettleInput) (refundId : RefundId) (refund : Refund) : Sql Unit := do
  let _ ← updateRefundById refundId fun r =>
    { r with
      status := .SUCCEEDED
      succeededAt := some input.now
      safeFailureCode := none
      version := r.version + 1 }
  applySuccessConsequences input refundId refund

/-- The provider refused. -/
def settleFailed (input : SettleInput) (refundId : RefundId) (refund : Refund) : Sql Unit := do
  let _ ← updateRefundById refundId fun r =>
    { r with
      status := .FAILED
      failedAt := some input.now
      safeFailureCode := some "PROVIDER_REPORTED_FAILURE"
      version := r.version + 1 }
  let _ ← appendLedgerEntry
    (refund.ledgerEntry refundId .REFUND_FAILED (.webhook input.webhookId)
      (input.occurredAt.getD input.now) (some input.providerRefundId))
  let _ ← enqueueFinancialEvent (.refundFailed refundId)
    (refund.financialEvent refundId { safeCode := some "PROVIDER_REPORTED_FAILURE" } input.now)

/-- Any other advancing status. -/
def settleAdvanced (input : SettleInput) (refundId : RefundId) (status : RefundStatus) :
    Sql Unit := do
  let _ ← updateRefundById refundId fun r =>
    { r with
      status := status
      submittedAt := some input.now
      version := r.version + 1 }

def settleRefundFromVerifiedEvent (input : SettleInput) : Sql RefundSettlementOutcome := do
  -- by the provider's refund id alone, under a row lock
  let locked ← Prisma.refund.lockMany fun _ r => r.providerRefundId == some input.providerRefundId
  match locked.head? with
  | none => pure .UNKNOWN_REFUND
  | some (refundId, _) => do
      let refund ← Prisma.refund.findOrThrow refundId (.notFound "Refund")
      let _ ← Prisma.paymentWebhookEvent.update input.webhookId
        (fun w => { w with refundId := some refundId }) (.notFound "PaymentWebhookEvent")
      if input.amountMinor ≠ refund.requestedAmountMinor ∨ input.currency ≠ refund.currency then do
        markRefundUnderReview refundId refund "REFUND_AMOUNT_OR_CURRENCY_MISMATCH" input.now
        pure (.REVIEW "REFUND_AMOUNT_OR_CURRENCY_MISMATCH")
      else if isStaleProviderEvent (refund.succeededAt.or refund.failedAt) input.occurredAt then
        pure (.IGNORED "STALE_PROVIDER_EVENT")
      else
        match decideRefundTransition refund.status input.incomingStatus with
        | .ignore reason => pure (.IGNORED reason)
        | .review safeCode => do
            markRefundUnderReview refundId refund safeCode input.now
            pure (.REVIEW safeCode)
        | .apply .SUCCEEDED => do
            settleSucceeded input refundId refund
            pure (.APPLIED .SUCCEEDED)
        | .apply .FAILED => do
            settleFailed input refundId refund
            pure (.APPLIED .FAILED)
        | .apply status => do
            settleAdvanced input refundId status
            pure (.APPLIED status)

/-! ## §3 The event's record -/

/-- A verified refund event, normalised by the provider adapter. -/
structure NormalizedRefundWebhookEvent where
  providerEventId : ProviderRef
  providerIntentId : ProviderRef
  providerRefundId : ProviderRef
  status : RefundStatus
  amountMinor : Money
  currency : Currency
  occurredAt : Option Time

/-- Store the envelope once: the record's id, and whether it was there already. -/
def storeVerifiedFinancialWebhook (provider : PaymentProviderName)
    (event : NormalizedRefundWebhookEvent) (fresh : WebhookId) (now : Time) :
    Sql (WebhookId × Bool) := do
  let attempts ← Prisma.paymentAttempt.findMany fun _ a =>
    a.provider == provider && a.providerIntentId == some event.providerIntentId
  let existing ← Prisma.paymentWebhookEvent.findMany fun _ w =>
    w.provider == provider && w.providerEventId == event.providerEventId
  match existing.head? with
  | some (id, _) => pure (id, true)
  | none => do
      Prisma.paymentWebhookEvent.insert fresh
        { provider := provider
          providerEventId := event.providerEventId
          eventCategory := .REFUND
          providerIntentId := event.providerIntentId
          paymentAttemptId := attempts.head?.map Prod.fst
          normalizedRefundStatus := some event.status
          amountMinor := event.amountMinor
          currency := event.currency
          receivedAt := now
          providerOccurredAt := event.occurredAt
          providerRefundId := some event.providerRefundId }
      pure (fresh, false)

/-- How a settlement closes the event's record. -/
def RefundSettlementOutcome.processingStatus :
    RefundSettlementOutcome → PaymentWebhookProcessingStatus
  | .REVIEW _ | .UNKNOWN_REFUND => .REQUIRES_REVIEW
  | .APPLIED _ | .IGNORED _ => .PROCESSED

/-- The error code a settlement leaves on the event's record. -/
def RefundSettlementOutcome.processingError : RefundSettlementOutcome → Option Code
  | .REVIEW safeCode => some safeCode
  | .UNKNOWN_REFUND => some "UNKNOWN_PROVIDER_REFUND"
  | .APPLIED _ | .IGNORED _ => none

/-- Settle and close the record in one transaction; a closed record is left
alone. -/
def processVerifiedRefundRecord (webhookId : WebhookId) (now : Time) :
    Sql RefundSettlementOutcome := runInTransaction do
  let _ ← Prisma.paymentWebhookEvent.lock webhookId
  let webhook ← Prisma.paymentWebhookEvent.findOrThrow webhookId (.notFound "PaymentWebhookEvent")
  if webhook.processingStatus.isFinal then pure (.IGNORED "ALREADY_PROCESSED")
  else do
    require (webhook.signatureStatus = .VERIFIED) (.domain "PaymentWebhookSignatureError")
    match webhook.providerRefundId, webhook.normalizedRefundStatus with
    | some providerRefundId, some incomingStatus => do
        let settlement ← settleRefundFromVerifiedEvent
          { webhookId := webhookId
            providerRefundId := providerRefundId
            incomingStatus := incomingStatus
            amountMinor := webhook.amountMinor
            currency := webhook.currency
            occurredAt := webhook.providerOccurredAt
            now := now }
        let _ ← Prisma.paymentWebhookEvent.update webhookId
          (fun w => { w with
            processingStatus := settlement.processingStatus
            processedAt := some now
            attemptCount := w.attemptCount + 1
            safeProcessingError := settlement.processingError })
          (.notFound "PaymentWebhookEvent")
        pure settlement
    | _, _ => .abort (.domain "PaymentWebhookValidationError")

end SeatFlow
