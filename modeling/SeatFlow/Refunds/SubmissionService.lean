import Mathlib.Data.List.Sort
import SeatFlow.Refunds.RefundService

/-!
# Submitting a refund

`submission-service`: the claim, the two ways a failed provider call is recorded
and the way a successful one is. The provider call itself lies between these
transactions, with no lock held; `Refunds.System` puts it there.
-/

namespace SeatFlow

open Relational Program

/-- What the claim hands to the provider call and the recording transactions. -/
structure ClaimedRefund where
  id : RefundId
  orderId : OrderId
  paymentAttemptId : AttemptId
  bookingId : BookingId
  requestedAmountMinor : Money
  currency : Currency
  providerIdempotencyKey : AttemptId × RequestKey
  providerIntentId : ProviderRef
  attemptNumber : Nat
  deriving DecidableEq

/-- The number of the refund's last submission, 0 before the first. -/
def latestAttemptNumber (id : RefundId) : Sql Nat :=
  .read fun db =>
    ((db.refundAttempts.select fun k _ => k.1 == id).map fun e => e.1.2).foldr max 0

/-- Claim one refund: `REQUESTED` to `SUBMITTING` under a row lock that is not
waited for. -/
def claimRefundForSubmission (refundId : RefundId) (now : Time) : Sql (Option ClaimedRefund) :=
  runInTransaction do
    let row ← Prisma.refund.lockSkip refundId fun r => r.status == .REQUESTED
    match row with
    | none => pure none
    | some _ => do
        let refund ← Prisma.refund.findOrThrow refundId (.notFound "Refund")
        let attempt ← Prisma.paymentAttempt.findOrThrow refund.paymentAttemptId
          (.notFound "PaymentAttempt")
        let latest ← latestAttemptNumber refundId
        match attempt.providerIntentId with
        | none => pure none
        | some intent => do
            let _ ← updateRefundById refundId fun r =>
              { r with
                status := .SUBMITTING
                submittedAt := some (refund.submittedAt.getD now)
                version := r.version + 1 }
            Prisma.refundAttempt.insert (refundId, latest + 1)
              { provider := refund.provider
                status := .STARTED
                startedAt := now }
            pure (some
              { id := refundId
                orderId := refund.orderId
                paymentAttemptId := refund.paymentAttemptId
                bookingId := refund.bookingId
                requestedAmountMinor := refund.requestedAmountMinor
                currency := refund.currency
                providerIdempotencyKey := refund.providerIdempotencyKey
                providerIntentId := intent
                attemptNumber := latest + 1 })

/-- Close the submission's attempt row, if it is still open. -/
def completeAttempt (refundId : RefundId) (attemptNumber : Nat) (status : RefundAttemptStatus)
    (providerRequestReference : Option ProviderRef) (safeFailureCode : Option Code) (now : Time) :
    Sql Unit := do
  let _ ← Prisma.refundAttempt.updateWhen (refundId, attemptNumber)
    (fun a => a.status == .STARTED) fun a =>
      { a with
        status := status
        completedAt := some now
        providerRequestReference := providerRequestReference
        safeFailureCode := safeFailureCode }

/-- The outcome is unknown: the refund stays in flight for reconciliation. -/
def markSubmissionAmbiguous (claimed : ClaimedRefund) (now : Time) : Sql Unit :=
  runInTransaction do
    let _ ← updateRefund claimed.id (fun r => r.status == .SUBMITTING) fun r =>
      { r with status := .PROCESSING, version := r.version + 1 }
    let _ ← enqueueFinancialEvent (.refundAmbiguous claimed.id claimed.attemptNumber)
      { orderId := claimed.orderId
        refundId := claimed.id
        bookingId := claimed.bookingId
        payload := { attemptNumber := some claimed.attemptNumber }
        createdAt := now }

/-- The provider returned a refund: attach its identity, still unsettled. -/
def recordSubmission (claimed : ClaimedRefund) (provider : PaymentProviderName)
    (providerRefundId : ProviderRef) (now : Time) : Sql Unit :=
  runInTransaction do
    let _ ← updateRefund claimed.id
      (fun r => r.status == .SUBMITTING || r.status == .PROCESSING) fun r =>
        { r with
          status := .PROCESSING
          providerRefundId := some providerRefundId
          version := r.version + 1 }
    let _ ← appendLedgerEntry
      { entryType := .REFUND_PROCESSING
        amountMinor := claimed.requestedAmountMinor
        currency := claimed.currency
        orderId := claimed.orderId
        paymentAttemptId := claimed.paymentAttemptId
        bookingId := some claimed.bookingId
        refundId := some claimed.id
        provider := provider
        causeKey := .refund claimed.id
        providerReference := some providerRefundId
        effectiveAt := now }
    let _ ← enqueueFinancialEvent (.refundSubmitted claimed.id)
      { orderId := claimed.orderId
        refundId := claimed.id
        bookingId := claimed.bookingId
        payload :=
          { amountMinor := some claimed.requestedAmountMinor, currency := some claimed.currency }
        createdAt := now }

/-- Mark a refund permanently failed; its reservation and seats are released. -/
def failRefund (refundId : RefundId) (safeCode : Code) (now : Time) : Sql Unit :=
  runInTransaction do
    let refund ← Prisma.refund.findOrThrow refundId (.notFound "Refund")
    if isTerminalRefundStatus refund.status ∨ refund.status = .REQUIRES_REVIEW then pure ()
    else do
      let _ ← updateRefundById refundId fun r =>
        { r with
          status := .FAILED
          failedAt := some now
          safeFailureCode := some safeCode
          version := r.version + 1 }
      let _ ← appendLedgerEntry (refund.ledgerEntry refundId .REFUND_FAILED (.refund refundId) now)
      let _ ← enqueueFinancialEvent (.refundFailed refundId)
        (refund.financialEvent refundId { safeCode := some safeCode } now)

end SeatFlow
