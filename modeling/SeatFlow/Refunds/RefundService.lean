import SeatFlow.Refunds.Policy

/-!
# Requesting a refund

`ledger-service` and `refund-service`. Every write to `Refund` goes through
`insertRefund` and `updateRefund`, which run the table's `AFTER` triggers: every
`UPDATE` the services make sets `status`, so the aggregate trigger always fires.
Generated identifiers are inputs (`fresh`); the primary and unique keys reject
one that is taken.
-/

namespace SeatFlow

open Relational Program

/-! ## §1 Ledger and outbox -/

structure AppendLedgerEntryInput where
  entryType : LedgerEntryType
  amountMinor : Money
  currency : Currency
  orderId : OrderId
  paymentAttemptId : AttemptId
  bookingId : Option BookingId
  refundId : Option RefundId
  disputeId : Option DisputeId := none
  provider : PaymentProviderName
  causeKey : LedgerCause
  providerReference : Option ProviderRef := none
  effectiveAt : Time

/-- Append one entry, or do nothing if its deterministic key already exists. -/
def appendLedgerEntry (input : AppendLedgerEntryInput) : Sql Bool := do
  require (0 ≤ input.amountMinor) (.domain "LEDGER_ENTRY_REJECTED_AMOUNT_INVALID")
  Prisma.financialLedgerEntry.insertNew
    { entryType := input.entryType, cause := input.causeKey }
    { direction := directionForEntryType input.entryType
      amountMinor := input.amountMinor
      currency := input.currency
      orderId := input.orderId
      paymentAttemptId := input.paymentAttemptId
      bookingId := input.bookingId
      refundId := input.refundId
      disputeId := input.disputeId
      provider := input.provider
      providerReference := input.providerReference
      effectiveAt := input.effectiveAt }

/-- The ledger entry of a refund: the references all come from the refund. -/
def Refund.ledgerEntry (id : RefundId) (r : Refund) (entryType : LedgerEntryType)
    (causeKey : LedgerCause) (effectiveAt : Time) (providerReference : Option ProviderRef := none) :
    AppendLedgerEntryInput :=
  { entryType := entryType
    amountMinor := r.requestedAmountMinor
    currency := r.currency
    orderId := r.orderId
    paymentAttemptId := r.paymentAttemptId
    bookingId := some r.bookingId
    refundId := some id
    provider := r.provider
    causeKey := causeKey
    providerReference := providerReference
    effectiveAt := effectiveAt }

def enqueueFinancialEvent (key : FinancialEventKey) (event : FinancialEvent) : Sql Bool :=
  Prisma.financialOutbox.insertNew key event

/-- The outbox event of a refund. -/
def Refund.financialEvent (id : RefundId) (r : Refund) (payload : FinancialPayload) (now : Time) :
    FinancialEvent :=
  { orderId := r.orderId
    refundId := id
    bookingId := r.bookingId
    payload := payload
    createdAt := now }

/-! ## §2 Refund writes and their triggers -/

/-- `INSERT INTO Refund` and its `AFTER` triggers. -/
def insertRefund (id : RefundId) (row : Refund) : Sql Unit := do
  Prisma.refund.insert id row
  maintainPaymentAggregate row.paymentAttemptId
  defer (.verifyRefundSeatTotal id)

/-- `UPDATE Refund SET status, … WHERE id AND p` and its `AFTER` triggers: the
new row version, if the row was updated. -/
def updateRefund (id : RefundId) (p : Refund → Bool) (f : Refund → Refund) :
    Sql (Option Refund) := do
  let updated ← Prisma.refund.updateWhen id p f
  match updated with
  | none => pure none
  | some row => do
      maintainPaymentAggregate row.paymentAttemptId
      defer (.verifyRefundSeatTotal id)
      pure (some row)

/-- `refund.update({ where: { id } })`. -/
def updateRefundById (id : RefundId) (f : Refund → Refund) : Sql Refund := do
  let updated ← updateRefund id (fun _ => true) f
  orThrow (.notFound "Refund") updated

/-- `INSERT INTO RefundSeat` for several seats of one refund. -/
def insertRefundSeats (id : RefundId) (seats : List RefundSeat) : Sql Unit := do
  let _ ← Prisma.refundSeat.update id (fun r => { r with seats := r.seats ++ seats })
    (.notFound "Refund")
  defer (.verifyRefundSeatTotal id)

/-! ## §3 `requestRefund` -/

structure RefundRequestInput where
  bookingReference : Reference
  scope : RefundScope
  bookingSeatIds : List BookingSeatId := []
  reasonCode : RefundReasonCode
  idempotencyKey : RequestKey

structure RefundActor where
  userId : UserId
  role : RefundActorRole

/-- What the database and the random generator supply for a new refund. -/
structure FreshRefund where
  refundId : RefundId
  publicReference : Reference

structure CreateRefundResult where
  refundId : RefundId
  publicReference : Reference
  amountMinor : Money
  currency : Currency
  status : RefundStatus
  replayed : Bool

/-- The HMAC of the payment and the caller's key, taken as injective. -/
def deriveProviderIdempotencyKey (paymentAttemptId : AttemptId) (key : RequestKey) :
    AttemptId × RequestKey :=
  (paymentAttemptId, key)

/-- Refunds that cover seats of the booking, as the service's own query has it. -/
def refundedSeatIds (booking : BookingId) : Sql (List BookingSeatId) :=
  .read fun db =>
    (db.refunds.select fun _ r => r.bookingId == booking && r.coversSeats).flatMap fun e =>
      e.2.seats.map (·.bookingSeatId)

/-- Price the request from the booking's snapshots. -/
def calculateRefund (input : RefundRequestInput) (seats : List RefundableSeatSnapshot)
    (capacity : RefundCapacity) : Except Code RefundCalculation :=
  if input.scope = .SELECTED_SEATS then calculateSeatRefund seats input.bookingSeatIds capacity
  else calculateFullBookingRefund seats capacity

/-- The seat rows of a priced refund. -/
def refundSeatRows (snapshots : List RefundableSeatSnapshot) (ids : List BookingSeatId) :
    List RefundSeat :=
  ids.filterMap fun id =>
    (seatById snapshots id).map fun seat =>
      { bookingSeatId := id, priceMinor := seat.priceMinor, currency := seat.currency }

/-- The part of `requestRefund` after the replay check: price, then write the
refund, its seats, its ledger entry and its outbox event. -/
def createRefund (actor : RefundActor) (input : RefundRequestInput) (fresh : FreshRefund)
    (now : Time) (bookingId : BookingId) (booking : Booking) (order : CheckoutOrder)
    (attemptId : AttemptId) (attempt capacityRow : PaymentAttempt) (initiator : RefundInitiator)
    (requiresApproval : Bool) : Sql CreateRefundResult := do
  let capacity : RefundCapacity :=
    { capturedMinor := capacityRow.amountMinor
      refundedMinor := capacityRow.refundedMinor
      inFlightMinor := capacityRow.inFlightRefundMinor
      currency := attempt.currency }
  match evaluateRefundEligibility
      { bookingStatus := booking.status
        orderStatus := order.status
        paymentStatus := attempt.status
        remainingRefundableMinor := remainingRefundableMinor capacity
        underFinancialReview := order.financialReviewState != .NONE } with
  | some reason => .abort (.domain reason)
  | none => do
      let refunded ← refundedSeatIds bookingId
      let seatSnapshots := booking.seats.map fun seat =>
        { bookingSeatId := seat.id
          priceMinor := seat.priceMinor
          currency := seat.currency
          alreadyRefunded := seat.id ∈ refunded : RefundableSeatSnapshot }
      match calculateRefund input seatSnapshots capacity with
      | .error reason => .abort (.domain reason)
      | .ok calculation => do
          let refund : Refund :=
            { publicReference := fresh.publicReference
              orderId := booking.orderId
              paymentAttemptId := attemptId
              bookingId := bookingId
              requestedByUserId := some actor.userId
              approvedByUserId := if requiresApproval then none else some actor.userId
              initiator := initiator
              status := .REQUESTED
              reasonCode := input.reasonCode
              scope := calculation.scope
              requestedAmountMinor := calculation.amountMinor
              currency := calculation.currency
              provider := attempt.provider
              providerIdempotencyKey := deriveProviderIdempotencyKey attemptId input.idempotencyKey
              requestedAt := now }
          insertRefund fresh.refundId refund
          if calculation.bookingSeatIds ≠ [] then
            insertRefundSeats fresh.refundId
              (refundSeatRows seatSnapshots calculation.bookingSeatIds)
          let _ ← appendLedgerEntry
            (refund.ledgerEntry fresh.refundId .REFUND_REQUESTED (.refund fresh.refundId) now)
          let _ ← enqueueFinancialEvent (.refundRequested fresh.refundId)
            (refund.financialEvent fresh.refundId
              { refundReference := some refund.publicReference
                amountMinor := some refund.requestedAmountMinor
                currency := some refund.currency
                reasonCode := some input.reasonCode } now)
          pure
            { refundId := fresh.refundId
              publicReference := refund.publicReference
              amountMinor := refund.requestedAmountMinor
              currency := refund.currency
              status := .REQUESTED
              replayed := false }

def requestRefund (actor : RefundActor) (input : RefundRequestInput) (fresh : FreshRefund)
    (now : Time) : Sql CreateRefundResult := runInTransaction do
  let bookings ← Prisma.booking.findMany fun _ b => b.publicReference == input.bookingReference
  let (bookingId, booking) ← orThrow (.domain "REFUND_TARGET_NOT_FOUND") bookings.head?
  let order ← Prisma.checkoutOrder.findOrThrow booking.orderId (.notFound "CheckoutOrder")
  let user ← Prisma.user.findOrThrow actor.userId (.notFound "User")
  match authorizeRefundRequest
      { role := actor.role
        actorUserId := actor.userId
        bookingOwnerUserId := booking.userId
        bookingOrganizationId := booking.organizationId
        actorOrganizationIds := user.memberships.map (·.organizationId)
        isPlatformAdmin := user.platformRole == .ADMIN } with
  | .denied reason => .abort (.domain reason.code)
  | .allowed initiator requiresApproval => do
      let captured ← Prisma.paymentAttempt.findMany fun _ a =>
        a.orderId == booking.orderId && a.status == .SUCCEEDED
      let (attemptId, attempt) ← orThrow (.domain "PAYMENT_NOT_CAPTURED") captured.head?
      -- the row lock that the capacity is read under
      let locked ← Prisma.paymentAttempt.lock attemptId
      let capacityRow ← orThrow (.domain "PAYMENT_NOT_CAPTURED") locked
      let existing ← Prisma.refund.findMany fun _ r =>
        r.providerIdempotencyKey == deriveProviderIdempotencyKey attemptId input.idempotencyKey
      match existing.head? with
      | some (id, r) =>
          pure
            { refundId := id
              publicReference := r.publicReference
              amountMinor := r.requestedAmountMinor
              currency := r.currency
              status := r.status
              replayed := true }
      | none =>
          createRefund actor input fresh now bookingId booking order attemptId attempt capacityRow
            initiator requiresApproval

end SeatFlow
