import SeatFlow.Commerce.CheckoutService

/-!
# Payment webhooks

The payment half of `webhook-service`: a verified provider event is stored once
and then processed in one transaction, the only one that creates a booking. Its
outcomes are the helpers of §2 and §3; `processPayment` chooses among them.
-/

namespace SeatFlow

open Relational Program

/-! ## §1 Storing the event -/

/-- A verified payment event, normalised by the provider adapter. -/
structure NormalizedPaymentWebhookEvent where
  providerEventId : ProviderRef
  providerIntentId : ProviderRef
  status : PaymentAttemptStatus
  amountMinor : Money
  currency : Currency
  occurredAt : Option Time

/-- Store the envelope once: the record's id, and whether it was there already. -/
def storeVerifiedWebhook (provider : PaymentProviderName) (event : NormalizedPaymentWebhookEvent)
    (fresh : WebhookId) (now : Time) : Sql (WebhookId × Bool) := do
  let attempts ← Prisma.paymentAttempt.findMany fun _ a =>
    a.provider == provider && a.providerIntentId == some event.providerIntentId
  let existing ← Prisma.paymentWebhookEvent.findMany fun _ w =>
    w.provider == provider && w.providerEventId == event.providerEventId
  match existing.head? with
  | some (id, _) => pure (id, true)
  | none => do
      Prisma.paymentWebhookEvent.insert fresh
        { provider := provider
          providerEventId := event.providerEventId
          providerIntentId := event.providerIntentId
          paymentAttemptId := attempts.head?.map Prod.fst
          normalizedStatus := some event.status
          amountMinor := event.amountMinor
          currency := event.currency
          receivedAt := now
          providerOccurredAt := event.occurredAt }
      pure (fresh, false)

/-! ## §2 Outcomes without a booking -/

/-- The record with its outcome. -/
def PaymentWebhookEvent.closed (w : PaymentWebhookEvent)
    (processingStatus : PaymentWebhookProcessingStatus) (error : Option Code) (now : Time) :
    PaymentWebhookEvent :=
  { w with
    processingStatus := processingStatus
    processedAt := some now
    attemptCount := w.attemptCount + 1
    safeProcessingError := error }

def closeWebhook (webhookId : WebhookId) (processingStatus : PaymentWebhookProcessingStatus)
    (error : Option Code) (now : Time) : Sql Unit := do
  let _ ← Prisma.paymentWebhookEvent.update webhookId (·.closed processingStatus error now)
    (.notFound "PaymentWebhookEvent")

/-- The data of `markWebhookReview` when the event is linked to an attempt. -/
structure ReviewTarget where
  attemptId : AttemptId
  orderId : OrderId
  sessionId : SessionId
  preserveOrder : Bool := false

def PaymentAttempt.paidUnderReview (a : PaymentAttempt) (now : Time) : PaymentAttempt :=
  { a with status := .SUCCEEDED, succeededAt := some now }

/-- The order under review: `paidAt` is written only when the money was taken. -/
def CheckoutOrder.underReview (o : CheckoutOrder) (paid : Bool) (safeCode : Code) (now : Time) :
    CheckoutOrder :=
  { o with
    status := if paid then .PAID_UNFULFILLED else .REQUIRES_REVIEW
    paidAt := if paid then some now else o.paidAt
    safeFailureCode := some safeCode
    version := o.version + 1 }

/-- The part of `markWebhookReview` that needs an attempt, an order and a session. -/
def reviewTarget (webhookId : WebhookId) (target : ReviewTarget) (safeCode : Code) (now : Time)
    (paid : Bool) : Sql Unit := do
  if paid then do
    let _ ← Prisma.paymentAttempt.update target.attemptId (·.paidUnderReview now)
      (.notFound "PaymentAttempt")
  else pure ()
  if target.preserveOrder then pure ()
  else updateOrder target.orderId (·.underReview paid safeCode now)
  if paid then enqueueInventoryEvent (.paymentSucceededReview webhookId) target.sessionId now
  else pure ()
  enqueueInventoryEvent (.paymentReview webhookId) target.sessionId now

def markWebhookReview (webhookId : WebhookId) (target : Option ReviewTarget) (safeCode : Code)
    (now : Time) (paid : Bool) : Sql Unit := do
  match target with
  | none => pure ()
  | some target => reviewTarget webhookId target safeCode now paid
  closeWebhook webhookId .REQUIRES_REVIEW (some safeCode) now

/-- The code of a failed or cancelled payment. -/
def paymentFailureCode (cancelled : Bool) : Code :=
  if cancelled then "PAYMENT_CANCELLED" else "PAYMENT_FAILED"

def PaymentAttempt.unsuccessful (a : PaymentAttempt) (cancelled : Bool) (now : Time) :
    PaymentAttempt :=
  { a with
    status := if cancelled then .CANCELLED else .FAILED
    failedAt := if cancelled then none else some now
    cancelledAt := if cancelled then some now else none
    safeFailureCode := some (paymentFailureCode cancelled) }

def CheckoutOrder.paymentFailed (o : CheckoutOrder) (cancelled : Bool) (now : Time) :
    CheckoutOrder :=
  { o with
    status := .FAILED
    failedAt := some now
    safeFailureCode := some (paymentFailureCode cancelled)
    version := o.version + 1 }

/-- A verified `FAILED` or `CANCELLED`. -/
def failPayment (webhookId : WebhookId) (attemptId : AttemptId) (orderId : OrderId)
    (order : CheckoutOrder) (cancelled : Bool) (now : Time) : Sql Unit := do
  let _ ← Prisma.paymentAttempt.update attemptId (·.unsuccessful cancelled now)
    (.notFound "PaymentAttempt")
  if order.status.isUnpaid then updateOrder orderId (·.paymentFailed cancelled now)
  else pure ()
  enqueueInventoryEvent (.paymentFailed webhookId) order.sessionId now
  closeWebhook webhookId .PROCESSED none now

def PaymentAttempt.pending (a : PaymentAttempt) : PaymentAttempt :=
  { a with status := .PENDING }

/-- Any other verified status that is not a success; the record's error stays. -/
def recordPendingPayment (webhookId : WebhookId) (attemptId : AttemptId) (now : Time) :
    Sql Unit := do
  let _ ← Prisma.paymentAttempt.update attemptId (·.pending) (.notFound "PaymentAttempt")
  let _ ← Prisma.paymentWebhookEvent.update webhookId
    (fun w => w.closed .PROCESSED w.safeProcessingError now) (.notFound "PaymentWebhookEvent")

/-! ## §3 Fulfilment -/

/-- What is generated for a new booking. -/
structure FreshBooking where
  bookingId : BookingId
  publicReference : Reference
  seatId : InventoryId → BookingSeatId

def PaymentAttempt.captured (a : PaymentAttempt) (now : Time) : PaymentAttempt :=
  { a with status := .SUCCEEDED, succeededAt := some now, safeFailureCode := none }

/-- The booking as it is inserted, before its seats. -/
def CheckoutOrder.booking (order : CheckoutOrder) (orderId : OrderId) (publicReference : Reference)
    (now : Time) : Booking :=
  { publicReference := publicReference
    orderId := orderId
    userId := order.userId
    organizationId := order.organizationId
    eventId := order.eventId
    sessionId := order.sessionId
    currency := order.currency
    totalMinor := order.totalMinor
    confirmedAt := now
    createdAt := now }

/-- The booked seat of an order item. -/
def CheckoutOrderItem.bookingSeat (item : CheckoutOrderItem) (sessionId : SessionId)
    (id : BookingSeatId) : BookingSeat :=
  { id := id
    inventoryId := item.inventoryId
    sessionId := sessionId
    seatId := item.seatId
    sectionId := item.sectionId
    priceTierId := item.priceTierId
    priceMinor := item.priceMinor
    currency := item.currency }

def SessionSeatInventory.booked (row : SessionSeatInventory) : SessionSeatInventory :=
  { row with state := .BOOKED, currentHoldId := none, holdExpiresAt := none }

def SeatHold.converted (h : SeatHold) (now : Time) : SeatHold :=
  { h with status := .CONVERTED, convertedAt := some now }

def CheckoutOrder.fulfilled (o : CheckoutOrder) (now : Time) : CheckoutOrder :=
  { o with
    status := .FULFILLED
    paidAt := some now
    fulfilledAt := some now
    safeFailureCode := none
    version := o.version + 1 }

/-- The booking, its seats and the request to issue their tickets. -/
def createBooking (fresh : FreshBooking) (orderId : OrderId) (order : CheckoutOrder) (now : Time) :
    Sql Unit := do
  Prisma.booking.insert fresh.bookingId (order.booking orderId fresh.publicReference now)
  defer (.verifyBookingFulfillment fresh.bookingId)
  let seats := order.items.map fun item =>
    item.bookingSeat order.sessionId (fresh.seatId item.inventoryId)
  let _ ← Prisma.bookingSeat.update fresh.bookingId
    (fun b => { b with seats := b.seats ++ seats }) (.notFound "Booking")
  defer (.verifyBookingFulfillment fresh.bookingId)
  let _ ← Prisma.ticketIssuanceRequest.insertNew fresh.bookingId
    { availableAt := now, createdAt := now }

/-- The inventory becomes booked and the hold converted. -/
def bookInventory (orderId : OrderId) (order : CheckoutOrder) (now : Time) : Sql Unit := do
  let inventoryIds := order.items.map (·.inventoryId)
  let booked ← Prisma.sessionSeatInventory.updateMany
    (fun id row => inventoryIds.contains id && row.state == .HELD &&
      row.currentHoldId == some order.sourceHoldId)
    fun _ row => row.booked
  require (booked.length = inventoryIds.length) (.domain "FULFILLMENT_INVENTORY_CONFLICT")
  let _ ← Prisma.seatHold.update order.sourceHoldId (·.converted now) (.notFound "SeatHold")
  defer (.verifyHoldConversion order.sourceHoldId)
  updateOrder orderId (·.fulfilled now)

/-- The writes of a fulfilment. -/
def fulfillOrder (webhookId : WebhookId) (attemptId : AttemptId) (orderId : OrderId)
    (order : CheckoutOrder) (fresh : FreshBooking) (now : Time) : Sql Unit := do
  let _ ← Prisma.paymentAttempt.update attemptId (·.captured now) (.notFound "PaymentAttempt")
  createBooking fresh orderId order now
  bookInventory orderId order now
  enqueueInventoryEvent (.paymentSucceeded webhookId) order.sessionId now
  enqueueInventoryEvent (.inventoryBooked fresh.bookingId) order.sessionId now
  enqueueInventoryEvent (.bookingConfirmed fresh.bookingId) order.sessionId now
  closeWebhook webhookId .PROCESSED none now

/-! ## §4 `processVerifiedWebhookRecord` -/

/-- The event is of the attempt's intent, amount and currency, and these are the
order's. -/
def amountMatches (webhook : PaymentWebhookEvent) (attempt : PaymentAttempt)
    (order : CheckoutOrder) : Bool :=
  attempt.providerIntentId == some webhook.providerIntentId &&
    webhook.amountMinor == attempt.amountMinor && webhook.currency == attempt.currency &&
    order.totalMinor == attempt.amountMinor && order.currency == attempt.currency

/-- A verified success of a matching event on an open attempt. -/
def processSuccess (webhookId : WebhookId) (attemptId : AttemptId) (orderId : OrderId)
    (order : CheckoutOrder) (hold : SeatHold)
    (inventory : List (InventoryId × SessionSeatInventory)) (session : EventSession)
    (event : Event) (fresh : FreshBooking) (now : Time) : Sql Unit := do
  let target : ReviewTarget :=
    { attemptId := attemptId, orderId := orderId, sessionId := order.sessionId }
  let decision := decidePaidFulfillment
    { orderStatus := order.status
      holdStatus := hold.status
      holdExpiresAt := hold.expiresAt
      eventStatus := event.status
      sessionStatus := session.status
      now := now }
  match decision with
  | .REVIEW code => do
      if code = .HOLD_EXPIRED ∧ hold.status = .ACTIVE then do
        let _ ← releaseExpiredHoldsForSession order.sessionId now
      else pure ()
      markWebhookReview webhookId (some target) code.code now true
  | .FULFILL | .IDEMPOTENT =>
      if snapshotsMatch
          { orderItems := order.items
            holdItems := hold.items
            inventory := inventory
            holdId := order.sourceHoldId
            sessionId := order.sessionId
            holdExpiresAt := hold.expiresAt } then
        fulfillOrder webhookId attemptId orderId order fresh now
      else markWebhookReview webhookId (some target) "FULFILLMENT_SNAPSHOT_MISMATCH" now true

/-- The decision chain over the locked rows. -/
def processPayment (webhookId : WebhookId) (webhook : PaymentWebhookEvent)
    (normalizedStatus : PaymentAttemptStatus) (attemptId : AttemptId) (fresh : FreshBooking)
    (now : Time) : Sql Unit := do
  let _ ← Prisma.paymentAttempt.lock attemptId
  let attempt ← Prisma.paymentAttempt.findOrThrow attemptId (.notFound "PaymentAttempt")
  let _ ← Prisma.checkoutOrder.lock attempt.orderId
  let order ← Prisma.checkoutOrder.findOrThrow attempt.orderId (.notFound "CheckoutOrder")
  let bookings ← Prisma.booking.findMany fun _ b => b.orderId == attempt.orderId
  let _ ← Prisma.seatHold.lock order.sourceHoldId
  let hold ← Prisma.seatHold.findOrThrow order.sourceHoldId (.notFound "SeatHold")
  let inventoryIds := order.items.map (·.inventoryId)
  let inventory ← Prisma.sessionSeatInventory.lockMany fun id _ => inventoryIds.contains id
  let session ← Prisma.eventSession.findOrThrow order.sessionId (.notFound "EventSession")
  let event ← Prisma.event.findOrThrow session.eventId (.notFound "Event")
  let target : ReviewTarget :=
    { attemptId := attemptId, orderId := attempt.orderId, sessionId := order.sessionId }
  if bookings ≠ [] ∨ order.status = .FULFILLED then closeWebhook webhookId .PROCESSED none now
  else if isContradictoryTerminalStatus attempt.status normalizedStatus then
    markWebhookReview webhookId (some { target with preserveOrder := true })
      "CONTRADICTORY_TERMINAL_STATUS" now false
  else if isTerminalPaymentStatus attempt.status ∧ attempt.status = normalizedStatus then
    closeWebhook webhookId
      (if order.status = .PAID_UNFULFILLED ∨ order.status = .REQUIRES_REVIEW then .REQUIRES_REVIEW
        else .PROCESSED) order.safeFailureCode now
  else if ¬amountMatches webhook attempt order then
    markWebhookReview webhookId (some target) "PAYMENT_AMOUNT_OR_CURRENCY_MISMATCH" now
      (normalizedStatus == .SUCCEEDED)
  else if normalizedStatus = .FAILED ∨ normalizedStatus = .CANCELLED then
    failPayment webhookId attemptId attempt.orderId order (normalizedStatus == .CANCELLED) now
  else if normalizedStatus ≠ .SUCCEEDED then recordPendingPayment webhookId attemptId now
  else
    processSuccess webhookId attemptId attempt.orderId order hold inventory session event fresh now

/-- The transaction of `processVerifiedWebhookRecord`; a closed record is left
alone. -/
def processInTransaction (webhookId : WebhookId) (fresh : FreshBooking) (now : Time) :
    Sql Unit := runInTransaction do
  let _ ← Prisma.paymentWebhookEvent.lock webhookId
  let webhook ← Prisma.paymentWebhookEvent.findOrThrow webhookId (.notFound "PaymentWebhookEvent")
  if webhook.processingStatus.isFinal then pure ()
  else do
    require (webhook.signatureStatus = .VERIFIED) (.domain "PaymentWebhookSignatureError")
    match webhook.eventCategory, webhook.normalizedStatus with
    | .PAYMENT, some normalizedStatus =>
        match webhook.paymentAttemptId with
        | none =>
            markWebhookReview webhookId none "UNKNOWN_PAYMENT_INTENT" now
              (normalizedStatus == .SUCCEEDED)
        | some attemptId => processPayment webhookId webhook normalizedStatus attemptId fresh now
    | _, _ => .abort (.domain "PaymentWebhookValidationError")

def PaymentWebhookEvent.retryable (w : PaymentWebhookEvent) : PaymentWebhookEvent :=
  { w with
    processingStatus := .FAILED
    attemptCount := w.attemptCount + 1
    safeProcessingError := some "PROCESSING_RETRY_REQUIRED" }

/-- What the `catch` of `processVerifiedWebhookRecord` records. -/
def markWebhookRetryable (webhookId : WebhookId) : Sql Unit := do
  let _ ← Prisma.paymentWebhookEvent.updateMany
    (fun id w => id == webhookId &&
      (w.processingStatus == .RECEIVED || w.processingStatus == .FAILED))
    fun _ w => w.retryable

/-- The state after `processVerifiedWebhookRecord`: the transaction's, or after a
failure other than a bad signature the record marked for a retry. -/
def processVerifiedWebhookRecord (webhookId : WebhookId) (fresh : FreshBooking) (now : Time)
    (db : Db) : Db :=
  match (processInTransaction webhookId fresh now).run db with
  | .ok ((), db') => db'
  | .error (.domain "PaymentWebhookSignatureError") => db
  | .error _ => (markWebhookRetryable webhookId).commit db

end SeatFlow
