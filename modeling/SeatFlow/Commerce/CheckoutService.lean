import SeatFlow.Commerce.HoldService

/-!
# Checkout

`checkout-service` and the expiry of unpaid orders. An order is created from the
customer's active hold with one payment attempt, whose idempotency key exists
before the provider is called. `ensurePaymentIntent` is a read, the provider
call and a transaction, with no lock held between them: `preparePaymentIntent`
and `recordPaymentIntent` are its two database parts.
-/

namespace SeatFlow

open Relational Program

/-! ## §1 `createCheckoutOrder` -/

/-- What is generated for a new order. -/
structure FreshOrder where
  orderId : OrderId
  publicReference : Reference
  attemptId : AttemptId
  providerIdempotencyKey : Reference

structure CreateCheckoutInput where
  holdToken : Reference
  idempotencyKey : RequestKey

structure CreateCheckoutResult where
  orderId : OrderId
  publicReference : Reference
  replayed : Bool

/-- `include: { items: { include: { inventory } } }`. -/
def loadHoldItems (hold : SeatHold) : Sql (List (SeatHoldItem × SessionSeatInventory)) :=
  read fun db => hold.items.filterMap fun item =>
    (db.inventory.lookup item.inventoryId).map fun row => (item, row)

/-- The order's item for a hold's item and its inventory row. -/
def SeatHoldItem.orderItem (item : SeatHoldItem) (row : SessionSeatInventory) :
    CheckoutOrderItem :=
  { inventoryId := item.inventoryId
    seatId := row.seatId
    sectionId := row.sectionId
    priceTierId := row.priceTierId
    priceMinor := item.priceMinor
    currency := item.currency }

/-- The order as it is inserted, before its items. -/
def CheckoutOrder.created (holdId : HoldId) (hold : SeatHold) (session : EventSession)
    (event : Event) (total : CheckoutTotal) (idempotencyKey : RequestKey)
    (publicReference : Reference) (now : Time) : CheckoutOrder :=
  { publicReference := publicReference
    userId := hold.userId
    organizationId := event.organizerOrganizationId
    eventId := session.eventId
    sessionId := hold.sessionId
    sourceHoldId := holdId
    currency := total.currency
    subtotalMinor := total.subtotalMinor
    totalMinor := total.totalMinor
    idempotencyKey := idempotencyKey
    checkoutExpiresAt := hold.expiresAt
    createdAt := now }

/-- The order's payment attempt as it is inserted. -/
def PaymentAttempt.created (orderId : OrderId) (order : CheckoutOrder)
    (provider : PaymentProviderName) (providerIdempotencyKey : Reference) (now : Time) :
    PaymentAttempt :=
  { orderId := orderId
    provider := provider
    providerIdempotencyKey := providerIdempotencyKey
    amountMinor := order.totalMinor
    currency := order.currency
    createdAt := now }

/-- The writes of `createCheckoutOrder`. -/
def placeOrder (fresh : FreshOrder) (order : CheckoutOrder) (items : List CheckoutOrderItem)
    (provider : PaymentProviderName) (now : Time) : Sql Unit := do
  Prisma.checkoutOrder.insert fresh.orderId order
  defer (.verifyOrderTotals fresh.orderId)
  let _ ← Prisma.checkoutOrderItem.update fresh.orderId
    (fun o => { o with items := o.items ++ items }) (.notFound "CheckoutOrder")
  defer (.verifyOrderTotals fresh.orderId)
  Prisma.paymentAttempt.insert fresh.attemptId
    (.created fresh.orderId order provider fresh.providerIdempotencyKey now)
  enqueueInventoryEvent (.checkoutCreated fresh.orderId) order.sessionId now

/-- Every locked row is held by the hold until the hold's own expiry. -/
def heldFor (holdId : HoldId) (hold : SeatHold)
    (locked : List (InventoryId × SessionSeatInventory)) : Bool :=
  locked.length == hold.items.length && locked.all fun e =>
    e.2.state == .HELD && e.2.currentHoldId == some holdId &&
      e.2.holdExpiresAt == some hold.expiresAt

def createCheckoutOrder (userId : UserId) (input : CreateCheckoutInput)
    (provider : PaymentProviderName) (fresh : FreshOrder) (now : Time) :
    Sql CreateCheckoutResult := runInTransaction do
  let lockedHold ← Prisma.seatHold.lockMany fun _ h => h.publicToken == input.holdToken
  require (lockedHold.length = 1) (.domain "That checkout was not found or is not yours.")
  let (holdId, _) ← orThrow (.domain "That checkout was not found or is not yours.")
    lockedHold.head?
  let hold ← Prisma.seatHold.findOrThrow holdId
    (.domain "That checkout was not found or is not yours.")
  require (hold.userId = userId) (.domain "That checkout was not found or is not yours.")
  let existing ← Prisma.checkoutOrder.findMany fun _ o => o.sourceHoldId == holdId
  match existing.head? with
  | some (orderId, order) => do
      require (order.userId = userId ∧ order.idempotencyKey = input.idempotencyKey)
        (.domain "This hold already has a checkout order. Continue with the existing checkout.")
      pure { orderId := orderId, publicReference := order.publicReference, replayed := true }
  | none => do
      require (hold.status = .ACTIVE ∧ now < hold.expiresAt)
        (.domain "This seat hold has expired or is no longer active.")
      require (hold.items ≠ []) (.domain "This seat hold does not contain any seats.")
      let items ← loadHoldItems hold
      let inventoryIds := hold.items.map (·.inventoryId)
      let lockedInventory ← Prisma.sessionSeatInventory.lockMany fun id _ =>
        inventoryIds.contains id
      require (heldFor holdId hold lockedInventory)
        (.domain "The held inventory no longer matches this checkout.")
      let session ← Prisma.eventSession.findOrThrow hold.sessionId (.notFound "EventSession")
      let event ← Prisma.event.findOrThrow session.eventId (.notFound "Event")
      let eligibility := evaluateSessionSalesEligibility
        { eventStatus := event.status
          sessionStatus := session.status
          sessionStartAt := session.startAt
          salesStartAt := session.salesStartAt
          salesEndAt := session.salesEndAt
          hasInventory := true
          now := now }
      match eligibility, calculateCheckoutTotal hold.items with
      | .blocked reason, _ => .abort (.domain reason.message)
      | .sellable, .error message => .abort (.domain message)
      | .sellable, .ok total => do
          placeOrder fresh
            (.created holdId hold session event total input.idempotencyKey
              fresh.publicReference now)
            (items.map fun e => e.1.orderItem e.2) provider now
          pure
            { orderId := fresh.orderId
              publicReference := fresh.publicReference
              replayed := false }

/-! ## §2 `ensurePaymentIntent` -/

/-- What `createPaymentIntent` is called with, and for which attempt. -/
structure PaymentIntentRequest where
  attemptId : AttemptId
  provider : PaymentProviderName
  orderReference : Reference
  amountMinor : Money
  currency : Currency
  idempotencyKey : Reference
  expiresAt : Time
  deriving DecidableEq

/-- The reads before the provider call; `none` when the intent is there already. -/
def preparePaymentIntent (provider : PaymentProviderName) (orderId : OrderId) (now : Time) :
    Sql (Option PaymentIntentRequest) := do
  let attempts ← Prisma.paymentAttempt.findMany fun _ a =>
    a.orderId == orderId && a.provider == provider
  let (attemptId, attempt) ← orThrow (.domain "Payment attempt is missing.") attempts.head?
  let order ← Prisma.checkoutOrder.findOrThrow attempt.orderId (.notFound "CheckoutOrder")
  if attempt.providerIntentId.isSome then pure none
  else do
    require (now < order.checkoutExpiresAt) (.domain "This checkout has expired.")
    pure (some
      { attemptId := attemptId
        provider := provider
        orderReference := order.publicReference
        amountMinor := attempt.amountMinor
        currency := attempt.currency
        idempotencyKey := attempt.providerIdempotencyKey
        expiresAt := order.checkoutExpiresAt })

/-- `checkoutOrder.update({ where: { id } })`, with its constraint trigger. -/
def updateOrder (id : OrderId) (f : CheckoutOrder → CheckoutOrder) : Sql Unit := do
  let _ ← Prisma.checkoutOrder.update id f (.notFound "CheckoutOrder")
  defer (.verifyOrderTotals id)

def PaymentAttempt.withIntent (a : PaymentAttempt) (providerIntentId : ProviderRef) :
    PaymentAttempt :=
  { a with providerIntentId := some providerIntentId, status := .PENDING }

def CheckoutOrder.awaitingPayment (o : CheckoutOrder) : CheckoutOrder :=
  { o with status := .PAYMENT_PENDING, version := o.version + 1 }

/-- The transaction after the provider call: whether the intent was there already. -/
def recordPaymentIntent (attemptId : AttemptId) (providerIntentId : ProviderRef) (now : Time) :
    Sql Bool := runInTransaction do
  let _ ← Prisma.paymentAttempt.lock attemptId
  let current ← Prisma.paymentAttempt.findOrThrow attemptId (.notFound "PaymentAttempt")
  let order ← Prisma.checkoutOrder.findOrThrow current.orderId (.notFound "CheckoutOrder")
  if current.providerIntentId.isSome then pure true
  else do
    let _ ← Prisma.paymentAttempt.update attemptId (·.withIntent providerIntentId)
      (.notFound "PaymentAttempt")
    if order.status = .PENDING then updateOrder current.orderId (·.awaitingPayment)
    else pure ()
    enqueueInventoryEvent (.paymentIntentCreated attemptId) order.sessionId now
    pure false

/-! ## §3 `expireUnpaidCheckoutOrders` -/

/-- Waiting for a payment. -/
def CheckoutOrderStatus.isUnpaid : CheckoutOrderStatus → Bool
  | .PENDING | .PAYMENT_PENDING => true
  | .PAID | .FULFILLED | .FAILED | .CANCELLED | .EXPIRED | .PAID_UNFULFILLED
  | .REQUIRES_REVIEW => false

def CheckoutOrder.expired (o : CheckoutOrder) (now : Time) : CheckoutOrder :=
  { o with
    status := .EXPIRED
    expiredAt := some now
    safeFailureCode := some "CHECKOUT_EXPIRED"
    version := o.version + 1 }

/-- Lazy expiry for several sessions. -/
def releaseExpiredHoldsForSessions (now : Time) : List SessionId → Sql Unit
  | [] => pure ()
  | sessionId :: sessionIds => do
      let _ ← releaseExpiredHoldsForSession sessionId now
      releaseExpiredHoldsForSessions now sessionIds

/-- One batch of `expireUnpaidCheckoutOrders`, a transaction of its own: the
number of orders claimed. -/
def expireUnpaidCheckoutOrders (batchSize : Nat) (now : Time) : Sql Nat := runInTransaction do
  let claimed ← Prisma.checkoutOrder.lockBatch
    (fun _ o => o.status.isUnpaid && o.checkoutExpiresAt ≤ now)
    (fun a b => a.2.checkoutExpiresAt < b.2.checkoutExpiresAt ∨
      a.2.checkoutExpiresAt = b.2.checkoutExpiresAt ∧ a.1 ≤ b.1)
    (min (max batchSize 1) 1000)
  if claimed = [] then pure 0
  else do
    let ids := claimed.map Prod.fst
    let expired ← Prisma.checkoutOrder.updateMany
      (fun id o => ids.contains id && o.status.isUnpaid) fun _ o => o.expired now
    deferAll (expired.map fun e => .verifyOrderTotals e.1)
    releaseExpiredHoldsForSessions now (claimed.map fun e => e.2.sessionId).eraseDups
    pure claimed.length

end SeatFlow
