import SeatFlow.Database.Schema

/-!
# Constraints of the commerce tables

For each table its `CHECK` constraints, unique indexes and row triggers, as the
`validate` function of the table's entity: `none` is an `INSERT`, `some old` an
`UPDATE` of `old`. Constraint names and trigger messages are the migrations'.
Format checks on generated references and free text are not modelled, and no
modelled service deletes a row.

An entity whose rows are nested (`seatHoldItem` in `seatHold`, say) is a second
entity over the parent's table: its `validate` is the child table's triggers, run
on the child rows that the write appends.
-/

namespace SeatFlow

open Relational

/-- A rejected constraint or trigger. -/
def check (c : Prop) [Decidable c] (name : String) : Except Failure Unit :=
  ensure c (.constraint name)

@[simp]
theorem check_eq_ok {c : Prop} [Decidable c] {name : String} :
    check c name = .ok () ↔ c :=
  ensure_eq_ok

/-- The child rows that a write appends to a nested list. -/
def appended {α : Type} (old new : List α) : List α :=
  new.drop old.length

@[simp]
theorem appended_append {α : Type} (old added : List α) : appended old (old ++ added) = added := by
  simp [appended]

/-- `^[A-Z0-9_:-]+$`, 1 to 80 characters: the format of every failure code. -/
def isSafeCode (code : Code) : Bool :=
  0 < code.toList.length && code.toList.length ≤ 80 &&
    code.toList.all fun c => c.isUpper || c.isDigit || c == '_' || c == ':' || c == '-'

/-! ## §1 Sessions, inventory and holds -/

/-- `EventSession_time_range_check` and `EventSession_sales_range_check`. -/
def EventSession.timeRangeCheck (s : EventSession) : Bool :=
  s.startAt < s.endAt && s.salesStartAt < s.salesEndAt && s.salesEndAt ≤ s.startAt

/-- `EventSession_lifecycle_check`, as far as cancellation goes. -/
def EventSession.lifecycleCheck (s : EventSession) : Bool :=
  match s.status with
  | .CANCELLED => s.cancelledAt.isSome
  | _ => s.cancelledAt.isNone

/-- `SessionSeatInventory_state_check`. -/
def SessionSeatInventory.stateCheck (row : SessionSeatInventory) : Bool :=
  match row.state with
  | .AVAILABLE => row.currentHoldId.isNone && row.holdExpiresAt.isNone
  | .HELD => row.currentHoldId.isSome && row.holdExpiresAt.isSome
  | .BOOKED => row.currentHoldId.isNone && row.holdExpiresAt.isNone

/-- The columns that `SessionSeatInventory_protect_snapshot` freezes. -/
def SessionSeatInventory.snapshot (row : SessionSeatInventory) :=
  (row.sessionId, row.seatId, row.sectionId, row.priceTierId, row.priceMinor, row.currency)

/-- Every booked seat of every booking. -/
def Db.bookingSeats (db : Db) : List BookingSeat :=
  db.bookings.rows.flatMap fun e => e.2.seats

def SessionSeatInventory.protectSnapshot (db : Db) (id : InventoryId)
    (old new : SessionSeatInventory) : Except Failure Unit := do
  check (new.snapshot = old.snapshot)
    "Session seat inventory ancestry and price snapshot are immutable"
  check (old.state = .BOOKED → new.state = .BOOKED)
    "Booked inventory is permanent and cannot become available or held"
  check (∀ hold ∈ new.currentHoldId, (db.holds.lookup hold).map (·.sessionId) = some new.sessionId)
    "The active hold belongs to a different session"
  check (new.state = .BOOKED → old.state ≠ .BOOKED →
      (db.bookingSeats.countP fun seat =>
        seat.inventoryId == id && seat.sessionId == new.sessionId && seat.seatId == new.seatId) = 1)
    "Inventory can only become booked after its unique booking seat exists"

/-- `SeatHold_lifecycle_check`. -/
def SeatHold.lifecycleCheck (h : SeatHold) : Bool :=
  match h.status with
  | .ACTIVE => h.releasedAt.isNone && h.expiredAt.isNone && h.convertedAt.isNone
  | .RELEASED => h.releasedAt.isSome && h.expiredAt.isNone && h.convertedAt.isNone
  | .EXPIRED => h.expiredAt.isSome && h.releasedAt.isNone && h.convertedAt.isNone
  | .CONVERTED => h.convertedAt.isSome && h.releasedAt.isNone && h.expiredAt.isNone

/-- The columns that `SeatHold_protect_identity` freezes are unchanged. -/
def SeatHold.SameIdentity (old new : SeatHold) : Prop :=
  new.sessionId = old.sessionId ∧ new.userId = old.userId ∧ new.publicToken = old.publicToken ∧
    new.idempotencyKey = old.idempotencyKey ∧ new.expiresAt = old.expiresAt ∧
    new.createdAt = old.createdAt

instance (old new : SeatHold) : Decidable (SeatHold.SameIdentity old new) :=
  inferInstanceAs (Decidable (_ ∧ _))

def SeatHold.protectIdentity (old new : SeatHold) : Except Failure Unit := do
  check (SeatHold.SameIdentity old new) "Hold identity is immutable"
  check (old.status ≠ .ACTIVE → new.status = old.status)
    "A terminal hold cannot be revived or changed"

/-- The unique indexes of `SeatHold`, the last of them partial. -/
def SeatHold.uniqueCheck (db : Db) (id : HoldId) (new : SeatHold) : Except Failure Unit := do
  check (db.holds.any (fun k h => k != id && h.publicToken == new.publicToken) = false)
    "SeatHold_publicToken_key"
  check (db.holds.any (fun k h => k != id && h.sessionId == new.sessionId &&
      h.userId == new.userId && h.idempotencyKey == new.idempotencyKey) = false)
    "SeatHold_sessionId_userId_idempotencyKey_key"
  check (new.status = .ACTIVE → db.holds.any (fun k h => k != id && h.status == .ACTIVE &&
      h.userId == new.userId && h.sessionId == new.sessionId) = false)
    "SeatHold_one_active_per_user_session_key"

def SeatHold.validate (db : Db) (id : HoldId) (old : Option SeatHold) (new : SeatHold) :
    Except Failure Unit := do
  check (new.createdAt < new.expiresAt) "SeatHold_expiry_after_creation_check"
  check new.lifecycleCheck "SeatHold_lifecycle_check"
  SeatHold.uniqueCheck db id new
  match old with
  | none => .ok ()
  | some old => SeatHold.protectIdentity old new

/-- `SeatHoldItem_enforce_ancestry`. -/
def SeatHoldItem.enforceAncestry (db : Db) (hold : SeatHold) (item : SeatHoldItem) :
    Except Failure Unit := do
  check (item.priceMinor ≥ 0) "SeatHoldItem_priceMinor_check"
  check ((db.inventory.lookup item.inventoryId).map (·.sessionId) = some hold.sessionId)
    "A hold item must reference inventory from the hold session"
  check ((db.inventory.lookup item.inventoryId).map (fun row => (row.priceMinor, row.currency))
      = some (item.priceMinor, item.currency))
    "Hold item price must be the inventory snapshot"

def SeatHoldItem.validate (db : Db) (_ : HoldId) (old : Option SeatHold) (new : SeatHold) :
    Except Failure Unit := do
  check (new.items.map (·.inventoryId)).Nodup "SeatHoldItem_holdId_inventoryId_key"
  checkAll (SeatHoldItem.enforceAncestry db new) (appended (old.elim [] (·.items)) new.items)

namespace Prisma

def user : Model UserId User where
  get := Db.users
  set t db := { db with users := t }
  put := .user
  lockKey := .user
  validate _ _ _ _ := .ok ()
  duplicate := .constraint "User_pkey"
  get_set _ _ := rfl
  set_get := Db.eta
  set_set _ _ _ := rfl
  apply_put _ _ _ := rfl
  key_put _ _ := rfl

def event : Model EventId Event where
  get := Db.events
  set t db := { db with events := t }
  put := .event
  lockKey := .event
  validate _ _ _ _ := .ok ()
  duplicate := .constraint "Event_pkey"
  get_set _ _ := rfl
  set_get := Db.eta
  set_set _ _ _ := rfl
  apply_put _ _ _ := rfl
  key_put _ _ := rfl

def eventSession : Model SessionId EventSession where
  get := Db.sessions
  set t db := { db with sessions := t }
  put := .session
  lockKey := .session
  validate _ _ _ new := do
    check new.timeRangeCheck "EventSession_time_range_check"
    check new.lifecycleCheck "EventSession_lifecycle_check"
  duplicate := .constraint "EventSession_pkey"
  get_set _ _ := rfl
  set_get := Db.eta
  set_set _ _ _ := rfl
  apply_put _ _ _ := rfl
  key_put _ _ := rfl

def sessionSeatInventory : Model InventoryId SessionSeatInventory where
  get := Db.inventory
  set t db := { db with inventory := t }
  put := .inventory
  lockKey := .inventory
  validate db id old new := do
    check (new.priceMinor ≥ 0) "SessionSeatInventory_priceMinor_check"
    check new.stateCheck "SessionSeatInventory_state_check"
    check (db.inventory.any (fun k row => k != id && row.sessionId == new.sessionId &&
        row.seatId == new.seatId) = false)
      "SessionSeatInventory_sessionId_seatId_key"
    match old with
    | none => .ok ()
    | some old => SessionSeatInventory.protectSnapshot db id old new
  duplicate := .constraint "SessionSeatInventory_pkey"
  get_set _ _ := rfl
  set_get := Db.eta
  set_set _ _ _ := rfl
  apply_put _ _ _ := rfl
  key_put _ _ := rfl

def seatHold : Model HoldId SeatHold where
  get := Db.holds
  set t db := { db with holds := t }
  put := .hold
  lockKey := .hold
  validate := SeatHold.validate
  duplicate := .constraint "SeatHold_pkey"
  get_set _ _ := rfl
  set_get := Db.eta
  set_set _ _ _ := rfl
  apply_put _ _ _ := rfl
  key_put _ _ := rfl

def seatHoldItem : Model HoldId SeatHold :=
  { seatHold with validate := SeatHoldItem.validate }

end Prisma

/-! ## §2 Orders and payment attempts -/

/-- `CheckoutOrder_lifecycle_check`. -/
def CheckoutOrder.lifecycleCheck (o : CheckoutOrder) : Bool :=
  match o.status with
  | .PENDING | .PAYMENT_PENDING =>
      o.paidAt.isNone && o.fulfilledAt.isNone && o.failedAt.isNone && o.cancelledAt.isNone &&
        o.expiredAt.isNone
  | .PAID =>
      o.paidAt.isSome && o.fulfilledAt.isNone && o.failedAt.isNone && o.cancelledAt.isNone &&
        o.expiredAt.isNone
  | .FULFILLED =>
      o.paidAt.isSome && o.fulfilledAt.isSome && o.failedAt.isNone && o.cancelledAt.isNone &&
        o.expiredAt.isNone && o.safeFailureCode.isNone
  | .FAILED =>
      o.paidAt.isNone && o.fulfilledAt.isNone && o.failedAt.isSome && o.cancelledAt.isNone &&
        o.expiredAt.isNone
  | .CANCELLED =>
      o.paidAt.isNone && o.fulfilledAt.isNone && o.failedAt.isNone && o.cancelledAt.isSome &&
        o.expiredAt.isNone
  | .EXPIRED =>
      o.paidAt.isNone && o.fulfilledAt.isNone && o.failedAt.isNone && o.cancelledAt.isNone &&
        o.expiredAt.isSome
  | .PAID_UNFULFILLED =>
      o.paidAt.isSome && o.fulfilledAt.isNone && o.failedAt.isNone && o.cancelledAt.isNone &&
        o.expiredAt.isNone && o.safeFailureCode.isSome
  | .REQUIRES_REVIEW =>
      o.fulfilledAt.isNone && o.cancelledAt.isNone && o.expiredAt.isNone &&
        o.safeFailureCode.isSome

/-- `CheckoutOrder_enforce_ancestry`. -/
def CheckoutOrder.enforceAncestry (db : Db) (new : CheckoutOrder) : Except Failure Unit := do
  check ((db.holds.lookup new.sourceHoldId).map (fun h => (h.sessionId, h.userId))
      = some (new.sessionId, new.userId))
    "Checkout order must use the source hold customer and session"
  check ((db.sessions.lookup new.sessionId).map (·.eventId) = some new.eventId ∧
      (db.events.lookup new.eventId).map (·.organizerOrganizationId) = some new.organizationId)
    "Checkout order event ancestry is invalid"
  check (∀ h ∈ db.holds.lookup new.sourceHoldId, new.checkoutExpiresAt ≤ h.expiresAt)
    "Checkout cannot outlive its source hold"

/-- The columns that `CheckoutOrder_protect_identity` freezes are unchanged. -/
def CheckoutOrder.SameIdentity (old new : CheckoutOrder) : Prop :=
  new.publicReference = old.publicReference ∧ new.userId = old.userId ∧
    new.organizationId = old.organizationId ∧ new.eventId = old.eventId ∧
    new.sessionId = old.sessionId ∧ new.sourceHoldId = old.sourceHoldId ∧
    new.currency = old.currency ∧ new.subtotalMinor = old.subtotalMinor ∧
    new.totalMinor = old.totalMinor ∧ new.idempotencyKey = old.idempotencyKey ∧
    new.checkoutExpiresAt = old.checkoutExpiresAt ∧ new.createdAt = old.createdAt

instance (old new : CheckoutOrder) : Decidable (CheckoutOrder.SameIdentity old new) :=
  inferInstanceAs (Decidable (_ ∧ _))

/-- The order statuses that `CheckoutOrder_protect_identity` freezes. -/
def CheckoutOrderStatus.isTerminal : CheckoutOrderStatus → Bool
  | .FULFILLED | .FAILED | .CANCELLED | .EXPIRED | .PAID_UNFULFILLED | .REQUIRES_REVIEW => true
  | .PENDING | .PAYMENT_PENDING | .PAID => false

def CheckoutOrder.protectIdentity (old new : CheckoutOrder) : Except Failure Unit := do
  check (CheckoutOrder.SameIdentity old new)
    "Checkout order identity and financial snapshot are immutable"
  check (old.status.isTerminal → new.status = old.status)
    "Terminal checkout order status is immutable"
  check (old.paidAt.isSome → new.paidAt = old.paidAt)
    "Order paid timestamp is immutable once set"

def CheckoutOrder.uniqueCheck (db : Db) (id : OrderId) (new : CheckoutOrder) :
    Except Failure Unit := do
  check (db.orders.any (fun k o => k != id && o.publicReference == new.publicReference) = false)
    "CheckoutOrder_publicReference_key"
  check (db.orders.any (fun k o => k != id && o.sourceHoldId == new.sourceHoldId) = false)
    "CheckoutOrder_sourceHoldId_key"

def CheckoutOrder.validate (db : Db) (id : OrderId) (old : Option CheckoutOrder)
    (new : CheckoutOrder) : Except Failure Unit := do
  check (new.subtotalMinor ≥ 0 ∧ new.totalMinor ≥ 0 ∧ new.subtotalMinor = new.totalMinor)
    "CheckoutOrder_amount_check"
  check (new.createdAt < new.checkoutExpiresAt) "CheckoutOrder_expiration_check"
  check (new.safeFailureCode.all isSafeCode) "CheckoutOrder_failure_code_check"
  check new.lifecycleCheck "CheckoutOrder_lifecycle_check"
  CheckoutOrder.uniqueCheck db id new
  match old with
  | none => CheckoutOrder.enforceAncestry db new
  | some old => CheckoutOrder.protectIdentity old new

/-- `CheckoutOrderItem_enforce_snapshot`. -/
def CheckoutOrderItem.enforceSnapshot (db : Db) (order : CheckoutOrder) (item : CheckoutOrderItem) :
    Except Failure Unit := do
  check (item.priceMinor ≥ 0) "CheckoutOrderItem_price_check"
  check ((db.inventory.lookup item.inventoryId).map (·.snapshot)
      = some (order.sessionId, item.seatId, item.sectionId, item.priceTierId, item.priceMinor,
          item.currency) ∧
      ((db.holds.lookup order.sourceHoldId).elim [] (·.items)).countP
        (fun held => held.inventoryId == item.inventoryId) = 1)
    "Checkout item does not match source hold inventory"

def CheckoutOrderItem.validate (db : Db) (_ : OrderId) (old : Option CheckoutOrder)
    (new : CheckoutOrder) : Except Failure Unit := do
  check (new.items.map (·.inventoryId)).Nodup "CheckoutOrderItem_orderId_inventoryId_key"
  check (new.items.map (·.seatId)).Nodup "CheckoutOrderItem_orderId_seatId_key"
  checkAll (CheckoutOrderItem.enforceSnapshot db new) (appended (old.elim [] (·.items)) new.items)

/-- `CheckoutOrder_verify_totals`, run at commit. -/
def CheckoutOrder.verifyTotals (db : Db) (id : OrderId) : Except Failure Unit :=
  match db.orders.lookup id with
  | none => .ok ()
  | some order =>
      check (order.items ≠ [] ∧ (order.items.map (·.priceMinor)).sum = order.totalMinor ∧
          ∀ item ∈ order.items, item.currency = order.currency)
        "Checkout order items must exactly equal the official total and currency"

/-- `PaymentAttempt_lifecycle_check`. -/
def PaymentAttempt.lifecycleCheck (a : PaymentAttempt) : Bool :=
  match a.status with
  | .CREATED | .PENDING => a.succeededAt.isNone && a.failedAt.isNone && a.cancelledAt.isNone
  | .SUCCEEDED => a.succeededAt.isSome && a.failedAt.isNone && a.cancelledAt.isNone
  | .FAILED => a.succeededAt.isNone && a.failedAt.isSome && a.cancelledAt.isNone
  | .CANCELLED => a.succeededAt.isNone && a.failedAt.isNone && a.cancelledAt.isSome
  | .REQUIRES_REVIEW => a.safeFailureCode.isSome

/-- The columns that `PaymentAttempt_protect_identity` freezes are unchanged. -/
def PaymentAttempt.SameIdentity (old new : PaymentAttempt) : Prop :=
  new.orderId = old.orderId ∧ new.provider = old.provider ∧
    new.providerIdempotencyKey = old.providerIdempotencyKey ∧ new.amountMinor = old.amountMinor ∧
    new.currency = old.currency ∧ new.createdAt = old.createdAt

instance (old new : PaymentAttempt) : Decidable (PaymentAttempt.SameIdentity old new) :=
  inferInstanceAs (Decidable (_ ∧ _))

/-- The attempt statuses that `PaymentAttempt_protect_identity` freezes; also
`isTerminalPaymentStatus` of the service. -/
def isTerminalPaymentStatus : PaymentAttemptStatus → Bool
  | .SUCCEEDED | .FAILED | .CANCELLED | .REQUIRES_REVIEW => true
  | .CREATED | .PENDING => false

def PaymentAttempt.protectIdentity (old new : PaymentAttempt) : Except Failure Unit := do
  check (PaymentAttempt.SameIdentity old new) "Payment attempt identity and amount are immutable"
  check (old.providerIntentId.isSome → new.providerIntentId = old.providerIntentId)
    "Provider intent identity is immutable once attached"
  check (isTerminalPaymentStatus old.status → new.status = old.status)
    "First terminal payment result is immutable"

/-- `PaymentAttempt_refund_aggregate_check`. -/
def PaymentAttempt.refundAggregateCheck (a : PaymentAttempt) : Prop :=
  a.refundedMinor ≥ 0 ∧ a.inFlightRefundMinor ≥ 0 ∧
    a.refundedMinor + a.inFlightRefundMinor ≤ a.amountMinor

instance (a : PaymentAttempt) : Decidable a.refundAggregateCheck :=
  inferInstanceAs (Decidable (_ ∧ _))

/-- `PaymentAttempt_enforce_order`. -/
def PaymentAttempt.enforceOrder (db : Db) (new : PaymentAttempt) : Except Failure Unit :=
  check ((db.orders.lookup new.orderId).map (fun o => (o.totalMinor, o.currency))
      = some (new.amountMinor, new.currency))
    "Payment attempt amount and currency must match its order"

def PaymentAttempt.uniqueCheck (db : Db) (id : AttemptId) (new : PaymentAttempt) :
    Except Failure Unit := do
  check (db.attempts.any (fun k a =>
      k != id && a.providerIdempotencyKey == new.providerIdempotencyKey) = false)
    "PaymentAttempt_providerIdempotencyKey_key"
  check (db.attempts.any (fun k a =>
      k != id && a.orderId == new.orderId && a.provider == new.provider) = false)
    "PaymentAttempt_orderId_provider_key"
  check (new.providerIntentId.isSome → db.attempts.any (fun k a => k != id &&
      a.provider == new.provider && a.providerIntentId == new.providerIntentId) = false)
    "PaymentAttempt_provider_providerIntentId_key"

def PaymentAttempt.validate (db : Db) (id : AttemptId) (old : Option PaymentAttempt)
    (new : PaymentAttempt) : Except Failure Unit := do
  check (new.amountMinor ≥ 0) "PaymentAttempt_amount_check"
  check (new.safeFailureCode.all isSafeCode) "PaymentAttempt_safe_text_check"
  check new.lifecycleCheck "PaymentAttempt_lifecycle_check"
  check new.refundAggregateCheck "PaymentAttempt_refund_aggregate_check"
  check ((new.refundedMinor = 0 ∧ new.inFlightRefundMinor = 0) ∨ new.status = .SUCCEEDED)
    "PaymentAttempt_refund_requires_capture_check"
  PaymentAttempt.uniqueCheck db id new
  match old with
  | none => PaymentAttempt.enforceOrder db new
  | some old => PaymentAttempt.protectIdentity old new

namespace Prisma

def checkoutOrder : Model OrderId CheckoutOrder where
  get := Db.orders
  set t db := { db with orders := t }
  put := .order
  lockKey := .order
  validate := CheckoutOrder.validate
  duplicate := .constraint "CheckoutOrder_pkey"
  get_set _ _ := rfl
  set_get := Db.eta
  set_set _ _ _ := rfl
  apply_put _ _ _ := rfl
  key_put _ _ := rfl

def checkoutOrderItem : Model OrderId CheckoutOrder :=
  { checkoutOrder with validate := CheckoutOrderItem.validate }

def paymentAttempt : Model AttemptId PaymentAttempt where
  get := Db.attempts
  set t db := { db with attempts := t }
  put := .attempt
  lockKey := .attempt
  validate := PaymentAttempt.validate
  duplicate := .constraint "PaymentAttempt_pkey"
  get_set _ _ := rfl
  set_get := Db.eta
  set_set _ _ _ := rfl
  apply_put _ _ _ := rfl
  key_put _ _ := rfl

end Prisma

/-! ## §3 Webhook records -/

/-- `PaymentWebhookEvent_category_check`. -/
def PaymentWebhookEvent.categoryCheck (w : PaymentWebhookEvent) : Bool :=
  match w.eventCategory with
  | .PAYMENT =>
      w.normalizedStatus.isSome && w.normalizedRefundStatus.isNone &&
        w.normalizedDisputeStatus.isNone && w.providerRefundId.isNone &&
        w.providerDisputeId.isNone && w.refundId.isNone && w.disputeId.isNone
  | .REFUND =>
      w.normalizedStatus.isNone && w.normalizedRefundStatus.isSome &&
        w.normalizedDisputeStatus.isNone && w.providerRefundId.isSome &&
        w.providerDisputeId.isNone && w.disputeId.isNone
  | .DISPUTE =>
      w.normalizedStatus.isNone && w.normalizedRefundStatus.isNone &&
        w.normalizedDisputeStatus.isSome && w.providerDisputeId.isSome &&
        w.providerRefundId.isNone && w.refundId.isNone

/-- The outcomes that `PaymentWebhookEvent_protect_envelope` freezes. -/
def PaymentWebhookProcessingStatus.isFinal : PaymentWebhookProcessingStatus → Bool
  | .PROCESSED | .REQUIRES_REVIEW => true
  | .RECEIVED | .FAILED => false

/-- `PaymentWebhookEvent_processing_check`. -/
def PaymentWebhookEvent.processingCheck (w : PaymentWebhookEvent) : Bool :=
  w.processedAt.isSome == w.processingStatus.isFinal

/-- The envelope that `PaymentWebhookEvent_protect_envelope` freezes is unchanged. -/
def PaymentWebhookEvent.SameEnvelope (old new : PaymentWebhookEvent) : Prop :=
  new.provider = old.provider ∧ new.providerEventId = old.providerEventId ∧
    new.eventCategory = old.eventCategory ∧ new.providerIntentId = old.providerIntentId ∧
    new.paymentAttemptId = old.paymentAttemptId ∧ new.normalizedStatus = old.normalizedStatus ∧
    new.normalizedRefundStatus = old.normalizedRefundStatus ∧
    new.normalizedDisputeStatus = old.normalizedDisputeStatus ∧
    new.providerRefundId = old.providerRefundId ∧
    new.providerDisputeId = old.providerDisputeId ∧ new.amountMinor = old.amountMinor ∧
    new.currency = old.currency ∧ new.signatureStatus = old.signatureStatus ∧
    new.receivedAt = old.receivedAt ∧ new.providerOccurredAt = old.providerOccurredAt

instance (old new : PaymentWebhookEvent) : Decidable (PaymentWebhookEvent.SameEnvelope old new) :=
  inferInstanceAs (Decidable (_ ∧ _))

theorem PaymentWebhookEvent.SameEnvelope.trans {w w' w'' : PaymentWebhookEvent}
    (h : SameEnvelope w w') (h' : SameEnvelope w' w'') : SameEnvelope w w'' := by
  simp only [SameEnvelope] at h h' ⊢
  simp [h, h']

def PaymentWebhookEvent.protectEnvelope (old new : PaymentWebhookEvent) : Except Failure Unit := do
  check (PaymentWebhookEvent.SameEnvelope old new) "Verified webhook envelope is immutable"
  check (old.refundId.isSome → new.refundId = old.refundId)
    "Webhook refund linkage is immutable once attached"
  check (old.disputeId.isSome → new.disputeId = old.disputeId)
    "Webhook dispute linkage is immutable once attached"
  check (old.processingStatus.isFinal → new.processingStatus = old.processingStatus)
    "Processed webhook outcome is immutable"

def PaymentWebhookEvent.validate (db : Db) (id : WebhookId) (old : Option PaymentWebhookEvent)
    (new : PaymentWebhookEvent) : Except Failure Unit := do
  check new.categoryCheck "PaymentWebhookEvent_category_check"
  check (new.amountMinor ≥ 0) "PaymentWebhookEvent_amount_check"
  check (new.signatureStatus = .VERIFIED) "PaymentWebhookEvent_signature_check"
  check new.processingCheck "PaymentWebhookEvent_processing_check"
  check (db.webhooks.any (fun k w => k != id && w.provider == new.provider &&
      w.providerEventId == new.providerEventId) = false)
    "PaymentWebhookEvent_provider_providerEventId_key"
  match old with
  | none => .ok ()
  | some old => PaymentWebhookEvent.protectEnvelope old new

theorem PaymentWebhookEvent.sameEnvelope_of_validate {db : Db} {id : WebhookId}
    {old new : PaymentWebhookEvent}
    (h : PaymentWebhookEvent.validate db id (some old) new = .ok ()) :
    SameEnvelope old new := by
  simp only [PaymentWebhookEvent.validate, PaymentWebhookEvent.protectEnvelope,
    Except.bind_unit_eq_ok, check_eq_ok] at h
  exact h.2.2.2.2.2.1

namespace Prisma

def paymentWebhookEvent : Model WebhookId PaymentWebhookEvent where
  get := Db.webhooks
  set t db := { db with webhooks := t }
  put := .webhook
  lockKey := .webhook
  validate := PaymentWebhookEvent.validate
  duplicate := .constraint "PaymentWebhookEvent_pkey"
  get_set _ _ := rfl
  set_get := Db.eta
  set_set _ _ _ := rfl
  apply_put _ _ _ := rfl
  key_put _ _ := rfl

end Prisma

/-! ## §4 Bookings -/

/-- `Booking_refund_lifecycle_check`. -/
def Booking.refundLifecycleCheck (b : Booking) : Bool :=
  match b.status with
  | .CONFIRMED => b.refundedAt.isNone
  | .REFUNDED => b.refundedAt.any (b.confirmedAt ≤ ·)

/-- `Booking_enforce_order`. -/
def Booking.enforceOrder (db : Db) (new : Booking) : Except Failure Unit :=
  check ((db.orders.lookup new.orderId).map (fun o =>
      (o.userId, o.organizationId, o.eventId, o.sessionId, o.currency, o.totalMinor))
      = some (new.userId, new.organizationId, new.eventId, new.sessionId, new.currency,
          new.totalMinor))
    "Booking ancestry and total must match its checkout order"

/-- The columns that `Booking_protect_snapshot` freezes are unchanged. -/
def Booking.SameSnapshot (old new : Booking) : Prop :=
  new.publicReference = old.publicReference ∧ new.orderId = old.orderId ∧
    new.userId = old.userId ∧ new.organizationId = old.organizationId ∧
    new.eventId = old.eventId ∧ new.sessionId = old.sessionId ∧ new.currency = old.currency ∧
    new.totalMinor = old.totalMinor ∧ new.confirmedAt = old.confirmedAt ∧
    new.createdAt = old.createdAt

instance (old new : Booking) : Decidable (Booking.SameSnapshot old new) :=
  inferInstanceAs (Decidable (_ ∧ _))

def Booking.protectSnapshot (old new : Booking) : Except Failure Unit := do
  check (Booking.SameSnapshot old new)
    "Confirmed booking identity and financial snapshots are immutable"
  check (old.status = .REFUNDED → new.status = .REFUNDED)
    "A refunded booking is terminal and cannot be revived"
  check (old.refundedAt.isSome → new.refundedAt = old.refundedAt)
    "Booking refund timestamp is immutable once set"

def Booking.validate (db : Db) (id : BookingId) (old : Option Booking) (new : Booking) :
    Except Failure Unit := do
  check (new.totalMinor ≥ 0) "Booking_amount_check"
  check (new.createdAt ≤ new.confirmedAt) "Booking_time_check"
  check new.refundLifecycleCheck "Booking_refund_lifecycle_check"
  check (db.bookings.any (fun k b => k != id && b.publicReference == new.publicReference) = false)
    "Booking_publicReference_key"
  check (db.bookings.any (fun k b => k != id && b.orderId == new.orderId) = false)
    "Booking_orderId_key"
  match old with
  | none => Booking.enforceOrder db new
  | some old => Booking.protectSnapshot old new

/-- `BookingSeat_enforce_order_item`. -/
def BookingSeat.enforceOrderItem (db : Db) (booking : Booking) (seat : BookingSeat) :
    Except Failure Unit := do
  check (seat.priceMinor ≥ 0) "BookingSeat_price_check"
  check (seat.sessionId = booking.sessionId ∧
      (((db.orders.lookup booking.orderId).elim [] (·.items)).find?
          (fun item => item.inventoryId == seat.inventoryId)).map
        (fun item =>
          (item.seatId, item.sectionId, item.priceTierId, item.priceMinor, item.currency))
        = some (seat.seatId, seat.sectionId, seat.priceTierId, seat.priceMinor, seat.currency))
    "Booked-seat snapshot must exactly match its checkout item"

/-- The unique keys of `BookingSeat`, over all bookings. -/
def BookingSeat.uniqueCheck (all : List BookingSeat) : Except Failure Unit := do
  check (all.map (·.id)).Nodup "BookingSeat_pkey"
  check (all.map (·.inventoryId)).Nodup "BookingSeat_inventoryId_key"
  check (all.map fun seat => (seat.sessionId, seat.seatId)).Nodup "BookingSeat_sessionId_seatId_key"

def BookingSeat.validate (db : Db) (_ : BookingId) (old : Option Booking) (new : Booking) :
    Except Failure Unit := do
  let added := appended (old.elim [] (·.seats)) new.seats
  BookingSeat.uniqueCheck (db.bookingSeats ++ added)
  checkAll (BookingSeat.enforceOrderItem db new) added

/-- `Booking_verify_fulfillment`, run at commit. -/
def Booking.verifyFulfillment (db : Db) (id : BookingId) : Except Failure Unit :=
  match db.bookings.lookup id with
  | none => .ok ()
  | some booking =>
      match db.orders.lookup booking.orderId with
      | none => .ok ()
      | some order =>
          let booked := booking.seats.countP fun seat =>
            ((db.inventory.lookup seat.inventoryId).any fun row =>
              row.state == .BOOKED && row.currentHoldId.isNone && row.holdExpiresAt.isNone)
          check (order.status = .FULFILLED ∧ order.paidAt.isSome ∧ order.fulfilledAt.isSome ∧
              booking.seats ≠ [] ∧ booking.seats.length = order.items.length ∧
              booked = booking.seats.length ∧
              (db.holds.lookup order.sourceHoldId).any (fun hold =>
                hold.status == .CONVERTED && hold.convertedAt.isSome &&
                  hold.userId == booking.userId && hold.sessionId == booking.sessionId) = true)
            "Booking fulfillment must atomically match order, hold, seats, and booked inventory"

/-- `SeatHold_verify_conversion`, run at commit. -/
def SeatHold.verifyConversion (db : Db) (id : HoldId) : Except Failure Unit :=
  match db.holds.lookup id with
  | none => .ok ()
  | some hold =>
      let fulfilled := (db.orders.select fun _ order =>
        order.sourceHoldId == id && order.status == .FULFILLED).flatMap fun e =>
          db.bookings.select fun _ booking =>
            booking.orderId == e.1 && booking.userId == hold.userId &&
              booking.sessionId == hold.sessionId
      check (hold.status = .CONVERTED → fulfilled.length = 1 ∧
          db.inventory.any (fun _ row => row.currentHoldId == some id) = false)
        "Converted hold must have one fulfilled booking and no temporary inventory"

/-- `TicketIssuanceRequest_lifecycle_check`. -/
def TicketIssuanceRequest.lifecycleCheck (r : TicketIssuanceRequest) : Bool :=
  match r.status with
  | .PENDING => r.processedAt.isNone && r.deadLetterAt.isNone
  | .COMPLETED => r.processedAt.isSome && r.deadLetterAt.isNone
  | .DEAD_LETTER => r.processedAt.isNone && r.deadLetterAt.isSome

namespace Prisma

def booking : Model BookingId Booking where
  get := Db.bookings
  set t db := { db with bookings := t }
  put := .booking
  lockKey := .booking
  validate := Booking.validate
  duplicate := .constraint "Booking_pkey"
  get_set _ _ := rfl
  set_get := Db.eta
  set_set _ _ _ := rfl
  apply_put _ _ _ := rfl
  key_put _ _ := rfl

def bookingSeat : Model BookingId Booking :=
  { booking with validate := BookingSeat.validate }

def ticketIssuanceRequest : Model BookingId TicketIssuanceRequest where
  get := Db.issuanceRequests
  set t db := { db with issuanceRequests := t }
  put := .issuanceRequest
  lockKey := .issuanceRequest
  validate _ _ _ new := check new.lifecycleCheck "TicketIssuanceRequest_lifecycle_check"
  duplicate := .constraint "TicketIssuanceRequest_bookingId_key"
  get_set _ _ := rfl
  set_get := Db.eta
  set_set _ _ _ := rfl
  apply_put _ _ _ := rfl
  key_put _ _ := rfl

def inventoryEventOutbox : Model InventoryEventKey InventoryEvent where
  get := Db.inventoryOutbox
  set t db := { db with inventoryOutbox := t }
  put := .inventoryOutbox
  lockKey := .inventoryOutbox
  validate _ _ _ _ := .ok ()
  duplicate := .constraint "InventoryEventOutbox_deduplicationKey_key"
  get_set _ _ := rfl
  set_get := Db.eta
  set_set _ _ _ := rfl
  apply_put _ _ _ := rfl
  key_put _ _ := rfl

end Prisma

end SeatFlow
