import SeatFlow.Commerce.WebhookService
import SeatFlow.Database.Coherence

/-!
# Sales

What the commerce transactions do to inventory, holds, orders, payments and bookings,
as one machine over these five tables. A step is a unit of work that belongs together:
holds end and their inventory is free, a hold takes its seats, an order is placed with
its payment, a payment is settled in one of its ways. Each step says all that the code
has checked when it takes it.
-/

namespace SeatFlow

open Relational

/-- The tables of a sale. -/
structure Sales where
  inventory : Table InventoryId SessionSeatInventory
  holds : Table HoldId SeatHold
  orders : Table OrderId CheckoutOrder
  attempts : Table AttemptId PaymentAttempt
  bookings : Table BookingId Booking

def Db.sales (db : Db) : Sales :=
  { inventory := db.inventory
    holds := db.holds
    orders := db.orders
    attempts := db.attempts
    bookings := db.bookings }

/-! ## §1 Steps -/

/-- A hold ends without a booking. -/
structure SeatHold.Ends (f : SeatHold → SeatHold) : Prop where
  status : ∀ h, (f h).status = .RELEASED ∨ (f h).status = .EXPIRED
  identity : ∀ h, SeatHold.SameIdentity h (f h)
  items : ∀ h, (f h).items = h.items

theorem SeatHold.ends_released (now : Time) : SeatHold.Ends (·.released now) where
  status _ := .inl rfl
  identity _ := ⟨rfl, rfl, rfl, rfl, rfl, rfl⟩
  items _ := rfl

theorem SeatHold.ends_expired (now : Time) : SeatHold.Ends (·.expired now) where
  status _ := .inr rfl
  identity _ := ⟨rfl, rfl, rfl, rfl, rfl, rfl⟩
  items _ := rfl

/-- An ended hold is not active. -/
theorem SeatHold.Ends.not_active {f : SeatHold → SeatHold} (hf : SeatHold.Ends f) (h : SeatHold) :
    (f h).status ≠ .ACTIVE := by
  rcases hf.status h with hstatus | hstatus <;> rw [hstatus] <;> decide

namespace Sales

/-- The active holds `ids` end, and the inventory that points at them is free. -/
structure EndsHolds (f : SeatHold → SeatHold) (ids : List HoldId) (s s' : Sales) : Prop where
  ends : SeatHold.Ends f
  active : ∀ id ∈ ids, ∃ h, s.holds.lookup id = some h ∧ h.status = .ACTIVE
  holds : s.holds.Mapped (fun id h => if id ∈ ids then f h else h) s'.holds
  inventory : s.inventory.Mapped
    (fun _ row => if ∃ id ∈ ids, row.currentHoldId = some id then row.vacated else row) s'.inventory
  rest : s' = { s with holds := s'.holds, inventory := s'.inventory }

/-- A new hold takes the free rows `locked`, all of them. -/
structure Acquires (holdId : HoldId) (hold : SeatHold)
    (locked : List (InventoryId × SessionSeatInventory)) (s s' : Sales) : Prop where
  absent : s.holds.lookup holdId = none
  active : hold.status = .ACTIVE
  items : hold.items = locked.map fun e => e.2.holdItem e.1
  free : ∀ e ∈ locked, s.inventory.lookup e.1 = some e.2 ∧ e.2.state = .AVAILABLE
  distinct : (locked.map Prod.fst).Nodup
  apart : ∀ k h, s.holds.lookup k = some h → SeatHold.Apart h hold
  holds : s.holds.Wrote holdId hold s'.holds
  inventory : s.inventory.Mapped
    (fun id row => if id ∈ locked.map Prod.fst then row.heldBy holdId hold.expiresAt else row)
    s'.inventory
  rest : s' = { s with holds := s'.holds, inventory := s'.inventory }

/-- An order is placed for an active hold that has none, with one payment attempt. Its items
add up to its total. -/
structure Places (orderId : OrderId) (order : CheckoutOrder) (attemptId : AttemptId)
    (attempt : PaymentAttempt) (s s' : Sales) : Prop where
  orderAbsent : s.orders.lookup orderId = none
  attemptAbsent : s.attempts.lookup attemptId = none
  source : ∃ hold, s.holds.lookup order.sourceHoldId = some hold ∧ hold.status = .ACTIVE
  first : ∀ k o, s.orders.lookup k = some o → o.sourceHoldId ≠ order.sourceHoldId
  status : order.status = .PENDING
  distinct : (order.items.map (·.inventoryId)).Nodup
  total : (order.items.map (·.priceMinor)).sum = order.totalMinor
  ofOrder : attempt.orderId = orderId
  attemptStatus : attempt.status = .CREATED
  orders : s.orders.Wrote orderId order s'.orders
  attempts : s.attempts.Wrote attemptId attempt s'.attempts
  rest : s' = { s with orders := s'.orders, attempts := s'.attempts }

/-- The provider's intent is attached to an attempt. -/
structure Attaches (attemptId : AttemptId) (a : PaymentAttempt) (intent : ProviderRef)
    (order : CheckoutOrder) (s s' : Sales) : Prop where
  found : s.attempts.lookup attemptId = some a
  ordered : s.orders.lookup a.orderId = some order
  detached : a.providerIntentId = none
  isOpen : isTerminalPaymentStatus a.status = false
  attempts : s'.attempts = s.attempts.insert attemptId (a.withIntent intent)
  orders : s'.orders =
    if order.status = .PENDING then s.orders.insert a.orderId order.awaitingPayment else s.orders
  rest : s' = { s with attempts := s'.attempts, orders := s'.orders }

/-- Some unpaid orders expire. -/
structure ExpiresOrders (p : OrderId → CheckoutOrder → Bool) (now : Time) (s s' : Sales) :
    Prop where
  unpaid : ∀ id o, p id o = true → o.status.isUnpaid = true
  orders : s.orders.Mapped (fun id o => if p id o then o.expired now else o) s'.orders
  rest : s' = { s with orders := s'.orders }

/-- An order is put under review; nothing was paid. -/
structure Reviews (orderId : OrderId) (order : CheckoutOrder) (code : Code) (now : Time)
    (s s' : Sales) : Prop where
  ordered : s.orders.lookup orderId = some order
  isOpen : order.status.isTerminal = true → order.status = .REQUIRES_REVIEW
  rest : s' = { s with orders := s.orders.insert orderId (order.underReview false code now) }

/-- A payment was captured, and its order cannot be fulfilled. -/
structure CapturesUnfulfilled (attemptId : AttemptId) (a : PaymentAttempt) (order : CheckoutOrder)
    (code : Code) (now : Time) (s s' : Sales) : Prop where
  found : s.attempts.lookup attemptId = some a
  ordered : s.orders.lookup a.orderId = some order
  isOpen : isTerminalPaymentStatus a.status = false
  orderOpen : order.status.isTerminal = true → order.status = .PAID_UNFULFILLED
  rest : s' = { s with
    attempts := s.attempts.insert attemptId (a.paidUnderReview now)
    orders := s.orders.insert a.orderId (order.underReview true code now) }

/-- A payment failed or was cancelled, and with it an order that waits for it. -/
structure FailsPayment (attemptId : AttemptId) (a : PaymentAttempt) (order : CheckoutOrder)
    (cancelled : Bool) (now : Time) (s s' : Sales) : Prop where
  found : s.attempts.lookup attemptId = some a
  ordered : s.orders.lookup a.orderId = some order
  isOpen : isTerminalPaymentStatus a.status = false
  rest : s' = { s with
    attempts := s.attempts.insert attemptId (a.unsuccessful cancelled now)
    orders := if order.status.isUnpaid then
      s.orders.insert a.orderId (order.paymentFailed cancelled now) else s.orders }

/-- A payment is pending. -/
structure Awaits (attemptId : AttemptId) (a : PaymentAttempt) (s s' : Sales) : Prop where
  found : s.attempts.lookup attemptId = some a
  isOpen : isTerminalPaymentStatus a.status = false
  rest : s' = { s with attempts := s.attempts.insert attemptId a.pending }

/-- A payment was captured, and its order is fulfilled with a new booking: the order's items
are the hold's, and each of them is a row that the hold still holds. -/
structure Fulfils (attemptId : AttemptId) (a : PaymentAttempt) (order : CheckoutOrder)
    (hold : SeatHold) (fresh : FreshBooking) (now : Time) (s s' : Sales) : Prop where
  found : s.attempts.lookup attemptId = some a
  ordered : s.orders.lookup a.orderId = some order
  source : s.holds.lookup order.sourceHoldId = some hold
  isOpen : isTerminalPaymentStatus a.status = false
  orderOpen : order.status.isTerminal = false
  active : hold.status = .ACTIVE
  unbooked : ∀ k b, s.bookings.lookup k = some b → b.orderId ≠ a.orderId
  absent : s.bookings.lookup fresh.bookingId = none
  length : order.items.length = hold.items.length
  held : ∀ item ∈ order.items, item.inventoryId ∈ hold.items.map (·.inventoryId)
  rows : ∀ item ∈ order.items, ∃ row, s.inventory.lookup item.inventoryId = some row ∧
    row.state = .HELD ∧ row.currentHoldId = some order.sourceHoldId
  bookings : s.bookings.Wrote fresh.bookingId
    { order.booking a.orderId fresh.publicReference now with
      seats := order.items.map fun item =>
        item.bookingSeat order.sessionId (fresh.seatId item.inventoryId) } s'.bookings
  inventory : s.inventory.Mapped
    (fun id row => if id ∈ order.items.map (·.inventoryId) ∧ row.state = .HELD ∧
        row.currentHoldId = some order.sourceHoldId then row.booked else row) s'.inventory
  rest : s' = { s with
    attempts := s.attempts.insert attemptId (a.captured now)
    orders := s.orders.insert a.orderId (order.fulfilled now)
    holds := s.holds.insert order.sourceHoldId (hold.converted now)
    bookings := s'.bookings
    inventory := s'.inventory }

/-- One unit of work of a commerce transaction. -/
inductive Step (s s' : Sales) : Prop
  | ended {f : SeatHold → SeatHold} {ids : List HoldId} (h : EndsHolds f ids s s')
  | acquired {holdId : HoldId} {hold : SeatHold}
      {locked : List (InventoryId × SessionSeatInventory)} (h : Acquires holdId hold locked s s')
  | placed {orderId : OrderId} {order : CheckoutOrder} {attemptId : AttemptId}
      {attempt : PaymentAttempt} (h : Places orderId order attemptId attempt s s')
  | attached {attemptId : AttemptId} {a : PaymentAttempt} {intent : ProviderRef}
      {order : CheckoutOrder} (h : Attaches attemptId a intent order s s')
  | expiredOrders {p : OrderId → CheckoutOrder → Bool} {now : Time} (h : ExpiresOrders p now s s')
  | reviewed {orderId : OrderId} {order : CheckoutOrder} {code : Code} {now : Time}
      (h : Reviews orderId order code now s s')
  | capturedUnfulfilled {attemptId : AttemptId} {a : PaymentAttempt} {order : CheckoutOrder}
      {code : Code} {now : Time} (h : CapturesUnfulfilled attemptId a order code now s s')
  | failed {attemptId : AttemptId} {a : PaymentAttempt} {order : CheckoutOrder} {cancelled : Bool}
      {now : Time} (h : FailsPayment attemptId a order cancelled now s s')
  | awaits {attemptId : AttemptId} {a : PaymentAttempt} (h : Awaits attemptId a s s')
  | fulfilled {attemptId : AttemptId} {a : PaymentAttempt} {order : CheckoutOrder}
      {hold : SeatHold} {fresh : FreshBooking} {now : Time}
      (h : Fulfils attemptId a order hold fresh now s s')

end Sales

end SeatFlow
