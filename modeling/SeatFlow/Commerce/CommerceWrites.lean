import SeatFlow.Commerce.WebhookService
import SeatFlow.Database.Soundness

/-!
# What commerce transactions write

The transactions of holds, checkout and payment webhooks, and their writes once for
any relation that they are steps of: `CommerceWrites step` lists the writes that a
transaction's body makes, and the texts are gone through here. Between transactions
the relation may be another one, `whole`: what a commit makes of the body's steps.
-/

namespace SeatFlow

open Relational Program Entity

/-- A booking as `createBooking` inserts it. -/
structure Booking.Fresh (b : Booking) : Prop where
  status : b.status = .CONFIRMED
  seats : b.seats = []

/-- The writes of a transaction that processes a payment event, where `A` says which
payments it may write. -/
structure PaymentWrites (A : AttemptId → Prop) (step : Db → Db → Prop) : Prop where
  hold : Prisma.seatHold.AdmitsRow step
  holds : Prisma.seatHold.AdmitsBatch step
  inventory : Prisma.sessionSeatInventory.AdmitsBatch step
  order : ∀ id f missing, (∀ o, (f o).totalColumns = o.totalColumns) →
    (Prisma.checkoutOrder.update id f missing).Steps step
  attempt : ∀ id f missing, A id → (∀ a, (f a).totals = a.totals) →
    (Prisma.paymentAttempt.update id f missing).Steps step
  webhook : ∀ id f missing, (∀ w, (f w).links = w.links) →
    (Prisma.paymentWebhookEvent.update id f missing).Steps step
  booking : ∀ id row, row.Fresh → (Prisma.booking.insert id row).Steps step
  bookingSeats : ∀ id (seats : List BookingSeat) missing,
    (Prisma.bookingSeat.update id (fun b => { b with seats := b.seats ++ seats })
      missing).Steps step
  issuance : Prisma.ticketIssuanceRequest.AdmitsRow step
  outbox : Prisma.inventoryEventOutbox.AdmitsRow step
  queue : ∀ trigger, (defer trigger).Steps step

/-- The writes of any commerce transaction. -/
structure CommerceWrites (step : Db → Db → Prop) : Prop
    extends PaymentWrites (fun _ => True) step where
  holdItems : ∀ id (items : List SeatHoldItem) missing,
    (Prisma.seatHoldItem.update id (fun h => { h with items := h.items ++ items })
      missing).Steps step
  session : ∀ id now missing, (Prisma.eventSession.update id
    (fun session => { session with status := .CANCELLED, cancelledAt := some now })
    missing).Steps step
  placed : ∀ id row items missing, (do
    Prisma.checkoutOrder.insert id row
    defer (.verifyOrderTotals id)
    let _ ← Prisma.checkoutOrderItem.update id (fun o => { o with items := o.items ++ items })
      missing
    defer (.verifyOrderTotals id) : Sql Unit).Steps step
  orders : ∀ p now, (Prisma.checkoutOrder.updateMany p fun _ o => o.expired now).Steps step
  attempted : ∀ id row, row.totals = (0, 0) → (Prisma.paymentAttempt.insert id row).Steps step

namespace PaymentWrites

variable {A : AttemptId → Prop} {step whole : Db → Db → Prop} (hwrites : PaymentWrites A step)

include hwrites

theorem deferred (triggers : List DeferredTrigger) : (deferAll triggers).Steps step := by
  induction triggers with
  | nil => exact steps_pure
  | cons trigger triggers ih => exact (hwrites.queue trigger).bind fun _ => ih

theorem updatedOrder (id : OrderId) (f : CheckoutOrder → CheckoutOrder)
    (hf : ∀ o, (f o).totalColumns = o.totalColumns) : (updateOrder id f).Steps step :=
  (hwrites.order id f _ hf).bind fun _ => hwrites.queue _

theorem closed (webhookId : WebhookId) (processingStatus : PaymentWebhookProcessingStatus)
    (error : Option Code) (now : Time) :
    (closeWebhook webhookId processingStatus error now).Steps step :=
  (hwrites.webhook _ (·.closed processingStatus error now) _ fun _ => rfl).bind fun _ => steps_pure

theorem enqueued (key : InventoryEventKey) (sessionId : SessionId) (now : Time) :
    (enqueueInventoryEvent key sessionId now).Steps step :=
  hwrites.outbox.insert

/-! ## §1 Expired holds -/

theorem updatedHolds (p : HoldId → SeatHold → Bool) (f : SeatHold → SeatHold) :
    (updateHolds p f).Steps step :=
  hwrites.holds.updateMany.bind fun _ => (hwrites.deferred _).bind fun _ => steps_pure

theorem releasedInventory (holdIds : List HoldId) :
    (releaseInventoryForHolds holdIds).Steps step := by
  unfold releaseInventoryForHolds
  split
  · exact steps_pure
  · exact hwrites.inventory.updateMany.bind fun _ => steps_pure

theorem enqueuedExpired (sessionId : SessionId) (now : Time) (holdIds : List HoldId) :
    (enqueueExpiredHoldEvents sessionId now holdIds).Steps step := by
  induction holdIds with
  | nil => exact steps_pure
  | cons holdId holdIds ih => exact (hwrites.enqueued _ _ _).bind fun _ => ih

theorem releasedExpired (sessionId : SessionId) (now : Time) :
    (releaseExpiredHoldsForSession sessionId now).Steps step :=
  (hwrites.updatedHolds _ _).bind fun _ => (hwrites.releasedInventory _).bind fun _ =>
    (hwrites.enqueuedExpired _ _ _).bind fun _ => steps_pure

/-! ## §2 Payment webhooks -/

theorem markedReview (webhookId : WebhookId) (target : Option ReviewTarget) (safeCode : Code)
    (now : Time) (paid : Bool) (hA : ∀ t ∈ target, A t.attemptId) :
    (markWebhookReview webhookId target safeCode now paid).Steps step := by
  have hclose := hwrites.closed webhookId .REQUIRES_REVIEW (some safeCode) now
  have hreview : ∀ {key sessionId}, (enqueueInventoryEvent key sessionId now).Steps step :=
    fun {key sessionId} => hwrites.enqueued key sessionId now
  unfold markWebhookReview
  split
  · exact hclose
  · rename_i target
    have horder : (updateOrder target.orderId (·.underReview paid safeCode now)).Steps step :=
      hwrites.updatedOrder _ _ fun _ => rfl
    refine Steps.bind ?_ fun _ => hclose
    unfold reviewTarget
    extract_lets last announce preserve
    have hannounce : ∀ u, (announce u).Steps step := by
      intro u
      dsimp only [announce]
      split
      · exact hreview.bind fun _ => hreview
      · exact hreview
    have hpreserve : ∀ u, (preserve u).Steps step := by
      intro u
      dsimp only [preserve]
      split
      · exact hannounce ()
      · exact horder.bind fun _ => hannounce ()
    split
    · exact (hwrites.attempt _ (·.paidUnderReview now) _ (hA target rfl) fun _ => rfl).bind
        fun _ => hpreserve ()
    · exact hpreserve ()

theorem failedPayment (webhookId : WebhookId) (attemptId : AttemptId) (orderId : OrderId)
    (order : CheckoutOrder) (cancelled : Bool) (now : Time) (hA : A attemptId) :
    (failPayment webhookId attemptId orderId order cancelled now).Steps step := by
  have horder : (updateOrder orderId (·.paymentFailed cancelled now)).Steps step :=
    hwrites.updatedOrder _ _ fun _ => rfl
  refine (hwrites.attempt _ (·.unsuccessful cancelled now) _ hA fun _ => rfl).bind fun _ => ?_
  dsimp only
  split
  · exact horder.bind fun _ => (hwrites.enqueued _ _ _).bind fun _ => hwrites.closed _ _ _ _
  · exact (hwrites.enqueued _ _ _).bind fun _ => hwrites.closed _ _ _ _

theorem createdBooking (fresh : FreshBooking) (orderId : OrderId) (order : CheckoutOrder)
    (now : Time) : (createBooking fresh orderId order now).Steps step :=
  (hwrites.booking _ _ ⟨rfl, rfl⟩).bind fun _ => (hwrites.queue _).bind fun _ =>
    (hwrites.bookingSeats _ _ _).bind fun _ => (hwrites.queue _).bind fun _ =>
      hwrites.issuance.insertNew.bind fun _ => steps_pure

theorem bookedInventory (orderId : OrderId) (order : CheckoutOrder) (now : Time) :
    (bookInventory orderId order now).Steps step :=
  hwrites.inventory.updateMany.bind fun _ => steps_require.bind fun _ =>
    hwrites.hold.update.bind fun _ => (hwrites.queue _).bind fun _ =>
      hwrites.updatedOrder _ _ fun _ => rfl

theorem fulfilled (webhookId : WebhookId) (attemptId : AttemptId) (orderId : OrderId)
    (order : CheckoutOrder) (fresh : FreshBooking) (now : Time) (hA : A attemptId) :
    (fulfillOrder webhookId attemptId orderId order fresh now).Steps step :=
  (hwrites.attempt _ (·.captured now) _ hA fun _ => rfl).bind fun _ =>
    (hwrites.createdBooking _ _ _ _).bind fun _ => (hwrites.bookedInventory _ _ _).bind fun _ =>
      (hwrites.enqueued _ _ _).bind fun _ =>
      (hwrites.enqueued _ _ _).bind fun _ => (hwrites.enqueued _ _ _).bind fun _ =>
        hwrites.closed _ _ _ _

theorem processedSuccess (webhookId : WebhookId) (attemptId : AttemptId) (orderId : OrderId)
    (order : CheckoutOrder) (hold : SeatHold)
    (inventory : List (InventoryId × SessionSeatInventory)) (session : EventSession)
    (event : Event) (fresh : FreshBooking) (now : Time) (hA : A attemptId) :
    (processSuccess webhookId attemptId orderId order hold inventory session event fresh
      now).Steps step := by
  have hfulfill := hwrites.fulfilled webhookId attemptId orderId order fresh now hA
  unfold processSuccess
  extract_lets target decision
  cases decision with
  | REVIEW code =>
      dsimp only
      split
      · exact (hwrites.releasedExpired _ _).bind fun _ =>
          hwrites.markedReview _ _ _ _ _ (by rintro _ ⟨⟩; exact hA)
      · exact hwrites.markedReview _ _ _ _ _ (by rintro _ ⟨⟩; exact hA)
  | _ =>
      dsimp only
      split
      · exact hfulfill
      · exact hwrites.markedReview _ _ _ _ _ (by rintro _ ⟨⟩; exact hA)

theorem processedPayment (webhookId : WebhookId) (webhook : PaymentWebhookEvent)
    (normalizedStatus : PaymentAttemptStatus) (attemptId : AttemptId) (fresh : FreshBooking)
    (now : Time) (hA : A attemptId) :
    (processPayment webhookId webhook normalizedStatus attemptId fresh now).Steps step := by
  refine steps_lock.bind fun _ => steps_findOrThrow.bind fun attempt => ?_
  refine steps_lock.bind fun _ => steps_findOrThrow.bind fun order => ?_
  refine steps_findMany.bind fun bookings => steps_lock.bind fun _ => ?_
  refine steps_findOrThrow.bind fun hold => steps_lockMany.bind fun inventory => ?_
  refine steps_findOrThrow.bind fun session => steps_findOrThrow.bind fun event => ?_
  dsimp only
  split
  · exact hwrites.closed _ _ _ _
  · split
    · exact hwrites.markedReview _ _ _ _ _ (by rintro _ ⟨⟩; exact hA)
    · split
      · exact hwrites.closed _ _ _ _
      · split
        · exact hwrites.markedReview _ _ _ _ _ (by rintro _ ⟨⟩; exact hA)
        · split
          · exact hwrites.failedPayment _ _ _ _ _ _ hA
          · split
            · exact (hwrites.attempt _ (·.pending) _ hA fun _ => rfl).bind fun _ =>
                (hwrites.webhook _ (fun w => w.closed .PROCESSED w.safeProcessingError now) _
                  fun _ => rfl).bind fun _ => steps_pure
            · exact hwrites.processedSuccess _ _ _ _ _ _ _ _ _ _ hA

/-- An event is processed with the payment that its record names. -/
theorem ensures_processInTransaction {s : Db} (hcommit : Committing step whole)
    (webhookId : WebhookId) (fresh : FreshBooking) (now : Time)
    (hA : ∀ w p, s.webhooks.lookup webhookId = some w → w.paymentAttemptId = some p → A p) :
    Ensures (processInTransaction webhookId fresh now) s fun _ s' =>
      Relation.ReflTransGen whole s s' := by
  refine hcommit.ensures (ensures_bind.mpr (ensures_lock.mpr ?_))
  refine ensures_bind.mpr (ensures_findOrThrow.mpr fun w hw => ?_)
  split
  · exact ensures_pure.mpr .refl
  · refine steps_iff_ensures.mp (steps_require.bind fun _ => ?_) s
    split
    · split
      · exact hwrites.markedReview _ _ _ _ _ (by rintro _ ⟨⟩)
      · rename_i attemptId hattempt
        exact hwrites.processedPayment _ _ _ _ _ _ (hA w attemptId hw hattempt)
    · exact steps_abort

end PaymentWrites

namespace CommerceWrites

variable {step whole : Db → Db → Prop} (hwrites : CommerceWrites step)

include hwrites

/-! ## §3 Holds and orders -/

theorem releasedActive (sessionId : SessionId) (now : Time) :
    (releaseActiveHoldsForSession sessionId now).Steps step :=
  (hwrites.updatedHolds _ _).bind fun _ => (hwrites.releasedInventory _).bind fun _ => steps_pure

theorem enqueuedSwept (now : Time) (holds : List (HoldId × SeatHold)) :
    (enqueueSweptHoldEvents now holds).Steps step := by
  induction holds with
  | nil => exact steps_pure
  | cons hold holds ih => exact (hwrites.enqueuedExpired _ _ _).bind fun _ => ih

theorem tookSeats (holdId : HoldId) (hold : SeatHold)
    (locked : List (InventoryId × SessionSeatInventory)) (now : Time) :
    (takeSeats holdId hold locked now).Steps step :=
  hwrites.hold.insert.bind fun _ => hwrites.inventory.updateMany.bind fun _ =>
    steps_require.bind fun _ => (hwrites.holdItems _ _ _).bind fun _ => hwrites.enqueued _ _ _

theorem swept (hcommit : Committing step whole) (batchSize : Nat) (now : Time) :
    (sweepExpiredHolds batchSize now).Steps whole := by
  refine hcommit.steps (steps_lockBatch.bind fun claimed => ?_)
  split
  · exact steps_pure
  · exact (hwrites.updatedHolds _ _).bind fun _ => (hwrites.releasedInventory _).bind fun _ =>
      (hwrites.enqueuedSwept _ _).bind fun _ => steps_pure

theorem acquiredInTransaction (hcommit : Committing step whole) (userId : UserId)
    (input : HoldCreateInput) (config : HoldConfiguration) (fresh : FreshHold) (now : Time) :
    (acquireInTransaction userId input config fresh now).Steps whole := by
  refine hcommit.steps ((hwrites.releasedExpired _ _).bind fun _ => ?_)
  refine steps_lockMany.bind fun locked => steps_findOrThrow.bind fun session => ?_
  refine steps_findOrThrow.bind fun event => steps_findMany.bind fun inventory => ?_
  dsimp only
  split
  · exact steps_abort
  · exact steps_require.bind fun _ => steps_require.bind fun _ =>
      (hwrites.tookSeats _ _ _ _).bind fun _ => steps_pure

theorem acquired (hcommit : Committing step whole) (userId : UserId) (input : HoldCreateInput)
    (config : HoldConfiguration) (fresh : FreshHold) (now : Time) :
    (acquireSeatHold userId input config fresh now).Steps whole := by
  refine steps_require.bind fun _ => Steps.bind ?_ fun replay => ?_
  · refine steps_findMany.bind fun existing => ?_
    split
    · exact steps_pure
    · exact steps_read.bind fun _ => steps_require.bind fun _ => steps_pure
  · split
    · exact steps_pure
    · exact (hwrites.acquiredInTransaction hcommit _ _ _ _ _).bind fun _ => steps_pure

theorem released (hcommit : Committing step whole) (userId : UserId) (publicToken : Reference)
    (now : Time) : (releaseSeatHold userId publicToken now).Steps whole := by
  refine steps_findMany.bind fun found => steps_orThrow.bind fun hold => ?_
  refine steps_require.bind fun _ => ?_
  split
  · refine hcommit.steps ((hwrites.updatedHolds _ _).bind fun updated => ?_)
    split
    · exact hwrites.inventory.updateMany.bind fun _ => (hwrites.enqueued _ _ _).bind fun _ =>
        steps_pure
    · exact steps_pure
  · exact steps_pure

theorem cancelled (hcommit : Committing step whole) (sessionId : SessionId) (now : Time) :
    (cancelEventSession sessionId now).Steps whole := by
  refine steps_findOrThrow.bind fun session => steps_findOrThrow.bind fun event => ?_
  split
  · exact steps_pure
  · refine steps_require.bind fun _ => steps_require.bind fun _ => hcommit.steps ?_
    exact steps_lockMany.bind fun _ => (hwrites.session _ _ _).bind fun _ =>
      (hwrites.releasedActive _ _).bind fun _ => hwrites.enqueued _ _ _

theorem releasedCancelled (cancelledAt : Time) (sessionIds : List SessionId) :
    (releaseCancelledSessions cancelledAt sessionIds).Steps step := by
  induction sessionIds with
  | nil => exact steps_pure
  | cons sessionId sessionIds ih =>
      exact (hwrites.releasedActive _ _).bind fun _ => (hwrites.enqueued _ _ _).bind fun _ => ih

/-- Cancelling an event also writes the event, and its sessions as a batch. -/
theorem cancelledEvent (hcommit : Committing step whole) (hsessions : Prisma.eventSession.Free step)
    (hevent : Prisma.event.Free step) (eventId : EventId) (organizationId : OrganizationId)
    (cancelledAt : Time) :
    (cancelEventInTransaction eventId organizationId cancelledAt).Steps whole := by
  have hlock : ∀ sessionIds, (lockInventoryOfSessions sessionIds).Steps step := by
    intro sessionIds
    unfold lockInventoryOfSessions
    split
    · exact steps_pure
    · exact steps_lockMany.bind fun _ => steps_pure
  refine hcommit.steps (steps_find.bind fun found => steps_orThrow.bind fun event => ?_)
  split
  · exact steps_pure
  · refine steps_require.bind fun _ => steps_findMany.bind fun sessions => ?_
    refine (hlock _).bind fun _ => hsessions.updateMany.bind fun _ => ?_
    exact (hwrites.releasedCancelled _ _).bind fun _ => hevent.update.bind fun _ => steps_pure

theorem placedOrder (fresh : FreshOrder) (order : CheckoutOrder) (items : List CheckoutOrderItem)
    (provider : PaymentProviderName) (now : Time) :
    (placeOrder fresh order items provider now).Steps step := by
  have hattempt : (Prisma.paymentAttempt.insert fresh.attemptId
      (.created fresh.orderId order provider fresh.providerIdempotencyKey now)).Steps step :=
    hwrites.attempted _ _ rfl
  have hrest := (hwrites.placed fresh.orderId order items (.notFound "CheckoutOrder")).bind
    fun _ => hattempt.bind fun _ =>
      hwrites.enqueued (.checkoutCreated fresh.orderId) order.sessionId now
  unfold placeOrder
  simp only [steps_iff_ensures, ensures_bind] at hrest ⊢
  exact hrest

theorem createdOrder (hcommit : Committing step whole) (userId : UserId)
    (input : CreateCheckoutInput) (provider : PaymentProviderName) (fresh : FreshOrder)
    (now : Time) : (createCheckoutOrder userId input provider fresh now).Steps whole := by
  refine hcommit.steps (steps_lockMany.bind fun lockedHold => steps_require.bind fun _ => ?_)
  refine steps_orThrow.bind fun found => steps_findOrThrow.bind fun hold => ?_
  refine steps_require.bind fun _ => steps_findMany.bind fun existing => ?_
  split
  · exact steps_require.bind fun _ => steps_pure
  · refine steps_require.bind fun _ => steps_require.bind fun _ => steps_read.bind fun items => ?_
    refine steps_lockMany.bind fun locked => steps_require.bind fun _ => ?_
    refine steps_findOrThrow.bind fun session => steps_findOrThrow.bind fun event => ?_
    dsimp only
    split
    · exact steps_abort
    · exact steps_abort
    · exact (hwrites.placedOrder _ _ _ _ _).bind fun _ => steps_pure

theorem recordedIntent (hcommit : Committing step whole) (attemptId : AttemptId)
    (providerIntentId : ProviderRef) (now : Time) :
    (recordPaymentIntent attemptId providerIntentId now).Steps whole := by
  refine hcommit.steps (steps_lock.bind fun _ => steps_findOrThrow.bind fun current => ?_)
  refine steps_findOrThrow.bind fun order => ?_
  split
  · exact steps_pure
  · have horder : (updateOrder current.orderId (·.awaitingPayment)).Steps step :=
      hwrites.updatedOrder _ _ fun _ => rfl
    refine (hwrites.attempt _
      (·.withIntent providerIntentId) _ trivial fun _ => rfl).bind fun _ => ?_
    dsimp only
    split
    · exact horder.bind fun _ => (hwrites.enqueued _ _ _).bind fun _ => steps_pure
    · exact (hwrites.enqueued _ _ _).bind fun _ => steps_pure

theorem releasedExpiredSessions (now : Time) (sessionIds : List SessionId) :
    (releaseExpiredHoldsForSessions now sessionIds).Steps step := by
  induction sessionIds with
  | nil => exact steps_pure
  | cons sessionId sessionIds ih => exact (hwrites.releasedExpired _ _).bind fun _ => ih

theorem expiredUnpaid (hcommit : Committing step whole) (batchSize : Nat) (now : Time) :
    (expireUnpaidCheckoutOrders batchSize now).Steps whole := by
  refine hcommit.steps (steps_lockBatch.bind fun claimed => ?_)
  split
  · exact steps_pure
  · exact (hwrites.orders _ _).bind fun _ => (hwrites.deferred _).bind fun _ =>
      (hwrites.releasedExpiredSessions _ _).bind fun _ => steps_pure

end CommerceWrites

/-! ## §4 Transactions -/

/-- The commerce transactions, with their inputs. -/
inductive CommerceTransaction
  | acquireSeatHold (userId : UserId) (input : HoldCreateInput) (config : HoldConfiguration)
      (fresh : FreshHold) (now : Time)
  | releaseSeatHold (userId : UserId) (publicToken : Reference) (now : Time)
  | sweepExpiredHolds (batchSize : Nat) (now : Time)
  | cancelEventSession (sessionId : SessionId) (now : Time)
  | createCheckoutOrder (userId : UserId) (input : CreateCheckoutInput)
      (provider : PaymentProviderName) (fresh : FreshOrder) (now : Time)
  | recordPaymentIntent (attemptId : AttemptId) (providerIntentId : ProviderRef) (now : Time)
  | expireUnpaidCheckoutOrders (batchSize : Nat) (now : Time)
  | storeVerifiedWebhook (provider : PaymentProviderName) (event : NormalizedPaymentWebhookEvent)
      (fresh : WebhookId) (now : Time)
  | processVerifiedWebhookRecord (webhookId : WebhookId) (fresh : FreshBooking) (now : Time)

/-- The database after a transaction, whether it committed or not. -/
def CommerceTransaction.commit (db : Db) : CommerceTransaction → Db
  | .acquireSeatHold userId input config fresh now =>
      (SeatFlow.acquireSeatHold userId input config fresh now).commit db
  | .releaseSeatHold userId publicToken now =>
      (SeatFlow.releaseSeatHold userId publicToken now).commit db
  | .sweepExpiredHolds batchSize now => (SeatFlow.sweepExpiredHolds batchSize now).commit db
  | .cancelEventSession sessionId now => (SeatFlow.cancelEventSession sessionId now).commit db
  | .createCheckoutOrder userId input provider fresh now =>
      (SeatFlow.createCheckoutOrder userId input provider fresh now).commit db
  | .recordPaymentIntent attemptId providerIntentId now =>
      (SeatFlow.recordPaymentIntent attemptId providerIntentId now).commit db
  | .expireUnpaidCheckoutOrders batchSize now =>
      (SeatFlow.expireUnpaidCheckoutOrders batchSize now).commit db
  | .storeVerifiedWebhook provider event fresh now =>
      (SeatFlow.storeVerifiedWebhook provider event fresh now).commit db
  | .processVerifiedWebhookRecord webhookId fresh now =>
      SeatFlow.processVerifiedWebhookRecord webhookId fresh now db

/-- **What a commerce transaction does** is a sequence of steps between transactions. -/
theorem CommerceTransaction.steps {step whole : Db → Db → Prop} (hwrites : CommerceWrites step)
    (hcommit : Committing step whole) (hstored : Storing .PAYMENT whole)
    (hretried : ∀ p, (Prisma.paymentWebhookEvent.updateMany p fun _ w => w.retryable).Steps whole)
    (t : CommerceTransaction) (db : Db) :
    Relation.ReflTransGen whole db (t.commit db) := by
  cases t with
  | acquireSeatHold => exact (hwrites.acquired hcommit _ _ _ _ _).commit db
  | releaseSeatHold => exact (hwrites.released hcommit _ _ _).commit db
  | sweepExpiredHolds => exact (hwrites.swept hcommit _ _).commit db
  | cancelEventSession => exact (hwrites.cancelled hcommit _ _).commit db
  | createCheckoutOrder => exact (hwrites.createdOrder hcommit _ _ _ _ _).commit db
  | recordPaymentIntent => exact (hwrites.recordedIntent hcommit _ _ _).commit db
  | expireUnpaidCheckoutOrders => exact (hwrites.expiredUnpaid hcommit _ _).commit db
  | storeVerifiedWebhook provider event fresh now =>
      refine Ensures.commit (Q := fun db' => Relation.ReflTransGen whole db db') ?_ .refl
      refine ensures_bind.mpr (ensures_findMany.mpr (ensures_bind.mpr (ensures_findMany.mpr ?_)))
      split
      · exact ensures_pure.mpr .refl
      · exact hstored.ensures ⟨rfl, rfl, rfl, rfl⟩ rfl
  | processVerifiedWebhookRecord webhookId fresh now =>
      have hprocess := hwrites.ensures_processInTransaction (s := db) hcommit webhookId fresh now
        fun _ _ _ _ => trivial
      simp only [CommerceTransaction.commit, SeatFlow.processVerifiedWebhookRecord]
      split
      · rename_i db' hrun
        exact hprocess _ _ hrun
      · exact .refl
      · exact ((hretried _).bind fun _ => steps_pure).commit db

/-! ## §5 What commerce leaves alone -/

/-- The tables of tickets, refunds, disputes and the books. -/
def Db.outsideCommerce (db : Db) :=
  (db.tickets, db.credentials, db.redemptions, db.refunds, db.refundAttempts, db.disputes,
    db.disputeEvents, db.ledger, db.financialOutbox)

theorem outside_defer (trigger : DeferredTrigger) :
    (defer trigger).Steps (Framing Db.outsideCommerce) := by
  refine fun s => ensures_perform.mpr ?_
  rintro eff ⟨⟩
  exact .single rfl

theorem outside_commerce : CommerceWrites (Framing Db.outsideCommerce) where
  hold := fun _ _ _ _ => rfl
  holds := fun _ _ _ _ => rfl
  holdItems := fun _ _ _ => steps_update fun _ _ _ _ => rfl
  inventory := fun _ _ _ _ => rfl
  session := fun _ _ _ => steps_update fun _ _ _ _ => rfl
  placed := fun id row _ _ => by
    have hinsert : (Prisma.checkoutOrder.insert id row).Steps (Framing Db.outsideCommerce) :=
      steps_insert fun _ _ _ => rfl
    refine hinsert.bind fun _ => (outside_defer _).bind fun _ => Steps.bind ?_ fun _ =>
      outside_defer _
    exact steps_update fun _ _ _ _ => rfl
  order := fun _ _ _ _ => steps_update fun _ _ _ _ => rfl
  orders := fun _ _ => steps_updateMany fun _ _ => rfl
  attempted := fun _ _ _ => steps_insert fun _ _ _ => rfl
  attempt := fun _ _ _ _ _ => steps_update fun _ _ _ _ => rfl
  webhook := fun _ _ _ _ => steps_update fun _ _ _ _ => rfl
  booking := fun _ _ _ => steps_insert fun _ _ _ => rfl
  bookingSeats := fun _ _ _ => steps_update fun _ _ _ _ => rfl
  issuance := fun _ _ _ _ => rfl
  outbox := fun _ _ _ _ => rfl
  queue := outside_defer

theorem CommerceTransaction.outside (t : CommerceTransaction) (db : Db) :
    (t.commit db).outsideCommerce = db.outsideCommerce :=
  Framing.steps (t.steps outside_commerce (committing_of_queue fun _ => rfl)
    (fun _ _ _ _ _ _ _ => rfl) (fun _ => steps_updateMany fun _ _ => rfl) db)

end SeatFlow
