import Mathlib.Algebra.Order.BigOperators.Group.List
import SeatFlow.Refunds.ReachableStates

/-!
# When a settlement commits

A processed refund event is one transaction: if any of its writes is rejected by
a constraint, or a deferred trigger at commit, the record stays open and the next
delivery runs into the same rejection. This module works out, from the state
before, exactly when each branch of the settlement commits. A payment's totals
enter as the sums over its refunds, since the aggregate trigger recomputes them.
-/

namespace SeatFlow

open Relational Program Entity

variable {s s' : Db}

/-! ## §1 Totals after one refund write -/

theorem refundedSum_written {id : RefundId} {r row : Refund} (hr : s.refunds.lookup id = some r)
    (p : AttemptId) :
    Table.sum (fun _ r => r.refundedOf p) (s.refunds.insert id row)
      = s.refundedSum p - r.refundedOf p + row.refundedOf p := by
  have hsum := Table.sum_insert (fun _ r => Refund.refundedOf p r) s.refunds id row
  rw [Table.contribution_some hr] at hsum
  rw [Db.refundedSum]
  linarith

theorem inFlightSum_written {id : RefundId} {r row : Refund} (hr : s.refunds.lookup id = some r)
    (p : AttemptId) :
    Table.sum (fun _ r => r.inFlightOf p) (s.refunds.insert id row)
      = s.inFlightSum p - r.inFlightOf p + row.inFlightOf p := by
  have hsum := Table.sum_insert (fun _ r => Refund.inFlightOf p r) s.refunds id row
  rw [Table.contribution_some hr] at hsum
  rw [Db.inFlightSum]
  linarith

/-- One refund reserves no more than its payment has reserved. -/
theorem inFlightOf_le_sum (hs : s.Sound) {id : RefundId} {r : Refund}
    (hr : s.refunds.lookup id = some r) (p : AttemptId) : r.inFlightOf p ≤ s.inFlightSum p := by
  rw [← Table.contribution_some (w := fun _ r => Refund.inFlightOf p r) hr]
  refine Table.contribution_le_sum fun k => ?_
  cases hlook : s.refunds.lookup k with
  | none => rw [Table.contribution_none hlook]
  | some x =>
      rw [Table.contribution_some hlook, Refund.inFlightOf]
      split
      · exact (hs.refunds.row k x hlook).amount.le
      · exact le_rfl

/-! ## §2 One refund update -/

/-- The state after an update of a refund, its aggregate and its queued trigger. -/
def Db.afterRefund (db : Db) (id : RefundId) (row : Refund) (a : PaymentAttempt) : Db :=
  let refunds := db.refunds.insert id row
  { db with
    refunds := refunds
    attempts := db.attempts.insert row.paymentAttemptId
      (a.aggregated (Table.sum (fun _ r => r.refundedOf row.paymentAttemptId) refunds)
        (Table.sum (fun _ r => r.inFlightOf row.paymentAttemptId) refunds))
    deferred := .verifyRefundSeatTotal id :: db.deferred }

/-- The new totals fit into the payment. -/
def Db.TotalsFit (db : Db) (id : RefundId) (row : Refund) (a : PaymentAttempt) : Prop :=
  0 ≤ Table.sum (fun _ r => r.refundedOf row.paymentAttemptId) (db.refunds.insert id row) ∧
    0 ≤ Table.sum (fun _ r => r.inFlightOf row.paymentAttemptId) (db.refunds.insert id row) ∧
    Table.sum (fun _ r => r.refundedOf row.paymentAttemptId) (db.refunds.insert id row)
      + Table.sum (fun _ r => r.inFlightOf row.paymentAttemptId) (db.refunds.insert id row)
      ≤ a.amountMinor

/-- Of the constraints of a captured payment only the aggregate check looks at its
totals. -/
theorem validate_aggregated_iff (hs : s.Sound) {p : AttemptId} {a : PaymentAttempt}
    (ha : s.attempts.lookup p = some a) (hcaptured : a.status = .SUCCEEDED)
    {refunded inFlight : Money} :
    PaymentAttempt.validate s p (some a) (a.aggregated refunded inFlight) = .ok () ↔
      0 ≤ refunded ∧ 0 ≤ inFlight ∧ refunded + inFlight ≤ a.amountMinor := by
  have hrow := hs.attempts.row p a ha
  rw [show PaymentAttempt.validate = Prisma.paymentAttempt.validate from rfl,
    paymentAttemptConstraints.validate_iff]
  constructor
  · rintro ⟨hok, -⟩
    exact hok.aggregate
  · intro hfit
    refine ⟨⟨hrow.amount, hrow.failureCode, hrow.lifecycle, hfit, .inr hcaptured⟩, ?_, ?_⟩
    · intro k x hx hne
      have hapart := hs.attempts.apart k x p a hx ha hne
      exact ⟨hapart.key, hapart.order, hapart.intent⟩
    · simp [paymentAttemptConstraints, PaymentAttempt.protectIdentity, PaymentAttempt.aggregated,
        PaymentAttempt.SameIdentity]

/-- An update that attaches nothing is checked by its row alone. -/
theorem validate_refund_iff (hs : s.Sound) {id : RefundId} {r : Refund}
    (hr : s.refunds.lookup id = some r) {u : RefundUpdate}
    (hu : (u.apply r).providerRefundId = r.providerRefundId) :
    Refund.validate s id (some r) (u.apply r) = .ok () ↔
      Refund.RowOk (u.apply r) ∧ Refund.protectIdentity r (u.apply r) = .ok () := by
  rw [show Refund.validate = Prisma.refund.validate from rfl, refundConstraints.validate_iff]
  constructor
  · rintro ⟨hok, -, hkeep⟩
    exact ⟨hok, hkeep⟩
  · rintro ⟨hok, hkeep⟩
    refine ⟨hok, fun k x hx hne => ?_, hkeep⟩
    have hapart := hs.refunds.apart k x id r hx hr hne
    obtain ⟨hreference, hkey, hprovider⟩ : (u.apply r).publicReference = r.publicReference ∧
        (u.apply r).providerIdempotencyKey = r.providerIdempotencyKey ∧
        (u.apply r).provider = r.provider := by
      cases u <;> exact ⟨rfl, rfl, rfl⟩
    refine ⟨by rw [hreference]; exact hapart.reference, by rw [hkey]; exact hapart.key, ?_⟩
    rw [hprovider, hu]
    exact hapart.external

/-- The payment that a stored refund is of. -/
theorem payment_of_refund (hs : s.Sound) {id : RefundId} {r : Refund}
    (hr : s.refunds.lookup id = some r) :
    ∃ a, s.attempts.lookup r.paymentAttemptId = some a ∧ a.status = .SUCCEEDED ∧
      a.orderId = r.orderId ∧ a.currency = r.currency ∧ a.provider = r.provider := by
  have hancestry := hs.refundAncestry id r hr
  simp only [Refund.enforceAncestry, Except.bind_unit_eq_ok, check_eq_ok,
    Option.map_eq_some_iff] at hancestry
  obtain ⟨⟨⟨a, ha, horder⟩, -⟩, ⟨a₁, ha₁, hstatus⟩, ⟨a₂, ha₂, hcurrency⟩,
    ⟨a₃, ha₃, hprovider⟩, -⟩ :=
    hancestry
  cases Option.some.inj (ha.symm.trans ha₁)
  cases Option.some.inj (ha.symm.trans ha₂)
  cases Option.some.inj (ha.symm.trans ha₃)
  exact ⟨a, ha, hstatus, horder, hcurrency, hprovider⟩

theorem booking_of_refund (hs : s.Sound) {id : RefundId} {r : Refund}
    (hr : s.refunds.lookup id = some r) :
    ∃ b, s.bookings.lookup r.bookingId = some b ∧ b.orderId = r.orderId := by
  have hancestry := hs.refundAncestry id r hr
  simp only [Refund.enforceAncestry, Except.bind_unit_eq_ok, check_eq_ok,
    Option.map_eq_some_iff] at hancestry
  exact hancestry.1.2

/-- **One update** commits exactly when the row is valid and the totals fit. -/
theorem commits_updateRefundById (hs : s.Sound) {id : RefundId} {r : Refund} {a : PaymentAttempt}
    {u : RefundUpdate} {Q : Refund → Db → Prop} (hr : s.refunds.lookup id = some r)
    (ha : s.attempts.lookup r.paymentAttemptId = some a) (hcaptured : a.status = .SUCCEEDED) :
    Commits (updateRefundById id u.apply) s Q ↔
      Refund.validate s id (some r) (u.apply r) = .ok () ∧ s.TotalsFit id (u.apply r) a ∧
        Q (u.apply r) (s.afterRefund id (u.apply r) a) := by
  have hpayment : (u.apply r).paymentAttemptId = r.paymentAttemptId := by cases u <;> rfl
  have ha' : s.attempts.lookup (u.apply r).paymentAttemptId = some a := hpayment ▸ ha
  have haggregate : ∀ hvalid : Refund.validate s id (some r) (u.apply r) = .ok (),
      ∀ {Q' : Unit → Db → Prop},
      (Commits (maintainPaymentAggregate (u.apply r).paymentAttemptId)
          { s with refunds := s.refunds.insert id (u.apply r) } Q' ↔
        s.TotalsFit id (u.apply r) a ∧ Q' () { s with
          refunds := s.refunds.insert id (u.apply r)
          attempts := (s.afterRefund id (u.apply r) a).attempts }) := by
    intro hvalid Q'
    have hsound : Db.Sound { s with refunds := s.refunds.insert id (u.apply r) } :=
      hs.step (.refund id _ (by rwa [hr]))
    rw [maintainPaymentAggregate, commits_perform]
    simp only [ha', Except.bind_unit_eq_ok]
    constructor
    · rintro ⟨eff, ⟨hfit, ⟨⟩⟩, hQ⟩
      exact ⟨(validate_aggregated_iff hsound ha' hcaptured).mp hfit, hQ⟩
    · rintro ⟨hfit, hQ⟩
      exact ⟨_, ⟨(validate_aggregated_iff hsound ha' hcaptured).mpr hfit, rfl⟩, hQ⟩
  rw [updateRefundById, commits_bind, updateRefund, commits_bind, commits_updateWhen]
  constructor
  · rintro (⟨hnone, -⟩ | ⟨r₀, hr₀, -, hvalid, hrest⟩)
    · rw [show (Prisma.refund.get s).lookup id = some r from hr] at hnone
      cases hnone
    · cases Option.some.inj (hr.symm.trans hr₀)
      obtain ⟨hfit, hrest⟩ := (haggregate hvalid).mp (commits_bind.mp hrest)
      obtain ⟨eff, ⟨⟩, hrest⟩ := commits_perform.mp (commits_bind.mp hrest)
      have hreturned := commits_pure.mp hrest
      obtain ⟨_, ⟨⟩, hQ⟩ := commits_orThrow.mp hreturned
      exact ⟨hvalid, hfit, hQ⟩
  · rintro ⟨hvalid, hfit, hQ⟩
    refine .inr ⟨r, hr, rfl, hvalid, commits_bind.mpr ((haggregate hvalid).mpr ⟨hfit, ?_⟩)⟩
    refine commits_bind.mpr (commits_perform.mpr ⟨_, rfl, ?_⟩)
    exact commits_pure.mpr (commits_orThrow.mpr ⟨_, rfl, hQ⟩)

/-! ## §3 States that are ready to commit -/

/-- A state inside a settlement: sound, with right totals, and every trigger that
is queued would pass. -/
structure Db.Ready (db : Db) : Prop where
  sound : db.Sound
  seatTotals : ∀ id, Refund.verifySeatTotal db id = .ok ()
  orderTotals : ∀ id, CheckoutOrder.verifyTotals db id = .ok ()
  refunded : ∀ p a, db.attempts.lookup p = some a → a.refundedMinor = db.refundedSum p
  queued : ∀ trigger ∈ db.deferred, (∃ id, trigger = .verifyRefundSeatTotal id) ∨
    (∃ id, trigger = .verifyOrderTotals id) ∨
    ∃ id, trigger = .verifyBookingRefundCompletion id ∧
    Booking.verifyRefundCompletion db id = .ok ()

theorem Db.Consistent.ready (hs : s.Consistent)
    (hexact : ∀ p, paymentAggregate.Faithful s p) : s.Ready where
  sound := hs.sound
  seatTotals := hs.seatTotals
  orderTotals := hs.orderTotals
  refunded := fun p a ha => (paymentAggregate_faithful.mp (hexact p) a ha).1
  queued := by simp [hs.idle]

theorem Db.Ready.checked (hs : s.Ready) :
    checkAll (DeferredTrigger.check s) s.deferred = .ok () := by
  rw [checkAll_eq_ok]
  intro trigger hqueued
  rcases hs.queued trigger hqueued with ⟨id, rfl⟩ | ⟨id, rfl⟩ | ⟨id, rfl, hcheck⟩
  · exact hs.seatTotals id
  · exact hs.orderTotals id
  · exact hcheck

/-- A write that no trigger looks at. -/
theorem Db.Ready.other (hs : s.Ready) (h : DbStep s s') (hrefunds : s'.refunds = s.refunds)
    (horders : ∀ id, (s'.orders.lookup id).map CheckoutOrder.totalColumns
      = (s.orders.lookup id).map CheckoutOrder.totalColumns)
    (hattempts : s'.attempts = s.attempts)
    (hbookings : s'.bookings = s.bookings) (hdeferred : s'.deferred = s.deferred) : s'.Ready where
  sound := hs.sound.step h
  seatTotals := fun id => by
    rw [Refund.verifySeatTotal, hrefunds]
    exact hs.seatTotals id
  orderTotals := fun id => (verifyTotals_congr (horders id)).trans (hs.orderTotals id)
  refunded := fun p a ha => by
    rw [Db.refundedSum, hrefunds]
    exact hs.refunded p a (hattempts ▸ ha)
  queued := by
    intro trigger hqueued
    rw [hdeferred] at hqueued
    refine (hs.queued trigger hqueued).imp_right (Or.imp_right ?_)
    rintro ⟨id, rfl, hcheck⟩
    refine ⟨id, rfl, ?_⟩
    rw [Booking.verifyRefundCompletion, hbookings, hrefunds]
    exact hcheck

/-- Ready to commit, with these refunds and webhook records. -/
structure Db.ReadyWith (refunds : Table RefundId Refund)
    (webhooks : Table WebhookId PaymentWebhookEvent) (db : Db) : Prop where
  ready : db.Ready
  refunds : db.refunds = refunds
  webhooks : db.webhooks = webhooks

variable {refunds : Table RefundId Refund} {webhooks : Table WebhookId PaymentWebhookEvent}

theorem Db.ReadyWith.lookup (hs : s.ReadyWith refunds webhooks) {id : RefundId} {r : Refund}
    (hr : refunds.lookup id = some r) : s.refunds.lookup id = some r := by
  rw [hs.refunds, hr]

theorem Db.ReadyWith.queue (hs : s.ReadyWith refunds webhooks) {trigger : DeferredTrigger}
    (h : (∃ id, trigger = .verifyRefundSeatTotal id) ∨ (∃ id, trigger = .verifyOrderTotals id) ∨
      ∃ id, trigger = .verifyBookingRefundCompletion id ∧
        Booking.verifyRefundCompletion s id = .ok ()) :
    Db.ReadyWith refunds webhooks { s with deferred := trigger :: s.deferred } where
  ready :=
    { sound := hs.ready.sound.queue _
      seatTotals := hs.ready.seatTotals
      orderTotals := hs.ready.orderTotals
      refunded := hs.ready.refunded
      queued := fun other hqueued => by
        rcases List.mem_cons.mp hqueued with rfl | hqueued
        · exact h
        · exact hs.ready.queued other hqueued }
  refunds := hs.refunds
  webhooks := hs.webhooks

theorem Db.ReadyWith.other (hs : s.ReadyWith refunds webhooks) (h : DbStep s s')
    (hrefunds : s'.refunds = s.refunds)
    (horders : ∀ id, (s'.orders.lookup id).map CheckoutOrder.totalColumns
      = (s.orders.lookup id).map CheckoutOrder.totalColumns)
    (hattempts : s'.attempts = s.attempts) (hbookings : s'.bookings = s.bookings)
    (hdeferred : s'.deferred = s.deferred) (hwebhooks : s'.webhooks = s.webhooks) :
    s'.ReadyWith refunds webhooks where
  ready := hs.ready.other h hrefunds horders hattempts hbookings hdeferred
  refunds := hrefunds.trans hs.refunds
  webhooks := hwebhooks.trans hs.webhooks

theorem completing_enqueueFinancialEvent (key : FinancialEventKey) (event : FinancialEvent) :
    (enqueueFinancialEvent key event).Completing (Db.ReadyWith refunds webhooks) :=
  completing_insertNew fun _ hs _ => ⟨rfl,
    hs.other (.other rfl rfl rfl rfl rfl rfl rfl rfl rfl rfl rfl rfl) rfl (fun _ => rfl) rfl rfl rfl
    rfl⟩

/-- The ledger takes every entry of a refund: its references are the refund's own. -/
theorem completing_ledgerEntry {id : RefundId} {r row : Refund}
    (hr : refunds.lookup id = some row) (hsame : Refund.SameIdentity r row)
    {entryType : LedgerEntryType} {cause : LedgerCause} {effectiveAt : Time}
    {reference : Option ProviderRef}
    (htype : entryType = .REFUND_SUCCEEDED ∨ entryType = .REFUND_FAILED ∨
      entryType = .REFUND_PROCESSING) :
    (appendLedgerEntry (r.ledgerEntry id entryType cause effectiveAt reference)).Completing
      (Db.ReadyWith refunds webhooks) := by
  obtain ⟨-, horder, hattempt, hbooking, -, -, -, hamount, hcurrency, hprovider, -⟩ := hsame
  intro s hs
  have hpositive : 0 < r.requestedAmountMinor := by
    rw [← hamount]
    exact (hs.ready.sound.refunds.row id row (hs.lookup hr)).amount
  refine commits_bind.mpr (commits_require.mpr ⟨hpositive.le, ?_⟩)
  refine completing_insertNew (I := Db.ReadyWith refunds webhooks) (fun s₁ hs₁ _ => ?_) s hs
  refine ⟨?_, hs₁.other
    (.other rfl rfl rfl rfl rfl rfl rfl rfl rfl rfl rfl rfl) rfl (fun _ => rfl) rfl rfl rfl
    rfl⟩
  have hlook : s₁.refunds.lookup id = some row := hs₁.lookup hr
  obtain ⟨a, ha, -, haorder, hacurrency, haprovider⟩ := payment_of_refund hs₁.ready.sound hlook
  obtain ⟨b, hb, hborder⟩ := booking_of_refund hs₁.ready.sound hlook
  rw [hattempt] at ha
  rw [hbooking] at hb
  rw [horder] at haorder hborder
  rw [hcurrency] at hacurrency
  rw [hprovider] at haprovider
  simp only [Prisma.financialLedgerEntry, FinancialLedgerEntry.enforceAncestry, Refund.ledgerEntry,
    Except.bind_unit_eq_ok, check_eq_ok, Option.mem_def, Option.some.injEq]
  refine ⟨trivial, hpositive.le, ?_, ?_, ?_, ?_, ?_, ?_, ?_, ?_, by simp⟩
  · exact directionCheck_directionForEntryType entryType _ rfl
  · rcases htype with rfl | rfl | rfl <;> rfl
  · rcases htype with rfl | rfl | rfl <;> rfl
  · rw [ha, Option.map_some, haorder]
  · rw [ha, Option.map_some, haprovider]
  · rw [ha, Option.map_some, hacurrency]
  · rintro _ rfl
    rw [hb, Option.map_some, hborder]
  · rintro _ rfl
    rw [hlook, Option.map_some, hattempt, hcurrency]

/-! ## §4 What follows the update of the refund -/

/-- An order that is there can be flagged. -/
theorem commits_flagOrder (hs : s.ReadyWith refunds webhooks) {orderId : OrderId}
    {o : CheckoutOrder}
    (ho : s.orders.lookup orderId = some o) (state : FinancialReviewState) (missing : Failure) :
    Commits (Prisma.checkoutOrder.update orderId (fun o => { o with financialReviewState := state })
      missing) s fun _ s' => s'.ReadyWith refunds webhooks := by
  have hrow := hs.ready.sound.orders.row orderId o ho
  have hvalid : CheckoutOrder.validate s orderId (some o) { o with financialReviewState := state }
      = .ok () := by
    refine checkoutOrderConstraints.validate_update hs.ready.sound.orders ho
      ⟨hrow.1, hrow.2, hrow.3, hrow.4⟩ (fun x h => ⟨h.1, h.2⟩) ?_
    simp [checkoutOrderConstraints, CheckoutOrder.protectIdentity, CheckoutOrder.SameIdentity]
  refine commits_update.mpr
    ⟨o, ho, hvalid, hs.other (.order orderId _ ?_) rfl (fun id' => ?_) rfl rfl
    rfl rfl⟩
  · rwa [ho]
  · refine map_lookup_insert ho ?_ id'
    rfl

theorem order_of_payment (hs : s.Sound) {p : AttemptId} {a : PaymentAttempt}
    (ha : s.attempts.lookup p = some a) : ∃ o, s.orders.lookup a.orderId = some o := by
  have hparent := hs.attemptOrder p a ha
  simp only [PaymentAttempt.enforceOrder, check_eq_ok, Option.map_eq_some_iff] at hparent
  obtain ⟨o, ho, -⟩ := hparent
  exact ⟨o, ho⟩

/-- Flagging the order of a refund is never rejected. -/
theorem completing_flagOrderForReview {id : RefundId} {r row : Refund}
    (hr : refunds.lookup id = some row) (hsame : Refund.SameIdentity r row) {code : Code}
    {now : Time} :
    (flagOrderForReview id r code now).Completing (Db.ReadyWith refunds webhooks) := by
  obtain ⟨-, horder, -⟩ := hsame
  refine Completing.bind (fun s hs => ?_) fun _ => Completing.bind (fun s hs => ?_)
    fun _ => (completing_enqueueFinancialEvent _ _).bind fun _ => completing_pure
  · obtain ⟨a, ha, -, haorder, -⟩ := payment_of_refund hs.ready.sound (hs.lookup hr)
    obtain ⟨o, ho⟩ := order_of_payment hs.ready.sound ha
    rw [haorder, horder] at ho
    exact commits_flagOrder hs ho _ _
  · exact commits_perform.mpr ⟨_, rfl, hs.queue (.inr (.inl ⟨_, rfl⟩))⟩

/-- A live ticket can be revoked with its credentials. -/
theorem commits_revokeAdmission (hs : s.ReadyWith refunds webhooks) {now : Time} {safeReason : Code}
    {id : TicketId} {t : Ticket} (hlook : s.tickets.lookup id = some t)
    (hactive : t.status = .ACTIVE) :
    Commits (revokeAdmission now safeReason id) s fun _ s' => s'.ReadyWith refunds webhooks ∧
      ∀ id', id' ≠ id → s'.tickets.lookup id' = s.tickets.lookup id' := by
  let p : CredentialId → TicketCredential → Bool :=
    fun _ c => c.ticketId == id && c.status == .ACTIVE
  let close : CredentialId → TicketCredential → TicketCredential :=
    fun _ c => { c with status := .REVOKED, revokedAt := some now }
  have hclosed : ∀ k c, s.credentials.lookup k = some c → p k c = true →
      TicketCredential.validate s k (some c) (close k c) = .ok () := by
    intro k c hc hp
    have hlive : c.status = .ACTIVE := by simpa [p] using (Bool.and_eq_true_iff.mp hp).2
    have hrow := hs.ready.sound.credentials.row k c hc
    have hlifecycle := hrow.lifecycle
    simp only [TicketCredential.lifecycleCheck, hlive, Bool.and_eq_true, Option.isNone_iff_eq_none]
      at hlifecycle
    obtain ⟨⟨⟨-, hreplacedAt⟩, husedAt⟩, hreplacement⟩ := hlifecycle
    refine ticketCredentialConstraints.validate_update hs.ready.sound.credentials hc
      ⟨hrow.version, ?_⟩ (fun x h => ⟨h.hash, h.replacement, h.version, fun hboth => ?_⟩) ?_
    · simp [TicketCredential.lifecycleCheck, close, hreplacedAt, husedAt, hreplacement]
    · cases hboth.2.1
    · simp [ticketCredentialConstraints, TicketCredential.protectHistory,
        TicketCredential.SameIdentity, close, hlive, hreplacement]
  have hs₁ : Db.ReadyWith refunds webhooks
      { s with credentials := s.credentials.putAll (s.credentials.updates p close) } :=
    hs.other (.credentials p close (fun _ _ _ _ => ⟨by simp [close], rfl⟩) hclosed) rfl
      (fun _ => rfl) rfl rfl rfl rfl
  refine commits_bind.mpr (commits_updateMany.mpr ⟨hclosed, commits_bind.mpr ?_⟩)
  have hvalid : Ticket.validate
      { s with credentials := s.credentials.putAll (s.credentials.updates p close) } id (some t)
      { t with status := .REVOKED, revokedAt := some now, revocationReason := some safeReason }
      = .ok () :=
    ticketConstraints.validate_update hs₁.ready.sound.tickets hlook rfl
      (fun x h => ⟨h.reference, h.seat⟩)
      (by simp [ticketConstraints, Ticket.protectHistory, Ticket.SameIdentity, hactive])
  refine commits_update.mpr ⟨t, hlook, hvalid, commits_pure.mpr ⟨?_, fun id' hne => ?_⟩⟩
  · refine hs₁.other (.ticket id _ ?_) rfl (fun _ => rfl) rfl rfl rfl rfl
    show Ticket.validate _ id (s.tickets.lookup id) _ = _
    rwa [hlook]
  · exact AList.lookup_insert_ne hne

/-- A ticket that was found can be revoked. -/
theorem commits_revokeRefundedTicket (hs : s.ReadyWith refunds webhooks) {now : Time}
    {ticket : TicketId × Ticket} (hlook : s.tickets.lookup ticket.1 = some ticket.2) :
    Commits (revokeRefundedTicket now ticket) s fun _ s' => s'.ReadyWith refunds webhooks ∧
      ∀ id, id ≠ ticket.1 → s'.tickets.lookup id = s.tickets.lookup id := by
  unfold revokeRefundedTicket
  split
  · rename_i hactive
    have hactive : ticket.2.status = .ACTIVE := by
      simpa [decideRefundTicketConsequence] using hactive
    exact commits_bind.mpr ((commits_revokeAdmission hs hlook hactive).mono
      fun _ _ h => commits_pure.mpr h)
  · exact commits_pure.mpr ⟨hs, fun _ _ => rfl⟩

theorem commits_revokeRefundedTickets {now : Time} {tickets : List (TicketId × Ticket)}
    (hnodup : (tickets.map Prod.fst).Nodup) (hs : s.ReadyWith refunds webhooks)
    (hfound : ∀ e ∈ tickets, s.tickets.lookup e.1 = some e.2) :
    Commits (revokeRefundedTickets now tickets) s fun _ s' => s'.ReadyWith refunds webhooks := by
  induction tickets generalizing s with
  | nil => exact commits_pure.mpr hs
  | cons ticket tickets ih =>
      rw [List.map_cons, List.nodup_cons] at hnodup
      have hlook := hfound ticket (by simp)
      refine commits_bind.mpr ((commits_revokeRefundedTicket hs hlook).mono
        fun revoked s₁ ⟨hs₁, hframe⟩ => ?_)
      refine commits_bind.mpr
        ((ih hnodup.2 hs₁ fun e he => ?_).mono fun _ _ h => commits_pure.mpr h)
      rw [hframe e.1 fun heq => hnodup.1 (heq ▸ List.mem_map_of_mem he)]
      exact hfound e (List.mem_cons_of_mem _ he)

theorem completing_applyTicketConsequences {id : RefundId} {row : Refund}
    (hr : refunds.lookup id = some row) {bookingId : BookingId} {scope : RefundScope} {now : Time} :
    (applyTicketConsequences id bookingId scope now).Completing
      (Db.ReadyWith refunds webhooks) := by
  intro s hs
  refine commits_bind.mpr (commits_findOrThrow.mpr ⟨row, hs.lookup hr, ?_⟩)
  refine commits_bind.mpr (commits_findMany.mpr (commits_bind.mpr ?_))
  refine (commits_revokeRefundedTickets ?_ hs fun e he => ?_).mono fun _ _ h => commits_pure.mpr h
  · exact (s.tickets.nodup_rows_fst).sublist (List.filter_sublist.map _)
  · exact (Table.mem_select.mp he).1

/-- The succeeded refunds of a payment are refunds of its one booking. -/
theorem refundedSum_le_booking (hs : s.Sound) {p : AttemptId} {a : PaymentAttempt} {id : BookingId}
    {b : Booking} (ha : s.attempts.lookup p = some a) (hb : s.bookings.lookup id = some b)
    (horder : b.orderId = a.orderId) :
    s.refundedSum p ≤ s.refunds.sum fun _ r =>
      if r.bookingId = id ∧ r.succeededAt.isSome then r.requestedAmountMinor else 0 := by
  refine Table.sum_le_sum fun k => ?_
  cases hlook : s.refunds.lookup k with
  | none => rw [Table.contribution_none hlook, Table.contribution_none hlook]
  | some r =>
      rw [Table.contribution_some hlook, Table.contribution_some hlook, Refund.refundedOf]
      by_cases hcounts : r.paymentAttemptId = p ∧ r.succeededAt.isSome
      · obtain ⟨a', ha', -, haorder, -⟩ := payment_of_refund hs hlook
        obtain ⟨b', hb', hborder⟩ := booking_of_refund hs hlook
        rw [hcounts.1] at ha'
        cases Option.some.inj (ha.symm.trans ha')
        have hid : r.bookingId = id := by
          by_contra hne
          exact (hs.bookings.apart _ b' id b hb' hb hne).order
            (by rw [hborder, horder, haorder])
        rw [if_pos hcounts, if_pos ⟨hid, hcounts.2⟩]
      · rw [if_neg hcounts]
        split
        · exact (hs.refunds.row k r hlook).amount.le
        · exact le_rfl

/-- What a booking costs is what its order's payment captured. -/
theorem totalMinor_of_booking (hs : s.Sound) {p : AttemptId} {a : PaymentAttempt} {id : BookingId}
    {b : Booking} (ha : s.attempts.lookup p = some a) (hb : s.bookings.lookup id = some b)
    (horder : b.orderId = a.orderId) : b.totalMinor = a.amountMinor := by
  have hattempt := hs.attemptOrder p a ha
  have hbooking := hs.bookingOrder id b hb
  simp only [PaymentAttempt.enforceOrder, Booking.enforceOrder, check_eq_ok,
    Option.map_eq_some_iff] at hattempt hbooking
  obtain ⟨o, ho, hamount⟩ := hattempt
  obtain ⟨o', ho', hterms⟩ := hbooking
  rw [horder] at ho'
  cases Option.some.inj (ho.symm.trans ho')
  simp only [Prod.mk.injEq] at hamount hterms
  exact hterms.2.2.2.2.2.symm.trans hamount.1

/-- **The booking mark** commits exactly when a completed booking was confirmed by
then. -/
theorem commits_maybeMarkBookingFullyRefunded (hs : s.ReadyWith refunds webhooks) {p : AttemptId}
    {a : PaymentAttempt} {id : BookingId} {b : Booking} {now : Time} {Q : Bool → Db → Prop}
    (ha : s.attempts.lookup p = some a) (hb : s.bookings.lookup id = some b)
    (horder : b.orderId = a.orderId)
    (hQ : ∀ marked s', s'.ReadyWith refunds webhooks → Q marked s') :
    Commits (maybeMarkBookingFullyRefunded id p now) s Q ↔
      (a.amountMinor ≤ a.refundedMinor → b.status = .CONFIRMED → b.confirmedAt ≤ now) := by
  have hvalid : b.status = .CONFIRMED →
      (Booking.validate s id (some b) (b.refunded now) = .ok () ↔ b.confirmedAt ≤ now) := by
    intro hconfirmed
    have hrow := hs.ready.sound.bookings.row id b hb
    have hopen : b.refundedAt = none := by
      have hlifecycle := hrow.lifecycle
      simpa [Booking.refundLifecycleCheck, hconfirmed] using hlifecycle
    constructor
    · intro h
      exact of_decide_eq_true ((bookingConstraints.validate_iff s id (some b) _).mp h).1.lifecycle
    · intro hnow
      refine bookingConstraints.validate_update (E := Prisma.booking) hs.ready.sound.bookings hb
        ⟨hrow.amount, hrow.time, ?_⟩ (fun x h => ⟨h.1, h.2⟩) ?_
      · exact decide_eq_true hnow
      · simp [bookingConstraints, Booking.protectSnapshot, Booking.SameSnapshot, Booking.refunded,
          hconfirmed, hopen]
  have hcomplete : a.amountMinor ≤ a.refundedMinor → Booking.verifyRefundCompletion
      { s with bookings := s.bookings.insert id (b.refunded now) } id = .ok () := by
    intro hcovered
    have hle := refundedSum_le_booking hs.ready.sound ha hb horder
    rw [← hs.ready.refunded p a ha] at hle
    have htotal := totalMinor_of_booking hs.ready.sound ha hb horder
    simp only [Booking.verifyRefundCompletion, AList.lookup_insert, check_eq_ok]
    intro _
    show b.totalMinor ≤ _
    linarith
  have hmarked : a.amountMinor ≤ a.refundedMinor →
      Booking.validate s id (some b) (b.refunded now) = .ok () →
      Db.ReadyWith refunds webhooks
        { s with bookings := s.bookings.insert id (b.refunded now) } := by
    intro hcovered hvalid
    refine ⟨⟨hs.ready.sound.step (.booking id _ (by rwa [hb])), hs.ready.seatTotals,
      hs.ready.orderTotals, hs.ready.refunded, fun trigger hqueued => ?_⟩, hs.refunds, hs.webhooks⟩
    refine (hs.ready.queued trigger hqueued).imp_right (Or.imp_right ?_)
    rintro ⟨id', rfl, hcheck⟩
    refine ⟨id', rfl, ?_⟩
    by_cases hid : id' = id
    · rw [hid]
      exact hcomplete hcovered
    · rw [Booking.verifyRefundCompletion] at hcheck ⊢
      rwa [AList.lookup_insert_ne hid]
  unfold maybeMarkBookingFullyRefunded
  rw [commits_bind, commits_findOrThrow]
  constructor
  · rintro ⟨a', ha', hrest⟩ hcovered hconfirmed
    cases Option.some.inj (ha.symm.trans ha')
    rw [if_neg (not_lt.mpr hcovered), commits_bind, commits_findOrThrow] at hrest
    obtain ⟨b', hb', hrest⟩ := hrest
    cases Option.some.inj (hb.symm.trans hb')
    rw [if_neg (by simp [hconfirmed]), commits_bind, commits_update] at hrest
    obtain ⟨b', hb', hupdated, -⟩ := hrest
    cases Option.some.inj (hb.symm.trans hb')
    exact (hvalid hconfirmed).mp hupdated
  · intro hcond
    refine ⟨a, ha, ?_⟩
    split
    · exact commits_pure.mpr (hQ _ _ hs)
    · rename_i hcovered
      refine commits_bind.mpr (commits_findOrThrow.mpr ⟨b, hb, ?_⟩)
      split
      · exact commits_pure.mpr (hQ _ _ hs)
      · rename_i hconfirmed
        have hcovered := not_lt.mp hcovered
        have hconfirmed : b.status = .CONFIRMED := by simpa using hconfirmed
        have hupdated := (hvalid hconfirmed).mpr (hcond hcovered hconfirmed)
        refine commits_bind.mpr (commits_update.mpr ⟨b, hb, hupdated, ?_⟩)
        refine commits_bind.mpr (commits_perform.mpr ⟨_, rfl, commits_pure.mpr ?_⟩)
        exact hQ _ _ ((hmarked hcovered hupdated).queue (.inr (.inr ⟨id, rfl, hcomplete hcovered⟩)))

/-! ## §5 One update and what follows it -/

theorem RefundUpdate.identity_apply (u : RefundUpdate) (r : Refund) :
    Refund.SameIdentity r (u.apply r) := by
  cases u <;> simp [RefundUpdate.apply, Refund.SameIdentity]

theorem RefundUpdate.seatColumns_apply (u : RefundUpdate) (r : Refund) :
    (u.apply r).seatColumns = r.seatColumns := by
  cases u <;> rfl

/-- An admitted update leaves the state ready. -/
theorem readyWith_afterRefund (hs : s.Ready) (hidle : s.deferred = []) {id : RefundId} {r : Refund}
    {a : PaymentAttempt} {u : RefundUpdate} (hr : s.refunds.lookup id = some r)
    (ha : s.attempts.lookup r.paymentAttemptId = some a) (hcaptured : a.status = .SUCCEEDED)
    (hvalid : Refund.validate s id (some r) (u.apply r) = .ok ())
    (hfit : s.TotalsFit id (u.apply r) a) :
    (s.afterRefund id (u.apply r) a).ReadyWith (s.refunds.insert id (u.apply r)) s.webhooks := by
  have hpayment : (u.apply r).paymentAttemptId = r.paymentAttemptId := by cases u <;> rfl
  have ha' : s.attempts.lookup (u.apply r).paymentAttemptId = some a := hpayment ▸ ha
  have hsound : Db.Sound { s with refunds := s.refunds.insert id (u.apply r) } :=
    hs.sound.step (.refund id _ (by rwa [hr]))
  have haggregate := (validate_aggregated_iff hsound ha' hcaptured).mpr hfit
  have hseats : ∀ id', Refund.verifySeatTotal (s.afterRefund id (u.apply r) a) id' = .ok () := by
    intro id'
    refine (verifySeatTotal_congr ?_).trans (hs.seatTotals id')
    exact map_lookup_insert hr (u.seatColumns_apply r) id'
  refine ⟨⟨(hsound.step (.attempt _ _ ?_)).queue _, hseats, hs.orderTotals, ?_, ?_⟩, rfl, rfl⟩
  · show PaymentAttempt.validate _ _ (s.attempts.lookup _) _ = _
    rwa [ha']
  · intro p a' hlook
    rcases Table.wrote_insert.cases hlook with ⟨rfl, rfl⟩ | ⟨hne, hold⟩
    · rfl
    · have hother : ∀ x : Refund, x.paymentAttemptId = r.paymentAttemptId → x.refundedOf p = 0 :=
        fun x hx => if_neg fun hp => hne (by rw [← hp.1, hx, hpayment])
      rw [hs.refunded p a' hold]
      show _ = Table.sum (fun _ x => Refund.refundedOf p x) (s.refunds.insert id (u.apply r))
      rw [refundedSum_written hr, hother r rfl, hother _ hpayment, sub_zero, add_zero]
  · intro trigger hqueued
    rw [Db.afterRefund, hidle] at hqueued
    exact .inl ⟨id, List.mem_singleton.mp hqueued⟩

/-- An update that is followed by what is never rejected. -/
theorem commits_updated (hs : s.Ready) (hidle : s.deferred = []) {id : RefundId} {r : Refund}
    {a : PaymentAttempt} {u : RefundUpdate} {rest : Refund → Sql Unit} {Q : Unit → Db → Prop}
    (hr : s.refunds.lookup id = some r) (ha : s.attempts.lookup r.paymentAttemptId = some a)
    (hcaptured : a.status = .SUCCEEDED)
    (hrest : (rest (u.apply r)).Completing
      (Db.ReadyWith (s.refunds.insert id (u.apply r)) s.webhooks))
    (hQ : ∀ s', s'.ReadyWith (s.refunds.insert id (u.apply r)) s.webhooks → Q () s') :
    Commits (updateRefundById id u.apply >>= rest) s Q ↔
      Refund.validate s id (some r) (u.apply r) = .ok () ∧ s.TotalsFit id (u.apply r) a := by
  rw [commits_bind, commits_updateRefundById hs.sound hr ha hcaptured]
  refine ⟨fun h => ⟨h.1, h.2.1⟩, fun ⟨hvalid, hfit⟩ => ⟨hvalid, hfit, ?_⟩⟩
  exact hrest.commits (readyWith_afterRefund hs hidle hr ha hcaptured hvalid hfit) fun _ => hQ

theorem commits_markRefundUnderReview (hs : s.Ready) (hidle : s.deferred = []) {id : RefundId}
    {r : Refund} {a : PaymentAttempt} {code : Code} {now : Time} {Q : Unit → Db → Prop}
    (hr : s.refunds.lookup id = some r) (ha : s.attempts.lookup r.paymentAttemptId = some a)
    (hcaptured : a.status = .SUCCEEDED)
    (hQ : ∀ s', s'.ReadyWith (s.refunds.insert id (RefundUpdate.apply r (.review code now)))
      s.webhooks → Q () s') :
    Commits (markRefundUnderReview id r code now) s Q ↔
      Refund.validate s id (some r) (RefundUpdate.apply r (.review code now)) = .ok () ∧
        s.TotalsFit id (RefundUpdate.apply r (.review code now)) a := by
  refine commits_updated (u := .review code now) hs hidle hr ha hcaptured ?_ hQ
  exact completing_flagOrderForReview (AList.lookup_insert _)
    (RefundUpdate.identity_apply (.review code now) r)

theorem commits_settleFailed (hs : s.Ready) (hidle : s.deferred = []) (input : SettleInput)
    {id : RefundId} {r : Refund} {a : PaymentAttempt} {Q : Unit → Db → Prop}
    (hr : s.refunds.lookup id = some r) (ha : s.attempts.lookup r.paymentAttemptId = some a)
    (hcaptured : a.status = .SUCCEEDED)
    (hQ : ∀ s', s'.ReadyWith (s.refunds.insert id
      (RefundUpdate.apply r (.fail "PROVIDER_REPORTED_FAILURE" input.now))) s.webhooks → Q () s') :
    Commits (settleFailed input id r) s Q ↔
      Refund.validate s id (some r)
          (RefundUpdate.apply r (.fail "PROVIDER_REPORTED_FAILURE" input.now)) = .ok () ∧
        s.TotalsFit id (RefundUpdate.apply r (.fail "PROVIDER_REPORTED_FAILURE" input.now)) a := by
  refine commits_updated (u := .fail "PROVIDER_REPORTED_FAILURE" input.now) hs hidle hr ha hcaptured
    ?_ hQ
  refine (completing_ledgerEntry (AList.lookup_insert _) ?_ (.inr (.inl rfl))).bind
    fun _ => (completing_enqueueFinancialEvent _ _).bind fun _ => completing_pure
  exact RefundUpdate.identity_apply (.fail "PROVIDER_REPORTED_FAILURE" input.now) r

theorem commits_settleAdvanced (hs : s.Ready) (hidle : s.deferred = []) (input : SettleInput)
    {id : RefundId} {r : Refund} {a : PaymentAttempt} {status : RefundStatus} {Q : Unit → Db → Prop}
    (hr : s.refunds.lookup id = some r) (ha : s.attempts.lookup r.paymentAttemptId = some a)
    (hcaptured : a.status = .SUCCEEDED)
    (hQ : ∀ s', s'.ReadyWith (s.refunds.insert id
      (RefundUpdate.apply r (.advance status input.now))) s.webhooks → Q () s') :
    Commits (settleAdvanced input id status) s Q ↔
      Refund.validate s id (some r) (RefundUpdate.apply r (.advance status input.now)) = .ok () ∧
        s.TotalsFit id (RefundUpdate.apply r (.advance status input.now)) a :=
  commits_updated (u := .advance status input.now) hs hidle hr ha hcaptured completing_pure hQ

/-- What follows a success waits for the booking mark only. -/
theorem commits_applySuccessConsequences (input : SettleInput) {id : RefundId} {r row : Refund}
    {a : PaymentAttempt} {b : Booking} {Q : Unit → Db → Prop} (hs : s.ReadyWith refunds webhooks)
    (hrow : refunds.lookup id = some row) (hsame : Refund.SameIdentity r row)
    (ha : s.attempts.lookup r.paymentAttemptId = some a)
    (hb : s.bookings.lookup r.bookingId = some b) (horder : b.orderId = a.orderId)
    (hQ : ∀ s', s'.ReadyWith refunds webhooks → Q () s') :
    Commits (applySuccessConsequences input id r) s Q ↔
      (a.amountMinor ≤ a.refundedMinor → b.status = .CONFIRMED → b.confirmedAt ≤ input.now) := by
  let part : Db → Table AttemptId PaymentAttempt × Table BookingId Booking :=
    fun s => (s.attempts, s.bookings)
  have hfree : Prisma.financialLedgerEntry.Free (Framing part) := fun _ _ => rfl
  have hrevoking : Revoking (Framing part) := revoking_of_free (fun _ _ => rfl) fun _ _ => rfl
  have hlast : ∀ consequences : TicketConsequences, Completing (Db.ReadyWith refunds webhooks)
      (do
        let _ ← enqueueFinancialEvent (.refundSucceeded id)
          (r.financialEvent id
            { refundReference := some r.publicReference
              amountMinor := some r.requestedAmountMinor
              currency := some r.currency
              ticketsRevoked := some consequences.revoked
              usedTicketsPreserved := some consequences.preservedUsed } input.now)
        if 0 < consequences.revoked then do
          let _ ← enqueueFinancialEvent (.refundRevocation id)
            (r.financialEvent id { revoked := some consequences.revoked } input.now)
        else pure () : Sql Unit) := by
    intro consequences
    refine (completing_enqueueFinancialEvent _ _).bind fun _ => ?_
    split
    · exact (completing_enqueueFinancialEvent _ _).bind fun _ => completing_pure
    · exact completing_pure
  refine (completing_ledgerEntry hrow hsame (.inl rfl)).commits_bind_iff
    (steps_require.bind fun _ => hfree.insertNew) hs fun _ s₁ hs₁ hpart₁ => ?_
  refine (completing_applyTicketConsequences hrow).commits_bind_iff
    (steps_applyTicketConsequences hrevoking _ _ _ _) hs₁
    fun consequences s₂ hs₂ hpart₂ => ?_
  obtain ⟨hattempts, hbookings⟩ := Prod.mk.inj (hpart₂.trans hpart₁)
  rw [commits_bind]
  exact commits_maybeMarkBookingFullyRefunded hs₂ (hattempts ▸ ha) (hbookings ▸ hb) horder
    fun _ _ hs₃ => (hlast consequences).commits hs₃ fun _ => hQ

/-- A success also has to be able to mark its booking, when it completes it. -/
theorem commits_settleSucceeded (hs : s.Ready) (hidle : s.deferred = []) (input : SettleInput)
    {id : RefundId} {r : Refund} {a : PaymentAttempt} {b : Booking} {Q : Unit → Db → Prop}
    (hr : s.refunds.lookup id = some r) (ha : s.attempts.lookup r.paymentAttemptId = some a)
    (hcaptured : a.status = .SUCCEEDED) (hb : s.bookings.lookup r.bookingId = some b)
    (hQ : ∀ s', s'.ReadyWith (s.refunds.insert id (RefundUpdate.apply r (.succeed input.now)))
      s.webhooks → Q () s') :
    Commits (settleSucceeded input id r) s Q ↔
      Refund.validate s id (some r) (RefundUpdate.apply r (.succeed input.now)) = .ok () ∧
        s.TotalsFit id (RefundUpdate.apply r (.succeed input.now)) a ∧
        (a.amountMinor ≤ s.refundedSum r.paymentAttemptId - r.refundedOf r.paymentAttemptId
            + r.requestedAmountMinor →
          b.status = .CONFIRMED → b.confirmedAt ≤ input.now) := by
  have horder : b.orderId = a.orderId := by
    obtain ⟨a', ha', -, haorder, -⟩ := payment_of_refund hs.sound hr
    obtain ⟨b', hb', hborder⟩ := booking_of_refund hs.sound hr
    cases Option.some.inj (ha.symm.trans ha')
    cases Option.some.inj (hb.symm.trans hb')
    rw [hborder, haorder]
  rw [settleSucceeded, commits_bind]
  show Commits (updateRefundById id (RefundUpdate.apply · (.succeed input.now))) s _ ↔ _
  rw [commits_updateRefundById (u := .succeed input.now) hs.sound hr ha hcaptured]
  refine and_congr_right fun hvalid => and_congr_right fun hfit => ?_
  have hready :=
    readyWith_afterRefund (u := .succeed input.now) hs hidle hr ha hcaptured hvalid hfit
  have hiff := commits_applySuccessConsequences input hready (AList.lookup_insert _)
    (RefundUpdate.identity_apply (.succeed input.now) r)
    (AList.lookup_insert _) hb horder hQ
  refine hiff.trans ?_
  show (a.amountMinor ≤ Table.sum (fun _ x => Refund.refundedOf r.paymentAttemptId x)
    (s.refunds.insert id (RefundUpdate.apply r (.succeed input.now))) → _) ↔ _
  rw [refundedSum_written hr]
  have hcounts : Refund.refundedOf r.paymentAttemptId (RefundUpdate.apply r (.succeed input.now))
      = r.requestedAmountMinor := by
    simp [Refund.refundedOf, RefundUpdate.apply]
  rw [hcounts]

end SeatFlow
