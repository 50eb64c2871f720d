import SeatFlow.Database.Soundness
import SeatFlow.Refunds.OverRefund
import SeatFlow.Refunds.RefundSystem

/-!
# Consistency of refund runs

Every refund transaction leaves the database consistent: its rows satisfy their
constraints and ancestry, the totals that deferred triggers guard are right, and
the stored totals of a payment are those of its refunds. A webhook record that is
not closed yet is linked to no refund. This is what a later transaction may count
on when the question is whether it commits.
-/

namespace SeatFlow

open Relational Program Entity

variable {s s' : Db}

/-! ## §1 The writes -/

theorem Db.Regular.consistent (hs : s.Regular) (hidle : s.deferred = []) : s.Consistent where
  sound := hs.sound
  idle := hidle
  seatTotals := fun id => (hs.seatTotals id).resolve_right (by simp [hidle])
  orderTotals := fun id => (hs.orderTotals id).resolve_right (by simp [hidle])

/-- Writing an entity that no constraint and no total looks at. -/
theorem regular_other (hs : s.Regular) (h : DbStep s s') (hrefunds : s'.refunds = s.refunds)
    (horders : s'.orders = s.orders) (hdeferred : s'.deferred = s.deferred) : s'.Regular :=
  hs.step h (fun _ => by rw [hrefunds]) (fun _ => by rw [horders]) hdeferred

theorem regular_financialLedgerEntry : Prisma.financialLedgerEntry.Free (Keeping Db.Regular) :=
  fun _ _ hs =>
    regular_other hs (.other rfl rfl rfl rfl rfl rfl rfl rfl rfl rfl rfl rfl) rfl rfl rfl

theorem regular_financialOutbox : Prisma.financialOutbox.Free (Keeping Db.Regular) :=
  fun _ _ hs =>
    regular_other hs (.other rfl rfl rfl rfl rfl rfl rfl rfl rfl rfl rfl rfl) rfl rfl rfl

theorem regular_refundAttempt : Prisma.refundAttempt.Free (Keeping Db.Regular) :=
  fun _ _ hs =>
    regular_other hs (.other rfl rfl rfl rfl rfl rfl rfl rfl rfl rfl rfl rfl) rfl rfl rfl

theorem regular_defer (trigger : DeferredTrigger) :
    (defer trigger).Steps (Keeping Db.Regular) := by
  refine steps_keeping.mpr fun s hs => ensures_perform.mpr ?_
  rintro eff ⟨⟩
  exact hs.queue trigger

theorem regular_appendLedgerEntry (input : AppendLedgerEntryInput) :
    (appendLedgerEntry input).Steps (Keeping Db.Regular) :=
  steps_require.bind fun _ => regular_financialLedgerEntry.insertNew

theorem regular_enqueueFinancialEvent (key : FinancialEventKey) (event : FinancialEvent) :
    (enqueueFinancialEvent key event).Steps (Keeping Db.Regular) :=
  regular_financialOutbox.insertNew

/-- A written refund and its queued trigger, with the aggregate in between. -/
theorem regular_writtenRefund {id : RefundId} {row : Refund} (attempt : AttemptId)
    (hs : s.Regular) (hstep : DbStep s { s with refunds := s.refunds.insert id row }) :
    Ensures (do maintainPaymentAggregate attempt; defer (.verifyRefundSeatTotal id))
      { s with refunds := s.refunds.insert id row } fun _ s' => s'.Regular := by
  -- the trigger is queued after the aggregate, so `queued` stands for it until then
  let queued : Db := { s with
    refunds := s.refunds.insert id row
    deferred := .verifyRefundSeatTotal id :: s.deferred }
  have hqueued : queued.Regular :=
    { sound := (hs.sound.step hstep).queue _
      seatTotals := fun id' => by
        by_cases hid : id' = id
        · exact .inr (by simp [queued, hid])
        · rw [verifySeatTotal_congr (s := s) (by
            show ((s.refunds.insert id row).lookup id').map _ = _
            rw [AList.lookup_insert_ne hid])]
          exact (hs.seatTotals id').imp_right (List.mem_cons_of_mem _)
      orderTotals := fun id' => (hs.orderTotals id').imp_right (List.mem_cons_of_mem _) }
  refine ensures_bind.mpr (ensures_perform.mpr fun eff heff => ?_)
  dsimp only [View.alone] at heff
  split at heff
  · cases heff
    refine ensures_perform.mpr ?_
    rintro eff ⟨⟩
    exact hqueued
  · rename_i a hlook
    simp only [Except.bind_unit_eq_ok] at heff
    obtain ⟨hvalid, ⟨⟩⟩ := heff
    refine ensures_perform.mpr ?_
    rintro eff ⟨⟩
    refine regular_other hqueued (.attempt attempt _ ?_) rfl rfl rfl
    show PaymentAttempt.validate _ attempt (s.attempts.lookup attempt) _ = _
    rwa [show s.attempts.lookup attempt = some a from hlook]

theorem regular_insertRefund (id : RefundId) (row : Refund) :
    (insertRefund id row).Steps (Keeping Db.Regular) := by
  refine steps_keeping.mpr fun s hs => ensures_bind.mpr (ensures_insert.mpr ?_)
  intro habsent hvalid
  exact regular_writtenRefund _ hs (.refund id row (by
    show Refund.validate s id (s.refunds.lookup id) row = _
    rwa [show s.refunds.lookup id = none from habsent]))

theorem regular_updateRefund (id : RefundId) (p : Refund → Bool) (f : Refund → Refund) :
    (updateRefund id p f).Steps (Keeping Db.Regular) := by
  refine steps_keeping.mpr fun s hs => ensures_bind.mpr (ensures_updateWhen.mpr
    ⟨fun _ => ensures_pure.mpr hs, fun r hlook _ hvalid => ?_⟩)
  have hwritten := regular_writtenRefund (f r).paymentAttemptId hs
    (.refund id (f r) (by
      show Refund.validate s id (s.refunds.lookup id) (f r) = _
      rwa [show s.refunds.lookup id = some r from hlook]))
  rw [ensures_bind] at hwritten
  exact ensures_bind.mpr (hwritten.mono fun _ _ h => ensures_bind.mpr
    (h.mono fun _ _ h => ensures_pure.mpr h))

theorem regular_insertRefundSeats (id : RefundId) (seats : List RefundSeat) :
    (insertRefundSeats id seats).Steps (Keeping Db.Regular) := by
  refine steps_keeping.mpr fun s hs =>
    ensures_bind.mpr (ensures_update.mpr fun r hlook hvalid => ?_)
  refine ensures_perform.mpr ?_
  rintro eff ⟨⟩
  have hstep :
      DbStep s { s with refunds := s.refunds.insert id { r with seats := r.seats ++ seats } } :=
    .refundSeats id r seats hlook hvalid
  exact
    { sound := (hs.sound.step hstep).queue _
      seatTotals := fun id' => by
        by_cases hid : id' = id
        · exact .inr (by simp [applyAll, Store.apply, Write.apply, hid])
        · rw [verifySeatTotal_congr (s := s) (by
            show ((s.refunds.insert id _).lookup id').map _ = _
            rw [AList.lookup_insert_ne hid])]
          exact (hs.seatTotals id').imp_right (List.mem_cons_of_mem _)
      orderTotals := fun id' => (hs.orderTotals id').imp_right (List.mem_cons_of_mem _) }

/-- Flagging an order touches no total. -/
theorem regular_flagOrder (id : OrderId) (state : FinancialReviewState) :
    (Prisma.checkoutOrder.update id (fun o => { o with financialReviewState := state })
      (.notFound "CheckoutOrder")).Steps (Keeping Db.Regular) := by
  refine steps_update fun s o hlook hvalid hs => ?_
  refine hs.step (.order id _ ?_) (fun _ => rfl) (fun id' => ?_) rfl
  · show CheckoutOrder.validate s id (s.orders.lookup id) _ = _
    rwa [show s.orders.lookup id = some o from hlook]
  · show ((s.orders.insert id _).lookup id').map CheckoutOrder.totalColumns = _
    refine map_lookup_insert hlook ?_ id'
    rfl

theorem regular_updateWebhook (id : WebhookId) (f : PaymentWebhookEvent → PaymentWebhookEvent)
    (missing : Failure) :
    (Prisma.paymentWebhookEvent.update id f missing).Steps (Keeping Db.Regular) := by
  refine steps_update fun s w hlook hvalid hs => ?_
  exact regular_other hs (.updatedWebhook hlook hvalid) rfl rfl rfl

theorem regular_updateBooking (id : BookingId) (f : Booking → Booking) (missing : Failure) :
    (Prisma.booking.update id f missing).Steps (Keeping Db.Regular) := by
  refine steps_update fun s b hlook hvalid hs => regular_other hs (.booking id _ ?_) rfl rfl rfl
  show Booking.validate s id (s.bookings.lookup id) _ = _
  rwa [show s.bookings.lookup id = some b from hlook]

theorem regular_revokeAdmission : Revoking (Keeping Db.Regular) := by
  intro now safeReason ticketId
  refine (steps_updateMany fun s hvalid hs => ?_).bind fun _ =>
    (steps_update fun s t hlook hvalid hs => ?_).bind fun _ => steps_pure
  · refine regular_other hs (.credentials _ _ (fun k c _ _ => ?_) hvalid) rfl rfl rfl
    exact ⟨by simp, rfl⟩
  · refine regular_other hs (.ticket ticketId _ ?_) rfl rfl rfl
    show Ticket.validate s ticketId (s.tickets.lookup ticketId) _ = _
    rwa [show s.tickets.lookup ticketId = some t from hlook]

/-- The writes of a refund transaction keep the database regular. -/
theorem regular_writes : SettlementWrites (fun _ _ => True) (fun _ => True)
    (Keeping Db.Regular) where
  updated := fun id p _ _ => regular_updateRefund id p _
  seats := regular_insertRefundSeats
  submission := fun _ _ => regular_refundAttempt.insert
  completion := fun _ _ _ => regular_refundAttempt.updateWhen
  ledger := fun input _ => regular_appendLedgerEntry input
  outbox := regular_enqueueFinancialEvent
  queue := regular_defer
  credit := crediting_of_free regular_financialLedgerEntry
  revoke := regular_revokeAdmission
  booking := fun id _ missing _ => regular_updateBooking id _ missing

/-! ## §2 The transactions -/

theorem storing_consistent (category : PaymentWebhookEventCategory) :
    Storing category (Keeping Db.Consistent) := by
  intro s id w hreceives _ habsent hvalid hs
  refine (regular_other hs.regular (.webhook id w (fun _ => hreceives) ?_) rfl rfl rfl).consistent
    hs.idle
  rwa [habsent]

/-- All writes of the refund transactions. -/
structure RefundTransactionWrites (step : Db → Db → Prop) : Prop
    extends SettlementWrites (fun _ _ => True) (fun _ => True) step where
  inserted : ∀ id row, row.Fresh → (insertRefund id row).Steps step
  flagged : ∀ orderId, Flagging step orderId
  record : ∀ id f missing, (∀ w, (f w).disputeId = w.disputeId) →
    (Prisma.paymentWebhookEvent.update id f missing).Steps step

/-- **What a refund transaction does** is a sequence of steps between transactions. -/
theorem RefundTransaction.steps {step whole : Db → Db → Prop}
    (hwrites : RefundTransactionWrites step) (hcommit : Committing step whole)
    (hstored : Storing .REFUND whole)
    (hcompleted : ∀ id p f, (Prisma.refundAttempt.updateWhen id p f).Steps whole)
    (t : RefundTransaction) : t.program.Steps whole := by
  cases t with
  | requestRefund =>
      exact ((hwrites.requested _ _ _ _ fun id row hfresh _ => hwrites.inserted id row hfresh).steps
        hcommit).bind fun _ => steps_pure
  | claimRefundForSubmission =>
      exact ((hwrites.claimed _ _ fun _ => trivial).steps hcommit).bind fun _ => steps_pure
  | completeAttempt => exact (hcompleted _ _ _).bind fun _ => steps_pure
  | markSubmissionAmbiguous => exact (hwrites.markedAmbiguous _ _ trivial).steps hcommit
  | recordSubmission => exact (hwrites.recorded _ _ _ _ trivial).steps hcommit
  | failRefund => exact (hwrites.failed _ _ _ trivial).steps hcommit
  | adoptExternalRefund => exact (hwrites.adopted _ _ trivial).steps hcommit
  | settleRefundFromVerifiedEvent input =>
      have hbody := hwrites.settled input (fun _ _ _ _ => trivial) (fun _ => trivial)
        hwrites.flagged (hwrites.record input.webhookId)
      exact (hcommit.steps hbody).bind fun _ => steps_pure
  | storeVerifiedFinancialWebhook =>
      exact (steps_storedRefundEvent hstored).bind fun _ => steps_pure
  | processVerifiedRefundRecord webhookId now =>
      exact ((hwrites.processed webhookId now (fun _ _ _ => trivial) (fun _ => trivial)
        hwrites.flagged (hwrites.record webhookId)).steps hcommit).bind fun _ => steps_pure

theorem regular_refundTransactionWrites : RefundTransactionWrites (Keeping Db.Regular) where
  toSettlementWrites := regular_writes
  inserted := fun id row _ => regular_insertRefund id row
  flagged := fun orderId => regular_flagOrder orderId
  record := fun id f missing _ => regular_updateWebhook id f missing

/-- **Consistency.** Every refund transaction keeps it. -/
theorem RefundTransaction.consistent (t : RefundTransaction) :
    t.program.Steps (Keeping Db.Consistent) := by
  have hfree : Prisma.refundAttempt.Free (Keeping Db.Consistent) :=
    fun s t hs => (regular_refundAttempt s t hs.regular).consistent hs.idle
  exact t.steps regular_refundTransactionWrites committing_consistent (storing_consistent _)
    fun _ _ _ => hfree.updateWhen

end SeatFlow
