import SeatFlow.Database.Soundness
import SeatFlow.Ledger.Entries
import SeatFlow.Refunds.ReconciliationService
import SeatFlow.Refunds.SettlementService
import SeatFlow.Refunds.SubmissionService

/-!
# What refund transactions write

The writes of the refund transactions, once, for any relation that they are steps of.
`RefundUpdate` lists the updates of a refund row; `RefundWrites U step` says which
writes of the bookkeeping are steps, where `U` says which updates may befall which
refund. What a success writes besides is `SettlementWrites`. A relation has these
writes as steps or it does not; the texts of the transactions are gone through here.
-/

namespace SeatFlow

open Relational Program Entity

/-! ## §1 Updates -/

/-- The updates of a refund row that the services make. -/
inductive RefundUpdate
  | submit (submittedAt : Time)
  | ambiguous
  | attach (providerRefundId : ProviderRef)
  | fail (safeCode : Code) (now : Time)
  | review (safeCode : Code) (now : Time)
  | succeed (now : Time)
  | advance (status : RefundStatus) (now : Time)

def RefundUpdate.apply (r : Refund) : RefundUpdate → Refund
  | .submit submittedAt =>
      { r with status := .SUBMITTING, submittedAt := some submittedAt, version := r.version + 1 }
  | .ambiguous => { r with status := .PROCESSING, version := r.version + 1 }
  | .attach ref =>
      { r with status := .PROCESSING, providerRefundId := some ref, version := r.version + 1 }
  | .fail code now =>
      { r with
        status := .FAILED
        failedAt := some now
        safeFailureCode := some code
        version := r.version + 1 }
  | .review code now =>
      { r with
        status := .REQUIRES_REVIEW
        reviewRequiredAt := some now
        safeFailureCode := some code
        version := r.version + 1 }
  | .succeed now =>
      { r with
        status := .SUCCEEDED
        succeededAt := some now
        safeFailureCode := none
        version := r.version + 1 }
  | .advance status now =>
      { r with status := status, submittedAt := some now, version := r.version + 1 }

/-- The status that an update sets. -/
def RefundUpdate.status : RefundUpdate → RefundStatus
  | .submit _ => .SUBMITTING
  | .ambiguous | .attach _ => .PROCESSING
  | .fail _ _ => .FAILED
  | .review _ _ => .REQUIRES_REVIEW
  | .succeed _ => .SUCCEEDED
  | .advance status _ => status

@[simp]
theorem RefundUpdate.status_apply (u : RefundUpdate) (r : Refund) :
    (u.apply r).status = u.status := by
  cases u <;> rfl

/-- The updates that a verified provider event may make. -/
def RefundUpdate.settles : RefundUpdate → Bool
  | .fail _ _ | .review _ _ | .succeed _ | .advance _ _ => true
  | .submit _ | .ambiguous | .attach _ => false

/-- A refund row as `requestRefund` inserts it. -/
structure Refund.Fresh (r : Refund) : Prop where
  status : r.status = .REQUESTED
  unattached : r.providerRefundId = none
  seats : r.seats = []
  approval : r.approvedByUserId = none ↔ r.initiator = .CUSTOMER

/-- The booking marked fully refunded. -/
def Booking.refunded (b : Booking) (now : Time) : Booking :=
  { b with status := .REFUNDED, refundedAt := some now }

/-! ## §2 Writes -/

/-- Revoking a ticket with its credentials takes these steps. -/
def Revoking (step : Db → Db → Prop) : Prop :=
  ∀ (now : Time) (safeReason : Code) (ticketId : TicketId),
    (revokeAdmission now safeReason ticketId).Steps step

theorem revoking_of_free {step : Db → Db → Prop} (hticket : Prisma.ticket.Free step)
    (hcredential : Prisma.ticketCredential.Free step) : Revoking step :=
  fun _ _ _ => hcredential.updateMany.bind fun _ => hticket.update.bind fun _ => steps_pure

theorem steps_revokeRefundedTickets {step : Db → Db → Prop} (hrevoking : Revoking step)
    (now : Time) (tickets : List (TicketId × Ticket)) :
    (revokeRefundedTickets now tickets).Steps step := by
  induction tickets with
  | nil => exact steps_pure
  | cons ticket tickets ih =>
      refine Steps.bind ?_ fun revoked => ih.bind fun rest => steps_pure
      unfold revokeRefundedTicket
      split
      · exact (hrevoking _ _ _).bind fun _ => steps_pure
      · exact steps_pure

theorem steps_applyTicketConsequences {step : Db → Db → Prop} (hrevoking : Revoking step)
    (refundId : RefundId) (bookingId : BookingId) (scope : RefundScope) (now : Time) :
    (applyTicketConsequences refundId bookingId scope now).Steps step :=
  steps_findOrThrow.bind fun _ => steps_findMany.bind fun _ =>
    (steps_revokeRefundedTickets hrevoking _ _).bind fun _ => steps_pure

/-- Flagging one order is a step. -/
def Flagging (step : Db → Db → Prop) (orderId : OrderId) : Prop :=
  ∀ state, (Prisma.checkoutOrder.update orderId
    (fun o => { o with financialReviewState := state }) (.notFound "CheckoutOrder")).Steps step

/-- Appending the entry of a refund's success is a step. -/
def Crediting (step : Db → Db → Prop) : Prop :=
  ∀ input : AppendLedgerEntryInput, input.entryType = .REFUND_SUCCEEDED → input.disputeId = none →
    (appendLedgerEntry input).Steps step

theorem crediting_of_free {step : Db → Db → Prop}
    (hledger : Prisma.financialLedgerEntry.Free step) :
    Crediting step :=
  fun _ _ _ => steps_require.bind fun _ => hledger.insertNew

/-- A transaction whose body takes these steps. -/
def Transacting {α : Type} (step : Db → Db → Prop) (p : Sql α) : Prop :=
  ∃ body : Sql α, p = runInTransaction body ∧ body.Steps step

/-- A transaction takes the step that its commit makes of the steps of its body. -/
theorem Transacting.steps {α : Type} {step whole : Db → Db → Prop} {p : Sql α}
    (hp : Transacting step p) (hcommit : Committing step whole) : p.Steps whole := by
  obtain ⟨body, rfl, hbody⟩ := hp
  exact hcommit.steps hbody

/-- The bookkeeping of refund transactions, and their updates of refunds. -/
structure RefundWrites (U : RefundId → RefundUpdate → Prop) (step : Db → Db → Prop) : Prop where
  updated : ∀ id p u, U id u → (updateRefund id p u.apply).Steps step
  seats : ∀ id seats, (insertRefundSeats id seats).Steps step
  submission : ∀ id row, (Prisma.refundAttempt.insert id row).Steps step
  completion : ∀ id p f, (Prisma.refundAttempt.updateWhen id p f).Steps step
  ledger : ∀ input : AppendLedgerEntryInput, isSettlingEntryType input.entryType = false →
    (appendLedgerEntry input).Steps step
  outbox : ∀ key event, (enqueueFinancialEvent key event).Steps step
  queue : ∀ trigger, (defer trigger).Steps step

/-- What a success writes besides: its entry, the revoked tickets and the booking, where
`B` says which bookings may be marked refunded. -/
structure SettlementWrites (U : RefundId → RefundUpdate → Prop) (B : BookingId → Prop)
    (step : Db → Db → Prop) : Prop extends RefundWrites U step where
  credit : Crediting step
  revoke : Revoking step
  booking : ∀ id now missing, B id →
    (Prisma.booking.update id (fun b => b.refunded now) missing).Steps step

namespace RefundWrites

variable {U : RefundId → RefundUpdate → Prop} {step : Db → Db → Prop}
    (hwrites : RefundWrites U step)

include hwrites

theorem updatedById (id : RefundId) (u : RefundUpdate) (hu : U id u) :
    (updateRefundById id u.apply).Steps step :=
  (hwrites.updated id _ u hu).bind fun _ => steps_orThrow

/-! ## §3 Requests and submissions -/

theorem created (actor : RefundActor) (input : RefundRequestInput) (fresh : FreshRefund)
    (now : Time) (bookingId : BookingId) (booking : Booking) (order : CheckoutOrder)
    (attemptId : AttemptId) (attempt capacityRow : PaymentAttempt) (initiator : RefundInitiator)
    (requiresApproval : Bool) (happroval : requiresApproval = true ↔ initiator = .CUSTOMER)
    (hinsert : ∀ id row, row.Fresh → row.initiator = initiator →
      (insertRefund id row).Steps step) :
    (createRefund actor input fresh now bookingId booking order attemptId attempt capacityRow
      initiator requiresApproval).Steps step := by
  unfold createRefund
  dsimp only
  split
  · exact steps_abort
  · refine steps_read.bind fun refunded => ?_
    split
    · exact steps_abort
    · refine (hinsert _ _ ⟨rfl, rfl, rfl, ?_⟩ rfl).bind fun _ => ?_
      · rw [← happroval]
        cases requiresApproval <;> simp
      · split
        · exact (hwrites.seats _ _).bind fun _ => (hwrites.ledger _ rfl).bind fun _ =>
            (hwrites.outbox _ _).bind fun _ => steps_pure
        · exact (hwrites.ledger _ rfl).bind fun _ => (hwrites.outbox _ _).bind fun _ => steps_pure

theorem requested (actor : RefundActor) (input : RefundRequestInput) (fresh : FreshRefund)
    (now : Time)
    (hinsert : ∀ id row, row.Fresh → (row.initiator = .CUSTOMER ↔ actor.role = .CUSTOMER) →
      (insertRefund id row).Steps step) :
    Transacting step (requestRefund actor input fresh now) := by
  refine ⟨_, rfl, ?_⟩
  refine steps_findMany.bind fun bookings => steps_orThrow.bind fun found => ?_
  refine steps_findOrThrow.bind fun order => steps_findOrThrow.bind fun user => ?_
  split
  · exact steps_abort
  · rename_i initiator requiresApproval hallowed
    refine steps_findMany.bind fun captured => steps_orThrow.bind fun payment => ?_
    refine steps_lock.bind fun locked => steps_orThrow.bind fun capacityRow => ?_
    refine steps_findMany.bind fun existing => ?_
    split
    · exact steps_pure
    · obtain ⟨happroval, hinitiator⟩ := requiresApproval_iff_customer hallowed
      exact hwrites.created _ _ _ _ _ _ _ _ _ _ _ _ (happroval.trans hinitiator.symm)
        fun id row hfresh heq => hinsert id row hfresh (heq ▸ hinitiator)

theorem claimed (refundId : RefundId) (now : Time)
    (hU : ∀ submittedAt, U refundId (.submit submittedAt)) :
    Transacting step (claimRefundForSubmission refundId now) := by
  refine ⟨_, rfl, steps_lockSkip.bind fun row => ?_⟩
  split
  · exact steps_pure
  · refine steps_findOrThrow.bind fun refund => steps_findOrThrow.bind fun attempt => ?_
    refine steps_read.bind fun latest => ?_
    split
    · exact steps_pure
    · exact (hwrites.updatedById refundId (.submit (refund.submittedAt.getD now)) (hU _)).bind
        fun _ => (hwrites.submission _ _).bind fun _ => steps_pure

theorem attemptCompleted (refundId : RefundId) (attemptNumber : Nat)
    (status : RefundAttemptStatus) (providerRequestReference : Option ProviderRef)
    (safeFailureCode : Option Code) (now : Time) :
    (completeAttempt refundId attemptNumber status providerRequestReference safeFailureCode
      now).Steps step :=
  (hwrites.completion _ _ _).bind fun _ => steps_pure

theorem markedAmbiguous (claimed : ClaimedRefund) (now : Time) (hU : U claimed.id .ambiguous) :
    Transacting step (markSubmissionAmbiguous claimed now) :=
  ⟨_, rfl, (hwrites.updated claimed.id _ .ambiguous hU).bind fun _ =>
    (hwrites.outbox _ _).bind fun _ => steps_pure⟩

theorem recorded (claimed : ClaimedRefund) (provider : PaymentProviderName)
    (providerRefundId : ProviderRef) (now : Time) (hU : U claimed.id (.attach providerRefundId)) :
    Transacting step (recordSubmission claimed provider providerRefundId now) :=
  ⟨_, rfl, (hwrites.updated claimed.id _ (.attach providerRefundId) hU).bind fun _ =>
    (hwrites.ledger _ rfl).bind fun _ => (hwrites.outbox _ _).bind fun _ => steps_pure⟩

theorem failed (refundId : RefundId) (safeCode : Code) (now : Time)
    (hU : U refundId (.fail safeCode now)) :
    Transacting step (failRefund refundId safeCode now) := by
  refine ⟨_, rfl, steps_findOrThrow.bind fun refund => ?_⟩
  split
  · exact steps_pure
  · exact (hwrites.updatedById refundId (.fail safeCode now) hU).bind fun _ =>
      (hwrites.ledger _ rfl).bind fun _ => (hwrites.outbox _ _).bind fun _ => steps_pure

theorem adopted (refundId : RefundId) (providerRefundId : ProviderRef)
    (hU : U refundId (.attach providerRefundId)) :
    Transacting step (adoptExternalRefund refundId providerRefundId) :=
  ⟨_, rfl, (hwrites.updated refundId _ (.attach providerRefundId) hU).bind fun _ => steps_pure⟩

/-! ## §4 Settlements -/

theorem flaggedForReview {refund : Refund} (hflag : Flagging step refund.orderId)
    (refundId : RefundId) (safeCode : Code) (now : Time) :
    (flagOrderForReview refundId refund safeCode now).Steps step :=
  (hflag _).bind fun _ => (hwrites.queue _).bind fun _ => (hwrites.outbox _ _).bind fun _ =>
    steps_pure

theorem escalated {refund : Refund} (hflag : Flagging step refund.orderId) (refundId : RefundId)
    (safeCode : Code) (now : Time) (hU : U refundId (.review safeCode now)) :
    (markRefundUnderReview refundId refund safeCode now).Steps step :=
  (hwrites.updatedById refundId (.review safeCode now) hU).bind fun _ =>
    hwrites.flaggedForReview hflag _ _ _

theorem settledFailed (input : SettleInput) (refundId : RefundId) (refund : Refund)
    (hU : U refundId (.fail "PROVIDER_REPORTED_FAILURE" input.now)) :
    (settleFailed input refundId refund).Steps step :=
  (hwrites.updatedById refundId (.fail "PROVIDER_REPORTED_FAILURE" input.now) hU).bind fun _ =>
    (hwrites.ledger _ rfl).bind fun _ => (hwrites.outbox _ _).bind fun _ => steps_pure

theorem settledAdvanced (input : SettleInput) (refundId : RefundId) (status : RefundStatus)
    (hU : U refundId (.advance status input.now)) :
    (settleAdvanced input refundId status).Steps step :=
  (hwrites.updatedById refundId (.advance status input.now) hU).bind fun _ => steps_pure

theorem markedRefunded {bookingId : BookingId}
    (hbooking : ∀ now missing,
      (Prisma.booking.update bookingId (fun b => b.refunded now) missing).Steps step)
    (paymentAttemptId : AttemptId) (now : Time) :
    (maybeMarkBookingFullyRefunded bookingId paymentAttemptId now).Steps step := by
  refine steps_findOrThrow.bind fun attempt => ?_
  split
  · exact steps_pure
  · refine steps_findOrThrow.bind fun booking => ?_
    split
    · exact steps_pure
    · exact (hbooking now _).bind fun _ => (hwrites.queue _).bind fun _ => steps_pure

/-- A coarser relation has the same writes. -/
theorem mono {step' : Db → Db → Prop} (himp : ∀ s s', step s s' → step' s s') :
    RefundWrites U step' where
  updated := fun id p u hu => (hwrites.updated id p u hu).mono himp
  seats := fun id seats => (hwrites.seats id seats).mono himp
  submission := fun id row => (hwrites.submission id row).mono himp
  completion := fun id p f => (hwrites.completion id p f).mono himp
  ledger := fun input htype => (hwrites.ledger input htype).mono himp
  outbox := fun key event => (hwrites.outbox key event).mono himp
  queue := fun trigger => (hwrites.queue trigger).mono himp

end RefundWrites

namespace SettlementWrites

variable {U : RefundId → RefundUpdate → Prop} {B : BookingId → Prop} {step : Db → Db → Prop}
  (hwrites : SettlementWrites U B step)

include hwrites

theorem mono {step' : Db → Db → Prop} (himp : ∀ s s', step s s' → step' s s') :
    SettlementWrites U B step' where
  toRefundWrites := hwrites.toRefundWrites.mono himp
  credit := fun input htype hdispute => (hwrites.credit input htype hdispute).mono himp
  revoke := fun now reason id => (hwrites.revoke now reason id).mono himp
  booking := fun id now missing hB => (hwrites.booking id now missing hB).mono himp

theorem consequences (input : SettleInput) (refundId : RefundId) (refund : Refund)
    (hB : B refund.bookingId) : (applySuccessConsequences input refundId refund).Steps step := by
  refine (hwrites.credit _ rfl rfl).bind fun _ => ?_
  refine (steps_applyTicketConsequences hwrites.revoke _ _ _ _).bind fun consequences => ?_
  refine (hwrites.markedRefunded (fun now _ => hwrites.booking _ now _ hB) _ _).bind fun _ => ?_
  refine (hwrites.outbox _ _).bind fun _ => ?_
  split
  · exact (hwrites.outbox _ _).bind fun _ => steps_pure
  · exact steps_pure

theorem settledSucceeded (input : SettleInput) (refundId : RefundId) (refund : Refund)
    (hU : U refundId (.succeed input.now)) (hB : B refund.bookingId) :
    (settleSucceeded input refundId refund).Steps step :=
  (hwrites.updatedById refundId (.succeed input.now) hU).bind fun _ =>
    hwrites.consequences input refundId refund hB

/-- An event advances a refund to its own status only. -/
theorem settled (input : SettleInput)
    (hU : ∀ id u, u.settles = true →
      (∀ status now, u = .advance status now → status = input.incomingStatus) → U id u)
    (hB : ∀ id, B id) (hflag : ∀ orderId, Flagging step orderId)
    (hwebhook : ∀ f missing, (∀ w, (f w).disputeId = w.disputeId) →
      (Prisma.paymentWebhookEvent.update input.webhookId f missing).Steps step) :
    (settleRefundFromVerifiedEvent input).Steps step := by
  refine steps_lockMany.bind fun locked => ?_
  split
  · exact steps_pure
  · refine steps_findOrThrow.bind fun refund => (hwebhook _ _ fun _ => ?_).bind fun _ => ?_
    · rfl
    split
    · exact (hwrites.escalated (hflag _) _ _ _ (hU _ _ rfl (by simp))).bind fun _ => steps_pure
    · split
      · exact steps_pure
      · split
        · exact steps_pure
        · exact (hwrites.escalated (hflag _) _ _ _ (hU _ _ rfl (by simp))).bind
            fun _ => steps_pure
        · exact (hwrites.settledSucceeded _ _ _ (hU _ _ rfl (by simp)) (hB _)).bind
            fun _ => steps_pure
        · exact (hwrites.settledFailed _ _ _ (hU _ _ rfl (by simp))).bind fun _ => steps_pure
        · rename_i status _ _ happly
          refine (hwrites.settledAdvanced _ _ _ (hU _ _ rfl ?_)).bind fun _ => steps_pure
          rintro _ _ ⟨⟩
          exact (decideRefundTransition_apply happly).1

theorem processed (webhookId : WebhookId) (now : Time) (hU : ∀ id u, u.settles = true → U id u)
    (hB : ∀ id, B id) (hflag : ∀ orderId, Flagging step orderId)
    (hwebhook : ∀ f missing, (∀ w, (f w).disputeId = w.disputeId) →
      (Prisma.paymentWebhookEvent.update webhookId f missing).Steps step) :
    Transacting step (processVerifiedRefundRecord webhookId now) := by
  refine ⟨_, rfl, steps_lock.bind fun _ => steps_findOrThrow.bind fun webhook => ?_⟩
  split
  · exact steps_pure
  · refine steps_require.bind fun _ => ?_
    split
    · refine (hwrites.settled _ (fun id u hu _ => hU id u hu) hB hflag hwebhook).bind fun _ =>
        (hwebhook _ _ fun _ => ?_).bind fun _ => steps_pure
      rfl
    · exact steps_abort

end SettlementWrites

/-- A stored event inserts its record. -/
theorem steps_storedRefundEvent {step : Db → Db → Prop} {provider : PaymentProviderName}
    {event : NormalizedRefundWebhookEvent} {fresh : WebhookId} {now : Time}
    (hstoring : Storing .REFUND step) :
    (storeVerifiedFinancialWebhook provider event fresh now).Steps step := by
  refine fun s =>
    ensures_bind.mpr (ensures_findMany.mpr (ensures_bind.mpr (ensures_findMany.mpr ?_)))
  split
  · exact ensures_pure.mpr .refl
  · exact hstoring.ensures ⟨rfl, rfl, rfl, rfl⟩ rfl

end SeatFlow
