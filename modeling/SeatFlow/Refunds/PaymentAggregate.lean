import Mathlib.Algebra.Group.Prod
import Mathlib.Algebra.Group.Int.Defs
import SeatFlow.Relational.DerivedTotal
import SeatFlow.Refunds.ReconciliationService
import SeatFlow.Refunds.SettlementService
import SeatFlow.Refunds.SubmissionService

/-!
# The payment aggregate

`refundedMinor` and `inFlightRefundMinor` of a payment are totals over its
refunds, recomputed by the trigger after every write of a refund. This module
states that as a `DerivedTotal` and shows that every refund transaction follows
the recomputation discipline; what the totals are then worth is a question of
how the transactions are run.
-/

namespace SeatFlow

open Relational Program DerivedTotal

/-! ## §1 The total -/

/-- The child row that a write puts, when it writes a refund. -/
def Write.refundPut : Write → Option (RefundId × Refund)
  | .refund id row => some (id, row)
  | _ => none

/-- The parent row that a write puts, when it writes a payment attempt. -/
def Write.attemptPut : Write → Option (AttemptId × PaymentAttempt)
  | .attempt id row => some (id, row)
  | _ => none

/-- The refunded and the reserved amount of a payment, over its refunds. -/
def paymentAggregate :
    DerivedTotal Db RowKey Write RefundId Refund AttemptId PaymentAttempt (Money × Money) where
  children := Db.refunds
  parents := Db.attempts
  weight attempt r := (r.refundedOf attempt, r.inFlightOf attempt)
  stored row := (row.refundedMinor, row.inFlightRefundMinor)
  childPut := Write.refundPut
  parentPut := Write.attemptPut
  childKey := .refund
  parentKey := .attempt
  children_apply w s := by cases w <;> rfl
  parents_apply w s := by cases w <;> rfl
  key_childPut w k r h := by cases w <;> cases h; rfl
  key_parentPut w p row h := by cases w <;> cases h; rfl

theorem paymentAggregate_total (attempt : AttemptId) (db : Db) :
    paymentAggregate.total attempt db = (db.refundedSum attempt, db.inFlightSum attempt) := by
  show (db.refunds.rows.map fun e => (e.2.refundedOf attempt, e.2.inFlightOf attempt)).sum = _
  rw [Db.refundedSum, Db.inFlightSum, Table.sum, Table.sum]
  induction db.refunds.rows with
  | nil => rfl
  | cons e rows ih => simp [ih]

/-- The stored totals of every payment are the sums over its refunds. -/
theorem paymentAggregate_faithful {db : Db} {attempt : AttemptId} :
    paymentAggregate.Faithful db attempt ↔
      ∀ a, db.attempts.lookup attempt = some a →
        a.refundedMinor = db.refundedSum attempt ∧
          a.inFlightRefundMinor = db.inFlightSum attempt := by
  rw [Faithful, paymentAggregate_total]
  exact forall₂_congr fun a _ => Prod.mk.injEq _ _ _ _ ▸ Iff.rfl

/-- A refund of another payment weighs nothing. -/
theorem Refund.weight_of_ne {r : Refund} {attempt : AttemptId} (h : r.paymentAttemptId ≠ attempt) :
    paymentAggregate.weight attempt r = 0 := by
  simp [paymentAggregate, Refund.refundedOf, Refund.inFlightOf, h]

theorem share_of_lookup {db : Db} {attempt : AttemptId} {id : RefundId} {r : Refund}
    (h : db.refunds.lookup id = some r) :
    paymentAggregate.share attempt db id = paymentAggregate.weight attempt r :=
  Table.contribution_some h

theorem share_of_absent {db : Db} {attempt : AttemptId} {id : RefundId}
    (h : db.refunds.lookup id = none) : paymentAggregate.share attempt db id = 0 :=
  Table.contribution_none h

/-! ## §2 The trigger and the refund writes -/

/-- The trigger recomputes the total of its payment. -/
theorem refreshing_maintainPaymentAggregate (attempt : AttemptId) :
    paymentAggregate.Refreshing (some attempt) (maintainPaymentAggregate attempt) := by
  apply refreshing_recompute
  intro v eff heff
  cases hrow : v.current.attempts.lookup attempt with
  | none =>
      rw [hrow] at heff
      cases heff
      exact ⟨by simp [Effect.reply], by simp [Effect.reply],
        by simp [Effect.reply, paymentAggregate, hrow]⟩
  | some row =>
      simp only [hrow, Except.bind_unit_eq_ok] at heff
      obtain ⟨-, ⟨⟩⟩ := heff
      refine ⟨by simp [paymentAggregate, Write.refundPut], ?_, ?_⟩
      · intro w hw
        rw [List.mem_singleton] at hw
        subst hw
        exact ⟨_, rfl, (paymentAggregate_total attempt v.snapshot).symm⟩
      · simp [paymentAggregate, hrow]

theorem refreshing_defer (trigger : DeferredTrigger) :
    paymentAggregate.Refreshing none (defer trigger) := by
  apply refreshing_perform
  rintro v eff ⟨⟩
  exact paymentAggregate.touches_of_unrelated
    (by simp [paymentAggregate, Write.refundPut, Write.attemptPut])

theorem refreshing_runInTransaction {α : Type} {body : Sql α}
    (h : paymentAggregate.Refreshing none body) :
    paymentAggregate.Refreshing none (runInTransaction body) := by
  refine h.bind fun result => (refreshing_perform ?_).bind fun _ => refreshing_pure
  intro v eff heff
  simp only [Except.bind_unit_eq_ok] at heff
  obtain ⟨-, ⟨⟩⟩ := heff
  exact paymentAggregate.touches_of_unrelated
    (by simp [paymentAggregate, Write.refundPut, Write.attemptPut])

/-- One written refund row moves at most the total of its own payment. -/
theorem touches_refund {s : Db} {id : RefundId} {row : Refund} {pending : Option AttemptId}
    (h : ∀ attempt, pending ≠ some attempt →
      paymentAggregate.weight attempt row = paymentAggregate.share attempt s id) :
    paymentAggregate.Touches pending s [.refund id row] := by
  constructor
  · intro w hw k r hput attempt hpending
    rw [List.mem_singleton] at hw
    subst hw
    cases hput
    exact h attempt hpending
  · intro w hw p r hput
    rw [List.mem_singleton] at hw
    subst hw
    cases hput

theorem refreshing_insertRefund (id : RefundId) (row : Refund) :
    paymentAggregate.Refreshing none (insertRefund id row) := by
  intro v eff heff
  simp only [Except.bind_unit_eq_ok, ensure_eq_ok] at heff
  obtain ⟨habsent, -, ⟨⟩⟩ := heff
  refine ⟨some row.paymentAttemptId, touches_refund fun attempt hother => ?_,
    (refreshing_maintainPaymentAggregate _).bind fun _ => refreshing_defer _⟩
  rw [share_of_absent habsent, Refund.weight_of_ne]
  rintro rfl
  exact hother rfl

theorem refreshing_updateRefund (id : RefundId) (p : Refund → Bool) (f : Refund → Refund) :
    paymentAggregate.Refreshing none (updateRefund id p f) := by
  intro v eff heff
  dsimp only at heff
  split at heff
  · cases heff
    exact ⟨none, paymentAggregate.touches_nil none v.current, rfl⟩
  · split at heff
    · cases heff
      exact ⟨none, paymentAggregate.touches_nil none v.current, rfl⟩
    · rename_i r hfilter
      simp only [Except.bind_unit_eq_ok] at heff
      obtain ⟨hvalid, ⟨⟩⟩ := heff
      have hlook : v.current.refunds.lookup id = some r := (Option.filter_eq_some_iff.mp hfilter).1
      have hsame : (f r).paymentAttemptId = r.paymentAttemptId :=
        (Refund.protected_of_validate hvalid).identity.2.2.1
      refine ⟨some (f r).paymentAttemptId, touches_refund fun attempt hother => ?_,
        (refreshing_maintainPaymentAggregate _).bind fun _ =>
          (refreshing_defer _).bind fun _ => refreshing_pure⟩
      have hne : (f r).paymentAttemptId ≠ attempt := by
        rintro rfl
        exact hother rfl
      rw [share_of_lookup hlook, Refund.weight_of_ne hne, Refund.weight_of_ne (hsame ▸ hne)]

theorem refreshing_updateRefundById (id : RefundId) (f : Refund → Refund) :
    paymentAggregate.Refreshing none (updateRefundById id f) :=
  (refreshing_updateRefund id _ f).bind fun _ => refreshing_orThrow

/-- The seats of a refund do not weigh. -/
theorem refreshing_insertRefundSeats (id : RefundId) (seats : List RefundSeat) :
    paymentAggregate.Refreshing none (insertRefundSeats id seats) := by
  refine Refreshing.bind (Refreshing.bind (refreshing_perform ?_) fun _ => refreshing_orThrow)
    fun _ => refreshing_defer _
  intro v eff heff
  split at heff
  · cases heff
    exact paymentAggregate.touches_nil none v.current
  · split at heff
    · cases heff
      exact paymentAggregate.touches_nil none v.current
    · rename_i r hfilter
      simp only [Except.bind_unit_eq_ok] at heff
      obtain ⟨-, ⟨⟩⟩ := heff
      have hlook : v.current.refunds.lookup id = some r := (Option.filter_eq_some_iff.mp hfilter).1
      refine touches_refund fun attempt _ => ?_
      rw [share_of_lookup hlook]
      rfl

/-! ## §3 The refund transactions -/

theorem unrelated_financialLedgerEntry : paymentAggregate.Unrelated Prisma.financialLedgerEntry :=
  fun _ _ => ⟨rfl, rfl⟩

theorem unrelated_financialOutbox : paymentAggregate.Unrelated Prisma.financialOutbox :=
  fun _ _ => ⟨rfl, rfl⟩

theorem unrelated_refundAttempt : paymentAggregate.Unrelated Prisma.refundAttempt :=
  fun _ _ => ⟨rfl, rfl⟩

theorem unrelated_ticket : paymentAggregate.Unrelated Prisma.ticket :=
  fun _ _ => ⟨rfl, rfl⟩

theorem unrelated_ticketCredential : paymentAggregate.Unrelated Prisma.ticketCredential :=
  fun _ _ => ⟨rfl, rfl⟩

theorem unrelated_booking : paymentAggregate.Unrelated Prisma.booking :=
  fun _ _ => ⟨rfl, rfl⟩

theorem unrelated_checkoutOrder : paymentAggregate.Unrelated Prisma.checkoutOrder :=
  fun _ _ => ⟨rfl, rfl⟩

theorem unrelated_paymentWebhookEvent : paymentAggregate.Unrelated Prisma.paymentWebhookEvent :=
  fun _ _ => ⟨rfl, rfl⟩

theorem refreshing_appendLedgerEntry (input : AppendLedgerEntryInput) :
    paymentAggregate.Refreshing none (appendLedgerEntry input) :=
  refreshing_require.bind fun _ => unrelated_financialLedgerEntry.insertNew

theorem refreshing_enqueueFinancialEvent (key : FinancialEventKey) (event : FinancialEvent) :
    paymentAggregate.Refreshing none (enqueueFinancialEvent key event) :=
  unrelated_financialOutbox.insertNew

theorem refreshing_createRefund (actor : RefundActor) (input : RefundRequestInput)
    (fresh : FreshRefund) (now : Time) (bookingId : BookingId) (booking : Booking)
    (order : CheckoutOrder) (attemptId : AttemptId) (attempt capacityRow : PaymentAttempt)
    (initiator : RefundInitiator) (requiresApproval : Bool) :
    paymentAggregate.Refreshing none
      (createRefund actor input fresh now bookingId booking order attemptId attempt capacityRow
        initiator requiresApproval) := by
  unfold createRefund
  dsimp only
  split
  · exact refreshing_abort
  · refine refreshing_read.bind fun refunded => ?_
    split
    · exact refreshing_abort
    · refine (refreshing_insertRefund _ _).bind fun _ => ?_
      split
      · exact (refreshing_insertRefundSeats _ _).bind fun _ =>
          (refreshing_appendLedgerEntry _).bind fun _ =>
            (refreshing_enqueueFinancialEvent _ _).bind fun _ => refreshing_pure
      · exact (refreshing_appendLedgerEntry _).bind fun _ =>
          (refreshing_enqueueFinancialEvent _ _).bind fun _ => refreshing_pure

theorem refreshing_requestRefund (actor : RefundActor) (input : RefundRequestInput)
    (fresh : FreshRefund) (now : Time) :
    paymentAggregate.Refreshing none (requestRefund actor input fresh now) := by
  apply refreshing_runInTransaction
  refine refreshing_findMany.bind fun bookings => refreshing_orThrow.bind fun found => ?_
  refine refreshing_findOrThrow.bind fun order => refreshing_findOrThrow.bind fun user => ?_
  split
  · exact refreshing_abort
  · refine refreshing_findMany.bind fun captured => refreshing_orThrow.bind fun payment => ?_
    refine refreshing_lock.bind fun locked => refreshing_orThrow.bind fun capacityRow => ?_
    refine refreshing_findMany.bind fun existing => ?_
    split
    · exact refreshing_pure
    · exact refreshing_createRefund _ _ _ _ _ _ _ _ _ _ _ _

theorem refreshing_claimRefundForSubmission (refundId : RefundId) (now : Time) :
    paymentAggregate.Refreshing none (claimRefundForSubmission refundId now) := by
  apply refreshing_runInTransaction
  refine refreshing_lockSkip.bind fun row => ?_
  split
  · exact refreshing_pure
  · refine refreshing_findOrThrow.bind fun refund => refreshing_findOrThrow.bind fun attempt => ?_
    refine refreshing_read.bind fun latest => ?_
    split
    · exact refreshing_pure
    · exact (refreshing_updateRefundById _ _).bind fun _ =>
        unrelated_refundAttempt.insert.bind fun _ => refreshing_pure

theorem refreshing_completeAttempt (refundId : RefundId) (attemptNumber : Nat)
    (status : RefundAttemptStatus) (providerRequestReference : Option ProviderRef)
    (safeFailureCode : Option Code) (now : Time) :
    paymentAggregate.Refreshing none
      (completeAttempt refundId attemptNumber status providerRequestReference
        safeFailureCode now) :=
  unrelated_refundAttempt.updateWhen.bind fun _ => refreshing_pure

theorem refreshing_markSubmissionAmbiguous (claimed : ClaimedRefund) (now : Time) :
    paymentAggregate.Refreshing none (markSubmissionAmbiguous claimed now) :=
  refreshing_runInTransaction <| (refreshing_updateRefund _ _ _).bind fun _ =>
    (refreshing_enqueueFinancialEvent _ _).bind fun _ => refreshing_pure

theorem refreshing_recordSubmission (claimed : ClaimedRefund) (provider : PaymentProviderName)
    (providerRefundId : ProviderRef) (now : Time) :
    paymentAggregate.Refreshing none (recordSubmission claimed provider providerRefundId now) :=
  refreshing_runInTransaction <| (refreshing_updateRefund _ _ _).bind fun _ =>
    (refreshing_appendLedgerEntry _).bind fun _ =>
      (refreshing_enqueueFinancialEvent _ _).bind fun _ => refreshing_pure

theorem refreshing_failRefund (refundId : RefundId) (safeCode : Code) (now : Time) :
    paymentAggregate.Refreshing none (failRefund refundId safeCode now) := by
  apply refreshing_runInTransaction
  refine refreshing_findOrThrow.bind fun refund => ?_
  split
  · exact refreshing_pure
  · exact (refreshing_updateRefundById _ _).bind fun _ =>
      (refreshing_appendLedgerEntry _).bind fun _ =>
        (refreshing_enqueueFinancialEvent _ _).bind fun _ => refreshing_pure

theorem refreshing_adoptExternalRefund (refundId : RefundId) (providerRefundId : ProviderRef) :
    paymentAggregate.Refreshing none (adoptExternalRefund refundId providerRefundId) :=
  refreshing_runInTransaction <| (refreshing_updateRefund _ _ _).bind fun _ => refreshing_pure

theorem refreshing_revokeAdmission (now : Time) (safeReason : Code) (ticketId : TicketId) :
    paymentAggregate.Refreshing none (revokeAdmission now safeReason ticketId) :=
  unrelated_ticketCredential.updateMany.bind fun _ => unrelated_ticket.update.bind fun _ =>
    refreshing_pure

theorem refreshing_revokeRefundedTickets (now : Time) (tickets : List (TicketId × Ticket)) :
    paymentAggregate.Refreshing none (revokeRefundedTickets now tickets) := by
  induction tickets with
  | nil => exact refreshing_pure
  | cons ticket tickets ih =>
      refine Refreshing.bind ?_ fun revoked => ih.bind fun rest => refreshing_pure
      unfold revokeRefundedTicket
      split
      · exact (refreshing_revokeAdmission _ _ _).bind fun _ => refreshing_pure
      · exact refreshing_pure

theorem refreshing_applyTicketConsequences (refundId : RefundId) (bookingId : BookingId)
    (scope : RefundScope) (now : Time) :
    paymentAggregate.Refreshing none (applyTicketConsequences refundId bookingId scope now) :=
  refreshing_findOrThrow.bind fun _ => refreshing_findMany.bind fun _ =>
    (refreshing_revokeRefundedTickets _ _).bind fun _ => refreshing_pure

theorem refreshing_maybeMarkBookingFullyRefunded (bookingId : BookingId)
    (paymentAttemptId : AttemptId) (now : Time) :
    paymentAggregate.Refreshing none
      (maybeMarkBookingFullyRefunded bookingId paymentAttemptId now) := by
  refine refreshing_findOrThrow.bind fun attempt => ?_
  split
  · exact refreshing_pure
  · refine refreshing_findOrThrow.bind fun booking => ?_
    split
    · exact refreshing_pure
    · exact unrelated_booking.update.bind fun _ => (refreshing_defer _).bind fun _ =>
        refreshing_pure

theorem refreshing_markRefundUnderReview (refundId : RefundId) (refund : Refund) (safeCode : Code)
    (now : Time) :
    paymentAggregate.Refreshing none (markRefundUnderReview refundId refund safeCode now) :=
  (refreshing_updateRefundById _ _).bind fun _ => unrelated_checkoutOrder.update.bind fun _ =>
    (refreshing_defer _).bind fun _ => (refreshing_enqueueFinancialEvent _ _).bind fun _ =>
      refreshing_pure

theorem refreshing_settleSucceeded (input : SettleInput) (refundId : RefundId) (refund : Refund) :
    paymentAggregate.Refreshing none (settleSucceeded input refundId refund) := by
  refine (refreshing_updateRefundById _ _).bind fun _ => ?_
  refine (refreshing_appendLedgerEntry _).bind fun _ => ?_
  refine (refreshing_applyTicketConsequences _ _ _ _).bind fun consequences => ?_
  refine (refreshing_maybeMarkBookingFullyRefunded _ _ _).bind fun _ => ?_
  refine (refreshing_enqueueFinancialEvent _ _).bind fun _ => ?_
  split
  · exact (refreshing_enqueueFinancialEvent _ _).bind fun _ => refreshing_pure
  · exact refreshing_pure

theorem refreshing_settleFailed (input : SettleInput) (refundId : RefundId) (refund : Refund) :
    paymentAggregate.Refreshing none (settleFailed input refundId refund) :=
  (refreshing_updateRefundById _ _).bind fun _ => (refreshing_appendLedgerEntry _).bind fun _ =>
    (refreshing_enqueueFinancialEvent _ _).bind fun _ => refreshing_pure

theorem refreshing_settleRefundFromVerifiedEvent (input : SettleInput) :
    paymentAggregate.Refreshing none (settleRefundFromVerifiedEvent input) := by
  refine refreshing_lockMany.bind fun locked => ?_
  split
  · exact refreshing_pure
  · refine refreshing_findOrThrow.bind fun refund => ?_
    refine unrelated_paymentWebhookEvent.update.bind fun _ => ?_
    split
    · exact (refreshing_markRefundUnderReview _ _ _ _).bind fun _ => refreshing_pure
    · split
      · exact refreshing_pure
      · split
        · exact refreshing_pure
        · exact (refreshing_markRefundUnderReview _ _ _ _).bind fun _ => refreshing_pure
        · exact (refreshing_settleSucceeded _ _ _).bind fun _ => refreshing_pure
        · exact (refreshing_settleFailed _ _ _).bind fun _ => refreshing_pure
        · exact ((refreshing_updateRefundById _ _).bind fun _ => refreshing_pure).bind fun _ =>
            refreshing_pure

theorem refreshing_storeVerifiedFinancialWebhook (provider : PaymentProviderName)
    (event : NormalizedRefundWebhookEvent) (fresh : WebhookId) (now : Time) :
    paymentAggregate.Refreshing none
      (storeVerifiedFinancialWebhook provider event fresh now) := by
  refine refreshing_findMany.bind fun attempts => refreshing_findMany.bind fun existing => ?_
  split
  · exact refreshing_pure
  · exact unrelated_paymentWebhookEvent.insert.bind fun _ => refreshing_pure

theorem refreshing_processVerifiedRefundRecord (webhookId : WebhookId) (now : Time) :
    paymentAggregate.Refreshing none (processVerifiedRefundRecord webhookId now) := by
  apply refreshing_runInTransaction
  refine refreshing_lock.bind fun _ => refreshing_findOrThrow.bind fun webhook => ?_
  split
  · exact refreshing_pure
  · refine refreshing_require.bind fun _ => ?_
    split
    · exact (refreshing_settleRefundFromVerifiedEvent _).bind fun _ =>
        unrelated_paymentWebhookEvent.update.bind fun _ => refreshing_pure
    · exact refreshing_abort

/-- The refund transactions, with their inputs. -/
inductive RefundTransaction
  | requestRefund (actor : RefundActor) (input : RefundRequestInput) (fresh : FreshRefund)
      (now : Time)
  | claimRefundForSubmission (refundId : RefundId) (now : Time)
  | completeAttempt (refundId : RefundId) (attemptNumber : Nat) (status : RefundAttemptStatus)
      (providerRequestReference : Option ProviderRef) (safeFailureCode : Option Code) (now : Time)
  | markSubmissionAmbiguous (claimed : ClaimedRefund) (now : Time)
  | recordSubmission (claimed : ClaimedRefund) (provider : PaymentProviderName)
      (providerRefundId : ProviderRef) (now : Time)
  | failRefund (refundId : RefundId) (safeCode : Code) (now : Time)
  | adoptExternalRefund (refundId : RefundId) (providerRefundId : ProviderRef)
  | settleRefundFromVerifiedEvent (input : SettleInput)
  | storeVerifiedFinancialWebhook (provider : PaymentProviderName)
      (event : NormalizedRefundWebhookEvent) (fresh : WebhookId) (now : Time)
  | processVerifiedRefundRecord (webhookId : WebhookId) (now : Time)

/-- The text of a transaction, its result dropped. -/
def RefundTransaction.program : RefundTransaction → Sql Unit
  | .requestRefund actor input fresh now => do
      let _ ← SeatFlow.requestRefund actor input fresh now
  | .claimRefundForSubmission refundId now => do
      let _ ← SeatFlow.claimRefundForSubmission refundId now
  | .completeAttempt refundId attemptNumber status reference code now =>
      SeatFlow.completeAttempt refundId attemptNumber status reference code now
  | .markSubmissionAmbiguous claimed now => SeatFlow.markSubmissionAmbiguous claimed now
  | .recordSubmission claimed provider providerRefundId now =>
      SeatFlow.recordSubmission claimed provider providerRefundId now
  | .failRefund refundId safeCode now => SeatFlow.failRefund refundId safeCode now
  | .adoptExternalRefund refundId providerRefundId =>
      SeatFlow.adoptExternalRefund refundId providerRefundId
  | .settleRefundFromVerifiedEvent input => do
      let _ ← runInTransaction (SeatFlow.settleRefundFromVerifiedEvent input)
  | .storeVerifiedFinancialWebhook provider event fresh now => do
      let _ ← SeatFlow.storeVerifiedFinancialWebhook provider event fresh now
  | .processVerifiedRefundRecord webhookId now => do
      let _ ← SeatFlow.processVerifiedRefundRecord webhookId now

/-- **Every refund transaction recomputes what it moves.** -/
theorem RefundTransaction.refreshing (t : RefundTransaction) :
    paymentAggregate.Refreshing none t.program := by
  cases t with
  | requestRefund => exact (refreshing_requestRefund _ _ _ _).bind fun _ => refreshing_pure
  | claimRefundForSubmission =>
      exact (refreshing_claimRefundForSubmission _ _).bind fun _ => refreshing_pure
  | completeAttempt => exact refreshing_completeAttempt _ _ _ _ _ _
  | markSubmissionAmbiguous => exact refreshing_markSubmissionAmbiguous _ _
  | recordSubmission => exact refreshing_recordSubmission _ _ _ _
  | failRefund => exact refreshing_failRefund _ _ _
  | adoptExternalRefund => exact refreshing_adoptExternalRefund _ _
  | settleRefundFromVerifiedEvent =>
      exact (refreshing_runInTransaction (refreshing_settleRefundFromVerifiedEvent _)).bind
        fun _ => refreshing_pure
  | storeVerifiedFinancialWebhook =>
      exact (refreshing_storeVerifiedFinancialWebhook _ _ _ _).bind fun _ => refreshing_pure
  | processVerifiedRefundRecord =>
      exact (refreshing_processVerifiedRefundRecord _ _).bind fun _ => refreshing_pure

end SeatFlow
