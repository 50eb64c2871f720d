import SeatFlow.Ledger.Entries
import SeatFlow.Refunds.Lifecycle

/-!
# What refund writes leave alone

Refund transactions touch most tables in few places. The webhook records change
when an event is stored and when a processed record is linked and closed, the
orders when a refund is escalated, the settling ledger entries when a refund
succeeds, and the set of refunds when one is requested. Everything else leaves
each of these parts of the database as it was.
-/

namespace SeatFlow

open Relational Program Entity

/-! ## §1 Parts and writes -/

/-- A part of the database that no refund transaction touches in its bookkeeping: the
submission log, the outbox, payment totals, queued triggers and ledger entries that
record no money moving. -/
structure BookkeepingFrame {γ : Type} (part : Db → γ) : Prop where
  submissions : ∀ s refundAttempts, part { s with refundAttempts := refundAttempts } = part s
  outbox : ∀ s events, part { s with financialOutbox := events } = part s
  totals : ∀ s attempts, part { s with attempts := attempts } = part s
  queue : ∀ s deferred, part { s with deferred := deferred } = part s
  ledger : ∀ s key row, isSettlingEntryType key.entryType = false →
    part { s with ledger := s.ledger.insert key row } = part s

/-- A part of the database that bookkeeping and updates of refunds leave alone. -/
structure RefundFrame {γ : Type} (part : Db → γ) : Prop extends BookkeepingFrame part where
  refunds : ∀ s id r row, s.refunds.lookup id = some r →
    part { s with refunds := s.refunds.insert id row } = part s

/-- The webhook records, and the ledger entries that record money moving. -/
def Db.settledRecords (db : Db) :
    Table WebhookId PaymentWebhookEvent × (LedgerKey → Option FinancialLedgerEntry) :=
  (db.webhooks, fun key => if isSettlingEntryType key.entryType then db.ledger.lookup key else none)

/-- Which refunds there are. -/
def Db.refundIds (db : Db) (id : RefundId) : Bool :=
  (db.refunds.lookup id).isSome

theorem settledRecords_frame : RefundFrame Db.settledRecords where
  refunds := fun _ _ _ _ _ => rfl
  submissions := fun _ _ => rfl
  outbox := fun _ _ => rfl
  totals := fun _ _ => rfl
  queue := fun _ _ => rfl
  ledger := by
    intro s key row h
    refine Prod.ext rfl (funext fun key' => ?_)
    show (if isSettlingEntryType key'.entryType = true then (s.ledger.insert key row).lookup key'
        else none)
      = if isSettlingEntryType key'.entryType = true then s.ledger.lookup key' else none
    split
    · rename_i hsettling
      rw [AList.lookup_insert_ne]
      rintro rfl
      exact absurd (h.symm.trans hsettling) (by simp)
    · rfl

theorem refunds_frame : BookkeepingFrame Db.refunds :=
  ⟨fun _ _ => rfl, fun _ _ => rfl, fun _ _ => rfl, fun _ _ => rfl, fun _ _ _ _ => rfl⟩

theorem webhooks_frame : RefundFrame Db.webhooks :=
  ⟨⟨fun _ _ => rfl, fun _ _ => rfl, fun _ _ => rfl, fun _ _ => rfl, fun _ _ _ _ => rfl⟩,
    fun _ _ _ _ _ => rfl⟩

theorem orders_frame : RefundFrame Db.orders :=
  ⟨⟨fun _ _ => rfl, fun _ _ => rfl, fun _ _ => rfl, fun _ _ => rfl, fun _ _ _ _ => rfl⟩,
    fun _ _ _ _ _ => rfl⟩

theorem refundIds_frame : RefundFrame Db.refundIds where
  refunds := by
    intro s id r row hr
    funext id'
    show ((s.refunds.insert id row).lookup id').isSome = (s.refunds.lookup id').isSome
    rw [Table.lookup_insert_ite]
    split
    · rename_i hid
      rw [hid, hr]
      rfl
    · rfl
  submissions := fun _ _ => rfl
  outbox := fun _ _ => rfl
  totals := fun _ _ => rfl
  queue := fun _ _ => rfl
  ledger := fun _ _ _ _ => rfl

section Part

variable {γ : Type} {part : Db → γ}

theorem framed_defer (hqueue : ∀ s deferred, part { s with deferred := deferred } = part s)
    (trigger : DeferredTrigger) : (defer trigger).Steps (Framing part) := by
  intro s
  refine ensures_perform.mpr ?_
  rintro eff ⟨⟩
  exact .single (hqueue s _)

section Bookkeeping

variable (hpart : BookkeepingFrame part)

include hpart

theorem framed_maintainPaymentAggregate (attempt : AttemptId) :
    (maintainPaymentAggregate attempt).Steps (Framing part) := by
  intro s
  refine ensures_perform.mpr fun eff heff => ?_
  dsimp only [View.alone] at heff
  split at heff
  · cases heff
    exact .refl
  · simp only [Except.bind_unit_eq_ok] at heff
    obtain ⟨-, ⟨⟩⟩ := heff
    exact .single (hpart.totals s _)

/-- An entry that records no money moving. -/
theorem framed_appendLedgerEntry {input : AppendLedgerEntryInput}
    (h : isSettlingEntryType input.entryType = false) :
    (appendLedgerEntry input).Steps (Framing part) :=
  steps_require.bind fun _ => steps_insertNew fun s _ _ => hpart.ledger s _ _ h

theorem framed_enqueueFinancialEvent (key : FinancialEventKey) (event : FinancialEvent) :
    (enqueueFinancialEvent key event).Steps (Framing part) :=
  steps_insertNew fun s _ _ => hpart.outbox s _

/-- A new refund, where its row is outside the part. -/
theorem framed_insertRefund (hinsert : Prisma.refund.Free (Framing part)) (id : RefundId)
    (row : Refund) : (insertRefund id row).Steps (Framing part) :=
  hinsert.insert.bind fun _ => (framed_maintainPaymentAggregate hpart _).bind fun _ =>
    framed_defer hpart.queue _

end Bookkeeping

variable (hpart : RefundFrame part)

include hpart

theorem framed_updateRefund (id : RefundId) (p : Refund → Bool) (f : Refund → Refund) :
    (updateRefund id p f).Steps (Framing part) := by
  refine (steps_updateWhen fun s r hlook _ _ => hpart.refunds s id r _ hlook).bind fun updated => ?_
  split
  · exact steps_pure
  · exact (framed_maintainPaymentAggregate hpart.1 _).bind fun _ =>
      (framed_defer hpart.queue _).bind fun _ => steps_pure

theorem framed_updateRefundById (id : RefundId) (f : Refund → Refund) :
    (updateRefundById id f).Steps (Framing part) :=
  (framed_updateRefund hpart id _ f).bind fun _ => steps_orThrow

/-- The bookkeeping of a refund transaction leaves the part alone, whatever the update. -/
theorem RefundFrame.writes : RefundWrites (fun _ _ => True) (Framing part) where
  updated := fun id p _ _ => framed_updateRefund hpart id p _
  seats := fun id _ => (steps_update fun s r hlook _ => hpart.refunds s id r _ hlook).bind fun _ =>
    framed_defer hpart.queue _
  submission := fun _ _ => steps_insert fun s _ _ => hpart.submissions s _
  completion := fun _ _ _ => steps_updateWhen fun s _ _ _ _ => hpart.submissions s _
  ledger := fun _ hentry => framed_appendLedgerEntry hpart.1 hentry
  outbox := framed_enqueueFinancialEvent hpart.1
  queue := framed_defer hpart.queue

/-- What follows from a success leaves the part alone that is outside its entry, the tickets
and the bookings. -/
theorem RefundFrame.settlementWrites (hcrediting : Crediting (Framing part))
    (hrevoking : Revoking (Framing part)) (hbooking : Prisma.booking.Free (Framing part)) :
    SettlementWrites (fun _ _ => True) (fun _ => True) (Framing part) where
  toRefundWrites := hpart.writes
  credit := hcrediting
  revoke := hrevoking
  booking := fun _ _ _ _ => hbooking.update

theorem Transacting.framed {α : Type} {p : Sql α} (h : Transacting (Framing part) p) :
    p.Steps (Framing part) :=
  h.steps (committing_of_queue fun s => hpart.queue s _)

/-! ## §2 Requests and submissions -/

theorem framed_requestRefund (hinsert : Prisma.refund.Free (Framing part)) (actor : RefundActor)
    (input : RefundRequestInput) (fresh : FreshRefund) (now : Time) :
    (requestRefund actor input fresh now).Steps (Framing part) :=
  (hpart.writes.requested _ _ _ _ fun id row _ _ =>
    framed_insertRefund hpart.1 hinsert id row).framed hpart

theorem framed_claimRefundForSubmission (refundId : RefundId) (now : Time) :
    (claimRefundForSubmission refundId now).Steps (Framing part) :=
  (hpart.writes.claimed refundId now fun _ => trivial).framed hpart

theorem framed_completeAttempt (refundId : RefundId) (attemptNumber : Nat)
    (status : RefundAttemptStatus) (providerRequestReference : Option ProviderRef)
    (safeFailureCode : Option Code) (now : Time) :
    (completeAttempt refundId attemptNumber status providerRequestReference safeFailureCode
      now).Steps (Framing part) :=
  hpart.writes.attemptCompleted _ _ _ _ _ _

theorem framed_markSubmissionAmbiguous (claimed : ClaimedRefund) (now : Time) :
    (markSubmissionAmbiguous claimed now).Steps (Framing part) :=
  (hpart.writes.markedAmbiguous claimed now trivial).framed hpart

theorem framed_recordSubmission (claimed : ClaimedRefund) (provider : PaymentProviderName)
    (providerRefundId : ProviderRef) (now : Time) :
    (recordSubmission claimed provider providerRefundId now).Steps (Framing part) :=
  (hpart.writes.recorded claimed provider providerRefundId now trivial).framed hpart

theorem framed_failRefund (refundId : RefundId) (safeCode : Code) (now : Time) :
    (failRefund refundId safeCode now).Steps (Framing part) :=
  (hpart.writes.failed refundId safeCode now trivial).framed hpart

theorem framed_adoptExternalRefund (refundId : RefundId) (providerRefundId : ProviderRef) :
    (adoptExternalRefund refundId providerRefundId).Steps (Framing part) :=
  (hpart.writes.adopted refundId providerRefundId trivial).framed hpart

end Part

end SeatFlow
