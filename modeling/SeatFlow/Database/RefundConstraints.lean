import SeatFlow.Database.TicketConstraints

/-!
# Constraints of the refund tables

Refunds, refunded seats, submission attempts, disputes, the ledger and tickets, and the
deferred triggers that a transaction runs when it commits. The over-refund guard
(`Refund_maintain_payment_aggregate`) is an `UPDATE` statement of its own and
therefore a program: `maintainPaymentAggregate`.
-/

namespace SeatFlow

open Relational Program

/-! ## §1 Refunds -/

/-- `REFUND_IN_FLIGHT_STATUSES`: the statuses whose money is still reserved. -/
def isInFlightRefundStatus : RefundStatus → Bool
  | .REQUESTED | .SUBMITTING | .PROCESSING | .REQUIRES_REVIEW => true
  | .SUCCEEDED | .FAILED | .CANCELLED => false

/-- `REFUND_TERMINAL_STATUSES`. -/
def isTerminalRefundStatus : RefundStatus → Bool
  | .SUCCEEDED | .FAILED | .CANCELLED => true
  | .REQUESTED | .SUBMITTING | .PROCESSING | .REQUIRES_REVIEW => false

/-- `Refund_time_order_check`. -/
def Refund.timeOrderCheck (r : Refund) : Bool :=
  r.submittedAt.all (r.requestedAt ≤ ·) && r.succeededAt.all (r.requestedAt ≤ ·) &&
    r.failedAt.all (r.requestedAt ≤ ·) && r.cancelledAt.all (r.requestedAt ≤ ·) &&
    r.reviewRequiredAt.all (r.requestedAt ≤ ·)

/-- `Refund_outcome_exclusivity_check`. -/
def Refund.outcomeExclusivityCheck (r : Refund) : Bool :=
  r.succeededAt.isSome.toNat + r.failedAt.isSome.toNat + r.cancelledAt.isSome.toNat ≤ 1

/-- `Refund_lifecycle_check`. -/
def Refund.lifecycleCheck (r : Refund) : Bool :=
  match r.status with
  | .REQUESTED =>
      r.submittedAt.isNone && r.succeededAt.isNone && r.failedAt.isNone && r.cancelledAt.isNone &&
        r.reviewRequiredAt.isNone
  | .SUBMITTING | .PROCESSING =>
      r.submittedAt.isSome && r.succeededAt.isNone && r.failedAt.isNone && r.cancelledAt.isNone &&
        r.reviewRequiredAt.isNone
  | .SUCCEEDED =>
      r.succeededAt.isSome && r.failedAt.isNone && r.cancelledAt.isNone &&
        r.reviewRequiredAt.isNone && r.safeFailureCode.isNone
  | .FAILED =>
      r.failedAt.isSome && r.succeededAt.isNone && r.cancelledAt.isNone &&
        r.reviewRequiredAt.isNone && r.safeFailureCode.isSome
  | .CANCELLED =>
      r.cancelledAt.isSome && r.succeededAt.isNone && r.failedAt.isNone && r.reviewRequiredAt.isNone
  | .REQUIRES_REVIEW => r.reviewRequiredAt.isSome && r.safeFailureCode.isSome

/-- `Refund_enforce_ancestry`. -/
def Refund.enforceAncestry (db : Db) (new : Refund) : Except Failure Unit := do
  check ((db.attempts.lookup new.paymentAttemptId).map (·.orderId) = some new.orderId ∧
      (db.bookings.lookup new.bookingId).map (·.orderId) = some new.orderId)
    "Refund ancestry must match one order, payment attempt, and booking"
  check ((db.attempts.lookup new.paymentAttemptId).map (·.status) = some .SUCCEEDED)
    "A refund requires a successfully captured payment"
  check ((db.attempts.lookup new.paymentAttemptId).map (·.currency) = some new.currency)
    "Refund currency must equal the original payment currency"
  check ((db.attempts.lookup new.paymentAttemptId).map (·.provider) = some new.provider)
    "Refund provider must equal the original payment provider"
  check (∀ a ∈ db.attempts.lookup new.paymentAttemptId, new.requestedAmountMinor ≤ a.amountMinor)
    "Refund cannot exceed the captured payment amount"

/-- The columns that `Refund_protect_identity` freezes are unchanged. -/
def Refund.SameIdentity (old new : Refund) : Prop :=
  new.publicReference = old.publicReference ∧ new.orderId = old.orderId ∧
    new.paymentAttemptId = old.paymentAttemptId ∧ new.bookingId = old.bookingId ∧
    new.requestedByUserId = old.requestedByUserId ∧ new.initiator = old.initiator ∧
    new.scope = old.scope ∧ new.requestedAmountMinor = old.requestedAmountMinor ∧
    new.currency = old.currency ∧ new.provider = old.provider ∧
    new.providerIdempotencyKey = old.providerIdempotencyKey ∧ new.requestedAt = old.requestedAt

instance (old new : Refund) : Decidable (Refund.SameIdentity old new) :=
  inferInstanceAs (Decidable (_ ∧ _))

/-- A write-once column. -/
def writeOnce (old new : Option Time) : Prop :=
  old.isSome → new = old

instance (old new : Option Time) : Decidable (writeOnce old new) :=
  inferInstanceAs (Decidable (_ → _))

def Refund.protectIdentity (old new : Refund) : Except Failure Unit := do
  check (Refund.SameIdentity old new) "Refund identity and financial snapshot are immutable"
  check (old.providerRefundId.isSome → new.providerRefundId = old.providerRefundId)
    "Provider refund identity is immutable once attached"
  check (writeOnce old.succeededAt new.succeededAt ∧ writeOnce old.failedAt new.failedAt ∧
      writeOnce old.cancelledAt new.cancelledAt ∧ writeOnce old.submittedAt new.submittedAt)
    "Refund outcome timestamps are immutable once set"
  check (old.status = .REQUIRES_REVIEW → new.status = .REQUIRES_REVIEW)
    "A refund under review cannot leave review automatically"
  check (isTerminalRefundStatus old.status →
      new.status = old.status ∨ new.status = .REQUIRES_REVIEW)
    "A terminal refund result is immutable"

def Refund.uniqueCheck (db : Db) (id : RefundId) (new : Refund) : Except Failure Unit := do
  check (db.refunds.any (fun k r => k != id && r.publicReference == new.publicReference) = false)
    "Refund_publicReference_key"
  check (db.refunds.any (fun k r =>
      k != id && r.providerIdempotencyKey == new.providerIdempotencyKey) = false)
    "Refund_providerIdempotencyKey_key"
  check (new.providerRefundId.isSome → db.refunds.any (fun k r => k != id &&
      r.provider == new.provider && r.providerRefundId == new.providerRefundId) = false)
    "Refund_provider_providerRefundId_key"

def Refund.validate (db : Db) (id : RefundId) (old : Option Refund) (new : Refund) :
    Except Failure Unit := do
  check (0 < new.requestedAmountMinor) "Refund_amount_check"
  check (new.safeFailureCode.all isSafeCode) "Refund_failure_code_check"
  check new.timeOrderCheck "Refund_time_order_check"
  check new.outcomeExclusivityCheck "Refund_outcome_exclusivity_check"
  check new.lifecycleCheck "Refund_lifecycle_check"
  Refund.uniqueCheck db id new
  match old with
  | none => Refund.enforceAncestry db new
  | some old => Refund.protectIdentity old new

/-- What holds of every stored refund row. -/
structure Refund.Admitted (db : Db) (id : RefundId) (r : Refund) : Prop where
  amount : 0 < r.requestedAmountMinor
  lifecycle : r.lifecycleCheck = true
  unique : Refund.uniqueCheck db id r = .ok ()

theorem Refund.admitted_of_validate {db : Db} {id : RefundId} {old : Option Refund} {new : Refund}
    (h : Refund.validate db id old new = .ok ()) : Refund.Admitted db id new := by
  simp only [Refund.validate, Except.bind_unit_eq_ok, check_eq_ok] at h
  exact ⟨h.1, h.2.2.2.2.1, h.2.2.2.2.2.1⟩

/-- A new refund belongs to a captured payment and a booking of its order. -/
theorem Refund.ancestry_of_validate {db : Db} {id : RefundId} {new : Refund}
    (h : Refund.validate db id none new = .ok ()) :
    (∃ a, db.attempts.lookup new.paymentAttemptId = some a ∧ a.status = .SUCCEEDED ∧
      a.orderId = new.orderId) ∧
    ∃ b, db.bookings.lookup new.bookingId = some b ∧ b.orderId = new.orderId := by
  simp only [Refund.validate, Refund.enforceAncestry, Except.bind_unit_eq_ok, check_eq_ok] at h
  obtain ⟨-, -, -, -, -, -, ⟨horder, hbooking⟩, hstatus, -⟩ := h
  obtain ⟨a, ha, haorder⟩ := Option.map_eq_some_iff.mp horder
  obtain ⟨b, hb, hborder⟩ := Option.map_eq_some_iff.mp hbooking
  rw [ha] at hstatus
  exact ⟨⟨a, ha, Option.some.inj hstatus, haorder⟩, b, hb, hborder⟩

/-- What an update of a refund keeps. -/
structure Refund.Protected (old new : Refund) : Prop where
  identity : Refund.SameIdentity old new
  attached : old.providerRefundId.isSome → new.providerRefundId = old.providerRefundId
  succeeded : writeOnce old.succeededAt new.succeededAt
  failed : writeOnce old.failedAt new.failedAt
  review : old.status = .REQUIRES_REVIEW → new.status = .REQUIRES_REVIEW
  terminal : isTerminalRefundStatus old.status →
    new.status = old.status ∨ new.status = .REQUIRES_REVIEW

theorem Refund.protected_of_validate {db : Db} {id : RefundId} {old new : Refund}
    (h : Refund.validate db id (some old) new = .ok ()) : Refund.Protected old new := by
  simp only [Refund.validate, Refund.protectIdentity, Except.bind_unit_eq_ok, check_eq_ok] at h
  obtain ⟨-, -, -, -, -, -, hidentity, hattached, ⟨hsucceeded, hfailed, -, -⟩, hreview,
    hterminal⟩ :=
    h
  exact ⟨hidentity, hattached, hsucceeded, hfailed, hreview, hterminal⟩

/-- Provider idempotency keys and external identities are unique. -/
theorem Refund.Admitted.eq_of_key {db : Db} {id id' : RefundId} {r r' : Refund}
    (h : Refund.Admitted db id r) (hlook : db.refunds.lookup id' = some r')
    (hkey : r'.providerIdempotencyKey = r.providerIdempotencyKey) : id' = id := by
  have hunique := h.unique
  simp only [Refund.uniqueCheck, Except.bind_unit_eq_ok, check_eq_ok, Table.any_eq_false] at hunique
  by_contra hne
  have := hunique.2.1 id' r' hlook
  simp [hkey, hne] at this

/-! ## §2 Refunded seats -/

/-- A refund that still covers its seats: settled, or live. -/
def Refund.coversSeats (r : Refund) : Bool :=
  r.succeededAt.isSome || isInFlightRefundStatus r.status

/-- The refunds other than `id` that cover a booked seat. -/
def Db.coveringRefunds (db : Db) (id : RefundId) (seat : BookingSeatId) :
    List (RefundId × Refund) :=
  db.refunds.select fun k r =>
    k != id && r.coversSeats && r.seats.any fun covered => covered.bookingSeatId == seat

/-- `RefundSeat_enforce_snapshot`. -/
def RefundSeat.enforceSnapshot (db : Db) (id : RefundId) (refund : Refund) (seat : RefundSeat) :
    Except Failure Unit := do
  let booked := ((db.bookings.lookup refund.bookingId).elim [] (·.seats)).find?
    fun bookingSeat => bookingSeat.id == seat.bookingSeatId
  check (seat.priceMinor ≥ 0) "RefundSeat_price_check"
  check (booked.isSome) "A refunded seat must belong to the refunded booking"
  check (booked.map (fun s => (s.priceMinor, s.currency)) = some (seat.priceMinor, seat.currency) ∧
      refund.currency = seat.currency)
    "Refunded-seat snapshot must match the original booked-seat price"
  check (db.coveringRefunds id seat.bookingSeatId = [])
    "This seat is already covered by a live or completed refund"

def RefundSeat.validate (db : Db) (id : RefundId) (old : Option Refund) (new : Refund) :
    Except Failure Unit := do
  check (new.seats.map (·.bookingSeatId)).Nodup "RefundSeat_refundId_bookingSeatId_key"
  checkAll (RefundSeat.enforceSnapshot db id new) (appended (old.elim [] (·.seats)) new.seats)

/-- `Refund_verify_seat_total`, run at commit. -/
def Refund.verifySeatTotal (db : Db) (id : RefundId) : Except Failure Unit :=
  match db.refunds.lookup id with
  | none => .ok ()
  | some refund =>
      let seatTotal := (refund.seats.map (·.priceMinor)).sum
      match refund.scope with
      | .SELECTED_SEATS =>
          check (refund.seats ≠ [] ∧ seatTotal = refund.requestedAmountMinor)
            "A seat-scoped refund must exactly equal the sum of its refunded seats"
      | .FULL_BOOKING =>
          check (refund.seats ≠ [] → seatTotal = refund.requestedAmountMinor)
            "A full-booking refund that names seats must equal their total"
      | .FIXED_AMOUNT =>
          check (refund.seats = []) "A fixed-amount refund must not name individual seats"

/-- `Booking_verify_refund_completion`, run at commit. -/
def Booking.verifyRefundCompletion (db : Db) (id : BookingId) : Except Failure Unit :=
  match db.bookings.lookup id with
  | none => .ok ()
  | some booking =>
      let succeededTotal := db.refunds.sum fun _ r =>
        if r.bookingId = id ∧ r.succeededAt.isSome then r.requestedAmountMinor else 0
      check (booking.status = .REFUNDED → booking.totalMinor ≤ succeededTotal)
        "A booking cannot be marked refunded before its refunds cover the amount paid"

/-! ## §3 Submission attempts and ledger -/

/-- `RefundAttempt_lifecycle_check`. -/
def RefundAttempt.lifecycleCheck (a : RefundAttempt) : Bool :=
  match a.status with
  | .STARTED => a.completedAt.isNone
  | .SUCCEEDED => a.completedAt.isSome && a.safeFailureCode.isNone
  | .FAILED | .TIMEOUT => a.completedAt.isSome && a.safeFailureCode.isSome

def RefundAttempt.protectHistory (old new : RefundAttempt) : Except Failure Unit := do
  check (new.provider = old.provider ∧ new.startedAt = old.startedAt)
    "Refund attempt identity is immutable"
  check (old.status ≠ .STARTED → new.status = old.status)
    "A completed refund attempt is immutable"

/-- `DIRECTION_BY_ENTRY_TYPE`. -/
def directionForEntryType : LedgerEntryType → LedgerDirection
  | .PAYMENT_AUTHORIZED | .PAYMENT_CAPTURED | .REFUND_FAILED | .REFUND_CANCELLED | .DISPUTE_WON =>
      .CREDIT
  | .PAYMENT_FAILED | .REFUND_REQUESTED | .REFUND_PROCESSING | .REFUND_SUCCEEDED | .DISPUTE_OPENED
  | .DISPUTE_UPDATED | .DISPUTE_LOST | .CHARGEBACK_RECORDED | .MANUAL_ADJUSTMENT_REQUESTED =>
      .DEBIT

/-- `FinancialLedgerEntry_direction_check`. -/
def FinancialLedgerEntry.directionCheck (entryType : LedgerEntryType) (e : FinancialLedgerEntry) :
    Bool :=
  match entryType with
  | .PAYMENT_AUTHORIZED | .PAYMENT_CAPTURED | .DISPUTE_WON => e.direction == .CREDIT
  | .REFUND_SUCCEEDED | .DISPUTE_LOST | .CHARGEBACK_RECORDED => e.direction == .DEBIT
  | _ => true

/-- The direction the service writes is the one the database demands. -/
theorem directionCheck_directionForEntryType (entryType : LedgerEntryType)
    (e : FinancialLedgerEntry) (h : e.direction = directionForEntryType entryType) :
    e.directionCheck entryType = true := by
  cases entryType <;> simp [FinancialLedgerEntry.directionCheck, h, directionForEntryType]

/-- `FinancialLedgerEntry_refund_link_check`. -/
def FinancialLedgerEntry.refundLinkCheck (entryType : LedgerEntryType) (e : FinancialLedgerEntry) :
    Bool :=
  match entryType with
  | .REFUND_REQUESTED | .REFUND_PROCESSING | .REFUND_SUCCEEDED | .REFUND_FAILED
  | .REFUND_CANCELLED => e.refundId.isSome
  | _ => true

/-- `FinancialLedgerEntry_dispute_link_check`. -/
def FinancialLedgerEntry.disputeLinkCheck (entryType : LedgerEntryType) (e : FinancialLedgerEntry) :
    Bool :=
  match entryType with
  | .DISPUTE_OPENED | .DISPUTE_UPDATED | .DISPUTE_WON | .DISPUTE_LOST | .CHARGEBACK_RECORDED =>
      e.disputeId.isSome
  | _ => true

/-- `FinancialLedgerEntry_enforce_ancestry`. -/
def FinancialLedgerEntry.enforceAncestry (db : Db) (e : FinancialLedgerEntry) :
    Except Failure Unit := do
  check ((db.attempts.lookup e.paymentAttemptId).map (·.orderId) = some e.orderId)
    "Ledger entry must reference the payment attempt's own order"
  check ((db.attempts.lookup e.paymentAttemptId).map (·.provider) = some e.provider)
    "Ledger entry provider must equal the payment provider"
  check ((db.attempts.lookup e.paymentAttemptId).map (·.currency) = some e.currency)
    "Ledger entry currency must equal the payment currency"
  check (∀ id ∈ e.bookingId, (db.bookings.lookup id).map (·.orderId) = some e.orderId)
    "Ledger entry booking must belong to the same order"
  check (∀ id ∈ e.refundId, (db.refunds.lookup id).map (fun r => (r.paymentAttemptId, r.currency))
      = some (e.paymentAttemptId, e.currency))
    "Ledger entry refund ancestry is invalid"
  check (∀ id ∈ e.disputeId, (db.disputes.lookup id).map (fun d => (d.paymentAttemptId, d.currency))
      = some (e.paymentAttemptId, e.currency))
    "Ledger entry dispute ancestry is invalid"

namespace Prisma

def refund : Model RefundId Refund where
  get := Db.refunds
  set t db := { db with refunds := t }
  put := .refund
  lockKey := .refund
  validate := Refund.validate
  duplicate := .constraint "Refund_pkey"
  get_set _ _ := rfl
  set_get := Db.eta
  set_set _ _ _ := rfl
  apply_put _ _ _ := rfl
  key_put _ _ := rfl

def refundSeat : Model RefundId Refund :=
  { refund with validate := RefundSeat.validate }

def refundAttempt : Model (RefundId × Nat) RefundAttempt where
  get := Db.refundAttempts
  set t db := { db with refundAttempts := t }
  put := .refundAttempt
  lockKey := .refundAttempt
  validate _ id old new := do
    check (1 ≤ id.2) "RefundAttempt_number_check"
    check (new.safeFailureCode.all isSafeCode) "RefundAttempt_failure_code_check"
    check new.lifecycleCheck "RefundAttempt_lifecycle_check"
    match old with
    | none => .ok ()
    | some old => RefundAttempt.protectHistory old new
  duplicate := .constraint "RefundAttempt_refundId_attemptNumber_key"
  get_set _ _ := rfl
  set_get := Db.eta
  set_set _ _ _ := rfl
  apply_put _ _ _ := rfl
  key_put _ _ := rfl

def financialLedgerEntry : Model LedgerKey FinancialLedgerEntry where
  get := Db.ledger
  set t db := { db with ledger := t }
  put := .ledger
  lockKey := .ledger
  validate db key old new := do
    check (old = none)
      "Financial ledger entries are append-only and can never be updated or deleted"
    check (new.amountMinor ≥ 0) "FinancialLedgerEntry_amount_check"
    check (new.directionCheck key.entryType) "FinancialLedgerEntry_direction_check"
    check (new.refundLinkCheck key.entryType) "FinancialLedgerEntry_refund_link_check"
    check (new.disputeLinkCheck key.entryType) "FinancialLedgerEntry_dispute_link_check"
    FinancialLedgerEntry.enforceAncestry db new
  duplicate := .constraint "FinancialLedgerEntry_idempotencyKey_key"
  get_set _ _ := rfl
  set_get := Db.eta
  set_set _ _ _ := rfl
  apply_put _ _ _ := rfl
  key_put _ _ := rfl

def financialOutbox : Model FinancialEventKey FinancialEvent where
  get := Db.financialOutbox
  set t db := { db with financialOutbox := t }
  put := .financialOutbox
  lockKey := .financialOutbox
  validate _ _ _ _ := .ok ()
  duplicate := .constraint "FinancialOutbox_deduplicationKey_key"
  get_set _ _ := rfl
  set_get := Db.eta
  set_set _ _ _ := rfl
  apply_put _ _ _ := rfl
  key_put _ _ := rfl

end Prisma

/-! ## §4 Disputes -/

/-- `DISPUTE_TERMINAL_STATUSES`. -/
def isTerminalDisputeStatus : DisputeStatus → Bool
  | .WON | .LOST | .CLOSED => true
  | .OPEN | .NEEDS_RESPONSE | .UNDER_REVIEW | .REQUIRES_REVIEW => false

/-- `PaymentDispute_time_order_check`. -/
def PaymentDispute.timeOrderCheck (d : PaymentDispute) : Bool :=
  d.closedAt.all (d.openedAt ≤ ·) && d.evidenceDueAt.all (d.openedAt ≤ ·)

/-- `PaymentDispute_lifecycle_check`. -/
def PaymentDispute.lifecycleCheck (d : PaymentDispute) : Bool :=
  match d.status with
  | .OPEN | .NEEDS_RESPONSE | .UNDER_REVIEW => d.closedAt.isNone && d.outcome.isNone
  | .WON => d.closedAt.isSome && d.outcome == some .WON
  | .LOST => d.closedAt.isSome && d.outcome == some .LOST
  | .CLOSED => d.closedAt.isSome && d.outcome.isSome
  | .REQUIRES_REVIEW => true

/-- `PaymentDispute_enforce_ancestry`. -/
def PaymentDispute.enforceAncestry (db : Db) (new : PaymentDispute) : Except Failure Unit := do
  check ((db.attempts.lookup new.paymentAttemptId).map (·.orderId) = some new.orderId)
    "Dispute must reference the payment attempt's own order"
  check ((db.attempts.lookup new.paymentAttemptId).map (·.provider) = some new.provider)
    "Dispute provider must equal the original payment provider"
  check ((db.attempts.lookup new.paymentAttemptId).map (·.currency) = some new.currency)
    "Dispute currency must equal the original payment currency"
  check (∀ a ∈ db.attempts.lookup new.paymentAttemptId, new.disputedAmountMinor ≤ a.amountMinor)
    "Dispute cannot exceed the captured payment amount"
  check (∀ id ∈ new.bookingId, (db.bookings.lookup id).map (·.orderId) = some new.orderId)
    "Dispute booking must belong to the same order"

/-- The columns that `PaymentDispute_protect_identity` freezes are unchanged. -/
def PaymentDispute.SameIdentity (old new : PaymentDispute) : Prop :=
  new.publicReference = old.publicReference ∧ new.paymentAttemptId = old.paymentAttemptId ∧
    new.orderId = old.orderId ∧ new.provider = old.provider ∧
    new.providerDisputeId = old.providerDisputeId ∧
    new.disputedAmountMinor = old.disputedAmountMinor ∧ new.currency = old.currency ∧
    new.openedAt = old.openedAt ∧ new.createdAt = old.createdAt

instance (old new : PaymentDispute) : Decidable (PaymentDispute.SameIdentity old new) :=
  inferInstanceAs (Decidable (_ ∧ _))

def PaymentDispute.protectIdentity (old new : PaymentDispute) : Except Failure Unit := do
  check (PaymentDispute.SameIdentity old new)
    "Dispute identity and financial snapshot are immutable"
  check (writeOnce old.closedAt new.closedAt) "Dispute closure timestamp is immutable once set"
  check (old.outcome.isSome → new.outcome = old.outcome) "The first dispute outcome is immutable"
  check (old.status = .REQUIRES_REVIEW → new.status = .REQUIRES_REVIEW)
    "A dispute under review cannot leave review automatically"
  check (isTerminalDisputeStatus old.status →
      new.status = old.status ∨ new.status = .REQUIRES_REVIEW)
    "A terminal dispute outcome is immutable"

def PaymentDispute.uniqueCheck (db : Db) (id : DisputeId) (new : PaymentDispute) :
    Except Failure Unit := do
  check (db.disputes.any (fun k d => k != id && d.publicReference == new.publicReference) = false)
    "PaymentDispute_publicReference_key"
  check (db.disputes.any (fun k d => k != id && d.provider == new.provider &&
      d.providerDisputeId == new.providerDisputeId) = false)
    "PaymentDispute_provider_providerDisputeId_key"

def PaymentDispute.validate (db : Db) (id : DisputeId) (old : Option PaymentDispute)
    (new : PaymentDispute) : Except Failure Unit := do
  check (0 < new.disputedAmountMinor) "PaymentDispute_amount_check"
  check new.timeOrderCheck "PaymentDispute_time_order_check"
  check new.lifecycleCheck "PaymentDispute_lifecycle_check"
  PaymentDispute.uniqueCheck db id new
  match old with
  | none => PaymentDispute.enforceAncestry db new
  | some old => PaymentDispute.protectIdentity old new

namespace Prisma

def paymentDispute : Model DisputeId PaymentDispute where
  get := Db.disputes
  set t db := { db with disputes := t }
  put := .dispute
  lockKey := .dispute
  validate := PaymentDispute.validate
  duplicate := .constraint "PaymentDispute_pkey"
  get_set _ _ := rfl
  set_get := Db.eta
  set_set _ _ _ := rfl
  apply_put _ _ _ := rfl
  key_put _ _ := rfl

def paymentDisputeEvent : Model (DisputeId × ProviderRef) PaymentDisputeEvent where
  get := Db.disputeEvents
  set t db := { db with disputeEvents := t }
  put := .disputeEvent
  lockKey := .disputeEvent
  validate _ _ old _ := check (old = none) "Dispute event history is append-only"
  duplicate := .constraint "PaymentDisputeEvent_disputeId_providerEventId_key"
  get_set _ _ := rfl
  set_get := Db.eta
  set_set _ _ _ := rfl
  apply_put _ _ _ := rfl
  key_put _ _ := rfl

end Prisma

/-! ## §5 The over-refund guard and commit -/

/-- Refunds of one payment whose money has moved: `succeededAt` decides, so an
escalated refund that succeeded still counts. -/
def Refund.refundedOf (attempt : AttemptId) (r : Refund) : Money :=
  if r.paymentAttemptId = attempt ∧ r.succeededAt.isSome then r.requestedAmountMinor else 0

/-- Refunds of one payment whose money is reserved. -/
def Refund.inFlightOf (attempt : AttemptId) (r : Refund) : Money :=
  if r.paymentAttemptId = attempt ∧ r.succeededAt = none ∧ isInFlightRefundStatus r.status then
    r.requestedAmountMinor
  else 0

def Db.refundedSum (db : Db) (attempt : AttemptId) : Money :=
  db.refunds.sum fun _ r => r.refundedOf attempt

def Db.inFlightSum (db : Db) (attempt : AttemptId) : Money :=
  db.refunds.sum fun _ r => r.inFlightOf attempt

/-- `Refund_maintain_payment_aggregate`: one `UPDATE` of the payment row. The
row is the version the lock is granted on; the two sub-`SELECT`s are evaluated
on the statement's snapshot. -/
def maintainPaymentAggregate (attempt : AttemptId) : Sql Unit :=
  .perform fun v =>
    match v.current.attempts.lookup attempt with
    | none => .ok (.reply ())
    | some row => do
        let new := { row with
          refundedMinor := v.snapshot.refundedSum attempt
          inFlightRefundMinor := v.snapshot.inFlightSum attempt }
        PaymentAttempt.validate v.current attempt (some row) new
        .ok { locks := [], writes := [.attempt attempt new], result := () }

/-- Queue a deferred trigger. -/
def defer (trigger : DeferredTrigger) : Sql Unit :=
  .perform fun _ => .ok { locks := [], writes := [.defer trigger], result := () }

/-- What a deferred trigger checks. -/
def DeferredTrigger.check (db : Db) : DeferredTrigger → Except Failure Unit
  | .verifyOrderTotals id => CheckoutOrder.verifyTotals db id
  | .verifyBookingFulfillment id => Booking.verifyFulfillment db id
  | .verifyHoldConversion id => SeatHold.verifyConversion db id
  | .verifyRefundSeatTotal id => Refund.verifySeatTotal db id
  | .verifyBookingRefundCompletion id => Booking.verifyRefundCompletion db id
  | .verifyCredentialReplacement id => TicketCredential.verifyReplacement db id

/-- Run the deferred triggers that the transaction queued. -/
def runDeferredTriggers : Sql Unit :=
  .perform fun v => do
    checkAll (DeferredTrigger.check v.current) v.current.deferred
    .ok { locks := [], writes := [.settled], result := () }

/-- `runInTransaction`: the body, then the deferred triggers, then `COMMIT`. -/
def runInTransaction {α : Type} (body : Sql α) : Sql α := do
  let result ← body
  runDeferredTriggers
  pure result

/-- A transaction commits what its body leaves, if the deferred triggers accept
it. -/
theorem ensures_runInTransaction {α : Type} {body : Sql α} {s : Db} {Q : α → Db → Prop}
    (h : body.Ensures s fun a s' =>
      checkAll (DeferredTrigger.check s') s'.deferred = .ok () → Q a { s' with deferred := [] }) :
    (runInTransaction body).Ensures s Q := by
  refine ensures_bind.mpr (h.mono fun a s' hQ => ensures_bind.mpr (ensures_perform.mpr ?_))
  intro eff heff
  simp only [Except.bind_unit_eq_ok] at heff
  obtain ⟨hcheck, ⟨⟩⟩ := heff
  exact ensures_pure.mpr (hQ hcheck)

/-- A transaction commits when its body ends and the deferred triggers accept what it leaves. -/
theorem commits_runInTransaction {α : Type} {body : Sql α} {s : Db} {Q : α → Db → Prop}
    (h : body.Commits s fun a s' =>
      checkAll (DeferredTrigger.check s') s'.deferred = .ok () ∧ Q a { s' with deferred := [] }) :
    (runInTransaction body).Commits s Q := by
  refine commits_bind.mpr (h.mono fun a s' hQ => commits_bind.mpr (commits_perform.mpr ?_))
  refine ⟨{ locks := [], writes := [.settled], result := () }, ?_, commits_pure.mpr hQ.2⟩
  exact Except.bind_unit_eq_ok.mpr ⟨hQ.1, rfl⟩

end SeatFlow
