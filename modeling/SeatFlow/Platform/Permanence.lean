import SeatFlow.Disputes.LostDisputes
import SeatFlow.Platform.PlatformWrites

/-!
# The first outcome is permanent

What no write may take back: the outcome times of a refund, the outcome and the
closure of a dispute, a terminal payment status, an order's payment time, a refunded
booking, a review of a refund or dispute, and every ledger entry. Each is guarded by
the trigger of its table, so the services need not be gone through again: one case
per kind of admitted write, and the induction over runs.
-/

namespace SeatFlow

open Relational Program

variable {s s' : Db}

/-! ## §1 Rows -/

/-- A refund's later version keeps the outcome of this one. -/
structure Refund.Lasting (old new : Refund) : Prop where
  succeeded : old.succeededAt.isSome → new.succeededAt = old.succeededAt
  failed : old.failedAt.isSome → new.failedAt = old.failedAt
  cancelled : old.cancelledAt.isSome → new.cancelledAt = old.cancelledAt
  review : old.status = .REQUIRES_REVIEW → new.status = .REQUIRES_REVIEW

structure PaymentDispute.Lasting (old new : PaymentDispute) : Prop where
  outcome : old.outcome.isSome → new.outcome = old.outcome
  closed : old.closedAt.isSome → new.closedAt = old.closedAt
  review : old.status = .REQUIRES_REVIEW → new.status = .REQUIRES_REVIEW

def PaymentAttempt.Lasting (old new : PaymentAttempt) : Prop :=
  isTerminalPaymentStatus old.status → new.status = old.status

def CheckoutOrder.Lasting (old new : CheckoutOrder) : Prop :=
  old.paidAt.isSome → new.paidAt = old.paidAt

def Booking.Lasting (old new : Booking) : Prop :=
  old.status = .REFUNDED → new.status = .REFUNDED

theorem Refund.lasting_refl (r : Refund) : r.Lasting r :=
  ⟨fun _ => rfl, fun _ => rfl, fun _ => rfl, fun h => h⟩

theorem PaymentDispute.lasting_refl (d : PaymentDispute) : d.Lasting d :=
  ⟨fun _ => rfl, fun _ => rfl, fun h => h⟩

theorem PaymentAttempt.lasting_refl (a : PaymentAttempt) : a.Lasting a :=
  fun _ => rfl

theorem CheckoutOrder.lasting_refl (o : CheckoutOrder) : o.Lasting o :=
  fun _ => rfl

theorem Booking.lasting_refl (b : Booking) : b.Lasting b :=
  fun h => h

/-! What lasts lasts over several versions. -/

theorem Refund.Lasting.trans {a b c : Refund} (hab : a.Lasting b) (hbc : b.Lasting c) :
    a.Lasting c where
  succeeded := fun h => by
    have hb := hab.succeeded h
    rw [← hb]
    exact hbc.succeeded (hb ▸ h)
  failed := fun h => by
    have hb := hab.failed h
    rw [← hb]
    exact hbc.failed (hb ▸ h)
  cancelled := fun h => by
    have hb := hab.cancelled h
    rw [← hb]
    exact hbc.cancelled (hb ▸ h)
  review := fun h => hbc.review (hab.review h)

theorem PaymentDispute.Lasting.trans {a b c : PaymentDispute} (hab : a.Lasting b)
    (hbc : b.Lasting c) : a.Lasting c where
  outcome := fun h => by
    have hb := hab.outcome h
    rw [← hb]
    exact hbc.outcome (hb ▸ h)
  closed := fun h => by
    have hb := hab.closed h
    rw [← hb]
    exact hbc.closed (hb ▸ h)
  review := fun h => hbc.review (hab.review h)

theorem PaymentAttempt.Lasting.trans {a b c : PaymentAttempt} (hab : a.Lasting b)
    (hbc : b.Lasting c) : a.Lasting c := by
  intro h
  have hb := hab h
  rw [← hb]
  exact hbc (hb ▸ h)

theorem CheckoutOrder.Lasting.trans {a b c : CheckoutOrder} (hab : a.Lasting b)
    (hbc : b.Lasting c) : a.Lasting c := by
  intro h
  have hb := hab h
  rw [← hb]
  exact hbc (hb ▸ h)

theorem Booking.Lasting.trans {a b c : Booking} (hab : a.Lasting b) (hbc : b.Lasting c) :
    a.Lasting c :=
  fun h => hbc (hab h)

/-! An admitted update is lasting. -/

theorem Refund.lasting_of_validate {id : RefundId} {old new : Refund}
    (h : Refund.validate s id (some old) new = .ok ()) : old.Lasting new := by
  simp only [Refund.validate, Refund.protectIdentity, Except.bind_unit_eq_ok, check_eq_ok] at h
  obtain ⟨-, -, -, -, -, -, -, -, ⟨hsucceeded, hfailed, hcancelled, -⟩, hreview, -⟩ := h
  exact ⟨hsucceeded, hfailed, hcancelled, hreview⟩

theorem PaymentDispute.lasting_of_validate {id : DisputeId} {old new : PaymentDispute}
    (h : PaymentDispute.validate s id (some old) new = .ok ()) : old.Lasting new := by
  simp only [PaymentDispute.validate, PaymentDispute.protectIdentity, Except.bind_unit_eq_ok,
    check_eq_ok] at h
  obtain ⟨-, -, -, -, -, hclosed, houtcome, hreview, -⟩ := h
  exact ⟨houtcome, hclosed, hreview⟩

theorem PaymentAttempt.lasting_of_validate {id : AttemptId} {old new : PaymentAttempt}
    (h : PaymentAttempt.validate s id (some old) new = .ok ()) : old.Lasting new := by
  simp only [PaymentAttempt.validate, PaymentAttempt.protectIdentity, Except.bind_unit_eq_ok,
    check_eq_ok] at h
  obtain ⟨-, -, -, -, -, -, -, -, hterminal⟩ := h
  exact hterminal

theorem CheckoutOrder.lasting_of_validate {id : OrderId} {old new : CheckoutOrder}
    (h : CheckoutOrder.validate s id (some old) new = .ok ()) : old.Lasting new := by
  simp only [CheckoutOrder.validate, CheckoutOrder.protectIdentity, Except.bind_unit_eq_ok,
    check_eq_ok] at h
  obtain ⟨-, -, -, -, -, -, -, hpaid⟩ := h
  exact hpaid

theorem Booking.lasting_of_validate {id : BookingId} {old new : Booking}
    (h : Booking.validate s id (some old) new = .ok ()) : old.Lasting new := by
  simp only [Booking.validate, Booking.protectSnapshot, Except.bind_unit_eq_ok, check_eq_ok] at h
  obtain ⟨-, -, -, -, -, -, hrefunded, -⟩ := h
  exact hrefunded

/-! ## §2 Databases -/

/-- Every outcome of `s` is still the same in `s'`. -/
structure Db.Lasting (s s' : Db) : Prop where
  refunds : s.refunds.Keeps Refund.Lasting s'.refunds
  disputes : s.disputes.Keeps PaymentDispute.Lasting s'.disputes
  attempts : s.attempts.Keeps PaymentAttempt.Lasting s'.attempts
  orders : s.orders.Keeps CheckoutOrder.Lasting s'.orders
  bookings : s.bookings.Keeps Booking.Lasting s'.bookings
  ledger : s.ledger.Keeps Eq s'.ledger

theorem Db.lasting_refl (s : Db) : s.Lasting s where
  refunds := Table.keeps_refl Refund.lasting_refl _
  disputes := Table.keeps_refl PaymentDispute.lasting_refl _
  attempts := Table.keeps_refl PaymentAttempt.lasting_refl _
  orders := Table.keeps_refl CheckoutOrder.lasting_refl _
  bookings := Table.keeps_refl Booking.lasting_refl _
  ledger := Table.keeps_refl (fun _ => rfl) _

theorem Db.Lasting.trans {s₁ s₂ s₃ : Db} (h : s₁.Lasting s₂) (h' : s₂.Lasting s₃) :
    s₁.Lasting s₃ where
  refunds := h.refunds.trans (fun _ _ _ => Refund.Lasting.trans) h'.refunds
  disputes := h.disputes.trans (fun _ _ _ => PaymentDispute.Lasting.trans) h'.disputes
  attempts := h.attempts.trans (fun _ _ _ => PaymentAttempt.Lasting.trans) h'.attempts
  orders := h.orders.trans (fun _ _ _ => CheckoutOrder.Lasting.trans) h'.orders
  bookings := h.bookings.trans (fun _ _ _ => Booking.Lasting.trans) h'.bookings
  ledger := h.ledger.trans (fun _ _ _ => Eq.trans) h'.ledger

/-- **One write** takes no outcome back. -/
theorem Db.Writes.lasting (h : s.Writes s') : s.Lasting s' := by
  obtain ⟨hstep, happends⟩ := h
  have hsame := s.lasting_refl
  cases hstep with
  | other _ _ _ _ horders hattempts _ hbookings hrefunds _ _ hdisputes =>
      constructor
      case refunds => rw [hrefunds]; exact hsame.refunds
      case disputes => rw [hdisputes]; exact hsame.disputes
      case attempts => rw [hattempts]; exact hsame.attempts
      case orders => rw [horders]; exact hsame.orders
      case bookings => rw [hbookings]; exact hsame.bookings
      case ledger => exact happends.ledger
  | order id new hvalid =>
      refine { hsame with orders := Table.keeps_insert CheckoutOrder.lasting_refl fun o ho => ?_ }
      rw [ho] at hvalid
      exact CheckoutOrder.lasting_of_validate hvalid
  | orders p f hvalid =>
      refine { hsame with orders := mapped_select CheckoutOrder.lasting_refl fun k o ho hp => ?_ }
      exact CheckoutOrder.lasting_of_validate (hvalid k o ho hp)
  | orderItems id o items hlook =>
      refine { hsame with orders := Table.keeps_insert CheckoutOrder.lasting_refl fun o' ho => ?_ }
      cases Option.some.inj (hlook.symm.trans ho)
      exact fun _ => rfl
  | attempt id new hvalid =>
      refine { hsame with
        attempts := Table.keeps_insert PaymentAttempt.lasting_refl fun a ha => ?_ }
      rw [ha] at hvalid
      exact PaymentAttempt.lasting_of_validate hvalid
  | booking id new hvalid =>
      refine { hsame with bookings := Table.keeps_insert Booking.lasting_refl fun b hb => ?_ }
      rw [hb] at hvalid
      exact Booking.lasting_of_validate hvalid
  | bookingSeats id b seats hlook _ =>
      refine { hsame with bookings := Table.keeps_insert Booking.lasting_refl fun b' hb => ?_ }
      cases Option.some.inj (hlook.symm.trans hb)
      exact fun hrefunded => hrefunded
  | refund id new hvalid =>
      refine { hsame with refunds := Table.keeps_insert Refund.lasting_refl fun r hr => ?_ }
      rw [hr] at hvalid
      exact Refund.lasting_of_validate hvalid
  | refundSeats id r seats hlook _ =>
      refine { hsame with refunds := Table.keeps_insert Refund.lasting_refl fun r' hr => ?_ }
      cases Option.some.inj (hlook.symm.trans hr)
      exact ⟨fun _ => rfl, fun _ => rfl, fun _ => rfl, fun hreview => hreview⟩
  | dispute id new _ hvalid =>
      refine { hsame with
        disputes := Table.keeps_insert PaymentDispute.lasting_refl fun d hd => ?_ }
      rw [hd] at hvalid
      exact PaymentDispute.lasting_of_validate hvalid
  | _ => exact { hsame with }

/-! ## §3 Runs -/

namespace Platform

variable {sys sys' : FinancialSystem}

/-- **The first outcome is permanent.** Whatever the platform does after a state, each
outcome of that state is the same in every later one. -/
theorem outcomes_lasting (h : Reaches Platform.step (fun _ _ => True) sys sys') :
    sys.db.Lasting sys'.db := by
  have hwrites := run_writes h
  generalize sys'.db = db' at hwrites
  induction hwrites with
  | refl => exact Db.lasting_refl _
  | tail _ hlast ih => exact ih.trans hlast.lasting

/-- A report that a won dispute is lost changes nothing of its outcome. -/
theorem outcomes_lasting_won :
    ∃ sys sys' : FinancialSystem,
      (∃ d, sys.db.disputes.lookup 1 = some d ∧ d.outcome = some .WON) ∧
      (sys'.db.disputes.lookup 1).any (fun d => d.status == .REQUIRES_REVIEW) = true ∧
      sys.db.Lasting sys'.db := by
  have hrun : (execute Platform.step ((FinancialSystem.capturedDispute 81 91 .OPEN 203 ++
      FinancialSystem.capturedDispute 82 92 .WON 205).map .financial)
      FinancialSystem.capturedFinances).any (fun sys =>
        (sys.db.disputes.lookup 1).any (fun d => d.outcome == some .WON) &&
        (execute Platform.step ((FinancialSystem.capturedDispute 83 93 .LOST 207).map .financial)
          sys).any fun sys' =>
            (sys'.db.disputes.lookup 1).any fun d => d.status == .REQUIRES_REVIEW) = true := by
    decide +kernel
  obtain ⟨sys, -, hcheck⟩ := (Option.any_eq_true _ _).mp hrun
  rw [Bool.and_eq_true] at hcheck
  obtain ⟨d, hlook, hwon⟩ := (Option.any_eq_true _ _).mp hcheck.1
  obtain ⟨sys', hsys', hreviewed⟩ := (Option.any_eq_true _ _).mp hcheck.2
  exact ⟨sys, sys', ⟨d, hlook, eq_of_beq hwon⟩, hreviewed,
    outcomes_lasting (reaches_of_execute hsys' fun _ _ _ => trivial)⟩

end Platform

end SeatFlow
