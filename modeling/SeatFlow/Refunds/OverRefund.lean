import Mathlib.Algebra.Order.Ring.Int
import Mathlib.Tactic.Linarith
import SeatFlow.Refunds.Lifecycle
import SeatFlow.Refunds.PaymentAggregate

/-!
# Over-refund safety

Serial runs of the refund transactions. The totals of every payment stay the
sums over its refunds because every transaction recomputes what it moves; they
stay within the payment because a `CHECK` says so; and a booking is marked
refunded exactly when they reach the payment, because only a succeeding refund
moves the refunded total and it looks at the booking afterwards.
-/

namespace SeatFlow

open Relational Program Entity DerivedTotal

/-! ## §1 What holds of the rows -/

/-- Constraints that tie refunds, payments and bookings together. -/
structure Ancestry (db : Db) : Prop where
  bounded : ∀ p a, db.attempts.lookup p = some a → a.refundAggregateCheck
  oneCapture : ∀ p a p' a', db.attempts.lookup p = some a → db.attempts.lookup p' = some a' →
    a.status = .SUCCEEDED → a'.status = .SUCCEEDED → a.orderId = a'.orderId → p = p'
  oneBooking : ∀ id b id' b', db.bookings.lookup id = some b → db.bookings.lookup id' = some b' →
    b.orderId = b'.orderId → id = id'
  positive : ∀ id r, db.refunds.lookup id = some r → 0 < r.requestedAmountMinor
  payment : ∀ id r, db.refunds.lookup id = some r →
    ∃ a, db.attempts.lookup r.paymentAttemptId = some a ∧ a.status = .SUCCEEDED ∧
      a.orderId = r.orderId
  booking : ∀ id r, db.refunds.lookup id = some r →
    ∃ b, db.bookings.lookup r.bookingId = some b ∧ b.orderId = r.orderId

/-- The columns of a payment that its refunds do not move. -/
theorem payment_of_identity {t t' : Table AttemptId PaymentAttempt} {p : AttemptId}
    {a' : PaymentAttempt} (h : (t'.lookup p).map (·.identity) = (t.lookup p).map (·.identity))
    (hlook' : t'.lookup p = some a') :
    ∃ a, t.lookup p = some a ∧ a.orderId = a'.orderId ∧ a.status = a'.status ∧
      a.amountMinor = a'.amountMinor := by
  rw [hlook'] at h
  obtain ⟨a, ha, heq⟩ := Option.map_eq_some_iff.mp h.symm
  injection heq with horder _ _ _ hstatus hamount
  exact ⟨a, ha, horder, hstatus, hamount⟩

theorem booking_of_order {t t' : Table BookingId Booking} {id : BookingId} {b' : Booking}
    (h : (t'.lookup id).map (·.orderId) = (t.lookup id).map (·.orderId))
    (hlook' : t'.lookup id = some b') : ∃ b, t.lookup id = some b ∧ b.orderId = b'.orderId := by
  rw [hlook'] at h
  exact Option.map_eq_some_iff.mp h.symm

variable {U : RefundId → RefundUpdate → Prop} {B : BookingId → Prop} {W : WebhookId → Prop}
  {s s' : Db}

/-- A refund row after a step has the amount and the parents that it, or the row
before it, was admitted with. -/
theorem RefundStep.refund_ancestry (h : RefundStep U B W s s') (hs : Ancestry s) {id : RefundId}
    {r' : Refund} (hlook' : s'.refunds.lookup id = some r') :
    0 < r'.requestedAmountMinor ∧
    (∃ a, s.attempts.lookup r'.paymentAttemptId = some a ∧ a.status = .SUCCEEDED ∧
      a.orderId = r'.orderId) ∧
    ∃ b, s.bookings.lookup r'.bookingId = some b ∧ b.orderId = r'.orderId := by
  have hold : ∀ r, s.refunds.lookup id = some r → 0 < r.requestedAmountMinor ∧
      (∃ a, s.attempts.lookup r.paymentAttemptId = some a ∧ a.status = .SUCCEEDED ∧
        a.orderId = r.orderId) ∧
      ∃ b, s.bookings.lookup r.bookingId = some b ∧ b.orderId = r.orderId :=
    fun r hlook => ⟨hs.positive id r hlook, hs.payment id r hlook, hs.booking id r hlook⟩
  rcases h.refund_cases hlook' with hlook | ⟨-, hvalid, -⟩ | ⟨r, added, hlook, rfl, -⟩ |
    ⟨r, u, hlook, -, rfl, hvalid⟩
  · exact hold r' hlook
  · obtain ⟨hpayment, hbooking⟩ := Refund.ancestry_of_validate hvalid
    exact ⟨(Refund.admitted_of_validate hvalid).amount, hpayment, hbooking⟩
  · exact hold r hlook
  · obtain ⟨-, horder, hattempt, hbooking, -⟩ := (Refund.protected_of_validate hvalid).identity
    rw [horder, hattempt, hbooking]
    obtain ⟨-, hparents⟩ := hold r hlook
    exact ⟨(Refund.admitted_of_validate hvalid).amount, hparents⟩

theorem Ancestry.step (hs : Ancestry s) (h : RefundStep U B W s s') : Ancestry s' where
  bounded := by
    intro p a hlook
    cases h with
    | plain hrefunds hattempts hbookings hwebhooks => exact hs.bounded p a (hattempts ▸ hlook)
    | aggregate id a₀ refunded inFlight hlook₀ hvalid =>
        replace hlook : (s.attempts.insert id _).lookup p = some a := hlook
        rw [Table.lookup_insert_ite] at hlook
        split at hlook
        · cases hlook
          simp only [PaymentAttempt.validate, Except.bind_unit_eq_ok, check_eq_ok] at hvalid
          exact hvalid.2.2.2.1
        · exact hs.bounded p a hlook
    | _ => exact hs.bounded p a hlook
  oneCapture := by
    intro p a p' a' hlook hlook' hstatus hstatus' horder
    obtain ⟨a₀, ha₀, ho, hst, -⟩ := payment_of_identity (h.payments p) hlook
    obtain ⟨a₁, ha₁, ho', hst', -⟩ := payment_of_identity (h.payments p') hlook'
    exact hs.oneCapture p a₀ p' a₁ ha₀ ha₁ (hst.trans hstatus) (hst'.trans hstatus')
      (by rw [ho, ho', horder])
  oneBooking := by
    intro id b id' b' hlook hlook' horder
    obtain ⟨b₀, hb₀, ho⟩ := booking_of_order (h.booking_order id) hlook
    obtain ⟨b₁, hb₁, ho'⟩ := booking_of_order (h.booking_order id') hlook'
    exact hs.oneBooking id b₀ id' b₁ hb₀ hb₁ (by rw [ho, ho', horder])
  positive := fun id r hlook => (h.refund_ancestry hs hlook).1
  payment := by
    intro id r hlook
    obtain ⟨-, ⟨a, ha, hstatus, horder⟩, -⟩ := h.refund_ancestry hs hlook
    obtain ⟨a', ha', ho, hst, -⟩ := payment_of_identity (h.payments _).symm ha
    exact ⟨a', ha', hst.trans hstatus, ho.trans horder⟩
  booking := by
    intro id r hlook
    obtain ⟨-, -, b, hb, horder⟩ := h.refund_ancestry hs hlook
    obtain ⟨b', hb', ho⟩ := booking_of_order (h.booking_order _).symm hb
    exact ⟨b', hb', ho.trans horder⟩

/-! ## §2 Refunded bookings -/

/-- The bookings paid by `p` are refunded exactly when `p` is, in full. -/
def Matches (db : Db) (p : AttemptId) : Prop :=
  ∀ a id b, db.attempts.lookup p = some a → a.status = .SUCCEEDED →
    db.bookings.lookup id = some b → b.orderId = a.orderId →
    (b.status = .REFUNDED ↔ 0 < a.amountMinor ∧ db.refundedSum p = a.amountMinor)

/-- The half of `Matches` that a succeeding refund keeps before it looks at the
booking. -/
def Covered (db : Db) (p : AttemptId) : Prop :=
  ∀ a id b, db.attempts.lookup p = some a → a.status = .SUCCEEDED →
    db.bookings.lookup id = some b → b.orderId = a.orderId →
    b.status = .REFUNDED → a.amountMinor ≤ db.refundedSum p

theorem Matches.covered {p : AttemptId} (h : Matches s p) : Covered s p :=
  fun a id b ha hstatus hb horder hrefunded =>
    ((h a id b ha hstatus hb horder).mp hrefunded).2.ge

theorem Matches.frame {p : AttemptId} (h : Matches s p)
    (hpayment : (s'.attempts.lookup p).map (·.identity) = (s.attempts.lookup p).map (·.identity))
    (hbookings : s'.bookings = s.bookings) (hsum : s'.refundedSum p = s.refundedSum p) :
    Matches s' p := by
  intro a' id b ha' hstatus hb horder
  obtain ⟨a, ha, ho, hst, hamount⟩ := payment_of_identity hpayment ha'
  rw [hbookings] at hb
  rw [hsum, ← hamount]
  exact h a id b ha (hst.trans hstatus) hb (horder.trans ho.symm)

theorem Covered.frame {p : AttemptId} (h : Covered s p)
    (hpayment : (s'.attempts.lookup p).map (·.identity) = (s.attempts.lookup p).map (·.identity))
    (hbookings : s'.bookings = s.bookings) (hsum : s.refundedSum p ≤ s'.refundedSum p) :
    Covered s' p := by
  intro a' id b ha' hstatus hb horder hrefunded
  obtain ⟨a, ha, ho, hst, hamount⟩ := payment_of_identity hpayment ha'
  rw [hbookings] at hb
  rw [← hamount]
  exact (h a id b ha (hst.trans hstatus) hb (horder.trans ho.symm) hrefunded).trans hsum

/-- Steps in which no refund succeeds and no booking is marked. -/
abbrev QuietStep : Db → Db → Prop :=
  RefundStep (fun _ u => ∀ now, u ≠ .succeed now) (fun _ => False) fun _ => True

/-- Writing a refund that counts as what was there keeps the refunded total. -/
theorem refundedSum_insert {t : Table RefundId Refund} {id : RefundId} {row : Refund}
    {p : AttemptId} (h : row.refundedOf p = t.contribution (fun _ r => r.refundedOf p) id) :
    Table.sum (fun _ r => r.refundedOf p) (t.insert id row) = t.sum fun _ r => r.refundedOf p := by
  apply Table.sum_congr
  intro k
  rw [Table.contribution_insert]
  split
  · rename_i hk
    rw [hk, h]
  · rfl

theorem QuietStep.refundedSum (h : QuietStep s s') (p : AttemptId) :
    s'.refundedSum p = s.refundedSum p := by
  cases h with
  | plain hrefunds hattempts hbookings hwebhooks => rw [Db.refundedSum, hrefunds, Db.refundedSum]
  | insert id row habsent hvalid hfresh =>
      apply refundedSum_insert
      have hlifecycle := (Refund.admitted_of_validate hvalid).lifecycle
      rw [Refund.lifecycleCheck, hfresh.status] at hlifecycle
      have hnone : row.succeededAt = none := by
        cases hrow : row.succeededAt <;> simp_all
      rw [Table.contribution_none habsent]
      simp [Refund.refundedOf, hnone]
  | seats id r added hlook hvalid =>
      apply refundedSum_insert
      rw [Table.contribution_some hlook]
      rfl
  | update id r u hu hlook hvalid =>
      apply refundedSum_insert
      rw [Table.contribution_some hlook]
      cases u with
      | succeed now => exact absurd rfl (hu now)
      | _ => rfl
  | _ => rfl

theorem QuietStep.matches (h : QuietStep s s') {p : AttemptId} (hs : Matches s p) : Matches s' p :=
  hs.frame (h.payments p) h.bookings (QuietStep.refundedSum h p)

/-- The refunded total is what the succeeded refunds add up to, so it is at
least what any one of them moved. -/
theorem refundedOf_nonneg {db : Db} (h : Ancestry db) (p : AttemptId) (id : RefundId) :
    0 ≤ db.refunds.contribution (fun _ r => r.refundedOf p) id := by
  cases hlook : db.refunds.lookup id with
  | none => rw [Table.contribution_none hlook]
  | some r =>
      rw [Table.contribution_some hlook, Refund.refundedOf]
      split
      · exact (h.positive id r hlook).le
      · exact le_rfl

/-! ## §3 A succeeding refund -/

/-- The invariant of serial runs, but for the bookings. -/
structure Accounted (db : Db) : Prop where
  ancestry : Ancestry db
  faithful : ∀ p, paymentAggregate.Faithful db p

theorem accounted_ensures {α : Type} {prog : Sql α} (hsteps : prog.Steps (RefundStep U B W))
    (hrefreshing : paymentAggregate.Refreshing none prog) (hs : Accounted s) :
    prog.Ensures s fun _ s' => Accounted s' :=
  ((hsteps.ensures hs.ancestry fun _ _ hstep ha => ha.step hstep).and
    (hrefreshing.ensures _ hs.faithful)).mono fun _ _ h => ⟨h.1, h.2⟩

/-- Between the success of a refund of payment `p` for booking `id` and the look
at the booking. -/
structure Settling (p : AttemptId) (id : BookingId) (db : Db) : Prop where
  linked : ∃ a b, db.attempts.lookup p = some a ∧ a.status = .SUCCEEDED ∧
    db.bookings.lookup id = some b ∧ b.orderId = a.orderId
  others : ∀ q, q ≠ p → Matches db q
  covered : Covered db p
  moved : 0 < db.refundedSum p

theorem Settling.step {p : AttemptId} {id : BookingId} (hs : Settling p id s)
    (h : QuietStep s s') : Settling p id s' where
  linked := by
    obtain ⟨a, b, ha, hstatus, hb, horder⟩ := hs.linked
    obtain ⟨a', ha', ho, hst, -⟩ := payment_of_identity (h.payments p).symm ha
    exact ⟨a', b, ha', hst.trans hstatus, by rw [h.bookings, hb], horder.trans ho.symm⟩
  others := fun q hq => QuietStep.matches h (hs.others q hq)
  covered := hs.covered.frame (h.payments p) h.bookings (QuietStep.refundedSum h p).ge
  moved := by
    rw [QuietStep.refundedSum h p]
    exact hs.moved

/-- The success of a refund moves its own payment only, and upwards. -/
theorem ensures_succeed {refundId : RefundId} {refund : Refund} {now : Time} (hs : Accounted s)
    (hmatches : ∀ p, Matches s p) (hlook : s.refunds.lookup refundId = some refund) :
    Ensures (updateRefundById refundId (RefundUpdate.apply · (.succeed now))) s fun _ s' =>
      Accounted s' ∧ Settling refund.paymentAttemptId refund.bookingId s' := by
  have hsteps : Steps (RefundStep (fun _ _ => True) (fun _ => False) fun _ => True)
      (updateRefundById refundId (RefundUpdate.apply · (.succeed now))) :=
    steps_updateRefundById refundId (.succeed now) trivial
  have haccounted := accounted_ensures hsteps (refreshing_updateRefundById refundId _) hs
  refine ((ensures_updateRefundById (Q := fun _ s' => Accounted s' →
    Settling refund.paymentAttemptId refund.bookingId s') ?_).and haccounted).mono
      fun _ _ h => ⟨h.2, h.1 h.2⟩
  intro r s' hr hvalid hwritten haccounted
  rw [hlook] at hr
  cases hr
  obtain ⟨a, ha, hstatus, haorder⟩ := hs.ancestry.payment refundId refund hlook
  obtain ⟨b, hb, hborder⟩ := hs.ancestry.booking refundId refund hlook
  have hpositive := hs.ancestry.positive refundId refund hlook
  have hcontribution : ∀ p k, s'.refunds.contribution (fun _ r => r.refundedOf p) k =
      if k = refundId then (RefundUpdate.apply refund (.succeed now)).refundedOf p
      else s.refunds.contribution (fun _ r => r.refundedOf p) k := by
    intro p k
    rw [hwritten.refunds, Table.contribution_insert]
  have hself : (RefundUpdate.apply refund (.succeed now)).refundedOf refund.paymentAttemptId
      = refund.requestedAmountMinor := by
    simp [RefundUpdate.apply, Refund.refundedOf]
  -- a refund of another payment does not count for `q`
  have hothers : ∀ q, q ≠ refund.paymentAttemptId → s'.refundedSum q = s.refundedSum q := by
    intro q hq
    rw [Db.refundedSum, hwritten.refunds]
    apply refundedSum_insert
    rw [Table.contribution_some hlook]
    simp [RefundUpdate.apply, Refund.refundedOf, Ne.symm hq]
  have hgrows : s.refundedSum refund.paymentAttemptId ≤ s'.refundedSum refund.paymentAttemptId := by
    apply Table.sum_le_sum
    intro k
    rw [hcontribution]
    split
    · rename_i hk
      rw [hk, Table.contribution_some hlook, hself, Refund.refundedOf]
      split <;> linarith
    · exact le_rfl
  refine
    { linked := ?_
      others := fun q hq =>
        (hmatches q).frame (hwritten.payments q) hwritten.bookings (hothers q hq)
      covered := (hmatches _).covered.frame (hwritten.payments _) hwritten.bookings hgrows
      moved := ?_ }
  · obtain ⟨a', ha', ho, hst, -⟩ := payment_of_identity (hwritten.payments _).symm ha
    refine ⟨a', b, ha', hst.trans hstatus, by rw [hwritten.bookings, hb], ?_⟩
    rw [hborder, ho, haorder]
  · have hle := Table.contribution_le_sum (k := refundId)
      (refundedOf_nonneg haccounted.ancestry refund.paymentAttemptId)
    rw [hcontribution, if_pos rfl, hself] at hle
    exact lt_of_lt_of_le hpositive hle

/-- The look at the booking restores the match. -/
theorem ensures_maybeMarkBookingFullyRefunded {p : AttemptId} {id : BookingId} {now : Time}
    (haccounted : Accounted s) (hs : Settling p id s) :
    Ensures (maybeMarkBookingFullyRefunded id p now) s fun _ s' => ∀ q, Matches s' q := by
  obtain ⟨a, b, ha, hstatus, hb, horder⟩ := hs.linked
  have hstored := (paymentAggregate_faithful.mp (haccounted.faithful p) a ha).1
  have hbounded := haccounted.ancestry.bounded p a ha
  have hmoved := hs.moved
  have hunique : ∀ id' b', s.bookings.lookup id' = some b' → b'.orderId = a.orderId → id' = id :=
    fun id' b' hb' ho => haccounted.ancestry.oneBooking id' b' id b hb' hb (ho.trans horder.symm)
  refine ensures_bind.mpr (ensures_findOrThrow.mpr ?_)
  intro a₀ ha₀
  cases Option.some.inj (ha.symm.trans ha₀)
  refine ensures_ite.mpr ⟨fun hless => ?_, fun hfull => ?_⟩
  · refine ensures_pure.mpr fun q => ?_
    by_cases hq : q = p
    · subst hq
      intro a' id' b' ha' _ hb' ho
      cases Option.some.inj (ha.symm.trans ha')
      constructor
      · intro hrefunded
        have := hs.covered a id' b' ha hstatus hb' ho hrefunded
        linarith
      · rintro ⟨-, hsum⟩
        exfalso
        linarith
    · exact hs.others q hq
  · have hfull : s.refundedSum p = a.amountMinor := by
      obtain ⟨-, hinFlight, htotal⟩ := hbounded
      linarith
    have hrhs : 0 < a.amountMinor ∧ s.refundedSum p = a.amountMinor := ⟨by linarith, hfull⟩
    refine ensures_bind.mpr (ensures_findOrThrow.mpr ?_)
    intro b₀ hb₀
    cases Option.some.inj (hb.symm.trans hb₀)
    refine ensures_ite.mpr ⟨fun hnot => ?_, fun _ => ?_⟩
    · have hrefunded : b.status = .REFUNDED := by
        cases hcase : b.status with
        | CONFIRMED => exact absurd hcase hnot
        | REFUNDED => rfl
      refine ensures_pure.mpr fun q => ?_
      by_cases hq : q = p
      · subst hq
        intro a' id' b' ha' _ hb' ho
        cases Option.some.inj (ha.symm.trans ha')
        cases hunique id' b' hb' ho
        cases Option.some.inj (hb.symm.trans hb')
        exact ⟨fun _ => hrhs, fun _ => hrefunded⟩
      · exact hs.others q hq
    · refine ensures_bind.mpr (ensures_update.mpr fun b₁ hb₁ _ => ?_)
      cases Option.some.inj (hb.symm.trans hb₁)
      refine ensures_bind.mpr (ensures_perform.mpr ?_)
      rintro eff ⟨⟩
      refine ensures_pure.mpr fun q a' id' b' ha' hstatus' hb' ho => ?_
      replace ha' : s.attempts.lookup q = some a' := ha'
      replace hb' : (s.bookings.insert id (b.refunded now)).lookup id' = some b' := hb'
      show b'.status = .REFUNDED ↔ 0 < a'.amountMinor ∧ s.refundedSum q = a'.amountMinor
      rw [Table.lookup_insert_ite] at hb'
      split at hb'
      · cases hb'
        have hqp : q = p := haccounted.ancestry.oneCapture q a' p a ha' ha hstatus' hstatus
          (ho.symm.trans horder)
        subst hqp
        cases Option.some.inj (ha.symm.trans ha')
        exact ⟨fun _ => hrhs, fun _ => rfl⟩
      · rename_i hne
        have hqp : q ≠ p := by
          rintro rfl
          cases Option.some.inj (ha.symm.trans ha')
          exact hne (hunique id' b' hb' ho)
        exact hs.others q hqp a' id' b' ha' hstatus' hb' ho

/-- The quiet parts of a settling transaction. -/
theorem Settling.ensures {α : Type} {prog : Sql α} {p : AttemptId} {id : BookingId}
    (haccounted : Accounted s) (hs : Settling p id s) (hsteps : prog.Steps QuietStep)
    (hrefreshing : paymentAggregate.Refreshing none prog) :
    prog.Ensures s fun _ s' => Accounted s' ∧ Settling p id s' :=
  (accounted_ensures hsteps hrefreshing haccounted).and
    (hsteps.ensures hs fun _ _ hstep h => h.step hstep)

theorem matches_ensures {α : Type} {prog : Sql α} (hs : ∀ p, Matches s p)
    (hsteps : prog.Steps QuietStep) : prog.Ensures s fun _ s' => ∀ p, Matches s' p :=
  hsteps.ensures hs fun _ _ hstep h p => QuietStep.matches hstep (h p)

theorem ensures_settleSucceeded {input : SettleInput} {refundId : RefundId} {refund : Refund}
    (haccounted : Accounted s) (hmatches : ∀ p, Matches s p)
    (hlook : s.refunds.lookup refundId = some refund) :
    Ensures (settleSucceeded input refundId refund) s fun _ s' => ∀ p, Matches s' p := by
  refine ensures_bind.mpr ((ensures_succeed haccounted hmatches hlook).mono ?_)
  rintro - s₁ ⟨haccounted, hs⟩
  refine ensures_bind.mpr ((hs.ensures haccounted (steps_appendLedgerEntry _)
    (refreshing_appendLedgerEntry _)).mono ?_)
  rintro - s₂ ⟨haccounted, hs⟩
  refine ensures_bind.mpr
    ((hs.ensures haccounted (steps_applyTicketConsequences refundStep_writes.revoke _ _ _ _)
    (refreshing_applyTicketConsequences _ _ _ _)).mono ?_)
  rintro consequences s₃ ⟨haccounted, hs⟩
  refine ensures_bind.mpr ((ensures_maybeMarkBookingFullyRefunded haccounted hs).mono ?_)
  rintro - s₄ hmatches
  refine matches_ensures hmatches ((steps_enqueueFinancialEvent _ _).bind fun _ => ?_)
  split
  · exact (steps_enqueueFinancialEvent _ _).bind fun _ => steps_pure
  · exact steps_pure

theorem ensures_settleRefundFromVerifiedEvent {input : SettleInput} (haccounted : Accounted s)
    (hmatches : ∀ p, Matches s p) :
    Ensures (settleRefundFromVerifiedEvent input) s fun _ s' => ∀ p, Matches s' p := by
  refine ensures_bind.mpr (ensures_lockMany.mpr ?_)
  split
  · exact ensures_pure.mpr hmatches
  · rename_i refundId locked _
    refine ensures_bind.mpr (ensures_findOrThrow.mpr fun refund hlook => ?_)
    have hlink : Ensures (Prisma.paymentWebhookEvent.update input.webhookId
        (fun w => { w with refundId := some refundId }) (.notFound "PaymentWebhookEvent")) s
        fun _ s' => Accounted s' ∧ ∀ p, Matches s' p :=
      (accounted_ensures (U := fun _ _ => True) (B := fun _ => True) (W := fun _ => True)
        (steps_updateWebhook trivial _ _) unrelated_paymentWebhookEvent.update haccounted).and
      (matches_ensures hmatches (steps_updateWebhook trivial _ _))
    have hkeeps : Ensures (Prisma.paymentWebhookEvent.update input.webhookId
        (fun w => { w with refundId := some refundId }) (.notFound "PaymentWebhookEvent")) s
        fun _ s' => s'.refunds = s.refunds := ensures_update.mpr fun _ _ _ => rfl
    refine ensures_bind.mpr ((hlink.and hkeeps).mono ?_)
    rintro - s₁ ⟨⟨haccounted, hmatches⟩, hrefunds⟩
    replace hlook : s₁.refunds.lookup refundId = some refund := hrefunds ▸ hlook
    have hreview : ∀ code, (markRefundUnderReview refundId refund code input.now).Steps QuietStep :=
      fun code => refundStep_writes.escalated (flagging_refundStep _) _ _ _ fun _ => by simp
    refine ensures_ite.mpr ⟨fun _ => ?_, fun _ => ensures_ite.mpr ⟨fun _ => ?_, fun _ => ?_⟩⟩
    · exact matches_ensures hmatches ((hreview _).bind fun _ => steps_pure)
    · exact ensures_pure.mpr hmatches
    · split
      · exact ensures_pure.mpr hmatches
      · exact matches_ensures hmatches ((hreview _).bind fun _ => steps_pure)
      · exact ensures_bind.mpr ((ensures_settleSucceeded haccounted hmatches hlook).mono
          fun _ _ h => ensures_pure.mpr h)
      · exact matches_ensures hmatches
          ((refundStep_writes.settledFailed _ _ _ fun _ => by simp).bind fun _ => steps_pure)
      · exact matches_ensures hmatches
          ((refundStep_writes.settledAdvanced _ _ _ fun _ => by simp).bind fun _ => steps_pure)

/-! ## §4 Serial runs -/

theorem quiet_runDeferredTriggers : (runDeferredTriggers).Steps QuietStep := by
  intro s
  refine ensures_perform.mpr fun eff heff => ?_
  simp only [Except.bind_unit_eq_ok] at heff
  obtain ⟨-, ⟨⟩⟩ := heff
  exact .single (.plain rfl rfl rfl rfl)

theorem ensures_matches_runInTransaction {α : Type} {body : Sql α}
    (h : body.Ensures s fun _ s' => ∀ p, Matches s' p) :
    (runInTransaction body).Ensures s fun _ s' => ∀ p, Matches s' p :=
  ensures_bind.mpr <| h.mono fun _ _ hmatches => ensures_bind.mpr <|
    (matches_ensures hmatches quiet_runDeferredTriggers).mono fun _ _ h => ensures_pure.mpr h

theorem ensures_processVerifiedRefundRecord {webhookId : WebhookId} {now : Time}
    (haccounted : Accounted s) (hmatches : ∀ p, Matches s p) :
    Ensures (processVerifiedRefundRecord webhookId now) s fun _ s' => ∀ p, Matches s' p := by
  apply ensures_matches_runInTransaction
  refine ensures_bind.mpr (ensures_lock.mpr (ensures_bind.mpr (ensures_findOrThrow.mpr ?_)))
  intro webhook _
  refine ensures_ite.mpr ⟨fun _ => ensures_pure.mpr hmatches, fun _ => ?_⟩
  refine ensures_bind.mpr (ensures_require.mpr fun _ => ?_)
  split
  · refine ensures_bind.mpr
      ((ensures_settleRefundFromVerifiedEvent haccounted hmatches).mono fun _ _ h => ?_)
    exact matches_ensures h ((steps_update fun _ w hlook hvalid =>
      .webhook webhookId w _ trivial hlook hvalid).bind fun _ => steps_pure)
  · exact ensures_abort.mpr trivial

/-- The invariant of serial runs. -/
structure Balanced (db : Db) : Prop where
  accounted : Accounted db
  matching : ∀ p, Matches db p

/-- **One transaction** keeps the balance. -/
theorem RefundTransaction.ensures (t : RefundTransaction) (hs : Balanced s) :
    t.program.Ensures s fun _ s' => Balanced s' := by
  obtain ⟨haccounted, hmatches⟩ := hs
  have hall : t.program.Steps (RefundStep (fun _ _ => True) (fun _ => True) fun _ => True) := by
    cases t with
    | requestRefund => exact (steps_requestRefund _ _ _ _).bind fun _ => steps_pure
    | claimRefundForSubmission =>
        exact (steps_claimRefundForSubmission _ _ fun _ => trivial).bind fun _ => steps_pure
    | completeAttempt => exact steps_completeAttempt _ _ _ _ _ _
    | markSubmissionAmbiguous => exact steps_markSubmissionAmbiguous _ _ trivial
    | recordSubmission => exact steps_recordSubmission _ _ _ _ trivial
    | failRefund => exact steps_failRefund _ _ _ trivial
    | adoptExternalRefund => exact steps_adoptExternalRefund _ _ trivial
    | settleRefundFromVerifiedEvent =>
        exact (steps_runInTransaction
          (steps_settleRefundFromVerifiedEvent _ (fun _ _ _ _ => trivial)
          (fun _ => trivial) trivial)).bind fun _ => steps_pure
    | storeVerifiedFinancialWebhook =>
        exact (steps_storeVerifiedFinancialWebhook _ _ _ _).bind fun _ => steps_pure
    | processVerifiedRefundRecord =>
        exact (steps_processVerifiedRefundRecord _ _ (fun _ _ _ => trivial) (fun _ => trivial)
          trivial).bind fun _ => steps_pure
  suffices hmatching : t.program.Ensures s fun _ s' => ∀ p, Matches s' p from
    ((accounted_ensures hall t.refreshing haccounted).and hmatching).mono fun _ _ h => ⟨h.1, h.2⟩
  cases t with
  | requestRefund =>
      exact matches_ensures hmatches ((steps_requestRefund _ _ _ _).bind fun _ => steps_pure)
  | claimRefundForSubmission =>
      exact matches_ensures hmatches
        ((steps_claimRefundForSubmission _ _ fun _ _ => by simp).bind fun _ => steps_pure)
  | completeAttempt => exact matches_ensures hmatches (steps_completeAttempt _ _ _ _ _ _)
  | markSubmissionAmbiguous =>
      exact matches_ensures hmatches (steps_markSubmissionAmbiguous _ _ fun _ => by simp)
  | recordSubmission =>
      exact matches_ensures hmatches (steps_recordSubmission _ _ _ _ fun _ => by simp)
  | failRefund => exact matches_ensures hmatches (steps_failRefund _ _ _ fun _ => by simp)
  | adoptExternalRefund =>
      exact matches_ensures hmatches (steps_adoptExternalRefund _ _ fun _ => by simp)
  | settleRefundFromVerifiedEvent =>
      exact ensures_bind.mpr ((ensures_matches_runInTransaction
        (ensures_settleRefundFromVerifiedEvent haccounted hmatches)).mono
          fun _ _ h => ensures_pure.mpr h)
  | storeVerifiedFinancialWebhook =>
      exact matches_ensures hmatches
        ((steps_storeVerifiedFinancialWebhook _ _ _ _).bind fun _ => steps_pure)
  | processVerifiedRefundRecord =>
      exact ensures_bind.mpr ((ensures_processVerifiedRefundRecord haccounted hmatches).mono
        fun _ _ h => ensures_pure.mpr h)

/-- One committed transaction at a time; a rejected one leaves the state as it
was. -/
def RefundTransaction.step (db : Db) (t : RefundTransaction) : Option Db :=
  some (t.program.commit db)

/-- Captured payments with confirmed bookings, before any refund: no order has
two captured payments or two bookings. -/
structure CapturedPayments (db : Db) : Prop where
  noRefunds : ∀ id, db.refunds.lookup id = none
  untouched : ∀ p a, db.attempts.lookup p = some a →
    0 ≤ a.amountMinor ∧ a.refundedMinor = 0 ∧ a.inFlightRefundMinor = 0
  confirmed : ∀ id b, db.bookings.lookup id = some b → b.status = .CONFIRMED
  oneCapture : ∀ p a p' a', db.attempts.lookup p = some a → db.attempts.lookup p' = some a' →
    a.status = .SUCCEEDED → a'.status = .SUCCEEDED → a.orderId = a'.orderId → p = p'
  oneBooking : ∀ id b id' b', db.bookings.lookup id = some b → db.bookings.lookup id' = some b' →
    b.orderId = b'.orderId → id = id'

/-- The totals are the sums over the stored refunds. -/
structure AggregatesExact (db : Db) : Prop where
  refunded : ∀ p a, db.attempts.lookup p = some a → a.refundedMinor = db.refundedSum p
  inFlight : ∀ p a, db.attempts.lookup p = some a → a.inFlightRefundMinor = db.inFlightSum p

theorem aggregatesExact_iff {db : Db} :
    AggregatesExact db ↔ ∀ p, paymentAggregate.Faithful db p := by
  constructor
  · intro h p
    exact paymentAggregate_faithful.mpr fun a ha => ⟨h.refunded p a ha, h.inFlight p a ha⟩
  · intro h
    exact ⟨fun p a ha => (paymentAggregate_faithful.mp (h p) a ha).1,
      fun p a ha => (paymentAggregate_faithful.mp (h p) a ha).2⟩

/-- Without refunds every sum is zero. -/
theorem CapturedPayments.aggregatesExact {db : Db} (h : CapturedPayments db) :
    AggregatesExact db := by
  constructor
  · intro p a ha
    rw [(h.untouched p a ha).2.1]
    exact (Table.sum_eq_zero h.noRefunds).symm
  · intro p a ha
    rw [(h.untouched p a ha).2.2]
    exact (Table.sum_eq_zero h.noRefunds).symm

theorem CapturedPayments.ancestry {db : Db} (h : CapturedPayments db) : Ancestry db where
  bounded := by
    intro p a ha
    obtain ⟨hamount, hrefunded, hinFlight⟩ := h.untouched p a ha
    rw [PaymentAttempt.refundAggregateCheck, hrefunded, hinFlight]
    exact ⟨le_rfl, le_rfl, by simpa using hamount⟩
  oneCapture := h.oneCapture
  oneBooking := h.oneBooking
  positive := fun id r hr => by simp [h.noRefunds id] at hr
  payment := fun id r hr => by simp [h.noRefunds id] at hr
  booking := fun id r hr => by simp [h.noRefunds id] at hr

theorem CapturedPayments.matches {db : Db} (h : CapturedPayments db) (p : AttemptId) :
    Matches db p := by
  intro a id b ha _ hb _
  have hsum := h.aggregatesExact.refunded p a ha
  rw [(h.untouched p a ha).2.1] at hsum
  rw [← hsum, h.confirmed id b hb]
  constructor
  · intro hcontra
    cases hcontra
  · rintro ⟨hpositive, hzero⟩
    exact absurd hzero hpositive.ne

theorem CapturedPayments.balanced {db : Db} (h : CapturedPayments db) : Balanced db where
  accounted := ⟨h.ancestry, aggregatesExact_iff.mp h.aggregatesExact⟩
  matching := h.matches

/-- What every state of a run satisfies. -/
structure RefundsAccounted (db : Db) : Prop where
  exact : AggregatesExact db
  bounded : ∀ p a, db.attempts.lookup p = some a →
    a.refundedMinor + a.inFlightRefundMinor ≤ a.amountMinor
  booking : ∀ p a id b, db.attempts.lookup p = some a → a.status = .SUCCEEDED →
    db.bookings.lookup id = some b → b.orderId = a.orderId →
    (b.status = .REFUNDED ↔ 0 < a.amountMinor ∧ a.refundedMinor = a.amountMinor)

/-- **Over-refund safety and aggregate fidelity.** In every state that serial
refund transactions reach, the totals of every payment are the sums over its
refunds and stay within the payment, and its booking is refunded exactly when
all of it has gone back. -/
theorem refunds_accounted {db db' : Db} (h : CapturedPayments db)
    (hreach : Reaches RefundTransaction.step (fun _ _ => True) db db') : RefundsAccounted db' := by
  have hinv : Balanced db' := by
    refine hreach.invariant h.balanced ?_
    rintro s t _ - ⟨⟩ hs
    exact (t.ensures hs).commit hs
  obtain ⟨haccounted, hmatches⟩ := hinv
  have hexact := aggregatesExact_iff.mpr haccounted.faithful
  refine ⟨hexact, fun p a ha => (haccounted.ancestry.bounded p a ha).2.2, ?_⟩
  intro p a id b ha hstatus hb horder
  rw [hexact.refunded p a ha]
  exact hmatches p a id b ha hstatus hb horder

/-- A fulfilled order of two seats at these prices, paid in one captured payment. -/
def paidBooking (first second : Money) : Db where
  users := AList.insert 2 { platformRole := .ADMIN, memberships := [] }
    (AList.singleton 1 { platformRole := .USER, memberships := [] })
  events := AList.singleton 1 { organizerOrganizationId := 1, status := .PUBLISHED }
  sessions := AList.singleton 1
    { eventId := 1, venueOrganizationId := 1, status := .ON_SALE, startAt := 5000, endAt := 9000
      salesStartAt := 0, salesEndAt := 4000 }
  inventory := AList.insert 2
    { sessionId := 1, seatId := 2, sectionId := 1, priceTierId := 2, priceMinor := second
      currency := .USD, state := .BOOKED }
    (AList.singleton 1
      { sessionId := 1, seatId := 1, sectionId := 1, priceTierId := 1, priceMinor := first
        currency := .USD, state := .BOOKED })
  holds := AList.singleton 1
    { publicToken := 1, sessionId := 1, userId := 1, status := .CONVERTED, idempotencyKey := 1
      expiresAt := 600, createdAt := 10, convertedAt := some 100
      items :=
        [{ inventoryId := 1, priceMinor := first, currency := .USD },
          { inventoryId := 2, priceMinor := second, currency := .USD }] }
  orders := AList.singleton 1
    { publicReference := 1, userId := 1, organizationId := 1, eventId := 1, sessionId := 1
      sourceHoldId := 1, status := .FULFILLED, currency := .USD, subtotalMinor := first + second
      totalMinor := first + second, idempotencyKey := 1, checkoutExpiresAt := 600, createdAt := 20
      paidAt := some 100, fulfilledAt := some 100
      items :=
        [{ inventoryId := 1, seatId := 1, sectionId := 1, priceTierId := 1, priceMinor := first
           currency := .USD },
          { inventoryId := 2, seatId := 2, sectionId := 1, priceTierId := 2, priceMinor := second
            currency := .USD }] }
  attempts := AList.singleton 1
    { orderId := 1, provider := .STRIPE, providerIntentId := some 7, providerIdempotencyKey := 1
      status := .SUCCEEDED, amountMinor := first + second, currency := .USD, createdAt := 20
      succeededAt := some 100 }
  bookings := AList.singleton 1
    { publicReference := 1, orderId := 1, userId := 1, organizationId := 1, eventId := 1
      sessionId := 1, currency := .USD, totalMinor := first + second
      confirmedAt := 100, createdAt := 100
      seats :=
        [{ id := 1, inventoryId := 1, sessionId := 1, seatId := 1, sectionId := 1, priceTierId := 1
           priceMinor := first, currency := .USD },
          { id := 2, inventoryId := 2, sessionId := 1, seatId := 2, sectionId := 1, priceTierId := 2
            priceMinor := second, currency := .USD }] }

/-- Two seats of different prices. -/
def capturedPayment : Db :=
  paidBooking 600 400

theorem capturedPayment_captured : CapturedPayments capturedPayment where
  noRefunds := fun id => AList.lookup_empty id
  untouched := Table.forall_lookup (by decide)
  confirmed := Table.forall_lookup (by decide)
  oneCapture := by
    intro p a p' a' ha ha' _ _ _
    have hone := Table.forall_lookup (t := capturedPayment.attempts)
      (p := fun k _ => k = 1) (by decide)
    rw [hone p a ha, hone p' a' ha']
  oneBooking := by
    intro id b id' b' hb hb' _
    have hone := Table.forall_lookup (t := capturedPayment.bookings)
      (p := fun k _ => k = 1) (by decide)
    rw [hone id b hb, hone id' b' hb']

/-- An administrator refunds one seat of the booking, from request to the
recorded provider refund. -/
def submitSeatRefund (seat : BookingSeatId) (now : Time) : List RefundTransaction :=
  [.requestRefund { userId := 2, role := .PLATFORM_ADMIN }
      { bookingReference := 1, scope := .SELECTED_SEATS, bookingSeatIds := [seat],
        reasonCode := .GOODWILL, idempotencyKey := seat }
      { refundId := seat, publicReference := seat } now,
    .claimRefundForSubmission seat (now + 1),
    .recordSubmission
      { id := seat, orderId := 1, paymentAttemptId := 1, bookingId := 1,
        requestedAmountMinor := if seat = 1 then 600 else 400, currency := .USD,
        providerIdempotencyKey := (1, seat), providerIntentId := 7, attemptNumber := 1 }
      .STRIPE (70 + seat) (now + 2)]

/-- Store and process the provider's success event of that refund. -/
def settleSeatRefund (seat : BookingSeatId) (now : Time) : List RefundTransaction :=
  [.storeVerifiedFinancialWebhook .STRIPE
      { providerEventId := 80 + seat, providerIntentId := 7, providerRefundId := 70 + seat,
        status := .SUCCEEDED, amountMinor := if seat = 1 then 600 else 400, currency := .USD,
        occurredAt := some now } (90 + seat) now,
    .processVerifiedRefundRecord (90 + seat) (now + 1)]

theorem refunds_accounted_captured :
    ∃ db, execute RefundTransaction.step
        (submitSeatRefund 1 200 ++ submitSeatRefund 2 210 ++ settleSeatRefund 2 220 ++
          settleSeatRefund 1 230) capturedPayment = some db ∧
      (db.bookings.lookup 1).map (·.status) = some .REFUNDED ∧ RefundsAccounted db := by
  have hrun : (execute RefundTransaction.step
      (submitSeatRefund 1 200 ++ submitSeatRefund 2 210 ++ settleSeatRefund 2 220 ++
        settleSeatRefund 1 230) capturedPayment).any
      (fun db => (db.bookings.lookup 1).map (·.status) == some .REFUNDED) = true := by
    decide +kernel
  obtain ⟨db, hdb, hrefunded⟩ := (Option.any_eq_true _ _).mp hrun
  exact ⟨db, hdb, by simpa using hrefunded, refunds_accounted capturedPayment_captured
    (reaches_of_execute hdb fun _ _ _ => trivial)⟩

end SeatFlow
