import SeatFlow.Commerce.Captures
import SeatFlow.Platform.Reachability

/-!
# Captured payments that nothing gives back

A payment that was captured for an order that could not be fulfilled: the order is paid
and unfulfilled for good, so it never has a booking, and a refund is only ever made of a
booking. No run of the platform leads out of there, and that is the only way for money to
be stuck.
-/

namespace SeatFlow

open Relational Program Entity

variable {s s' : Db} {attemptId : AttemptId} {orderId : OrderId}

/-! ## §1 Sales -/

namespace Sales

/-- A payment of an order that is paid, unfulfilled and without a booking. -/
structure Stranded (attemptId : AttemptId) (orderId : OrderId) (s : Sales) : Prop where
  attempt : ∃ a, s.attempts.lookup attemptId = some a ∧ a.orderId = orderId
  order : ∃ o, s.orders.lookup orderId = some o ∧ o.status = .PAID_UNFULFILLED
  unbooked : ∀ k b, s.bookings.lookup k = some b → b.orderId ≠ orderId

variable {s s' : Sales}

/-- A payment that is rewritten keeps its order. -/
theorem Stranded.attempt_wrote (hs : s.Stranded attemptId orderId) {k : AttemptId}
    {a new : PaymentAttempt} (hfound : s.attempts.lookup k = some a)
    (hattempts : s.attempts.Wrote k new s'.attempts) (hsame : new.orderId = a.orderId) :
    ∃ a, s'.attempts.lookup attemptId = some a ∧ a.orderId = orderId := by
  obtain ⟨x, hx, hof⟩ := hs.attempt
  by_cases hid : attemptId = k
  · subst hid
    cases Option.some.inj (hfound.symm.trans hx)
    exact ⟨new, hattempts.lookup_self, hsame.trans hof⟩
  · exact ⟨x, (hattempts.lookup_ne hid).trans hx, hof⟩

/-- A step of one payment, which keeps its order, and perhaps of another order. -/
theorem Stranded.of_pair (hs : s.Stranded attemptId orderId) {k : AttemptId}
    {a new : PaymentAttempt} (hfound : s.attempts.lookup k = some a)
    (hattempts : s.attempts.Wrote k new s'.attempts) (hsame : new.orderId = a.orderId)
    (horder : ∃ o, s'.orders.lookup orderId = some o ∧ o.status = .PAID_UNFULFILLED)
    (hbookings : s'.bookings = s.bookings) : s'.Stranded attemptId orderId where
  attempt := hs.attempt_wrote hfound hattempts hsame
  order := horder
  unbooked := by
    rw [hbookings]
    exact hs.unbooked

/-- A step of the orders alone. -/
theorem Stranded.of_orders (hs : s.Stranded attemptId orderId)
    (horder : ∃ o, s'.orders.lookup orderId = some o ∧ o.status = .PAID_UNFULFILLED)
    (hattempts : s'.attempts = s.attempts) (hbookings : s'.bookings = s.bookings) :
    s'.Stranded attemptId orderId where
  attempt := by
    rw [hattempts]
    exact hs.attempt
  order := horder
  unbooked := by
    rw [hbookings]
    exact hs.unbooked

/-- An order that is rewritten while it is not paid is another one. -/
theorem Stranded.order_insert (hs : s.Stranded attemptId orderId) {k : OrderId}
    {o new : CheckoutOrder} (hlook : s.orders.lookup k = some o)
    (hnew : o.status = .PAID_UNFULFILLED → new.status = .PAID_UNFULFILLED) :
    ∃ o, (s.orders.insert k new).lookup orderId = some o ∧ o.status = .PAID_UNFULFILLED := by
  obtain ⟨x, hx, hpaid⟩ := hs.order
  by_cases hid : orderId = k
  · subst hid
    cases Option.some.inj (hlook.symm.trans hx)
    exact ⟨new, AList.lookup_insert _, hnew hpaid⟩
  · exact ⟨x, (AList.lookup_insert_ne hid).trans hx, hpaid⟩

/-- **One step** of the sales leaves a stranded payment where it is. -/
theorem Stranded.step (hs : s.Stranded attemptId orderId) (h : Step s s') :
    s'.Stranded attemptId orderId := by
  cases h with
  | ended h =>
      rw [h.rest]
      exact ⟨hs.attempt, hs.order, hs.unbooked⟩
  | acquired h =>
      rw [h.rest]
      exact ⟨hs.attempt, hs.order, hs.unbooked⟩
  | placed h =>
      obtain ⟨a, ha, hof⟩ := hs.attempt
      obtain ⟨o, ho, hpaid⟩ := hs.order
      refine ⟨⟨a, h.attempts.keeps h.attemptAbsent ha, hof⟩,
        ⟨o, h.orders.keeps h.orderAbsent ho, hpaid⟩, ?_⟩
      rw [h.rest]
      exact hs.unbooked
  | @attached k a intent order h =>
      have hattempts : s.attempts.Wrote k (a.withIntent intent) s'.attempts := by
        rw [h.attempts]
        exact Table.wrote_insert
      refine hs.of_pair h.found hattempts rfl ?_ (by rw [h.rest])
      rw [h.orders]
      split
      · rename_i hpending
        exact hs.order_insert h.ordered fun hpaid => by cases hpending.symm.trans hpaid
      · exact hs.order
  | @expiredOrders p now h =>
      refine hs.of_orders ?_ (by rw [h.rest]) (by rw [h.rest])
      obtain ⟨o, ho, hpaid⟩ := hs.order
      have hkept := h.orders.lookup ho
      rw [if_neg fun hp => by
        have hunpaid := h.unpaid orderId o hp
        rw [hpaid] at hunpaid
        cases hunpaid] at hkept
      exact ⟨o, hkept, hpaid⟩
  | reviewed h =>
      rw [h.rest]
      refine hs.of_orders (hs.order_insert h.ordered fun hpaid => ?_) rfl rfl
      have hreview := h.isOpen (by rw [hpaid]; rfl)
      cases hreview.symm.trans hpaid
  | capturedUnfulfilled h =>
      rw [h.rest]
      exact hs.of_pair h.found Table.wrote_insert rfl (hs.order_insert h.ordered fun _ => rfl) rfl
  | failed h =>
      rw [h.rest]
      refine hs.of_pair h.found Table.wrote_insert rfl ?_ rfl
      dsimp only
      split
      · rename_i hunpaid
        refine hs.order_insert h.ordered fun hpaid => ?_
        rw [hpaid] at hunpaid
        cases hunpaid
      · exact hs.order
  | awaits h =>
      rw [h.rest]
      exact hs.of_pair h.found Table.wrote_insert rfl hs.order rfl
  | @fulfilled k a order hold fresh now h =>
      -- the order that is fulfilled is another one
      have hne : a.orderId ≠ orderId := by
        rintro rfl
        obtain ⟨o, ho, hpaid⟩ := hs.order
        cases Option.some.inj (h.ordered.symm.trans ho)
        have hopen := h.orderOpen
        rw [hpaid] at hopen
        cases hopen
      have hattempts : s.attempts.Wrote k (a.captured now) s'.attempts := by
        rw [h.rest]
        exact Table.wrote_insert
      obtain ⟨o, ho, hpaid⟩ := hs.order
      refine ⟨?_, ⟨o, (h.orders_wrote.lookup_ne hne.symm).trans ho, hpaid⟩, fun k b hb => ?_⟩
      · exact hs.attempt_wrote h.found hattempts rfl
      · rcases h.bookings.cases hb with ⟨-, rfl⟩ | ⟨-, hold⟩
        · exact hne
        · exact hs.unbooked k b hold

theorem Stranded.steps (hs : s.Stranded attemptId orderId)
    (h : Relation.ReflTransGen Step s s') : s'.Stranded attemptId orderId := by
  induction h with
  | refl => exact hs
  | tail _ hlast ih => exact ih.step hlast

end Sales

/-! ## §2 The database -/

/-- A stranded payment, of which nothing was refunded. -/
structure Db.Stranded (attemptId : AttemptId) (orderId : OrderId) (db : Db) : Prop where
  sales : db.sales.Stranded attemptId orderId
  unrefunded : ∀ k r, db.refunds.lookup k = some r → r.paymentAttemptId ≠ attemptId

def Db.Unbooked (orderId : OrderId) (db : Db) : Prop :=
  ∀ k b, db.bookings.lookup k = some b → b.orderId ≠ orderId

namespace Commerce

/-- Commerce leaves refunds alone. -/
theorem aside_commit (db : Db) (a : CommerceAction) : db.RefundsAside (commit db a) := by
  have hcommit : ∀ {p : Sql Unit}, p.Steps Db.RefundsAside → db.RefundsAside (p.commit db) :=
    fun hp => refundsAside_of_steps (hp.commit db)
  cases a with
  | transaction t => exact t.aside db
  | cancelEvent =>
      exact hcommit (aside_commerce.cancelledEvent SeatFlow.aside_commit
        (fun _ _ => aside_other rfl rfl rfl) (fun _ _ => aside_other rfl rfl rfl) _ _ _)
  | releaseExpiredHoldsForSession =>
      exact refundsAside_of_steps ((SeatFlow.aside_commit.steps
        (aside_commerce.releasedExpired _ _)).commit db)
  | releaseActiveHoldsForSession =>
      exact refundsAside_of_steps ((SeatFlow.aside_commit.steps
        (aside_commerce.releasedActive _ _)).commit db)

end Commerce

/-- **Commerce leaves a stranded payment where it is.** -/
theorem Db.Stranded.commerce (hs : s.Stranded attemptId orderId) (a : CommerceAction) :
    (Commerce.commit s a).Stranded attemptId orderId where
  sales := hs.sales.steps (Commerce.sells_commit s a)
  unrefunded := by
    rw [(Commerce.aside_commit s a).refunds]
    exact hs.unrefunded

/-! ## §3 Bookings of other services -/

theorem unbooked_of_bookings (h : Framing Db.bookings s s') :
    Keeping (Db.Unbooked orderId) s s' := by
  intro hs
  rw [Db.Unbooked, show s'.bookings = s.bookings from h]
  exact hs

theorem unbooked_updateBooking (id : BookingId) (f : Booking → Booking) (missing : Failure) :
    (Prisma.booking.update id f missing).Steps (Keeping (Db.Unbooked orderId)) := by
  refine steps_update fun s b hlook hvalid hs k b' hb' => ?_
  rcases Table.wrote_insert.cases hb' with ⟨-, rfl⟩ | ⟨-, hold⟩
  · obtain ⟨-, hof, -⟩ :=
      Booking.sameSnapshot_of_protect (bookingConstraints.keep_of_validate hvalid)
    rw [hof]
    exact hs id b hlook
  · exact hs k b' hold

theorem bookings_frame : RefundFrame Db.bookings :=
  ⟨⟨fun _ _ => rfl, fun _ _ => rfl, fun _ _ => rfl, fun _ _ => rfl, fun _ _ _ _ => rfl⟩,
    fun _ _ _ _ _ => rfl⟩

theorem unbooked_refunds : RefundTransactionWrites (Keeping (Db.Unbooked orderId)) where
  toSettlementWrites :=
    { toRefundWrites := bookings_frame.writes.mono fun _ _ => unbooked_of_bookings
      credit := fun input hentry hdispute =>
        (crediting_of_free (fun _ _ => rfl) input hentry hdispute).mono
          fun _ _ => unbooked_of_bookings
      revoke := revoking_of_free (fun _ _ => unbooked_of_bookings rfl)
        fun _ _ => unbooked_of_bookings rfl
      booking := fun id _ missing _ => unbooked_updateBooking id _ missing }
  inserted := fun id row _ => (framed_insertRefund bookings_frame.1 (fun _ _ => rfl) id row).mono
    fun _ _ => unbooked_of_bookings
  flagged := fun _ _ => steps_update fun _ _ _ _ => unbooked_of_bookings rfl
  record := fun _ _ _ _ => steps_update fun _ _ _ _ => unbooked_of_bookings rfl

theorem unbooked_appendLedgerEntry (input : AppendLedgerEntryInput) :
    (appendLedgerEntry input).Steps (Keeping (Db.Unbooked orderId)) :=
  steps_require.bind fun _ => steps_insertNew fun _ _ _ => unbooked_of_bookings rfl

theorem unbooked_disputes (webhookId : WebhookId) :
    DisputeWrites webhookId (Keeping (Db.Unbooked orderId)) where
  opened := fun _ _ => steps_insert fun _ _ _ => unbooked_of_bookings rfl
  advanced := fun _ _ _ _ => steps_update fun _ _ _ _ => unbooked_of_bookings rfl
  history := fun _ _ => unbooked_of_bookings rfl
  outbox := unbooked_refunds.outbox
  queue := unbooked_refunds.queue
  ledger := fun input _ => unbooked_appendLedgerEntry input
  webhook := fun _ _ => steps_update fun _ _ _ _ => unbooked_of_bookings rfl
  booking := unbooked_updateBooking
  admission := unbooked_refunds.revoke

theorem unbooked_commits : PlatformCommits (Keeping (Db.Unbooked orderId))
    (Keeping (Db.Unbooked orderId)) where
  commit := committing_of_queue fun _ => unbooked_of_bookings rfl
  stored := fun _ _ _ _ _ _ _ _ => unbooked_of_bookings rfl
  retried := fun _ => steps_updateMany fun _ _ => unbooked_of_bookings rfl
  completed := fun _ _ _ => steps_updateWhen fun _ _ _ _ _ => unbooked_of_bookings rfl
  recorded := fun _ _ _ _ => unbooked_of_bookings rfl
  reissued := fun _ _ _ _ => unbooked_of_bookings rfl

/-! ## §4 Admitted writes -/

/-- A terminal order keeps its status. -/
theorem DbStep.keeps_terminal (h : DbStep s s') :
    s.orders.Keeps (fun o o' => o.status.isTerminal = true → o'.status = o.status) s'.orders := by
  have hsame : s.orders.Keeps (fun o o' => o.status.isTerminal = true → o'.status = o.status)
      s.orders := Table.keeps_refl (fun _ _ => rfl) s.orders
  have hprotected : ∀ {db : Db} {id : OrderId} {old new : CheckoutOrder},
      CheckoutOrder.validate db id (some old) new = .ok () →
      old.status.isTerminal = true → new.status = old.status := by
    intro db id old new hvalid
    simp only [CheckoutOrder.validate, CheckoutOrder.protectIdentity, Except.bind_unit_eq_ok,
      check_eq_ok] at hvalid
    obtain ⟨-, -, -, -, -, -, hterminal, -⟩ := hvalid
    exact hterminal
  cases h with
  | other _ _ _ _ horders =>
      rw [horders]
      exact hsame
  | order id new hvalid =>
      refine Table.keeps_insert (fun _ _ => rfl) fun o ho => ?_
      rw [ho] at hvalid
      exact hprotected hvalid
  | orders p f hvalid =>
      exact mapped_select (fun _ _ => rfl) fun k o ho hp => hprotected (hvalid k o ho hp)
  | orderItems id o items hlook =>
      refine Table.keeps_insert (fun _ _ => rfl) fun o' ho => ?_
      cases Option.some.inj (hlook.symm.trans ho)
      exact fun _ => rfl
  | _ => exact hsame

/-- What is not booked afterwards was not booked before. -/
theorem DbStep.unbooked (h : DbStep s s') (hs : s'.Unbooked orderId) : s.Unbooked orderId := by
  intro k b hb
  obtain ⟨b', hb', -, hof, -⟩ := h.keeps.bookings k b hb
  rw [← hof]
  exact hs k b' hb'

/-- **A refund is made of a booking**, so none is made of a stranded payment. -/
theorem Db.Stranded.unrefunded_step (hs : s.Stranded attemptId orderId) (h : DbStep s s') :
    ∀ k r, s'.refunds.lookup k = some r → r.paymentAttemptId ≠ attemptId := by
  cases h with
  | other _ _ _ _ _ _ _ _ hrefunds =>
      rw [hrefunds]
      exact hs.unrefunded
  | refund id new hvalid =>
      intro k r hr
      rcases Table.wrote_insert.cases hr with ⟨rfl, rfl⟩ | ⟨-, hold⟩
      · cases hlook : s.refunds.lookup k with
        | none =>
            rw [hlook] at hvalid
            obtain ⟨⟨a, ha, -, hof⟩, b, hb, hbooked⟩ := Refund.ancestry_of_validate hvalid
            rintro rfl
            obtain ⟨a', ha', hof'⟩ := hs.sales.attempt
            cases Option.some.inj (ha.symm.trans ha')
            exact hs.sales.unbooked _ b hb (hbooked.trans (hof.symm.trans hof'))
        | some old =>
            rw [hlook] at hvalid
            obtain ⟨-, -, hsame, -⟩ := (Refund.protected_of_validate hvalid).identity
            rw [hsame]
            exact hs.unrefunded k old hlook
      · exact hs.unrefunded k r hold
  | refundSeats id r seats hlook _ =>
      intro k r' hr
      rcases Table.wrote_insert.cases hr with ⟨-, rfl⟩ | ⟨-, hold⟩
      · exact hs.unrefunded id r hlook
      · exact hs.unrefunded k r' hold
  | _ => exact hs.unrefunded

/-- **One write** that books nothing of the order leaves a stranded payment where it is. -/
theorem Db.Stranded.step (hs : s.Stranded attemptId orderId) (h : DbStep s s')
    (hunbooked : s'.Unbooked orderId) : s'.Stranded attemptId orderId where
  sales := by
    obtain ⟨a, ha, hof⟩ := hs.sales.attempt
    obtain ⟨o, ho, hpaid⟩ := hs.sales.order
    obtain ⟨a', ha', hterms⟩ := h.keeps.attempts attemptId a ha
    obtain ⟨o', ho', hkept⟩ := h.keeps_terminal orderId o ho
    exact ⟨⟨a', ha', hterms.identity.1.trans hof⟩,
      ⟨o', ho', (hkept (by rw [hpaid]; rfl)).trans hpaid⟩, hunbooked⟩
  unrefunded := hs.unrefunded_step h

theorem Db.Stranded.steps (hs : s.Stranded attemptId orderId)
    (h : Relation.ReflTransGen Db.Writes s s') (hunbooked : s'.Unbooked orderId) :
    s'.Stranded attemptId orderId := by
  induction h with
  | refl => exact hs
  | tail _ hlast ih => exact (ih (hlast.1.unbooked hunbooked)).step hlast.1 hunbooked

/-! ## §5 The platform -/

/-- What can happen to a captured payment: any step of the platform, and any commerce
action, with the cancellation of an event. -/
inductive RecoveryAction
  | platform (a : PlatformAction)
  | commerce (a : CommerceAction)

namespace Recovery

def step (sys : FinancialSystem) : RecoveryAction → Option FinancialSystem
  | .platform a => Platform.step sys a
  | .commerce a => some (sys.withDb (Commerce.commit sys.db a))

variable {sys sys' : FinancialSystem}

/-- Refunds, disputes and tickets book nothing. -/
theorem unbooked_platform {a : PlatformAction} (h : Platform.step sys a = some sys')
    (hcommerce : ∀ t, a ≠ .commerce t) (hs : sys.db.Unbooked orderId) :
    sys'.db.Unbooked orderId := by
  cases a with
  | commerce t => exact absurd rfl (hcommerce t)
  | financial a =>
      exact Keeping.steps (FinancialSystem.db_financial unbooked_refunds unbooked_disputes
        unbooked_appendLedgerEntry unbooked_commits h) hs
  | ticket t =>
      cases h
      have houtside := t.outside sys.db
      simp only [Db.outsideTickets, Prod.mk.injEq] at houtside
      exact unbooked_of_bookings houtside.2.2.2.2.2.1 hs

/-- **One step** of the platform leaves a stranded payment where it is. -/
theorem stranded_step {a : RecoveryAction} (h : step sys a = some sys')
    (hs : sys.db.Stranded attemptId orderId) : sys'.db.Stranded attemptId orderId := by
  cases a with
  | commerce a =>
      cases h
      exact hs.commerce a
  | platform a =>
      by_cases hcommerce : ∃ t, a = .commerce t
      · obtain ⟨t, rfl⟩ := hcommerce
        cases h
        exact hs.commerce (.transaction t)
      · have hunbooked := unbooked_platform h (fun t ht => hcommerce ⟨t, ht⟩) hs.sales.unbooked
        exact hs.steps (Platform.step_writes h) hunbooked

end Recovery

/-- A captured payment came to something: its order has a confirmed booking, or refunds
that succeeded cover it. -/
def PaymentAttempt.Recovered (a : PaymentAttempt) (attemptId : AttemptId) (db : Db) : Prop :=
  (∃ k b, db.bookings.lookup k = some b ∧ b.orderId = a.orderId ∧ b.status = .CONFIRMED) ∨
    a.amountMinor ≤ db.refundedSum attemptId

theorem Db.Stranded.refundedSum_eq_zero (hs : s.Stranded attemptId orderId) :
    s.refundedSum attemptId = 0 :=
  Table.sum_eq_zero_of_rows fun k r hr => by
    simp [Refund.refundedOf, hs.unrefunded k r hr]

namespace Recovery

variable {sys sys' : FinancialSystem} {a : PaymentAttempt}

/-- **A stranded payment is not recovered** by any run. -/
theorem not_recovered (hs : sys.db.Stranded attemptId a.orderId) (hamount : 0 < a.amountMinor)
    (hrun : Reaches step (fun _ _ => True) sys sys') : ¬a.Recovered attemptId sys'.db := by
  have hstranded : sys'.db.Stranded attemptId a.orderId :=
    hrun.invariant (I := fun sys => sys.db.Stranded attemptId a.orderId) hs
      fun _ _ _ _ hstep hs => stranded_step hstep hs
  rintro (⟨k, b, hb, hof, -⟩ | hcovered)
  · exact hstranded.sales.unbooked k b hb hof
  · rw [hstranded.refundedSum_eq_zero] at hcovered
    exact absurd hcovered (Int.not_le.mpr hamount)

/-- Sales leave a database without refunds without refunds. -/
theorem unrefunded_of_sales {db₀ db : Db} (hnone : ∀ k, db₀.refunds.lookup k = none)
    (hrun : Reaches Commerce.step (fun _ _ => True) db₀ db) (k : RefundId) :
    db.refunds.lookup k = none := by
  have hsame : db.refunds = db₀.refunds :=
    hrun.invariant (I := fun db => db.refunds = db₀.refunds) rfl fun s a t _ hstep hs => by
      cases hstep
      exact (Commerce.aside_commit s a).refunds.trans hs
  rw [hsame]
  exact hnone k

/-- **Recoverable payments.** A payment that sales captured can be recovered, by some run of
everything that the platform does, exactly when it is of no money or its order was not left
paid and unfulfilled. -/
theorem recoverable_iff {db₀ : Db} (hstart : db₀.BeforeSales)
    (hnone : ∀ k, db₀.refunds.lookup k = none)
    (hrun : Reaches Commerce.step (fun _ _ => True) db₀ sys.db)
    (hlook : sys.db.attempts.lookup attemptId = some a) (hcaptured : a.status = .SUCCEEDED) :
    (∃ sys', Reaches step (fun _ _ => True) sys sys' ∧ a.Recovered attemptId sys'.db) ↔
      a.amountMinor ≤ 0 ∨
        ∀ o, sys.db.orders.lookup a.orderId = some o → o.status ≠ .PAID_UNFULFILLED := by
  have hs := hstart.captured.steps (Commerce.sells_of_reaches hrun)
  have hunrefunded := unrefunded_of_sales hnone hrun
  obtain ⟨o, ho, hagrees⟩ := hs.order attemptId a hlook
  have hpaid := hagrees.captured.mp hcaptured
  constructor
  · rintro ⟨sys', hlater, hrecovered⟩
    by_contra hlost
    rw [not_or] at hlost
    obtain ⟨hamount, hunfulfilled⟩ := hlost
    have hstatus : o.status = .PAID_UNFULFILLED := by
      by_contra hne
      refine hunfulfilled fun o' ho' => ?_
      cases Option.some.inj (ho.symm.trans ho')
      exact hne
    have hstranded : sys.db.Stranded attemptId a.orderId := by
      refine ⟨⟨⟨a, hlook, rfl⟩, ⟨o, ho, hstatus⟩, fun k b hb hof => ?_⟩, fun k r hr => ?_⟩
      · obtain ⟨o', ho', hfulfilled, -⟩ := hs.fulfilled.ofOrder k b hb
        rw [hof] at ho'
        cases Option.some.inj (ho.symm.trans ho')
        cases hstatus.symm.trans hfulfilled
      · cases (hunrefunded k).symm.trans hr
    exact not_recovered hstranded (Int.not_le.mp hamount) hlater hrecovered
  · intro hkept
    refine ⟨sys, .refl, ?_⟩
    rcases hkept with hnothing | hunstranded
    · refine .inr ?_
      rw [Db.refundedSum, Table.sum_eq_zero hunrefunded]
      exact hnothing
    · have hfulfilled : o.status = .FULFILLED := by
        have hne := hunstranded o ho
        cases hstatus : o.status <;> simp_all [CheckoutOrderStatus.isCaptured]
      obtain ⟨k, b, hb, hof⟩ := hs.fulfilled.booked a.orderId o ho hfulfilled
      exact .inl ⟨k, b, hb, hof, hs.confirmed k b hb⟩

/-- The payment of a sale is recovered at once. -/
theorem recoverable_iff_sale : ∃ sys : FinancialSystem, ∃ a : PaymentAttempt,
    sys.db.attempts.lookup 1 = some a ∧ a.amountMinor = 1000 ∧
      ∃ sys', Reaches step (fun _ _ => True) sys sys' ∧ a.Recovered 1 sys'.db := by
  have hsale : (execute Commerce.step Commerce.sale openSession).any (fun db =>
      (db.attempts.lookup 1).any fun a => a.status == .SUCCEEDED && a.amountMinor == 1000 &&
        (db.orders.lookup a.orderId).all fun o => o.status != .PAID_UNFULFILLED) = true := by
    decide +kernel
  obtain ⟨db, hdb, hcheck⟩ := (Option.any_eq_true _ _).mp hsale
  obtain ⟨a, hlook, hcheck⟩ := (Option.any_eq_true _ _).mp hcheck
  rw [Bool.and_eq_true, Bool.and_eq_true] at hcheck
  obtain ⟨⟨hcaptured, hamount⟩, hall⟩ := hcheck
  let sys : FinancialSystem := { refunds := { db := db } }
  have hrun : Reaches Commerce.step (fun _ _ => True) openSession sys.db :=
    reaches_of_execute hdb fun _ _ _ => trivial
  refine ⟨sys, a, hlook, eq_of_beq hamount, ?_⟩
  refine (recoverable_iff openSession_beforeSales (fun _ => rfl) hrun hlook
    (eq_of_beq hcaptured)).mpr (.inr fun o ho => ?_)
  rw [show db.orders.lookup a.orderId = some o from ho] at hall
  simpa using hall

/-- The sale of two seats whose payment is reported after the hold ended. -/
def lateSale : List CommerceAction :=
  [.transaction (.acquireSeatHold 1 (holdRequest [1, 2] 1) holdConfiguration
      { holdId := 7, publicToken := 7, createdAt := 100 } 100),
    .transaction (.createCheckoutOrder 1 { holdToken := 7, idempotencyKey := 5 } .STRIPE
      { orderId := 1, publicReference := 1, attemptId := 1, providerIdempotencyKey := 1 } 200),
    .transaction (.recordPaymentIntent 1 91 210),
    .transaction (.storeVerifiedWebhook .STRIPE
      { providerEventId := 1, providerIntentId := 91, status := .SUCCEEDED, amountMinor := 1000
        currency := .USD, occurredAt := none } 1 800),
    .transaction (.processVerifiedWebhookRecord 1
      { bookingId := 1, publicReference := 1, seatId := fun id => id } 810)]

/-- The payment of the late sale is captured and never recovered. -/
theorem unrecoverable_lateSale : ∃ db, execute Commerce.step lateSale openSession = some db ∧
    ∃ a, db.attempts.lookup 1 = some a ∧ a.status = .SUCCEEDED ∧ a.amountMinor = 1000 ∧
      ¬∃ sys', Reaches step (fun _ _ => True) { refunds := { db := db } } sys' ∧
        a.Recovered 1 sys'.db := by
  have hsale : (execute Commerce.step lateSale openSession).any (fun db =>
      (db.attempts.lookup 1).any fun a =>
        a.status == .SUCCEEDED && a.amountMinor == 1000 && a.orderId == 1 &&
        (db.orders.lookup 1).any (fun o => o.status == .PAID_UNFULFILLED) &&
        db.bookings.keys == [] && db.refunds.keys == []) = true := by
    decide +kernel
  obtain ⟨db, hdb, hcheck⟩ := (Option.any_eq_true _ _).mp hsale
  obtain ⟨a, hlook, hcheck⟩ := (Option.any_eq_true _ _).mp hcheck
  simp only [Bool.and_eq_true, beq_iff_eq] at hcheck
  obtain ⟨⟨⟨⟨⟨hcaptured, hamount⟩, hof⟩, horder⟩, hbookings⟩, hrefunds⟩ := hcheck
  obtain ⟨o, ho, hstatus⟩ := (Option.any_eq_true _ _).mp horder
  refine ⟨db, hdb, a, hlook, hcaptured, hamount, ?_⟩
  rintro ⟨sys', hrun, hrecovered⟩
  have hstranded : db.Stranded 1 a.orderId := by
    refine ⟨⟨⟨a, hlook, rfl⟩, ?_, fun k b hb => ?_⟩, fun k r hr => ?_⟩
    · rw [hof]
      exact ⟨o, ho, eq_of_beq hstatus⟩
    · cases (Table.lookup_of_keys hbookings k).symm.trans hb
    · cases (Table.lookup_of_keys hrefunds k).symm.trans hr
  exact not_recovered hstranded (by rw [hamount]; decide) hrun hrecovered

end Recovery

end SeatFlow
