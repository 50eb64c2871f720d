import SeatFlow.Commerce.Fulfilment

/-!
# Captured payments

An order has one payment, and the two agree on whether the money was taken: a payment
has succeeded exactly when its order is fulfilled, or paid and not fulfilled. One step
writes both rows or neither.
-/

namespace SeatFlow

open Relational

/-- The orders whose money was taken. -/
def CheckoutOrderStatus.isCaptured : CheckoutOrderStatus → Bool
  | .FULFILLED | .PAID_UNFULFILLED => true
  | .PENDING | .PAYMENT_PENDING | .PAID | .FAILED | .CANCELLED | .EXPIRED | .REQUIRES_REVIEW =>
      false

/-- A payment and its order agree on whether the money was taken, and the order says when. -/
structure PaymentAttempt.Agrees (a : PaymentAttempt) (o : CheckoutOrder) : Prop where
  captured : a.status = .SUCCEEDED ↔ o.status.isCaptured = true
  paidAt : o.status.isCaptured = true → o.paidAt.isSome = true

/-- A payment and an order that are both without the money agree. -/
theorem PaymentAttempt.Agrees.of_neither {a : PaymentAttempt} {o : CheckoutOrder}
    (ha : a.status ≠ .SUCCEEDED) (ho : o.status.isCaptured = false) : a.Agrees o where
  captured := ⟨fun h => absurd h ha, fun h => by simp [ho] at h⟩
  paidAt := fun h => by simp [ho] at h

theorem PaymentAttempt.Agrees.uncaptured {a : PaymentAttempt} {o : CheckoutOrder} (h : a.Agrees o)
    (ha : isTerminalPaymentStatus a.status = false) : o.status.isCaptured = false := by
  by_contra hcaptured
  have hsucceeded := h.captured.mpr (by simpa using hcaptured)
  rw [hsucceeded] at ha
  cases ha

/-- What an order is turned into without money agrees with any payment that agreed before. -/
theorem PaymentAttempt.Agrees.without_money {a : PaymentAttempt} {o o' : CheckoutOrder}
    (h : a.Agrees o) (ho : o.status.isCaptured = false) (ho' : o'.status.isCaptured = false) :
    a.Agrees o' := by
  refine .of_neither (fun hsucceeded => ?_) ho'
  rw [h.captured.mp hsucceeded] at ho
  cases ho

namespace Sales

/-- Payments and orders agree. -/
structure Captured (s : Sales) : Prop where
  fulfilled : s.Fulfilled
  attempts : s.attempts.Coherent (fun _ => True) fun a a' => a.orderId ≠ a'.orderId
  order : ∀ k a, s.attempts.lookup k = some a →
    ∃ o, s.orders.lookup a.orderId = some o ∧ a.Agrees o
  confirmed : ∀ k b, s.bookings.lookup k = some b → b.status = .CONFIRMED

variable {s s' : Sales}

/-! ## §1 Steps -/

/-- A step of the orders alone, which takes money for none of them. -/
theorem Captured.of_orders (hs : s.Captured) (hfulfilled : s'.Fulfilled)
    (hattempts : s'.attempts = s.attempts) (hbookings : s'.bookings = s.bookings)
    (horders : ∃ g, s.orders.Mapped g s'.orders ∧ ∀ id o, s.orders.lookup id = some o →
      ∀ a : PaymentAttempt, a.Agrees o → a.Agrees (g id o)) : s'.Captured where
  fulfilled := hfulfilled
  attempts := by
    rw [hattempts]
    exact hs.attempts
  order := by
    rw [hattempts]
    intro k a ha
    obtain ⟨o, ho, hagrees⟩ := hs.order k a ha
    obtain ⟨g, hmapped, hg⟩ := horders
    exact ⟨_, hmapped.lookup ho, hg _ o ho a hagrees⟩
  confirmed := by
    rw [hbookings]
    exact hs.confirmed

/-- A step of one payment and its order. -/
theorem Captured.of_pair (hs : s.Captured) (hfulfilled : s'.Fulfilled) {attemptId : AttemptId}
    {a b : PaymentAttempt} {o : CheckoutOrder} (hfound : s.attempts.lookup attemptId = some a)
    (hattempts : s.attempts.Wrote attemptId b s'.attempts) (hsame : b.orderId = a.orderId)
    (horders : s.orders.Wrote a.orderId o s'.orders) (hagrees : b.Agrees o)
    (hconfirmed : ∀ k b, s'.bookings.lookup k = some b → b.status = .CONFIRMED) : s'.Captured where
  fulfilled := hfulfilled
  attempts := by
    refine hs.attempts.wrote (fun _ _ => Ne.symm) hattempts trivial fun k c hc hne => ?_
    rw [hsame]
    exact hs.attempts.apart k c attemptId a hc hfound hne
  order := by
    intro k c hc
    rcases hattempts.cases hc with ⟨-, rfl⟩ | ⟨hne, hold⟩
    · rw [hsame]
      exact ⟨o, horders.lookup_self, hagrees⟩
    · have hother := hs.attempts.apart k c attemptId a hold hfound hne
      obtain ⟨o, ho, hagrees⟩ := hs.order k c hold
      exact ⟨o, (horders.lookup_ne hother).trans ho, hagrees⟩
  confirmed := hconfirmed

theorem Places.captured {orderId : OrderId} {order : CheckoutOrder} {attemptId : AttemptId}
    {attempt : PaymentAttempt} (h : Places orderId order attemptId attempt s s') (hs : s.Captured)
    (hfulfilled : s'.Fulfilled) : s'.Captured where
  fulfilled := hfulfilled
  attempts := by
    refine hs.attempts.wrote (fun _ _ => Ne.symm) h.attempts trivial fun k a ha _ => ?_
    obtain ⟨o, ho, -⟩ := hs.order k a ha
    rw [h.ofOrder]
    rintro rfl
    cases h.orderAbsent.symm.trans ho
  order := by
    intro k a ha
    rcases h.attempts.cases ha with ⟨-, rfl⟩ | ⟨-, hold⟩
    · refine ⟨order, h.ofOrder ▸ h.orders.lookup_self, ?_⟩
      refine PaymentAttempt.Agrees.of_neither ?_ (by rw [h.status]; rfl)
      rw [h.attemptStatus]
      decide
    · obtain ⟨o, ho, hagrees⟩ := hs.order k a hold
      exact ⟨o, h.orders.keeps h.orderAbsent ho, hagrees⟩
  confirmed := by
    rw [h.rest]
    exact hs.confirmed

/-- An order that nobody rewrites. -/
theorem agrees_none {t : Table OrderId CheckoutOrder} : ∃ g, t.Mapped g t ∧
    ∀ id o, t.lookup id = some o → ∀ a : PaymentAttempt, a.Agrees o → a.Agrees (g id o) :=
  ⟨_, Table.mapped_id t, fun _ _ _ _ h => h⟩

/-- A step of an open payment, and maybe of its order, that takes no money. -/
theorem Captured.of_open (hs : s.Captured) (hfulfilled : s'.Fulfilled) {attemptId : AttemptId}
    {a b : PaymentAttempt} {o q : CheckoutOrder} {p : Prop} [Decidable p]
    (hfound : s.attempts.lookup attemptId = some a) (hordered : s.orders.lookup a.orderId = some o)
    (hopen : isTerminalPaymentStatus a.status = false)
    (hattempts : s'.attempts = s.attempts.insert attemptId b) (hsame : b.orderId = a.orderId)
    (horders : s'.orders = if p then s.orders.insert a.orderId q else s.orders)
    (hb : b.status ≠ .SUCCEEDED) (hq : q.status.isCaptured = false)
    (hbookings : s'.bookings = s.bookings) : s'.Captured := by
  have hwrote : s.attempts.Wrote attemptId b s'.attempts := by
    rw [hattempts]
    exact Table.wrote_insert
  have hconfirmed : ∀ k b, s'.bookings.lookup k = some b → b.status = .CONFIRMED := by
    rw [hbookings]
    exact hs.confirmed
  by_cases hp : p
  · rw [if_pos hp] at horders
    exact hs.of_pair hfulfilled hfound hwrote hsame (horders ▸ Table.wrote_insert)
      (.of_neither hb hq) hconfirmed
  · rw [if_neg hp] at horders
    have hkept : s.orders.Wrote a.orderId o s'.orders := by
      rw [horders]
      exact Table.wrote_self hordered
    obtain ⟨order, horder, hagrees⟩ := hs.order _ a hfound
    cases Option.some.inj (hordered.symm.trans horder)
    exact hs.of_pair hfulfilled hfound hwrote hsame hkept
      (.of_neither hb (hagrees.uncaptured hopen)) hconfirmed

theorem ExpiresOrders.captured {p : OrderId → CheckoutOrder → Bool} {now : Time}
    (h : ExpiresOrders p now s s') (hs : s.Captured) (hfulfilled : s'.Fulfilled) :
    s'.Captured := by
  refine hs.of_orders hfulfilled (by rw [h.rest]) (by rw [h.rest])
    ⟨_, h.orders, fun id o _ a hagrees => ?_⟩
  split
  · rename_i hp
    have hunpaid := h.unpaid id o hp
    refine hagrees.without_money ?_ rfl
    cases hstatus : o.status <;>
      simp_all [CheckoutOrderStatus.isUnpaid, CheckoutOrderStatus.isCaptured]
  · exact hagrees

theorem Reviews.captured {orderId : OrderId} {order : CheckoutOrder} {code : Code} {now : Time}
    (h : Reviews orderId order code now s s') (hs : s.Captured) (hfulfilled : s'.Fulfilled) :
    s'.Captured := by
  refine hs.of_orders hfulfilled (by rw [h.rest]) (by rw [h.rest]) ?_
  rw [h.rest]
  refine ⟨_, Table.mapped_insert h.ordered _, fun id o ho a hagrees => ?_⟩
  split
  · rename_i heq
    subst heq
    cases Option.some.inj (h.ordered.symm.trans ho)
    have hopen := h.isOpen
    refine hagrees.without_money ?_ rfl
    cases hstatus : order.status <;>
      simp_all [CheckoutOrderStatus.isTerminal, CheckoutOrderStatus.isCaptured]
  · exact hagrees

/-- **One step** keeps payments and orders in agreement. -/
theorem Captured.step (hs : s.Captured) (h : Step s s') : s'.Captured := by
  have hfulfilled := hs.fulfilled.step h
  cases h with
  | ended h =>
      refine hs.of_orders hfulfilled (by rw [h.rest]) (by rw [h.rest]) ?_
      rw [h.rest]
      exact agrees_none
  | acquired h =>
      refine hs.of_orders hfulfilled (by rw [h.rest]) (by rw [h.rest]) ?_
      rw [h.rest]
      exact agrees_none
  | placed h => exact h.captured hs hfulfilled
  | attached h =>
      exact hs.of_open hfulfilled h.found h.ordered h.isOpen h.attempts rfl h.orders
        (by simp [PaymentAttempt.withIntent]) rfl (by rw [h.rest])
  | expiredOrders h => exact h.captured hs hfulfilled
  | reviewed h => exact h.captured hs hfulfilled
  | @capturedUnfulfilled attemptId a order code now h =>
      refine hs.of_pair (b := a.paidUnderReview now) (o := order.underReview true code now)
        hfulfilled h.found (h.rest ▸ Table.wrote_insert) rfl (h.rest ▸ Table.wrote_insert) ?_
        (h.rest ▸ hs.confirmed)
      exact ⟨⟨fun _ => rfl, fun _ => rfl⟩, fun _ => rfl⟩
  | @failed attemptId a order cancelled now h =>
      have hfailed : (a.unsuccessful cancelled now).status ≠ .SUCCEEDED := by
        cases cancelled <;> simp [PaymentAttempt.unsuccessful]
      exact hs.of_open (b := a.unsuccessful cancelled now) (q := order.paymentFailed cancelled now)
        hfulfilled h.found h.ordered h.isOpen (by rw [h.rest]) rfl (by rw [h.rest]) hfailed rfl
        (by rw [h.rest])
  | @awaits attemptId a h =>
      obtain ⟨o, ho, hagrees⟩ := hs.order _ a h.found
      refine hs.of_pair (b := a.pending) (o := o) hfulfilled h.found (h.rest ▸ Table.wrote_insert)
        rfl (h.rest ▸ Table.wrote_self ho) ?_ (h.rest ▸ hs.confirmed)
      exact .of_neither (by simp [PaymentAttempt.pending]) (hagrees.uncaptured h.isOpen)
  | @fulfilled attemptId a order hold fresh now h =>
      have hattempts : s.attempts.Wrote attemptId (a.captured now) s'.attempts := by
        rw [h.rest]
        exact Table.wrote_insert
      refine hs.of_pair hfulfilled h.found hattempts rfl h.orders_wrote ?_ fun k b hb => ?_
      · exact ⟨⟨fun _ => rfl, fun _ => rfl⟩, fun _ => rfl⟩
      · rcases h.bookings.cases hb with ⟨-, rfl⟩ | ⟨-, hold⟩
        · rfl
        · exact hs.confirmed k b hold

/-! ## §2 Runs -/

theorem Captured.steps (hs : s.Captured) (h : Relation.ReflTransGen Step s s') : s'.Captured := by
  induction h with
  | refl => exact hs
  | tail _ hlast ih => exact ih.step hlast

end Sales

theorem Db.BeforeSales.captured {db : Db} (h : db.BeforeSales) : db.sales.Captured where
  fulfilled := h.fulfilled
  attempts :=
    ⟨fun k a ha => (by cases (h.attempts k).symm.trans ha),
      fun k a _ _ ha => (by cases (h.attempts k).symm.trans ha)⟩
  order := fun k a ha => (by cases (h.attempts k).symm.trans ha)
  confirmed := fun k b hb => (by cases (h.bookings k).symm.trans hb)

end SeatFlow
