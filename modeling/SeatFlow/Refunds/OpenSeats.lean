import SeatFlow.Commerce.WebhookService
import SeatFlow.Refunds.EventFrames
import SeatFlow.Refunds.RefundPricing
import SeatFlow.Refunds.SeatCoverage

/-!
# Capacity and open seats

What is left of a payment and which seats of its booking are open are kept in different
tables: `requestRefund` prices the seats and checks the price against the payment. As long as
no refund is escalated the two agree, so that a full refund is never capped and a selection of
open seats never exceeds what remains.
-/

namespace SeatFlow

open Relational Program Entity

/-! ## §1 Sums over seats -/

section Sums

variable {α β : Type}

/-- A sum splits along a test. -/
theorem sum_filter_add (f : α → Money) (p : α → Bool) (l : List α) :
    ((l.filter p).map f).sum + ((l.filter fun x => !p x).map f).sum = (l.map f).sum := by
  induction l with
  | nil => rfl
  | cons x l ih =>
    cases hp : p x <;> simp only [List.filter_cons, hp, Bool.not_true, Bool.not_false, if_true,
      Bool.false_eq_true, if_false, List.map_cons, List.sum_cons, ← ih] <;> abel

/-- Rows that have keys of their own sum alike when they are the same rows. -/
theorem sum_eq_of_same_rows {l : List α} {l' : List β} {f : α → Nat × Money}
    {g : β → Nat × Money} (hnodup : (l.map fun x => (f x).1).Nodup)
    (hnodup' : (l'.map fun x => (g x).1).Nodup)
    (hsame : ∀ entry, entry ∈ l.map f ↔ entry ∈ l'.map g) :
    (l.map fun x => (f x).2).sum = (l'.map fun x => (g x).2).sum := by
  have hrows : (l.map f).Nodup := by
    refine List.Nodup.of_map Prod.fst ?_
    rwa [List.map_map]
  have hrows' : (l'.map g).Nodup := by
    refine List.Nodup.of_map Prod.fst ?_
    rwa [List.map_map]
  have hperm := (List.perm_ext_iff_of_nodup hrows hrows').mpr hsame
  have hsum := (hperm.map Prod.snd).sum_eq
  rwa [List.map_map, List.map_map] at hsum

end Sums

/-! ## §2 What `requestRefund` reads -/

/-- The capacity of a payment. -/
def PaymentAttempt.capacity (a : PaymentAttempt) : RefundCapacity where
  capturedMinor := a.amountMinor
  refundedMinor := a.refundedMinor
  inFlightMinor := a.inFlightRefundMinor
  currency := a.currency

/-- What the query `refundedSeatIds` finds. -/
def Db.refundedSeatIds (db : Db) (bookingId : BookingId) : List BookingSeatId :=
  (db.refunds.select fun _ r => r.bookingId == bookingId && r.coversSeats).flatMap fun e =>
    e.2.seats.map (·.bookingSeatId)

/-- The snapshots of a booking's seats. -/
def Db.seatSnapshots (db : Db) (bookingId : BookingId) (booking : Booking) :
    List RefundableSeatSnapshot :=
  booking.seats.map fun seat =>
    { bookingSeatId := seat.id
      priceMinor := seat.priceMinor
      currency := seat.currency
      alreadyRefunded := seat.id ∈ db.refundedSeatIds bookingId }

/-- A booking with its one captured payment, which is of the booking's seats. -/
structure Db.PaidBooking (db : Db) (bookingId : BookingId) (b : Booking) (p : AttemptId)
    (a : PaymentAttempt) : Prop where
  booking : db.bookings.lookup bookingId = some b
  named : (b.seats.map (·.id)).Nodup
  prices : ∀ seat ∈ b.seats, 0 ≤ seat.priceMinor
  paid : (b.seats.map (·.priceMinor)).sum = a.amountMinor
  payment : db.attempts.lookup p = some a
  order : a.orderId = b.orderId
  succeeded : a.status = .SUCCEEDED
  alone : ∀ p' a', db.attempts.lookup p' = some a' → a'.orderId = b.orderId →
    a'.status = .SUCCEEDED → p' = p

/-- Every seat row of a refund is of a booked seat of its booking, at its price. -/
def Db.SeatsBooked (db : Db) : Prop :=
  ∀ id r, db.refunds.lookup id = some r → ∀ seat ∈ r.seats, ∃ b,
    db.bookings.lookup r.bookingId = some b ∧
      ∃ bookedSeat ∈ b.seats, bookedSeat.id = seat.bookingSeatId ∧
        bookedSeat.priceMinor = seat.priceMinor

/-- The refund is of seats. -/
def Refund.OfSeats (r : Refund) : Prop :=
  r.seats ≠ [] ∧ r.scope ≠ .FIXED_AMOUNT

/-- Every refund is of seats, each at the price of a booked seat of its booking. -/
structure Db.SeatPriced (db : Db) : Prop where
  ofSeats : ∀ id r, db.refunds.lookup id = some r → r.OfSeats
  booked : db.SeatsBooked

/-! ## §3 Capacity and covered seats -/

section Capacity

variable {db : Db} {bookingId : BookingId} {b : Booking} {p : AttemptId} {a : PaymentAttempt}

/-- The seat rows of the refunds that cover seats of a booking. -/
def Db.coveredSeats (db : Db) (bookingId : BookingId) : List RefundSeat :=
  (db.refunds.select fun _ r => r.bookingId == bookingId && r.coversSeats).flatMap fun e =>
    e.2.seats

theorem Db.refundedSeatIds_eq : db.refundedSeatIds bookingId =
    (db.coveredSeats bookingId).map (·.bookingSeatId) := by
  rw [coveredSeats, List.map_flatMap]
  rfl

/-- Nothing is named twice by the refunds that cover seats. -/
theorem nodup_refundedSeatIds (hdisjoint : SeatsDisjoint db.refunds)
    (hdistinct : SeatsDistinct db.refunds) (bookingId : BookingId) :
    (db.refundedSeatIds bookingId).Nodup := by
  unfold Db.refundedSeatIds
  rw [List.nodup_flatMap]
  constructor
  · intro e he
    obtain ⟨hlook, -⟩ := Table.mem_select.mp he
    exact hdistinct e.1 e.2 hlook
  · have hkeys : db.refunds.rows.Pairwise fun e e' => e.1 ≠ e'.1 :=
      List.pairwise_map.mp (Table.nodup_rows_fst db.refunds)
    refine (hkeys.filter _).imp_of_mem fun {e e'} he he' hne seat hseat hseat' => hne ?_
    obtain ⟨hlook, hcovers⟩ := List.mem_filter.mp he
    obtain ⟨hlook', hcovers'⟩ := List.mem_filter.mp he'
    simp only [Bool.and_eq_true] at hcovers hcovers'
    exact hdisjoint e.1 e.2 e'.1 e'.2 seat (Table.mem_rows.mp hlook) (Table.mem_rows.mp hlook')
      hcovers.2 hcovers'.2 hseat hseat'

/-- The refunds of a captured booking are those of its payment. -/
theorem Db.PaidBooking.refund_iff (h : db.PaidBooking bookingId b p a) (hs : db.Sound)
    {id : RefundId}
    {r : Refund} (hr : db.refunds.lookup id = some r) :
    r.bookingId = bookingId ↔ r.paymentAttemptId = p := by
  have hancestry := hs.refundAncestry id r hr
  simp only [Refund.enforceAncestry, Except.bind_unit_eq_ok, check_eq_ok,
    Option.map_eq_some_iff] at hancestry
  obtain ⟨⟨⟨a', ha', horder⟩, b', hb', horder'⟩, ⟨a'', ha'', hsucceeded⟩, -⟩ := hancestry
  cases Option.some.inj (ha'.symm.trans ha'')
  constructor
  · rintro rfl
    cases Option.some.inj (h.booking.symm.trans hb')
    exact h.alone _ a' ha' (horder.trans horder'.symm) hsucceeded
  · rintro rfl
    cases Option.some.inj (h.payment.symm.trans ha')
    by_contra hne
    have hapart := hs.bookings.apart r.bookingId b' bookingId b hb' h.booking hne
    exact hapart.order (horder'.trans (horder.symm.trans h.order))

/-- The amount of a refund is the price of its seats. -/
theorem Db.SeatPriced.amount (h : db.SeatPriced) (hs : db.Consistent) {id : RefundId} {r : Refund}
    (hr : db.refunds.lookup id = some r) :
    (r.seats.map (·.priceMinor)).sum = r.requestedAmountMinor := by
  obtain ⟨hnonempty, hscope⟩ := h.ofSeats id r hr
  have htotal := (verifySeatTotal_eq_ok hr).mp (hs.seatTotals id)
  unfold SeatTotal at htotal
  cases hcase : r.scope <;> rw [hcase] at htotal
  · exact htotal hnonempty
  · exact htotal.2
  · exact absurd hcase hscope

/-- **What the payment counts** is the price of the covered seats. -/
theorem Db.PaidBooking.sum_coveredSeats (h : db.PaidBooking bookingId b p a)
    (hpriced : db.SeatPriced)
    (hs : db.Consistent) :
    ((db.coveredSeats bookingId).map (·.priceMinor)).sum =
      db.refundedSum p + db.inFlightSum p := by
  have hrow : ∀ e ∈ db.refunds.rows,
      (if e.2.bookingId == bookingId && e.2.coversSeats then
        (e.2.seats.map (·.priceMinor)).sum else 0) = e.2.refundedOf p + e.2.inFlightOf p := by
    intro e he
    have hr := Table.mem_rows.mp he
    have hpayment := h.refund_iff hs.sound hr
    rw [hpriced.amount hs hr]
    unfold Refund.refundedOf Refund.inFlightOf Refund.coversSeats
    by_cases hp : e.2.paymentAttemptId = p
    · rw [hpayment.mpr hp]
      cases e.2.succeededAt <;> simp [hp]
    · have hother : e.2.bookingId ≠ bookingId := fun hb => hp (hpayment.mp hb)
      simp [hp, hother]
  have hsum : ∀ l : List (RefundId × Refund), (∀ e ∈ l, e ∈ db.refunds.rows) →
      ((((l.filter fun e => e.2.bookingId == bookingId && e.2.coversSeats).flatMap
        fun e => e.2.seats)).map (·.priceMinor)).sum =
          (l.map fun e => e.2.refundedOf p).sum + (l.map fun e => e.2.inFlightOf p).sum := by
    intro l hl
    induction l with
    | nil => rfl
    | cons e l ih =>
      have ih := ih fun e' he' => hl e' (List.mem_cons_of_mem _ he')
      have hfirst := hrow e (hl e List.mem_cons_self)
      rw [List.filter_cons, List.map_cons, List.map_cons, List.sum_cons, List.sum_cons]
      split
      · next hcounts =>
        rw [if_pos hcounts] at hfirst
        rw [List.flatMap_cons, List.map_append, List.sum_append, ih, hfirst]
        abel
      · next hcounts =>
        rw [if_neg hcounts] at hfirst
        rw [ih, ← add_add_add_comm, ← hfirst, zero_add]
  exact hsum db.refunds.rows fun _ he => he

/-- The covered seats are the booking's own, at its prices. -/
theorem Db.PaidBooking.sum_covered_eq (h : db.PaidBooking bookingId b p a) (hpriced : db.SeatPriced)
    (hdisjoint : SeatsDisjoint db.refunds) (hdistinct : SeatsDistinct db.refunds) :
    ((db.coveredSeats bookingId).map (·.priceMinor)).sum =
      ((b.seats.filter fun seat => decide (seat.id ∈ db.refundedSeatIds bookingId)).map
        (·.priceMinor)).sum := by
  have hcovered : ∀ seat ∈ db.coveredSeats bookingId, ∃ bookedSeat ∈ b.seats,
      bookedSeat.id = seat.bookingSeatId ∧ bookedSeat.priceMinor = seat.priceMinor := by
    intro seat hseat
    obtain ⟨e, he, hmem⟩ := List.mem_flatMap.mp hseat
    obtain ⟨hr, hcounts⟩ := Table.mem_select.mp he
    obtain ⟨b', hb', hbooked⟩ := hpriced.booked e.1 e.2 hr seat hmem
    simp only [Bool.and_eq_true, beq_iff_eq] at hcounts
    rw [hcounts.1] at hb'
    cases Option.some.inj (h.booking.symm.trans hb')
    exact hbooked
  refine sum_eq_of_same_rows (f := fun seat : RefundSeat => (seat.bookingSeatId, seat.priceMinor))
    (g := fun seat : BookingSeat => (seat.id, seat.priceMinor)) ?_ ?_ ?_
  · have hnodup := nodup_refundedSeatIds hdisjoint hdistinct bookingId
    rwa [Db.refundedSeatIds_eq] at hnodup
  · exact h.named.sublist (List.filter_sublist.map _)
  · rintro ⟨id, price⟩
    simp only [List.mem_map, Prod.mk.injEq, List.mem_filter, decide_eq_true_eq]
    constructor
    · rintro ⟨seat, hseat, rfl, rfl⟩
      obtain ⟨bookedSeat, hbooked, hid, hprice⟩ := hcovered seat hseat
      refine ⟨bookedSeat, ⟨hbooked, ?_⟩, hid, hprice⟩
      rw [Db.refundedSeatIds_eq, hid]
      exact List.mem_map_of_mem hseat
    · rintro ⟨bookedSeat, ⟨hbooked, hnamed⟩, rfl, rfl⟩
      rw [Db.refundedSeatIds_eq] at hnamed
      obtain ⟨seat, hseat, hid⟩ := List.mem_map.mp hnamed
      obtain ⟨bookedSeat', hbooked', hid', hprice⟩ := hcovered seat hseat
      cases List.inj_on_of_nodup_map h.named hbooked' hbooked (hid'.trans hid)
      exact ⟨seat, hseat, hid, hprice.symm⟩

/-- **Capacity and open seats** agree. -/
theorem Db.PaidBooking.remaining_eq (h : db.PaidBooking bookingId b p a) (hpriced : db.SeatPriced)
    (hs : db.Consistent) (hexact : paymentAggregate.Faithful db p)
    (hdisjoint : SeatsDisjoint db.refunds) (hdistinct : SeatsDistinct db.refunds) :
    remainingRefundableMinor a.capacity = totalPrice
      (openSeats (db.seatSnapshots bookingId b)) := by
  have hopen : totalPrice (openSeats (db.seatSnapshots bookingId b)) =
      ((b.seats.filter fun seat => !decide (seat.id ∈ db.refundedSeatIds bookingId)).map
        (·.priceMinor)).sum := by
    unfold totalPrice openSeats Db.seatSnapshots
    rw [List.filter_map, List.map_map]
    rfl
  have hsplit := sum_filter_add (fun seat : BookingSeat => seat.priceMinor)
    (fun seat => decide (seat.id ∈ db.refundedSeatIds bookingId)) b.seats
  rw [← h.sum_covered_eq hpriced hdisjoint hdistinct, h.sum_coveredSeats hpriced hs, h.paid,
    ← hopen] at hsplit
  obtain ⟨hrefunded, hinFlight⟩ := paymentAggregate_faithful.mp hexact a h.payment
  have hbounded : a.refundedMinor + a.inFlightRefundMinor ≤ a.amountMinor :=
    (hs.sound.attempts.row p a h.payment).aggregate.2.2
  unfold remainingRefundableMinor PaymentAttempt.capacity
  dsimp only
  rw [max_eq_right] <;> linarith

/-- A selection of open seats is worth no more than all open seats. -/
theorem totalPrice_le_openSeats {seats selected : List RefundableSeatSnapshot}
    (hprices : ∀ seat ∈ seats, 0 ≤ seat.priceMinor)
    (hnamed : (selected.map (·.bookingSeatId)).Nodup)
    (hopen : ∀ seat ∈ selected, seat ∈ openSeats seats) :
    totalPrice selected ≤ totalPrice (openSeats seats) := by
  obtain ⟨named, hperm, hsub⟩ :=
    List.subperm_of_subset (List.Nodup.of_map _ hnamed) hopen
  have hsum : totalPrice named = totalPrice selected :=
    (hperm.map fun seat : RefundableSeatSnapshot => seat.priceMinor).sum_eq
  rw [← hsum]
  refine (hsub.map fun seat : RefundableSeatSnapshot =>
    seat.priceMinor).sum_le_sum fun price hprice => ?_
  obtain ⟨seat, hseat, rfl⟩ := List.mem_map.mp hprice
  exact hprices seat (List.mem_of_mem_filter hseat)

/-- Why seats cannot be selected has nothing to do with amounts. -/
theorem selectSeats_error {seats : List RefundableSeatSnapshot} {ids : List BookingSeatId}
    {reason : Code} (h : selectSeats seats ids = .error reason) :
    reason = "SEAT_NOT_IN_BOOKING" ∨ reason = "SEAT_ALREADY_REFUNDED" := by
  induction ids with
  | nil => cases h
  | cons id ids ih =>
    unfold selectSeats at h
    split at h
    · exact .inl (Except.error.inj h).symm
    · split at h
      · exact .inr (Except.error.inj h).symm
      · cases hrest : selectSeats seats ids with
        | error reason' =>
          rw [hrest] at h
          exact ih (hrest.trans h)
        | ok rest =>
          rw [hrest] at h
          cases h

/-- Where the capacity is the price of the open seats, a full refund is of all of it and no
selection exceeds it. -/
structure InStep (seats : List RefundableSeatSnapshot) (capacity : RefundCapacity) : Prop where
  remaining : remainingRefundableMinor capacity = totalPrice (openSeats seats)
  uncapped : ∀ c, calculateFullBookingRefund seats capacity = .ok c →
    c.scope = .FULL_BOOKING ∧ c.amountMinor = totalPrice (openSeats seats)
  within : ∀ requested, calculateSeatRefund seats requested capacity ≠ .error "EXCEEDS_REMAINING"

theorem inStep_of_remaining {seats : List RefundableSeatSnapshot} {capacity : RefundCapacity}
    (h : remainingRefundableMinor capacity = totalPrice (openSeats seats))
    (hprices : ∀ seat ∈ seats, 0 ≤ seat.priceMinor) : InStep seats capacity where
  remaining := h
  uncapped := by
    intro c hc
    obtain ⟨-, rfl⟩ := calculateFullBookingRefund_eq_ok.mp hc
    simp only [fullRefund, h, le_refl, if_true, min_self, and_self]
  within := by
    intro requested hexceeds
    unfold calculateSeatRefund at hexceeds
    dsimp only at hexceeds
    split at hexceeds
    · exact absurd (Except.error.inj hexceeds) (by decide)
    · split at hexceeds
      · rename_i reason hselected
        cases Except.error.inj hexceeds
        rcases selectSeats_error hselected with hreason | hreason <;>
          exact absurd hreason (by decide)
      · rename_i selected hselected
        obtain ⟨hids, hfound⟩ := selectSeats_eq_ok hselected
        have hle : totalPrice selected ≤ totalPrice (openSeats seats) := by
          refine totalPrice_le_openSeats hprices (hids ▸ nodup_eraseDups requested) ?_
          intro seat hseat
          obtain ⟨hseat', hopen⟩ := hfound seat hseat
          exact List.mem_filter.mpr ⟨(seatById_spec hseat').1, by simp [hopen]⟩
        split_ifs at hexceeds with hmixed hpositive hbound
        · exact absurd (Except.error.inj hexceeds) (by decide)
        · exact absurd (Except.error.inj hexceeds) (by decide)
        · exact absurd (hle.trans_eq h.symm) (not_le.mpr hbound)

end Capacity

/-! ## §4 What a request writes -/

section Requests

variable {s s' : Db} {id : RefundId} {now : Time}

theorem ensures_insertRefund {row : Refund} :
    Ensures (insertRefund id row) s fun _ s' => s'.refunds = s.refunds.insert id row := by
  refine ensures_bind.mpr (ensures_insert.mpr fun _ _ => ?_)
  exact Steps.framed ((framed_maintainPaymentAggregate refunds_frame _).bind fun _ =>
    framed_defer refunds_frame.queue _) _

theorem ensures_insertRefundSeats {seats : List RefundSeat} :
    Ensures (insertRefundSeats id seats) s fun _ s' => ∃ r, s.refunds.lookup id = some r ∧
      s'.refunds = s.refunds.insert id { r with seats := r.seats ++ seats } := by
  refine ensures_bind.mpr (ensures_update.mpr fun r hr _ => ?_)
  exact (Steps.framed (framed_defer refunds_frame.queue _) _).mono fun _ _ hsame => ⟨r, hr, hsame⟩

/-- A priced refund is of seats. -/
theorem calculateRefund_names {input : RefundRequestInput} {seats : List RefundableSeatSnapshot}
    {capacity : RefundCapacity} {c : RefundCalculation}
    (h : calculateRefund input seats capacity = .ok c) :
    refundSeatRows seats c.bookingSeatIds ≠ [] ∧ c.scope ≠ .FIXED_AMOUNT := by
  have hfull : ∀ {c}, calculateFullBookingRefund seats capacity = .ok c →
      refundSeatRows seats c.bookingSeatIds ≠ [] ∧ c.scope ≠ .FIXED_AMOUNT := by
    intro c hc
    obtain ⟨⟨-, htotal, -⟩, rfl⟩ := calculateFullBookingRefund_eq_ok.mp hc
    refine ⟨?_, by unfold fullRefund; dsimp only; split <;> decide⟩
    cases hopen : openSeats seats with
    | nil =>
      rw [hopen] at htotal
      exact absurd htotal (lt_irrefl _)
    | cons seat rest =>
      obtain ⟨found, hfound⟩ := exists_seatById
        (List.mem_of_mem_filter (hopen ▸ List.mem_cons_self : seat ∈ openSeats seats))
      unfold refundSeatRows fullRefund
      rw [hopen, List.map_cons, List.filterMap_cons, hfound]
      exact List.cons_ne_nil _ _
  have hseats : ∀ {requested c}, calculateSeatRefund seats requested capacity = .ok c →
      refundSeatRows seats c.bookingSeatIds ≠ [] ∧ c.scope ≠ .FIXED_AMOUNT := by
    intro requested c hc
    have hstorable := storable_of_calculateSeatRefund hc
    have hscope : c.scope = .SELECTED_SEATS := by
      unfold calculateSeatRefund at hc
      dsimp only at hc
      split at hc
      · cases hc
      · split at hc
        · cases hc
        · split_ifs at hc
          cases hc
          rfl
    have htotal := hstorable.total
    rw [hscope] at htotal ⊢
    exact ⟨htotal.1, by decide⟩
  unfold calculateRefund at h
  split at h
  · exact hseats h
  · exact hfull h

/-- **What a request writes**: one refund, of seats, of an order under no review. -/
theorem ensures_requestRefund_row {actor : RefundActor} {input : RefundRequestInput}
    {fresh : FreshRefund} :
    Ensures (requestRefund actor input fresh now) s fun _ s' =>
      s'.refunds = s.refunds ∨
        ∃ r order, s.refunds.Wrote fresh.refundId r s'.refunds ∧
          s.orders.lookup r.orderId = some order ∧ order.financialReviewState = .NONE ∧
          r.OfSeats := by
  refine ensures_runInTransaction (ensures_bind.mpr (ensures_findMany.mpr ?_))
  refine ensures_bind.mpr (ensures_orThrow.mpr fun found _ => ?_)
  obtain ⟨bookingId, booking⟩ := found
  refine ensures_bind.mpr (ensures_findOrThrow.mpr fun order horder => ?_)
  refine ensures_bind.mpr (ensures_findOrThrow.mpr fun user _ => ?_)
  split
  · exact ensures_abort.mpr trivial
  · refine ensures_bind.mpr (ensures_findMany.mpr ?_)
    refine ensures_bind.mpr (ensures_orThrow.mpr fun payment _ => ?_)
    refine ensures_bind.mpr (ensures_lock.mpr ?_)
    refine ensures_bind.mpr (ensures_orThrow.mpr fun capacityRow _ => ?_)
    refine ensures_bind.mpr (ensures_findMany.mpr ?_)
    split
    · exact ensures_pure.mpr fun _ => .inl rfl
    · refine Ensures.mono (Q := fun _ s' => ∃ r order, s.refunds.Wrote fresh.refundId r s'.refunds ∧
        s.orders.lookup r.orderId = some order ∧ order.financialReviewState = .NONE ∧
          r.OfSeats) ?_ fun _ s' hwrote _ => .inr hwrote
      unfold createRefund
      dsimp only
      split
      · exact ensures_abort.mpr trivial
      · rename_i heligible
        have hrest : ∀ (entry : AppendLedgerEntryInput) (key : FinancialEventKey)
            (event : FinancialEvent) (result : CreateRefundResult),
            isSettlingEntryType entry.entryType = false → Steps (Framing Db.refunds) (do
              let _ ← appendLedgerEntry entry
              let _ ← enqueueFinancialEvent key event
              pure result : Sql CreateRefundResult) := fun entry key event result hentry =>
          (framed_appendLedgerEntry refunds_frame hentry).bind fun _ =>
            (framed_enqueueFinancialEvent refunds_frame _ _).bind fun _ => steps_pure
        have hreview : order.financialReviewState = .NONE := by
          obtain ⟨-, -, -, hnone, -⟩ := evaluateRefundEligibility_eq_none.mp heligible
          simpa using hnone
        refine ensures_bind.mpr (ensures_read.mpr ?_)
        split
        · exact ensures_abort.mpr trivial
        · rename_i calculation hcalculation
          obtain ⟨hnames, hscope⟩ := calculateRefund_names hcalculation
          have hids : calculation.bookingSeatIds ≠ [] := by
            intro hnone
            rw [hnone] at hnames
            exact hnames rfl
          refine ensures_bind.mpr (ensures_insertRefund.mono fun _ s₁ hinserted => ?_)
          rw [if_pos hids]
          refine ensures_bind.mpr (ensures_insertRefundSeats.mono ?_)
          rintro - s₂ ⟨row, hrow, hseats⟩
          rw [hinserted] at hrow
          cases Option.some.inj ((AList.lookup_insert _).symm.trans hrow)
          refine (Steps.framed (hrest _ _ _ _ rfl) s₂).mono fun _ s₃ hlast => ?_
          have hrefunds := (show s₃.refunds = s₂.refunds from hlast).trans
            (hseats.trans (by rw [hinserted]))
          exact ⟨_, order, hrefunds ▸ Table.wrote_insert.insert, horder, hreview, hnames, hscope⟩

end Requests

/-! ## §5 What the steps keep -/

section Steps

variable {U : RefundId → RefundUpdate → Prop} {B : BookingId → Prop} {W : WebhookId → Prop}
  {s s' : Db}

/-- A booking keeps its seats and its order. -/
theorem RefundStep.booking_kept (h : RefundStep U B W s s') {id : BookingId} {b : Booking}
    (hb : s.bookings.lookup id = some b) :
    ∃ b', s'.bookings.lookup id = some b' ∧ b'.seats = b.seats ∧ b'.orderId = b.orderId := by
  cases h with
  | plain hrefunds hattempts hbookings hwebhooks => exact ⟨b, hbookings ▸ hb, rfl, rfl⟩
  | refunded bid b₀ now hB hlook =>
    by_cases hid : id = bid
    · subst hid
      cases Option.some.inj (hb.symm.trans hlook)
      exact ⟨_, AList.lookup_insert _, rfl, rfl⟩
    · exact ⟨b, (AList.lookup_insert_ne hid).trans hb, rfl, rfl⟩
  | _ => exact ⟨b, hb, rfl, rfl⟩

/-- The terms of a payment. -/
def PaymentAttempt.terms (a : PaymentAttempt) : OrderId × PaymentAttemptStatus × Money :=
  (a.orderId, a.status, a.amountMinor)

/-- Payments keep their orders, statuses and amounts. -/
theorem RefundStep.terms_kept (h : RefundStep U B W s s') (p : AttemptId) :
    (s'.attempts.lookup p).map (·.terms) = (s.attempts.lookup p).map (·.terms) := by
  cases h with
  | plain hrefunds hattempts hbookings hwebhooks => rw [hattempts]
  | aggregate aid a refunded inFlight hlook hvalid =>
    by_cases hid : p = aid
    · subst hid
      show (AList.lookup p (s.attempts.insert p _)).map _ = _
      rw [AList.lookup_insert, hlook]
      rfl
    · show (AList.lookup p (s.attempts.insert aid _)).map _ = _
      rw [AList.lookup_insert_ne hid]
  | _ => rfl

theorem Db.PaidBooking.step {bookingId : BookingId} {b : Booking} {p : AttemptId}
    {a : PaymentAttempt} (hpaid : s.PaidBooking bookingId b p a) (h : RefundStep U B W s s') :
    ∃ b' a', s'.PaidBooking bookingId b' p a' := by
  obtain ⟨b', hb', hseats, horder⟩ := h.booking_kept hpaid.booking
  have hterms := h.terms_kept p
  rw [hpaid.payment, Option.map_some, Option.map_eq_some_iff] at hterms
  obtain ⟨a', ha', hterms⟩ := hterms
  simp only [PaymentAttempt.terms, Prod.mk.injEq] at hterms
  refine ⟨b', a', hb', hseats ▸ hpaid.named, hseats ▸ hpaid.prices, ?_, ha', ?_,
    hterms.2.1.trans hpaid.succeeded, ?_⟩
  · rw [hseats, hpaid.paid, hterms.2.2]
  · rw [hterms.1, horder, hpaid.order]
  · intro p₁ a₁ ha₁ horder₁ hstatus₁
    have hterms₁ := h.terms_kept p₁
    rw [ha₁, Option.map_some, eq_comm, Option.map_eq_some_iff] at hterms₁
    obtain ⟨a₀, ha₀, hterms₁⟩ := hterms₁
    simp only [PaymentAttempt.terms, Prod.mk.injEq] at hterms₁
    exact hpaid.alone p₁ a₀ ha₀ (hterms₁.1.trans (horder₁.trans horder))
      (hterms₁.2.1.trans hstatus₁)

/-- The trigger on refund-seat rows compares each new one with the booked seat. -/
theorem Db.SeatsBooked.step (hs : s.SeatsBooked) (h : RefundStep U B W s s') : s'.SeatsBooked := by
  have hkept : ∀ (r : Refund) (seat : RefundSeat), (∃ b, s.bookings.lookup r.bookingId = some b ∧
      ∃ bookedSeat ∈ b.seats, bookedSeat.id = seat.bookingSeatId ∧
        bookedSeat.priceMinor = seat.priceMinor) →
      ∃ b, s'.bookings.lookup r.bookingId = some b ∧
        ∃ bookedSeat ∈ b.seats, bookedSeat.id = seat.bookingSeatId ∧
          bookedSeat.priceMinor = seat.priceMinor := by
    rintro r seat ⟨b, hb, hbooked⟩
    obtain ⟨b', hb', hseats, -⟩ := h.booking_kept hb
    exact ⟨b', hb', hseats.symm ▸ hbooked⟩
  intro id r hr seat hseat
  refine hkept r seat ?_
  cases h with
  | plain hrefunds hattempts hbookings hwebhooks => exact hs id r (hrefunds ▸ hr) seat hseat
  | insert rid row habsent hvalid hfresh =>
    rcases Table.wrote_insert.cases hr with ⟨rfl, rfl⟩ | ⟨-, hold⟩
    · rw [hfresh.seats] at hseat
      cases hseat
    · exact hs id r hold seat hseat
  | seats rid r₀ added hlook hvalid =>
    rcases Table.wrote_insert.cases hr with ⟨rfl, rfl⟩ | ⟨-, hold⟩
    · rcases List.mem_append.mp hseat with hold | hnew
      · exact hs id r₀ hlook seat hold
      · simp only [RefundSeat.validate, Option.elim_some, appended_append, Except.bind_unit_eq_ok,
          checkAll_eq_ok, RefundSeat.enforceSnapshot, check_eq_ok, Option.map_eq_some_iff,
          Prod.mk.injEq] at hvalid
        obtain ⟨-, -, ⟨⟨bookedSeat, hfound, hprice, -⟩, -⟩, -⟩ := hvalid.2 seat hnew
        have hmem := List.mem_of_find?_eq_some hfound
        have hid := List.find?_some hfound
        cases hb : s.bookings.lookup r₀.bookingId with
        | none =>
          rw [hb] at hmem
          cases hmem
        | some b =>
          rw [hb] at hmem
          exact ⟨b, rfl, bookedSeat, hmem, by simpa using hid, hprice⟩
    · exact hs id r hold seat hseat
  | update rid r₀ u hu hlook hvalid =>
    rcases Table.wrote_insert.cases hr with ⟨rfl, rfl⟩ | ⟨-, hold⟩
    · rw [RefundUpdate.seats_apply] at hseat
      rw [(RefundUpdate.identity_apply u r₀).2.2.2.1]
      exact hs id r₀ hlook seat hseat
    · exact hs id r hold seat hseat
  | aggregate aid a refunded inFlight hlook hvalid => exact hs id r hr seat hseat
  | refunded bid b now hB hlook => exact hs id r hr seat hseat
  | stored wid w habsent hreceived => exact hs id r hr seat hseat
  | webhook wid w w' hW hlook hvalid => exact hs id r hr seat hseat

/-- A refund of seats stays one. -/
theorem RefundStep.ofSeats (h : RefundStep U B W s s') {id : RefundId}
    (hof : ∃ r, s.refunds.lookup id = some r ∧ r.OfSeats) :
    ∃ r, s'.refunds.lookup id = some r ∧ r.OfSeats := by
  obtain ⟨r, hr, hof⟩ := hof
  cases h with
  | plain hrefunds hattempts hbookings hwebhooks => exact ⟨r, hrefunds ▸ hr, hof⟩
  | insert rid row habsent hvalid hfresh =>
    exact ⟨r, Table.wrote_insert.keeps habsent hr, hof⟩
  | seats rid r₀ added hlook hvalid =>
    by_cases hid : id = rid
    · subst hid
      cases Option.some.inj (hr.symm.trans hlook)
      exact ⟨_, AList.lookup_insert _, List.append_ne_nil_of_left_ne_nil hof.1 _, hof.2⟩
    · exact ⟨r, (AList.lookup_insert_ne hid).trans hr, hof⟩
  | update rid r₀ u hu hlook hvalid =>
    by_cases hid : id = rid
    · subst hid
      cases Option.some.inj (hr.symm.trans hlook)
      have hscope := (RefundUpdate.identity_apply u r).2.2.2.2.2.2.1
      exact ⟨_, AList.lookup_insert _, (RefundUpdate.seats_apply u r).symm ▸ hof.1,
        hscope.symm ▸ hof.2⟩
    · exact ⟨r, (AList.lookup_insert_ne hid).trans hr, hof⟩
  | aggregate aid a refunded inFlight hlook hvalid => exact ⟨r, hr, hof⟩
  | refunded bid b now hB hlook => exact ⟨r, hr, hof⟩
  | stored wid w habsent hreceived => exact ⟨r, hr, hof⟩
  | webhook wid w w' hW hlook hvalid => exact ⟨r, hr, hof⟩

end Steps

/-- A booking as `createBooking` leaves it, with its one captured payment: a seat for each item
of the order, at the item's price. -/
structure Db.Captured (db : Db) (bookingId : BookingId) (b : Booking) (p : AttemptId)
    (a : PaymentAttempt) : Prop where
  booking : db.bookings.lookup bookingId = some b
  seats : ∃ (order : CheckoutOrder) (seatId : InventoryId → BookingSeatId),
    db.orders.lookup b.orderId = some order ∧
      b.seats = order.items.map fun item =>
        item.bookingSeat order.sessionId (seatId item.inventoryId)
  named : (b.seats.map (·.id)).Nodup
  prices : ∀ seat ∈ b.seats, 0 ≤ seat.priceMinor
  payment : db.attempts.lookup p = some a
  order : a.orderId = b.orderId
  succeeded : a.status = .SUCCEEDED
  alone : ∀ p' a', db.attempts.lookup p' = some a' → a'.orderId = b.orderId →
    a'.status = .SUCCEEDED → p' = p

/-- The items make up the order's total, which the payment is of. -/
theorem Db.Captured.paidBooking {db : Db} {bookingId : BookingId} {b : Booking} {p : AttemptId}
    {a : PaymentAttempt} (h : db.Captured bookingId b p a) (hs : db.Consistent) :
    db.PaidBooking bookingId b p a := by
  refine ⟨h.booking, h.named, h.prices, ?_, h.payment, h.order, h.succeeded, h.alone⟩
  obtain ⟨order, seatId, horder, hseats⟩ := h.seats
  have htotals := hs.orderTotals b.orderId
  have hamount := hs.sound.attemptOrder p a h.payment
  rw [PaymentAttempt.enforceOrder, check_eq_ok, h.order, horder] at hamount
  simp only [Option.map_some, Option.some.injEq, Prod.mk.injEq] at hamount
  simp only [CheckoutOrder.verifyTotals, horder, check_eq_ok] at htotals
  rw [hseats, List.map_map, ← hamount.1, ← htotals.2.1]
  rfl

/-! ## §6 Runs without escalation -/

namespace RefundSystem

variable {sys₀ sys sys' : RefundSystem}

/-- The condition on a step: normalised events, and no refund that awaits review after it. -/
def Unescalated (sys : RefundSystem) (a : RefundAction) : Prop :=
  sys.NormalizedEvents a ∧ ∀ sys' ∈ sys.step a,
    sys'.db.refunds.any (fun _ r => r.status == .REQUIRES_REVIEW) = false

instance (sys : RefundSystem) (a : RefundAction) : Decidable (sys.Unescalated a) :=
  inferInstanceAs (Decidable (_ ∧ _))

/-- Every refund stays one of seats. -/
theorem seatPriced_step {a : RefundAction} (hpriced : sys.db.SeatPriced)
    (h : sys.step a = some sys') : sys'.db.SeatPriced where
  ofSeats := by
    intro id r' hr'
    have hkept : (∃ r, sys.db.refunds.lookup id = some r) → r'.OfSeats := by
      rintro ⟨r, hr⟩
      have hsteps := db_steps h
      have hof : ∃ r, sys'.db.refunds.lookup id = some r ∧ r.OfSeats := by
        generalize sys'.db = db at hsteps
        induction hsteps with
        | refl => exact ⟨r, hr, hpriced.ofSeats id r hr⟩
        | tail _ hstep ih => exact hstep.ofSeats ih
      obtain ⟨r₁, hr₁, hof⟩ := hof
      cases Option.some.inj (hr'.symm.trans hr₁)
      exact hof
    by_cases hrequest : ∃ actor input fresh now, a = .requestRefund actor input fresh now
    · obtain ⟨actor, input, fresh, now, rfl⟩ := hrequest
      cases h
      have hensures : Ensures (requestRefund actor input fresh now) sys.db fun _ s' =>
          s'.refunds = sys.db.refunds ∨ ∃ r order,
            sys.db.refunds.Wrote fresh.refundId r s'.refunds ∧
            sys.db.orders.lookup r.orderId = some order ∧ order.financialReviewState = .NONE ∧
            r.OfSeats := ensures_requestRefund_row
      have hwritten := hensures.commit (.inl rfl)
      rcases hwritten with hsame | ⟨r, order, hwrote, -, -, hof⟩
      · exact hkept ⟨r', hsame ▸ hr'⟩
      · rcases hwrote.cases hr' with ⟨-, rfl⟩ | ⟨-, hold⟩
        · exact hof
        · exact hkept ⟨r', hold⟩
    · exact hkept (refund_existed (fun actor input fresh now heq =>
        hrequest ⟨actor, input, fresh, now, heq⟩) h hr')
  booked := by
    have hsteps := db_steps h
    generalize sys'.db = db at hsteps
    induction hsteps with
    | refl => exact hpriced.booked
    | tail _ hstep ih => exact ih.step hstep

/-- An event against a released refund's outcome or amount is a review. -/
theorem review_of_released {w : PaymentWebhookEvent} {incoming : RefundStatus} {r : Refund}
    (h : ¬w.Matching r ∨
      isStaleProviderEvent (r.succeededAt.or r.failedAt) w.providerOccurredAt = false ∧
        isContradictoryRefundOutcome r.status incoming = true) :
    ∃ code, w.outcomeFor incoming r = .REVIEW code := by
  rcases h with hmismatch | ⟨hcurrent, hcontradictory⟩
  · exact ⟨_, by rw [PaymentWebhookEvent.outcomeFor, if_pos hmismatch]⟩
  · by_cases hmatching : w.Matching r
    · refine ⟨"CONTRADICTORY_REFUND_OUTCOME", ?_⟩
      rw [outcomeFor_current hmatching hcurrent]
      revert hcontradictory
      cases r.status <;> cases incoming <;> decide
    · exact ⟨_, by rw [PaymentWebhookEvent.outcomeFor, if_pos hmatching]⟩

/-- Without escalation no two refunds share a seat. -/
theorem Reachable.disjoint_unescalated (hs : sys.Reachable) {a : RefundAction}
    (hdisjoint : SeatsDisjoint sys.db.refunds) (hquiet : sys.Unescalated a)
    (h : sys.step a = some sys') : SeatsDisjoint sys'.db.refunds := by
  by_cases hprocess : ∃ wid now, a = .processWebhook wid now
  · obtain ⟨wid, now, rfl⟩ := hprocess
    refine disjoint_processed hs hdisjoint ?_ h
    rintro ⟨w, incoming, id, r, hdelivers, -, hreview, htime, hroom, -⟩
    obtain ⟨code, houtcome⟩ := review_of_released hreview
    obtain ⟨outcome, db, hrun, -⟩ := (commits_escalation_iff (Q := fun _ _ => True) hs hdelivers
      houtcome fun _ _ => trivial).mpr ⟨htime, .inr hroom⟩
    obtain ⟨rfl, hrefunds, -⟩ := hs.ensures_processed hdelivers _ _ hrun
    cases h
    have hnone := hquiet.2 _ rfl
    rw [commit_of_run hrun] at hnone
    rw [houtcome] at hrefunds
    have hescalated : db.refunds.lookup id = some ((RefundUpdate.review code now).apply r) := by
      rw [hrefunds]
      exact AList.lookup_insert _
    have hother := Table.any_eq_false.mp hnone id _ hescalated
    simp [RefundUpdate.apply] at hother
  · have hother : ∀ wid now, a ≠ .processWebhook wid now :=
      fun wid now heq => hprocess ⟨wid, now, heq⟩
    have hsteps := db_steps h
    generalize sys'.db = db at hsteps
    induction hsteps with
    | refl => exact hdisjoint
    | tail _ hstep ih => exact ih.step hstep fun id u hu => allowed_unsettling hother hu

/-- **Capacity and open seats stay in step.** In every run without escalation the capacity of a
booking's payment is the price of its open seats. -/
theorem capacity_in_step {bookingId : BookingId} {b₀ : Booking} {p : AttemptId}
    {a₀ : PaymentAttempt} (hfresh : sys₀.Fresh) (hcaptured : sys₀.db.Captured bookingId b₀ p a₀)
    (hreach : Reaches RefundSystem.step Unescalated sys₀ sys) :
    ∃ b a, sys.db.bookings.lookup bookingId = some b ∧ sys.db.attempts.lookup p = some a ∧
      InStep (sys.db.seatSnapshots bookingId b) a.capacity := by
  have hinv : sys.Reachable ∧ SeatsDisjoint sys.db.refunds ∧ SeatsDistinct sys.db.refunds ∧
      sys.db.SeatPriced ∧ ∃ b a, sys.db.PaidBooking bookingId b p a := by
    have hnone : ∀ {id r}, sys₀.db.refunds.lookup id = some r → False := by
      intro id r hr
      simp [hfresh.start.refunds id] at hr
    have hall := hreach.invariant (I := fun s => s.Reachable ∧ SeatsDisjoint s.db.refunds ∧
        SeatsDistinct s.db.refunds ∧ s.db.SeatPriced ∧ ∃ b a, s.db.PaidBooking bookingId b p a)
      ⟨hfresh.reachable, fun id r _ _ _ hr => (hnone hr).elim, fun id r hr => (hnone hr).elim,
        ⟨fun id r hr => (hnone hr).elim, fun id r hr => (hnone hr).elim⟩,
        b₀, a₀, hcaptured.paidBooking hfresh.consistent⟩
    refine hall fun s a t hok hstep hs => ?_
    obtain ⟨hreachable, hdisjoint, hdistinct, hpriced, b, payment, hpaid⟩ := hs
    refine ⟨hreachable.step hok.1 hstep, hreachable.disjoint_unescalated hdisjoint hok hstep,
      distinct_step hdistinct hstep, seatPriced_step hpriced hstep, ?_⟩
    have hsteps := db_steps hstep
    generalize t.db = db at hsteps
    induction hsteps with
    | refl => exact ⟨b, payment, hpaid⟩
    | tail _ hone ih =>
      obtain ⟨b', a', hpaid'⟩ := ih
      exact hpaid'.step hone
  obtain ⟨hreachable, hdisjoint, hdistinct, hpriced, b, a, hpaid⟩ := hinv
  refine ⟨b, a, hpaid.booking, hpaid.payment, inStep_of_remaining ?_ ?_⟩
  · exact hpaid.remaining_eq hpriced hreachable.kept.consistent (hreachable.kept.exact p) hdisjoint
      hdistinct
  · intro seat hseat
    obtain ⟨booked, hbooked, rfl⟩ := List.mem_map.mp hseat
    exact hpaid.prices booked hbooked

theorem capturedStart_captured : ∃ b a, capturedStart.db.Captured 1 b 1 a := by
  refine ⟨_, _,
    { booking := rfl
      seats := ⟨_, fun inventoryId => inventoryId, rfl, rfl⟩
      named := by decide
      prices := by decide
      payment := rfl
      order := rfl
      succeeded := rfl
      alone := fun p' a' ha' _ _ => ?_ }⟩
  exact Table.forall_lookup (t := capturedPayment.attempts) (p := fun k _ => k = 1)
    (by decide) p' a' ha'

/-- A refund of the second seat fails, and the seat is requested anew. -/
theorem capacity_in_step_afterFailure :
    ∃ sys b a, execute (guarded RefundSystem.step fun s a => decide (s.Unescalated a))
        seatRequestedAnew capturedStart = some sys ∧
      sys.db.bookings.lookup 1 = some b ∧ sys.db.attempts.lookup 1 = some a ∧
      InStep (sys.db.seatSnapshots 1 b) a.capacity := by
  have hrun : (execute (guarded RefundSystem.step fun s a => decide (s.Unescalated a))
      seatRequestedAnew capturedStart).isSome = true := by
    decide +kernel
  obtain ⟨sys, hsys⟩ := Option.isSome_iff_exists.mp hrun
  have hreach := (reaches_of_guarded hsys).mono fun _ _ => of_decide_eq_true
  obtain ⟨b₀, a₀, hcaptured⟩ := capturedStart_captured
  obtain ⟨b, a, hb, ha, hinstep⟩ := capacity_in_step capturedStart_fresh hcaptured hreach
  exact ⟨sys, b, a, hsys, hb, ha, hinstep⟩

end RefundSystem

end SeatFlow
