import SeatFlow.Refunds.RefundService

/-!
# Refund prices and the seat-total rule

What `calculateFullBookingRefund` and `calculateSeatRefund` offer is written as a
refund with one seat row for each seat they name, and a deferred trigger compares
the two. A selection of seats always passes. A full refund that is capped by the
remaining capacity keeps the names of all open seats at their full prices, and
does not.
-/

namespace SeatFlow

/-! ## §1 The seats that are named -/

section Seats

variable {seats : List RefundableSeatSnapshot} {id : BookingSeatId} {seat : RefundableSeatSnapshot}

theorem seatById_spec (h : seatById seats id = some seat) :
    seat ∈ seats ∧ seat.bookingSeatId = id := by
  unfold seatById at h
  have hmem := List.mem_of_find?_eq_some h
  have hid := List.find?_some h
  exact ⟨List.mem_reverse.mp hmem, by simpa using hid⟩

theorem nodup_eraseDups (ids : List BookingSeatId) : ids.eraseDups.Nodup := by
  induction hlength : ids.length using Nat.strong_induction_on generalizing ids with
  | _ n ih =>
      cases ids with
      | nil => simp
      | cons id ids =>
          rw [List.eraseDups_cons, List.nodup_cons, List.mem_eraseDups]
          refine ⟨by simp, ih _ ?_ _ rfl⟩
          have hfilter := List.length_filter_le (fun other => !other == id) ids
          rw [← hlength, List.length_cons]
          omega

/-- Some snapshot of a seat in the list is found. -/
theorem exists_seatById (h : seat ∈ seats) :
    ∃ found, seatById seats seat.bookingSeatId = some found := by
  unfold seatById
  rw [← Option.isSome_iff_exists, List.find?_isSome]
  exact ⟨seat, List.mem_reverse.mpr h, by simp⟩

/-- The selected seats are the requested ones, each of them open. -/
theorem selectSeats_eq_ok {ids : List BookingSeatId} {selected : List RefundableSeatSnapshot}
    (h : selectSeats seats ids = .ok selected) :
    selected.map (·.bookingSeatId) = ids ∧
      ∀ seat ∈ selected, seatById seats seat.bookingSeatId = some seat ∧
        seat.alreadyRefunded = false := by
  induction ids generalizing selected with
  | nil =>
      cases h
      simp
  | cons id ids ih =>
      unfold selectSeats at h
      split at h
      · cases h
      · rename_i seat hfound
        obtain ⟨-, hid⟩ := seatById_spec hfound
        split at h
        · cases h
        · rename_i hopen
          cases hrest : selectSeats seats ids with
          | error reason =>
              rw [hrest] at h
              cases h
          | ok rest =>
              rw [hrest] at h
              cases h
              obtain ⟨hids, hall⟩ := ih hrest
              refine ⟨by rw [List.map_cons, hid, hids], fun found hmem => ?_⟩
              rcases List.mem_cons.mp hmem with rfl | hmem
              · exact ⟨hid.symm ▸ hfound, by simpa using hopen⟩
              · exact hall found hmem

/-- The rows that are written for seats found under their own names. -/
theorem refundSeatRows_of_found {named : List RefundableSeatSnapshot}
    (h : ∀ seat ∈ named, seatById seats seat.bookingSeatId = some seat) :
    refundSeatRows seats (named.map (·.bookingSeatId)) = named.map fun seat =>
      { bookingSeatId := seat.bookingSeatId, priceMinor := seat.priceMinor,
        currency := seat.currency } := by
  induction named with
  | nil => rfl
  | cons seat named ih =>
      have hrest := ih fun found hmem => h found (List.mem_cons_of_mem _ hmem)
      unfold refundSeatRows at hrest ⊢
      rw [List.map_cons, List.filterMap_cons, h seat List.mem_cons_self, hrest]
      rfl

theorem sum_refundSeatRows {named : List RefundableSeatSnapshot}
    (h : ∀ seat ∈ named, seatById seats seat.bookingSeatId = some seat) :
    ((refundSeatRows seats (named.map (·.bookingSeatId))).map (·.priceMinor)).sum
      = totalPrice named := by
  rw [refundSeatRows_of_found h, List.map_map]
  rfl

/-- Seats that are named at most once, in a list of their snapshots, are told apart by their
names. -/
theorem eq_of_named_once {named : List RefundableSeatSnapshot} {seat seat' : RefundableSeatSnapshot}
    (hnodup : (named.map (·.bookingSeatId)).Nodup) (hmem : seat ∈ named) (hmem' : seat' ∈ named)
    (hid : seat.bookingSeatId = seat'.bookingSeatId) : seat = seat' :=
  List.inj_on_of_nodup_map hnodup hmem hmem' hid

end Seats

/-! ## §2 What can be stored -/

/-- `Refund_verify_seat_total` for a refund of this scope, amount and seat rows. -/
def SeatTotal (scope : RefundScope) (amountMinor : Money) (rows : List RefundSeat) : Prop :=
  match scope with
  | .SELECTED_SEATS => rows ≠ [] ∧ (rows.map (·.priceMinor)).sum = amountMinor
  | .FULL_BOOKING => rows ≠ [] → (rows.map (·.priceMinor)).sum = amountMinor
  | .FIXED_AMOUNT => rows = []

/-- The deferred trigger passes a stored refund exactly under this rule. -/
theorem verifySeatTotal_eq_ok {db : Db} {id : RefundId} {r : Refund}
    (hlook : db.refunds.lookup id = some r) :
    Refund.verifySeatTotal db id = .ok () ↔ SeatTotal r.scope r.requestedAmountMinor r.seats := by
  unfold Refund.verifySeatTotal SeatTotal
  rw [hlook]
  dsimp only
  cases r.scope <;> simp only [check_eq_ok]

/-- A priced refund that can be stored: within the capacity, over open seats named once each,
and passed by the trigger. -/
structure RefundCalculation.Storable (c : RefundCalculation) (seats : List RefundableSeatSnapshot)
    (capacity : RefundCapacity) : Prop where
  positive : 0 < c.amountMinor
  bounded : c.amountMinor ≤ remainingRefundableMinor capacity
  named : c.bookingSeatIds.Nodup
  isOpen : ∀ id ∈ c.bookingSeatIds, ∃ seat, seatById seats id = some seat ∧
    seat.alreadyRefunded = false
  total : SeatTotal c.scope c.amountMinor (refundSeatRows seats c.bookingSeatIds)

/-- Both calculators offer only what can be stored. -/
def PricesStorable (seats : List RefundableSeatSnapshot) (requested : List BookingSeatId)
    (capacity : RefundCapacity) : Prop :=
  (∀ c, calculateFullBookingRefund seats capacity = .ok c → c.Storable seats capacity) ∧
    ∀ c, calculateSeatRefund seats requested capacity = .ok c → c.Storable seats capacity

/-! ## §3 The two calculators -/

section Calculators

variable {seats : List RefundableSeatSnapshot} {requested : List BookingSeatId}
  {capacity : RefundCapacity} {c : RefundCalculation}

def openSeats (seats : List RefundableSeatSnapshot) : List RefundableSeatSnapshot :=
  seats.filter fun seat => !seat.alreadyRefunded

/-- A selection of seats is always storable. -/
theorem storable_of_calculateSeatRefund (h : calculateSeatRefund seats requested capacity = .ok c) :
    c.Storable seats capacity := by
  unfold calculateSeatRefund at h
  dsimp only at h
  split at h
  · cases h
  · rename_i hrequested
    split at h
    · cases h
    · rename_i selected hselected
      obtain ⟨hids, hfound⟩ := selectSeats_eq_ok hselected
      split_ifs at h with _ hpositive hbounded
      cases h
      have hnonempty : selected ≠ [] := by
        rintro rfl
        exact hrequested hids.symm
      refine ⟨not_le.mp hpositive, not_lt.mp hbounded, ?_, ?_, ?_, ?_⟩
      · rw [hids]
        exact nodup_eraseDups requested
      · intro id hid
        obtain ⟨seat, hmem, rfl⟩ := List.mem_map.mp hid
        exact ⟨seat, hfound seat hmem⟩
      · rw [refundSeatRows_of_found fun seat hmem => (hfound seat hmem).1]
        simpa using hnonempty
      · exact sum_refundSeatRows fun seat hmem => (hfound seat hmem).1

/-- The full refund of the open seats, capped by what remains. -/
def fullRefund (seats : List RefundableSeatSnapshot) (capacity : RefundCapacity) :
    RefundCalculation :=
  { scope := if totalPrice (openSeats seats) ≤ remainingRefundableMinor capacity then .FULL_BOOKING
      else .SELECTED_SEATS
    amountMinor := min (totalPrice (openSeats seats)) (remainingRefundableMinor capacity)
    currency := capacity.currency
    bookingSeatIds := (openSeats seats).map (·.bookingSeatId) }

/-- What a full refund is offered as. -/
theorem calculateFullBookingRefund_eq_ok :
    calculateFullBookingRefund seats capacity = .ok c ↔
      (0 < remainingRefundableMinor capacity ∧ 0 < totalPrice (openSeats seats) ∧
        ∀ seat ∈ openSeats seats, seat.currency = capacity.currency) ∧
      c = fullRefund seats capacity := by
  have hscope : (min (totalPrice (openSeats seats)) (remainingRefundableMinor capacity)
      = totalPrice (openSeats seats)) =
        (totalPrice (openSeats seats) ≤ remainingRefundableMinor capacity) :=
    propext min_eq_left_iff
  have hempty : openSeats seats = [] → totalPrice (openSeats seats) = 0 := by
    intro h
    rw [h]
    rfl
  unfold calculateFullBookingRefund
  dsimp only
  rw [show (seats.filter fun seat => !seat.alreadyRefunded) = openSeats seats from rfl]
  simp only [hscope]
  rw [show ({ scope := _, amountMinor := _, currency := _, bookingSeatIds := _ } :
    RefundCalculation) = fullRefund seats capacity from rfl]
  split_ifs with hremaining hnone hcurrency hamount
  · simp [not_lt.mpr hremaining]
  · simp [hempty hnone]
  · simp only [List.any_eq_true, bne_iff_ne] at hcurrency
    obtain ⟨seat, hmem, hother⟩ := hcurrency
    simp only [false_iff]
    rintro ⟨⟨-, -, hall⟩, -⟩
    exact hother (hall seat hmem)
  · simp only [false_iff]
    rintro ⟨⟨hpositive, htotal, -⟩, -⟩
    exact absurd (lt_min htotal hpositive) (not_lt.mpr hamount)
  · have hall : ∀ seat ∈ openSeats seats, seat.currency = capacity.currency := by
      intro seat hmem
      by_contra hother
      exact hcurrency (List.any_eq_true.mpr ⟨seat, hmem, by simpa using hother⟩)
    have hpositive := lt_min_iff.mp (not_le.mp hamount)
    simp only [Except.ok.injEq]
    constructor
    · rintro rfl
      exact ⟨⟨hpositive.2, hpositive.1, hall⟩, rfl⟩
    · rintro ⟨-, rfl⟩
      rfl

/-- The open seats are named once each, as open, and the capacity covers their prices. -/
structure FullyRefundable (seats : List RefundableSeatSnapshot) (capacity : RefundCapacity) :
    Prop where
  named : ((openSeats seats).map (·.bookingSeatId)).Nodup
  isOpen : ∀ seat ∈ openSeats seats, ∀ found, seatById seats seat.bookingSeatId = some found →
    found.alreadyRefunded = false
  covered : totalPrice (openSeats seats) ≤ remainingRefundableMinor capacity

/-- Each open seat is found under its name. -/
theorem seatById_of_open (hnamed : ((openSeats seats).map (·.bookingSeatId)).Nodup)
    (hopen : ∀ seat ∈ openSeats seats, ∀ found, seatById seats seat.bookingSeatId = some found →
      found.alreadyRefunded = false) :
    ∀ seat ∈ openSeats seats, seatById seats seat.bookingSeatId = some seat := by
  intro seat hmem
  obtain ⟨found, hfound⟩ := exists_seatById (List.mem_of_mem_filter hmem)
  obtain ⟨hmem', hid⟩ := seatById_spec hfound
  have hopen' : found ∈ openSeats seats :=
    List.mem_filter.mpr ⟨hmem', by simp [hopen seat hmem found hfound]⟩
  rw [hfound, eq_of_named_once hnamed hopen' hmem hid]

/-- A full refund that is offered is storable exactly when it is not capped and names its
seats properly. -/
theorem storable_full_iff (h : calculateFullBookingRefund seats capacity = .ok c) :
    c.Storable seats capacity ↔ FullyRefundable seats capacity := by
  obtain ⟨⟨hremaining, htotal, -⟩, rfl⟩ := calculateFullBookingRefund_eq_ok.mp h
  constructor
  · intro hs
    have hopen : ∀ seat ∈ openSeats seats, ∀ found,
        seatById seats seat.bookingSeatId = some found → found.alreadyRefunded = false := by
      intro seat hmem found hfound
      obtain ⟨found', hfound', hopen⟩ := hs.isOpen _ (List.mem_map_of_mem hmem)
      rw [hfound] at hfound'
      cases hfound'
      exact hopen
    refine ⟨hs.named, hopen, ?_⟩
    by_contra hcapped
    have htrigger := hs.total
    simp only [fullRefund, if_neg hcapped, SeatTotal] at htrigger
    rw [sum_refundSeatRows (seatById_of_open hs.named hopen)] at htrigger
    exact hcapped (htrigger.2.trans_le (min_le_right _ _))
  · intro hfull
    have hfound := seatById_of_open hfull.named hfull.isOpen
    refine ⟨lt_min htotal hremaining, min_le_right _ _, hfull.named, ?_, ?_⟩
    · intro id hid
      obtain ⟨seat, hmem, rfl⟩ := List.mem_map.mp hid
      exact ⟨seat, hfound seat hmem, hfull.isOpen seat hmem seat (hfound seat hmem)⟩
    · simp only [fullRefund, if_pos hfull.covered, SeatTotal]
      intro _
      rw [sum_refundSeatRows hfound, min_eq_left hfull.covered]

/-- **Which prices can be stored.** Both calculators offer only storable refunds exactly when
a full refund, if capacity remains and the open seats have a price in its currency, is not
capped and names its seats properly. -/
theorem pricesStorable_iff (seats : List RefundableSeatSnapshot) (requested : List BookingSeatId)
    (capacity : RefundCapacity) :
    PricesStorable seats requested capacity ↔
      (0 < remainingRefundableMinor capacity → 0 < totalPrice (openSeats seats) →
        (∀ seat ∈ openSeats seats, seat.currency = capacity.currency) →
          FullyRefundable seats capacity) := by
  constructor
  · rintro ⟨hfull, -⟩ hremaining htotal hcurrency
    have hoffered := calculateFullBookingRefund_eq_ok.mpr
      ⟨⟨hremaining, htotal, hcurrency⟩, rfl⟩
    exact (storable_full_iff hoffered).mp (hfull _ hoffered)
  · intro hcondition
    refine ⟨fun c hc => (storable_full_iff hc).mpr ?_, fun c hc =>
      storable_of_calculateSeatRefund hc⟩
    obtain ⟨⟨hremaining, htotal, hcurrency⟩, -⟩ := calculateFullBookingRefund_eq_ok.mp hc
    exact hcondition hremaining htotal hcurrency

/-- Two open seats of 6000 and 4000 cents against 3000 cents: the offer names both at 3000. -/
theorem capped_refund_not_storable :
    ∃ c, calculateFullBookingRefund
        [{ bookingSeatId := 1, priceMinor := 6000, currency := .EUR, alreadyRefunded := false },
          { bookingSeatId := 2, priceMinor := 4000, currency := .EUR, alreadyRefunded := false }]
        { capturedMinor := 10000, refundedMinor := 7000, inFlightMinor := 0, currency := .EUR }
          = .ok c ∧
      c.scope = .SELECTED_SEATS ∧ c.amountMinor = 3000 ∧ c.bookingSeatIds = [1, 2] ∧
      ¬c.Storable
        [{ bookingSeatId := 1, priceMinor := 6000, currency := .EUR, alreadyRefunded := false },
          { bookingSeatId := 2, priceMinor := 4000, currency := .EUR, alreadyRefunded := false }]
        { capturedMinor := 10000, refundedMinor := 7000, inFlightMinor := 0,
          currency := .EUR } := by
  refine ⟨_, rfl, rfl, by decide, rfl, fun hs => ?_⟩
  have htrigger := hs.total.2
  revert htrigger
  decide

end Calculators

end SeatFlow
