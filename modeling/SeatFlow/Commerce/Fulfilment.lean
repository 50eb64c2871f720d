import SeatFlow.Commerce.SeatAgreement

/-!
# Fulfilment is atomic

An order with a booking, a fulfilled order and an order whose hold is converted are the
same orders, and what is booked are its items. Five tables say so; the one step that
makes it true of an order writes all of them, and no other step says anything of it.
-/

namespace SeatFlow

open Relational

/-- What was bought with a booked seat. -/
def BookingSeat.item (seat : BookingSeat) : CheckoutOrderItem :=
  { inventoryId := seat.inventoryId
    seatId := seat.seatId
    sectionId := seat.sectionId
    priceTierId := seat.priceTierId
    priceMinor := seat.priceMinor
    currency := seat.currency }

/-- The booked seats of an order's items are its items. -/
theorem CheckoutOrder.bookingWithSeats_items (order : CheckoutOrder) (orderId : OrderId)
    (fresh : FreshBooking) (now : Time) :
    (order.bookingWithSeats orderId fresh now).seats.map (·.item) = order.items := by
  show (order.items.map _).map _ = order.items
  rw [List.map_map]
  exact List.map_id _

def CheckoutOrder.Sums (o : CheckoutOrder) : Prop :=
  (o.items.map (·.priceMinor)).sum = o.totalMinor

/-- An order after a step that does not fulfil it. -/
structure CheckoutOrder.Amended (o o' : CheckoutOrder) : Prop where
  source : o'.sourceHoldId = o.sourceHoldId
  items : o'.items = o.items
  total : o'.totalMinor = o.totalMinor
  fulfilled : o'.status = .FULFILLED ↔ o.status = .FULFILLED

theorem CheckoutOrder.amended_refl (o : CheckoutOrder) : CheckoutOrder.Amended o o :=
  ⟨rfl, rfl, rfl, Iff.rfl⟩

namespace Sales

/-- The five tables agree on what is fulfilled. -/
structure Fulfilled (s : Sales) : Prop where
  seats : s.SeatsAgree
  orders : s.orders.Coherent CheckoutOrder.Sums fun o o' => o.sourceHoldId ≠ o'.sourceHoldId
  source : ∀ id o, s.orders.lookup id = some o → ∃ hold, s.holds.lookup o.sourceHoldId = some hold ∧
    (o.status = .FULFILLED → hold.status = .CONVERTED)
  converted : ∀ h hold, s.holds.lookup h = some hold → hold.status = .CONVERTED →
    ∃ id o, s.orders.lookup id = some o ∧ o.sourceHoldId = h ∧ o.status = .FULFILLED
  bookings : s.bookings.Coherent (fun _ => True) fun b b' => b.orderId ≠ b'.orderId
  ofOrder : ∀ k b, s.bookings.lookup k = some b → ∃ o, s.orders.lookup b.orderId = some o ∧
    o.status = .FULFILLED ∧ b.seats.map (·.item) = o.items ∧ b.totalMinor = o.totalMinor
  booked : ∀ id o, s.orders.lookup id = some o → o.status = .FULFILLED →
    ∃ k b, s.bookings.lookup k = some b ∧ b.orderId = id
  rows : ∀ k b, s.bookings.lookup k = some b → ∀ seat ∈ b.seats,
    ∃ row, s.inventory.lookup seat.inventoryId = some row ∧ row.state = .BOOKED
  referenced : ∀ id row, s.inventory.lookup id = some row → row.state = .BOOKED →
    ∃ k b, s.bookings.lookup k = some b ∧ ∃ seat ∈ b.seats, seat.inventoryId = id
  exclusive : ∀ k k' b b' seat seat', s.bookings.lookup k = some b →
    s.bookings.lookup k' = some b' → seat ∈ b.seats → seat' ∈ b'.seats →
    seat.inventoryId = seat'.inventoryId → k = k'

variable {s s' : Sales}

/-! ## §1 Steps that fulfil nothing -/

/-- No order is placed and none is fulfilled. -/
structure Proceeds (s s' : Sales) : Prop where
  bookings : s'.bookings = s.bookings
  inventory : ∃ g, s.inventory.Mapped g s'.inventory ∧
    ∀ id row, s.inventory.lookup id = some row →
      ((g id row).state = .BOOKED ↔ row.state = .BOOKED)
  holds : ∀ h hold, s.holds.lookup h = some hold →
    ∃ hold', s'.holds.lookup h = some hold' ∧ (hold.status = .CONVERTED → hold'.status = .CONVERTED)
  converted : ∀ h hold', s'.holds.lookup h = some hold' → hold'.status = .CONVERTED →
    ∃ hold, s.holds.lookup h = some hold ∧ hold.status = .CONVERTED
  orders : ∃ g, s.orders.Mapped g s'.orders ∧
    ∀ id o, s.orders.lookup id = some o → CheckoutOrder.Amended o (g id o)

/-- A step of the orders alone. -/
theorem Proceeds.of_orders (hbookings : s'.bookings = s.bookings)
    (hinventory : s'.inventory = s.inventory) (hholds : s'.holds = s.holds)
    (horders : ∃ g, s.orders.Mapped g s'.orders ∧
      ∀ id o, s.orders.lookup id = some o → CheckoutOrder.Amended o (g id o)) : Proceeds s s' where
  bookings := hbookings
  inventory := ⟨fun _ row => row, hinventory ▸ Table.mapped_id _, fun _ _ _ => Iff.rfl⟩
  holds := fun _ hold hhold => ⟨hold, hholds ▸ hhold, fun hc => hc⟩
  converted := fun _ hold hhold hc => ⟨hold, hholds ▸ hhold, hc⟩
  orders := horders

/-- No order is rewritten. -/
theorem amends_none {t : Table OrderId CheckoutOrder} : ∃ g, t.Mapped g t ∧
    ∀ id o, t.lookup id = some o → CheckoutOrder.Amended o (g id o) :=
  ⟨_, Table.mapped_id t, fun _ o _ => o.amended_refl⟩

/-- One order is rewritten. -/
theorem amends_insert {t : Table OrderId CheckoutOrder} {id : OrderId} {o o' : CheckoutOrder}
    (hlook : t.lookup id = some o) (hamended : CheckoutOrder.Amended o o') :
    ∃ g, t.Mapped g (t.insert id o') ∧
      ∀ k ok, t.lookup k = some ok → CheckoutOrder.Amended ok (g k ok) := by
  refine ⟨_, Table.mapped_insert hlook o', fun k ok hk => ?_⟩
  split
  · rename_i heq
    subst heq
    cases Option.some.inj (hlook.symm.trans hk)
    exact hamended
  · exact ok.amended_refl

theorem EndsHolds.proceeds {f : SeatHold → SeatHold} {ids : List HoldId}
    (h : EndsHolds f ids s s') (hs : s.SeatsAgree) : Proceeds s s' where
  bookings := by rw [h.rest]
  inventory := by
    refine ⟨_, h.inventory, fun id row hrow => ?_⟩
    split
    · rename_i hpoints
      obtain ⟨k, -, hk⟩ := hpoints
      have hheld := SessionSeatInventory.held_of_pointing (hs.inventory.row id row hrow) hk
      simp [SessionSeatInventory.vacated, hheld]
    · rfl
  holds := by
    intro k hold hhold
    refine ⟨_, h.holds.lookup hhold, fun hconverted => ?_⟩
    split
    · rename_i hk
      obtain ⟨hold', hhold', hactive⟩ := h.active k hk
      cases Option.some.inj (hhold.symm.trans hhold')
      cases hconverted.symm.trans hactive
    · exact hconverted
  converted := by
    intro k hold' hhold' hconverted
    obtain ⟨hold, hhold, rfl⟩ := h.holds.cases hhold'
    refine ⟨hold, hhold, ?_⟩
    split at hconverted
    · rcases h.ends.status hold with hstatus | hstatus <;> cases hstatus.symm.trans hconverted
    · exact hconverted
  orders := by
    rw [h.rest]
    exact amends_none

theorem Acquires.proceeds {holdId : HoldId} {hold : SeatHold}
    {locked : List (InventoryId × SessionSeatInventory)} (h : Acquires holdId hold locked s s') :
    Proceeds s s' where
  bookings := by rw [h.rest]
  inventory := by
    refine ⟨_, h.inventory, fun id row hrow => ?_⟩
    split
    · rename_i hid
      obtain ⟨⟨_, taken⟩, htaken, rfl⟩ := List.mem_map.mp hid
      obtain ⟨hlook, havailable⟩ := h.free _ htaken
      have hfree : row.state = .AVAILABLE := Option.some.inj (hlook.symm.trans hrow) ▸ havailable
      simp [SessionSeatInventory.heldBy, hfree]
    · rfl
  holds := fun k old hold => ⟨old, h.holds.keeps h.absent hold, fun hc => hc⟩
  converted := by
    intro k hold' hhold' hconverted
    rcases h.holds.cases hhold' with ⟨-, rfl⟩ | ⟨-, hold⟩
    · cases h.active.symm.trans hconverted
    · exact ⟨hold', hold, hconverted⟩
  orders := by
    rw [h.rest]
    exact amends_none

/-- A step places an order, fulfils one, or does neither. -/
theorem Step.cases (h : Step s s') (hs : s.SeatsAgree) : Proceeds s s' ∨
    (∃ orderId order attemptId attempt, Places orderId order attemptId attempt s s') ∨
    ∃ attemptId a order hold fresh now, Fulfils attemptId a order hold fresh now s s' := by
  cases h with
  | ended h => exact .inl (h.proceeds hs)
  | acquired h => exact .inl h.proceeds
  | placed h => exact .inr (.inl ⟨_, _, _, _, h⟩)
  | fulfilled h => exact .inr (.inr ⟨_, _, _, _, _, _, h⟩)
  | @attached attemptId a intent order h =>
      refine .inl (.of_orders (by rw [h.rest]) (by rw [h.rest]) (by rw [h.rest]) ?_)
      rw [h.orders]
      split
      · rename_i hpending
        refine amends_insert h.ordered ⟨rfl, rfl, rfl, ?_⟩
        simp [CheckoutOrder.awaitingPayment, hpending]
      · exact amends_none
  | @expiredOrders p now h =>
      refine .inl (.of_orders (by rw [h.rest]) (by rw [h.rest]) (by rw [h.rest])
        ⟨_, h.orders, fun id o _ => ?_⟩)
      split
      · rename_i hp
        have hunpaid := h.unpaid id o hp
        refine ⟨rfl, rfl, rfl, ?_⟩
        cases hstatus : o.status <;> simp_all [CheckoutOrder.expired, CheckoutOrderStatus.isUnpaid]
      · exact o.amended_refl
  | @reviewed orderId order code now h =>
      refine .inl (.of_orders (by rw [h.rest]) (by rw [h.rest]) (by rw [h.rest]) ?_)
      rw [h.rest]
      refine amends_insert h.ordered ⟨rfl, rfl, rfl, ?_⟩
      have hopen := h.isOpen
      cases hstatus : order.status <;>
        simp_all [CheckoutOrder.underReview, CheckoutOrderStatus.isTerminal]
  | @capturedUnfulfilled attemptId a order code now h =>
      refine .inl (.of_orders (by rw [h.rest]) (by rw [h.rest]) (by rw [h.rest]) ?_)
      rw [h.rest]
      refine amends_insert h.ordered ⟨rfl, rfl, rfl, ?_⟩
      have hopen := h.orderOpen
      cases hstatus : order.status <;>
        simp_all [CheckoutOrder.underReview, CheckoutOrderStatus.isTerminal]
  | @failed attemptId a order cancelled now h =>
      refine .inl (.of_orders (by rw [h.rest]) (by rw [h.rest]) (by rw [h.rest]) ?_)
      rw [h.rest]
      dsimp only
      split
      · rename_i hunpaid
        refine amends_insert h.ordered ⟨rfl, rfl, rfl, ?_⟩
        cases hstatus : order.status <;>
          simp_all [CheckoutOrder.paymentFailed, CheckoutOrderStatus.isUnpaid]
      · exact amends_none
  | awaits h =>
      refine .inl (.of_orders (by rw [h.rest]) (by rw [h.rest]) (by rw [h.rest]) ?_)
      rw [h.rest]
      exact amends_none

/-! ## §2 What they keep -/

theorem Proceeds.fulfilled (h : Proceeds s s') (hs : s.Fulfilled) (hseats : s'.SeatsAgree) :
    s'.Fulfilled := by
  obtain ⟨rows, hinventory, hbooked⟩ := h.inventory
  obtain ⟨amend, horders, hamended⟩ := h.orders
  constructor
  case seats => exact hseats
  case orders =>
    refine hs.orders.mapped (fun _ _ => Ne.symm) horders ?_ ?_
    · intro id o ho
      rw [CheckoutOrder.Sums, (hamended id o ho).items, (hamended id o ho).total]
      exact hs.orders.row id o ho
    · intro id o other ho hne
      rwa [(hamended id o ho).source]
  case source =>
    intro id o' ho'
    obtain ⟨o, ho, rfl⟩ := horders.cases ho'
    obtain ⟨hold, hhold, hfulfilled⟩ := hs.source id o ho
    obtain ⟨hold', hhold', hconverted⟩ := h.holds _ hold hhold
    rw [(hamended id o ho).source, (hamended id o ho).fulfilled]
    exact ⟨hold', hhold', fun hf => hconverted (hfulfilled hf)⟩
  case converted =>
    intro k hold' hhold' hconverted
    obtain ⟨hold, hhold, hc⟩ := h.converted k hold' hhold' hconverted
    obtain ⟨id, o, ho, hsource, hfulfilled⟩ := hs.converted k hold hhold hc
    have ha := hamended id o ho
    exact ⟨id, _, horders.lookup ho, ha.source.trans hsource, ha.fulfilled.mpr hfulfilled⟩
  case bookings =>
    rw [h.bookings]
    exact hs.bookings
  case ofOrder =>
    rw [h.bookings]
    intro k b hb
    obtain ⟨o, ho, hfulfilled, hitems, htotal⟩ := hs.ofOrder k b hb
    have ha := hamended _ o ho
    exact ⟨_, horders.lookup ho, ha.fulfilled.mpr hfulfilled, hitems.trans ha.items.symm,
      htotal.trans ha.total.symm⟩
  case booked =>
    rw [h.bookings]
    intro id o' ho' hfulfilled
    obtain ⟨o, ho, rfl⟩ := horders.cases ho'
    exact hs.booked id o ho ((hamended id o ho).fulfilled.mp hfulfilled)
  case rows =>
    rw [h.bookings]
    intro k b hb seat hseat
    obtain ⟨row, hrow, hstate⟩ := hs.rows k b hb seat hseat
    exact ⟨_, hinventory.lookup hrow, (hbooked _ row hrow).mpr hstate⟩
  case referenced =>
    rw [h.bookings]
    intro id row' hrow' hstate
    obtain ⟨row, hrow, rfl⟩ := hinventory.cases hrow'
    exact hs.referenced id row hrow ((hbooked id row hrow).mp hstate)
  case exclusive =>
    rw [h.bookings]
    exact hs.exclusive

theorem Places.fulfilled {orderId : OrderId} {order : CheckoutOrder} {attemptId : AttemptId}
    {attempt : PaymentAttempt} (h : Places orderId order attemptId attempt s s') (hs : s.Fulfilled)
    (hseats : s'.SeatsAgree) : s'.Fulfilled := by
  have hholds : s'.holds = s.holds := by rw [h.rest]
  have hinventory : s'.inventory = s.inventory := by rw [h.rest]
  have hbookings : s'.bookings = s.bookings := by rw [h.rest]
  have hopen : order.status ≠ .FULFILLED := by
    rw [h.status]
    decide
  constructor
  case seats => exact hseats
  case orders =>
    refine hs.orders.wrote (fun _ _ => Ne.symm) h.orders h.total fun k o ho _ => ?_
    exact h.first k o ho
  case source =>
    intro id o ho
    rw [hholds]
    rcases h.orders.cases ho with ⟨-, rfl⟩ | ⟨-, hold⟩
    · obtain ⟨hold, hhold, -⟩ := h.source
      exact ⟨hold, hhold, fun hf => absurd hf hopen⟩
    · exact hs.source id o hold
  case converted =>
    rw [hholds]
    intro k hold hhold hconverted
    obtain ⟨id, o, ho, hrest⟩ := hs.converted k hold hhold hconverted
    exact ⟨id, o, h.orders.keeps h.orderAbsent ho, hrest⟩
  case bookings =>
    rw [hbookings]
    exact hs.bookings
  case ofOrder =>
    rw [hbookings]
    intro k b hb
    obtain ⟨o, ho, hrest⟩ := hs.ofOrder k b hb
    exact ⟨o, h.orders.keeps h.orderAbsent ho, hrest⟩
  case booked =>
    rw [hbookings]
    intro id o ho hfulfilled
    rcases h.orders.cases ho with ⟨-, rfl⟩ | ⟨-, hold⟩
    · exact absurd hfulfilled hopen
    · exact hs.booked id o hold hfulfilled
  case rows =>
    rw [hbookings, hinventory]
    exact hs.rows
  case referenced =>
    rw [hbookings, hinventory]
    exact hs.referenced
  case exclusive =>
    rw [hbookings]
    exact hs.exclusive

/-! ## §3 The step that fulfils -/

section Fulfils

variable {attemptId : AttemptId} {a : PaymentAttempt} {order : CheckoutOrder} {hold : SeatHold}
  {fresh : FreshBooking} {now : Time} (h : Fulfils attemptId a order hold fresh now s s')

include h

theorem Fulfils.orders_wrote : s.orders.Wrote a.orderId (order.fulfilled now) s'.orders := by
  rw [h.rest]
  exact Table.wrote_insert

theorem Fulfils.holds_wrote : s.holds.Wrote order.sourceHoldId (hold.converted now) s'.holds := by
  rw [h.rest]
  exact Table.wrote_insert

theorem Fulfils.booking_wrote :
    s.bookings.Wrote fresh.bookingId (order.bookingWithSeats a.orderId fresh now) s'.bookings :=
  h.bookings

omit h in
/-- The inventory of the new booking's seats are the order's items. -/
theorem seat_of_item {id : InventoryId} :
    (∃ seat ∈ (order.bookingWithSeats a.orderId fresh now).seats, seat.inventoryId = id) ↔
      id ∈ order.items.map (·.inventoryId) := by
  have hseats := order.bookingWithSeats_items a.orderId fresh now
  rw [← hseats, List.map_map, List.mem_map]
  rfl

/-- A seat of an earlier booking is not among the order's items. -/
theorem Fulfils.unsold (hs : s.Fulfilled) {k : BookingId} {b : Booking} {seat : BookingSeat}
    (hb : s.bookings.lookup k = some b) (hseat : seat ∈ b.seats) :
    seat.inventoryId ∉ order.items.map (·.inventoryId) := by
  intro hid
  obtain ⟨item, hitem, hsame⟩ := List.mem_map.mp hid
  obtain ⟨row, hrow, hheld, -⟩ := h.rows item hitem
  obtain ⟨row', hrow', hbooked⟩ := hs.rows k b hb seat hseat
  rw [hsame] at hrow
  cases Option.some.inj (hrow.symm.trans hrow')
  cases hheld.symm.trans hbooked

theorem Fulfils.fulfilled (hs : s.Fulfilled) (hseats : s'.SeatsAgree) : s'.Fulfilled := by
  have hopen : order.status ≠ .FULFILLED := by
    intro hf
    have horder := h.orderOpen
    rw [hf] at horder
    cases horder
  -- no other order is of this hold
  have hsource : ∀ id o, s.orders.lookup id = some o → o.sourceHoldId = order.sourceHoldId →
      id = a.orderId := by
    intro id o ho hsame
    by_contra hne
    exact hs.orders.apart id o _ order ho h.ordered hne hsame
  constructor
  case seats => exact hseats
  case orders =>
    refine hs.orders.wrote (fun _ _ => Ne.symm) h.orders_wrote (hs.orders.row _ order h.ordered) ?_
    exact fun k o ho hne => hs.orders.apart k o _ order ho h.ordered hne
  case source =>
    intro id o ho
    rcases h.orders_wrote.cases ho with ⟨-, rfl⟩ | ⟨hne, hold⟩
    · exact ⟨_, h.holds_wrote.lookup_self, fun _ => rfl⟩
    · obtain ⟨hold', hhold', hfulfilled⟩ := hs.source id o hold
      have hother : o.sourceHoldId ≠ order.sourceHoldId := fun heq => hne (hsource id o hold heq)
      exact ⟨hold', (h.holds_wrote.lookup_ne hother).trans hhold', hfulfilled⟩
  case converted =>
    intro k hold' hhold' hconverted
    rcases h.holds_wrote.cases hhold' with ⟨rfl, -⟩ | ⟨hne, hhold⟩
    · exact ⟨_, _, h.orders_wrote.lookup_self, rfl, rfl⟩
    · obtain ⟨id, o, ho, hsame, hfulfilled⟩ := hs.converted k hold' hhold hconverted
      have hother : id ≠ a.orderId := by
        rintro rfl
        cases Option.some.inj (ho.symm.trans h.ordered)
        exact hopen hfulfilled
      exact ⟨id, o, (h.orders_wrote.lookup_ne hother).trans ho, hsame, hfulfilled⟩
  case bookings =>
    refine hs.bookings.wrote (fun _ _ => Ne.symm) h.booking_wrote trivial fun k b hb _ => ?_
    exact h.unbooked k b hb
  case ofOrder =>
    intro k b hb
    rcases h.booking_wrote.cases hb with ⟨-, rfl⟩ | ⟨-, hold⟩
    · exact ⟨_, h.orders_wrote.lookup_self, rfl, order.bookingWithSeats_items _ _ _, rfl⟩
    · obtain ⟨o, ho, hrest⟩ := hs.ofOrder k b hold
      exact ⟨o, (h.orders_wrote.lookup_ne (h.unbooked k b hold)).trans ho, hrest⟩
  case booked =>
    intro id o ho hfulfilled
    rcases h.orders_wrote.cases ho with ⟨rfl, -⟩ | ⟨-, hold⟩
    · exact ⟨_, _, h.booking_wrote.lookup_self, rfl⟩
    · obtain ⟨k, b, hb, horder⟩ := hs.booked id o hold hfulfilled
      exact ⟨k, b, h.booking_wrote.keeps h.absent hb, horder⟩
  case rows =>
    intro k b hb seat hseat
    rcases h.booking_wrote.cases hb with ⟨-, rfl⟩ | ⟨-, hold⟩
    · have hid := seat_of_item.mp ⟨seat, hseat, rfl⟩
      obtain ⟨item, hitem, hsame⟩ := List.mem_map.mp hid
      obtain ⟨row, hrow, hheld, hpoints⟩ := h.rows item hitem
      rw [hsame] at hrow
      have hrow' := h.inventory.lookup hrow
      rw [if_pos ⟨hid, hheld, hpoints⟩] at hrow'
      exact ⟨_, hrow', rfl⟩
    · obtain ⟨row, hrow, hbooked⟩ := hs.rows k b hold seat hseat
      have hrow' := h.inventory.lookup hrow
      rw [if_neg fun hall => h.unsold hs hold hseat hall.1] at hrow'
      exact ⟨row, hrow', hbooked⟩
  case referenced =>
    intro id row' hrow' hbooked
    obtain ⟨row, hrow, rfl⟩ := h.inventory.cases hrow'
    by_cases hall : id ∈ order.items.map (·.inventoryId) ∧ row.state = .HELD ∧
        row.currentHoldId = some order.sourceHoldId
    · exact ⟨_, _, h.booking_wrote.lookup_self, seat_of_item.mpr hall.1⟩
    · rw [if_neg hall] at hbooked
      obtain ⟨k, b, hb, hseat⟩ := hs.referenced id row hrow hbooked
      exact ⟨k, b, h.booking_wrote.keeps h.absent hb, hseat⟩
  case exclusive =>
    intro k k' b b' seat seat' hb hb' hseat hseat' hsame
    rcases h.booking_wrote.cases hb with ⟨rfl, rfl⟩ | ⟨-, hold⟩
    · rcases h.booking_wrote.cases hb' with ⟨rfl, -⟩ | ⟨-, hold'⟩
      · rfl
      · have hid := seat_of_item.mp ⟨seat, hseat, rfl⟩
        exact absurd (hsame ▸ hid) (h.unsold hs hold' hseat')
    · rcases h.booking_wrote.cases hb' with ⟨rfl, rfl⟩ | ⟨-, hold'⟩
      · have hid := seat_of_item.mp ⟨seat', hseat', rfl⟩
        exact absurd (hsame.symm ▸ hid) (h.unsold hs hold hseat)
      · exact hs.exclusive k k' b b' seat seat' hold hold' hseat hseat' hsame

end Fulfils

/-! ## §4 Runs -/

/-- **One step** keeps the five tables in agreement. -/
theorem Fulfilled.step (hs : s.Fulfilled) (h : Step s s') : s'.Fulfilled := by
  have hseats := h.seatsAgree hs.seats
  rcases h.cases hs.seats with h | ⟨_, _, _, _, h⟩ | ⟨_, _, _, _, _, _, h⟩
  · exact h.fulfilled hs hseats
  · exact h.fulfilled hs hseats
  · exact h.fulfilled hs hseats

/-- A booked row. -/
def Booked (s : Sales) (id : InventoryId) : Prop :=
  ∃ row, s.inventory.lookup id = some row ∧ row.state = .BOOKED

/-- **One step** leaves what is booked booked. -/
theorem Booked.step {id : InventoryId} (hbooked : s.Booked id) (hs : s.Fulfilled)
    (h : Step s s') : s'.Booked id := by
  obtain ⟨row, hrow, hstate⟩ := hbooked
  rcases h.cases hs.seats with h | ⟨_, _, _, _, h⟩ | ⟨_, _, _, _, _, _, h⟩
  · obtain ⟨g, hmapped, hiff⟩ := h.inventory
    exact ⟨_, hmapped.lookup hrow, (hiff id row hrow).mpr hstate⟩
  · exact ⟨row, by rw [h.rest]; exact hrow, hstate⟩
  · have hrow' := h.inventory.lookup hrow
    rw [if_neg fun hall => by cases hstate.symm.trans hall.2.1] at hrow'
    exact ⟨row, hrow', hstate⟩

theorem Fulfilled.steps (hs : s.Fulfilled) (h : Relation.ReflTransGen Step s s') :
    s'.Fulfilled ∧ ∀ id, s.Booked id → s'.Booked id := by
  induction h with
  | refl => exact ⟨hs, fun _ hbooked => hbooked⟩
  | tail _ hlast ih => exact ⟨ih.1.step hlast, fun id hbooked => (ih.2 id hbooked).step ih.1 hlast⟩

end Sales

/-! ## §5 The database -/

theorem Db.BeforeSales.fulfilled {db : Db} (h : db.BeforeSales) : db.sales.Fulfilled where
  seats := h.seatsAgree
  orders :=
    ⟨fun id o ho => (by cases (h.orders id).symm.trans ho),
      fun id o _ _ ho => (by cases (h.orders id).symm.trans ho)⟩
  source := fun id o ho => (by cases (h.orders id).symm.trans ho)
  converted := fun id hold hhold => (by cases (h.holds id).symm.trans hhold)
  bookings :=
    ⟨fun k b hb => (by cases (h.bookings k).symm.trans hb),
      fun k b _ _ hb => (by cases (h.bookings k).symm.trans hb)⟩
  ofOrder := fun k b hb => (by cases (h.bookings k).symm.trans hb)
  booked := fun id o ho => (by cases (h.orders id).symm.trans ho)
  rows := fun k b hb => (by cases (h.bookings k).symm.trans hb)
  referenced := fun id row hrow hbooked => (by
    cases (h.inventory.row id row hrow).1.symm.trans hbooked)
  exclusive := fun k _ b _ _ _ hb => (by cases (h.bookings k).symm.trans hb)

def Db.HasBooking (db : Db) (orderId : OrderId) : Prop :=
  ∃ k b, db.bookings.lookup k = some b ∧ b.orderId = orderId

/-- Fulfilment is atomic and exact. -/
structure Db.FulfilledExactly (db : Db) : Prop where
  booking_iff : ∀ id o, db.orders.lookup id = some o → (db.HasBooking id ↔ o.status = .FULFILLED)
  converted_iff : ∀ id o, db.orders.lookup id = some o → (o.status = .FULFILLED ↔
    ∃ hold, db.holds.lookup o.sourceHoldId = some hold ∧ hold.status = .CONVERTED)
  seats : ∀ k b, db.bookings.lookup k = some b → ∃ o, db.orders.lookup b.orderId = some o ∧
    b.seats.map (·.item) = o.items ∧ (b.seats.map (·.priceMinor)).sum = o.totalMinor ∧
      b.totalMinor = o.totalMinor
  booked_iff : ∀ id row, db.inventory.lookup id = some row → (row.state = .BOOKED ↔
    db.bookingSeats.countP (fun seat => seat.inventoryId == id) = 1)
  one : ∀ k k' b b', db.bookings.lookup k = some b → db.bookings.lookup k' = some b' →
    b.orderId = b'.orderId → k = k'

/-- No two booked seats are of one inventory row. -/
theorem Sales.Fulfilled.nodup_bookingSeats {db : Db} (hs : db.sales.Fulfilled) :
    (db.bookingSeats.map (·.inventoryId)).Nodup := by
  rw [Db.bookingSeats, List.map_flatMap, List.nodup_flatMap]
  constructor
  · rintro ⟨k, b⟩ hmem
    obtain ⟨o, ho, -, hitems, -⟩ := hs.ofOrder k b (Table.mem_rows.mp hmem)
    have hids : b.seats.map (·.inventoryId) = o.items.map (·.inventoryId) := by
      rw [← hitems, List.map_map]
      rfl
    rw [hids]
    exact hs.seats.ordered _ o ho
  · refine (List.pairwise_map.mp db.bookings.nodup_rows_fst).imp_of_mem ?_
    rintro ⟨k, b⟩ ⟨k', b'⟩ hmem hmem' hne id hid hid'
    obtain ⟨seat, hseat, rfl⟩ := List.mem_map.mp hid
    obtain ⟨seat', hseat', hsame⟩ := List.mem_map.mp hid'
    exact hne (hs.exclusive k k' b b' seat seat' (Table.mem_rows.mp hmem) (Table.mem_rows.mp hmem')
      hseat hseat' hsame.symm)

theorem Sales.Fulfilled.exactly {db : Db} (hs : db.sales.Fulfilled) : db.FulfilledExactly := by
  constructor
  case booking_iff =>
    intro id o ho
    constructor
    · rintro ⟨k, b, hb, rfl⟩
      obtain ⟨o', ho', hfulfilled, -⟩ := hs.ofOrder k b hb
      cases Option.some.inj (ho.symm.trans ho')
      exact hfulfilled
    · exact hs.booked id o ho
  case converted_iff =>
    intro id o ho
    constructor
    · intro hfulfilled
      obtain ⟨hold, hhold, hconverted⟩ := hs.source id o ho
      exact ⟨hold, hhold, hconverted hfulfilled⟩
    · rintro ⟨hold, hhold, hconverted⟩
      obtain ⟨id', o', ho', hsource, hfulfilled⟩ := hs.converted _ hold hhold hconverted
      have hid : id' = id := by
        by_contra hne
        exact hs.orders.apart id' o' id o ho' ho hne hsource
      subst hid
      cases Option.some.inj (ho.symm.trans ho')
      exact hfulfilled
  case seats =>
    intro k b hb
    obtain ⟨o, ho, -, hitems, htotal⟩ := hs.ofOrder k b hb
    refine ⟨o, ho, hitems, ?_, htotal⟩
    have hprices : b.seats.map (·.priceMinor) = o.items.map (·.priceMinor) := by
      rw [← hitems, List.map_map]
      rfl
    rw [hprices]
    exact hs.orders.row _ o ho
  case booked_iff =>
    intro id row hrow
    have hcount : db.bookingSeats.countP (fun seat => seat.inventoryId == id) =
        (db.bookingSeats.map (·.inventoryId)).count id := by
      rw [List.count, List.countP_map]
      rfl
    have hmem : id ∈ db.bookingSeats.map (·.inventoryId) ↔
        ∃ k b, db.bookings.lookup k = some b ∧ ∃ seat ∈ b.seats, seat.inventoryId = id := by
      simp only [Db.bookingSeats, List.mem_map, List.mem_flatMap, Prod.exists, Table.mem_rows]
      constructor
      · rintro ⟨seat, ⟨k, b, hb, hseat⟩, hid⟩
        exact ⟨k, b, hb, seat, hseat, hid⟩
      · rintro ⟨k, b, hb, seat, hseat, hid⟩
        exact ⟨seat, ⟨k, b, hb, hseat⟩, hid⟩
    rw [hcount]
    constructor
    · intro hbooked
      have hfound := hmem.mpr (hs.referenced id row hrow hbooked)
      exact List.count_eq_one_of_mem hs.nodup_bookingSeats hfound
    · intro hone
      have hfound := List.count_pos_iff.mp (hone.symm ▸ Nat.one_pos)
      obtain ⟨k, b, hb, seat, hseat, rfl⟩ := hmem.mp hfound
      obtain ⟨row', hrow', hbooked⟩ := hs.rows k b hb seat hseat
      cases Option.some.inj (hrow.symm.trans hrow')
      exact hbooked
  case one =>
    intro k k' b b' hb hb' hsame
    by_contra hne
    exact hs.bookings.apart k b k' b' hb hb' hne hsame

namespace Commerce

/-- **Fulfilment is atomic and exact** in every state that a run reaches, and what is booked
there is booked in every later state. -/
theorem fulfilled_exactly {db₀ db : Db} (hstart : db₀.BeforeSales)
    (hrun : Reaches step (fun _ _ => True) db₀ db) :
    db.FulfilledExactly ∧ ∀ db', Reaches step (fun _ _ => True) db db' →
      ∀ id row, db.inventory.lookup id = some row → row.state = .BOOKED →
        ∃ row', db'.inventory.lookup id = some row' ∧ row'.state = .BOOKED := by
  have hs := (hstart.fulfilled.steps (sells_of_reaches hrun)).1
  refine ⟨hs.exactly, fun db' hlater id row hrow hbooked => ?_⟩
  exact (hs.steps (sells_of_reaches hlater)).2 id ⟨row, hrow, hbooked⟩

/-- A sale: both seats are held, ordered, paid for and booked. -/
def sale : List CommerceAction :=
  [.transaction (.acquireSeatHold 1 (holdRequest [1, 2] 1) holdConfiguration
      { holdId := 7, publicToken := 7, createdAt := 100 } 100),
    .transaction (.createCheckoutOrder 1 { holdToken := 7, idempotencyKey := 5 } .STRIPE
      { orderId := 1, publicReference := 1, attemptId := 1, providerIdempotencyKey := 1 } 200),
    .transaction (.recordPaymentIntent 1 91 210),
    .transaction (.storeVerifiedWebhook .STRIPE
      { providerEventId := 1, providerIntentId := 91, status := .SUCCEEDED, amountMinor := 1000
        currency := .USD, occurredAt := none } 1 300),
    .transaction (.processVerifiedWebhookRecord 1
      { bookingId := 1, publicReference := 1, seatId := fun id => id } 310)]

/-- The seats of the sale are booked, and stay so when the session is cancelled. -/
theorem fulfilled_exactly_sale :
    ∃ db db' : Db, db.FulfilledExactly ∧ db.HasBooking 1 ∧
      ∃ row, db'.inventory.lookup 1 = some row ∧ row.state = .BOOKED := by
  have hrun : (execute step sale openSession).any (fun db =>
      (db.bookings.lookup 1).any (fun b => b.orderId == 1) &&
        (db.inventory.lookup 1).any (fun row => row.state == .BOOKED) &&
        (execute step [.transaction (.cancelEventSession 1 400)] db).isSome) = true := by
    decide +kernel
  obtain ⟨db, hdb, hcheck⟩ := (Option.any_eq_true _ _).mp hrun
  simp only [Bool.and_eq_true] at hcheck
  obtain ⟨⟨hbooking, hrow⟩, hlater⟩ := hcheck
  obtain ⟨b, hb, horder⟩ := (Option.any_eq_true _ _).mp hbooking
  obtain ⟨row, hlook, hbooked⟩ := (Option.any_eq_true _ _).mp hrow
  obtain ⟨db', hdb'⟩ := Option.isSome_iff_exists.mp hlater
  obtain ⟨hexactly, hpermanent⟩ := fulfilled_exactly openSession_beforeSales
    (reaches_of_execute hdb fun _ _ _ => trivial)
  exact ⟨db, db', hexactly, ⟨1, b, hb, eq_of_beq horder⟩,
    hpermanent db' (reaches_of_execute hdb' fun _ _ _ => trivial) 1 row hlook (eq_of_beq hbooked)⟩

end Commerce

end SeatFlow
