import SeatFlow.Database.RefundConstraints

/-!
# Commerce policy

The pure decisions of holds, checkout and payments: whether a session may be sold
now, what an order costs, what a verified payment does to an order, and whether
the snapshots of an order, its hold and the inventory still agree.
-/

namespace SeatFlow

/-! ## §1 Selling a session -/

inductive SaleBlockReason
  | EVENT_UNAVAILABLE | SESSION_CANCELLED | SESSION_COMPLETED | SESSION_STARTED | SALES_ENDED
  | SALES_NOT_STARTED | SALES_NOT_OPEN | NO_INVENTORY
  deriving DecidableEq

/-- `REASON_MESSAGES`. -/
def SaleBlockReason.message : SaleBlockReason → String
  | .EVENT_UNAVAILABLE => "This event is not currently available."
  | .SESSION_CANCELLED => "This session has been cancelled."
  | .SESSION_COMPLETED => "This session has already taken place."
  | .SESSION_STARTED => "This session has already started."
  | .SALES_ENDED => "Sales for this session have closed."
  | .SALES_NOT_STARTED => "Sales for this session have not opened yet."
  | .SALES_NOT_OPEN => "Sales for this session are not currently open."
  | .NO_INVENTORY => "Seats for this session are not available yet."

inductive SessionSalesEligibility
  | sellable
  | blocked (reason : SaleBlockReason)
  deriving DecidableEq

structure SessionSalesEligibilityInput where
  eventStatus : EventStatus
  sessionStatus : EventSessionStatus
  sessionStartAt : Time
  salesStartAt : Time
  salesEndAt : Time
  hasInventory : Bool
  now : Time

def evaluateSessionSalesEligibility (input : SessionSalesEligibilityInput) :
    SessionSalesEligibility :=
  if input.eventStatus ≠ .PUBLISHED then .blocked .EVENT_UNAVAILABLE
  else if input.sessionStatus = .CANCELLED then .blocked .SESSION_CANCELLED
  else if input.sessionStatus = .COMPLETED then .blocked .SESSION_COMPLETED
  else if input.sessionStartAt ≤ input.now then .blocked .SESSION_STARTED
  else if input.salesEndAt ≤ input.now then .blocked .SALES_ENDED
  else if input.now < input.salesStartAt then .blocked .SALES_NOT_STARTED
  else if input.sessionStatus ≠ .ON_SALE then .blocked .SALES_NOT_OPEN
  else if ¬input.hasInventory then .blocked .NO_INVENTORY
  else .sellable

/-- Whether two selections are one set of seats, for an idempotent replay. -/
def seatSelectionsMatch (first second : List SeatId) : Bool :=
  first.length == second.length && second.all first.contains

/-! ## §2 The order's total -/

/-- `Number.isSafeInteger`. -/
def isSafeInteger (n : Int) : Bool :=
  -9007199254740991 ≤ n && n ≤ 9007199254740991

structure CheckoutTotal where
  subtotalMinor : Money
  totalMinor : Money
  currency : Currency
  seatCount : Nat

/-- The loop of `calculateCheckoutTotal`: the running total after more items. -/
def addCheckoutItems (currency : Currency) : Money → List SeatHoldItem → Except String Money
  | totalMinor, [] => .ok totalMinor
  | totalMinor, item :: items =>
      if item.currency ≠ currency then .error "A checkout order cannot mix currencies."
      else if ¬isSafeInteger item.priceMinor ∨ item.priceMinor < 0 then
        .error "Checkout prices must be non-negative safe integer minor units."
      else if ¬isSafeInteger (totalMinor + item.priceMinor) ∨
          totalMinor + item.priceMinor > 2147483647 then
        .error "Checkout total exceeds the supported amount range."
      else addCheckoutItems currency (totalMinor + item.priceMinor) items

def calculateCheckoutTotal (items : List SeatHoldItem) : Except String CheckoutTotal :=
  match items with
  | [] => .error "A checkout order requires at least one seat."
  | first :: _ => do
      let totalMinor ← addCheckoutItems first.currency 0 items
      .ok
        { subtotalMinor := totalMinor
          totalMinor := totalMinor
          currency := first.currency
          seatCount := items.length }

theorem addCheckoutItems_eq_ok {currency : Currency} {items : List SeatHoldItem}
    {start total : Money} (h : addCheckoutItems currency start items = .ok total) :
    total = start + (items.map (·.priceMinor)).sum ∧ start ≤ total ∧
      ∀ item ∈ items, item.currency = currency := by
  induction items generalizing start with
  | nil =>
      cases h
      simp
  | cons item items ih =>
      simp only [addCheckoutItems] at h
      split at h
      · cases h
      · rename_i hcurrency
        split at h
        · cases h
        · rename_i hprice
          split at h
          · cases h
          · obtain ⟨hsum, hle, hall⟩ := ih h
            simp only [not_or, not_lt] at hprice
            refine ⟨?_, ?_, ?_⟩
            · rw [hsum, List.map_cons, List.sum_cons, add_assoc]
            · exact (le_add_of_nonneg_right hprice.2).trans hle
            · intro it hit
              rcases List.mem_cons.mp hit with rfl | hit
              · exact not_not.mp hcurrency
              · exact hall it hit

/-- An order's total is the sum of its items, in their one currency. -/
theorem calculateCheckoutTotal_eq_ok {items : List SeatHoldItem} {total : CheckoutTotal}
    (h : calculateCheckoutTotal items = .ok total) :
    items ≠ [] ∧ total.totalMinor = (items.map (·.priceMinor)).sum ∧
      total.subtotalMinor = total.totalMinor ∧ 0 ≤ total.totalMinor ∧
      ∀ item ∈ items, item.currency = total.currency := by
  unfold calculateCheckoutTotal at h
  cases items with
  | nil => cases h
  | cons first items =>
      obtain ⟨totalMinor, hadd, ⟨⟩⟩ := Relational.Except.bind_eq_ok.mp h
      obtain ⟨hsum, hle, hall⟩ := addCheckoutItems_eq_ok hadd
      exact ⟨by simp, by simpa using hsum, rfl, hle, hall⟩

theorem addCheckoutItems_le {currency : Currency} {items : List SeatHoldItem} {start total : Money}
    (h : addCheckoutItems currency start items = .ok total) (hstart : start ≤ 2147483647) :
    total ≤ 2147483647 := by
  induction items generalizing start with
  | nil =>
      cases h
      exact hstart
  | cons item items ih =>
      simp only [addCheckoutItems] at h
      split at h
      · cases h
      · split at h
        · cases h
        · split at h
          · cases h
          · rename_i hrange
            exact ih h (not_lt.mp fun hlt => hrange (.inr hlt))

/-- An order's total fits an `INTEGER` column. -/
theorem calculateCheckoutTotal_le {items : List SeatHoldItem} {total : CheckoutTotal}
    (h : calculateCheckoutTotal items = .ok total) : total.totalMinor ≤ 2147483647 := by
  unfold calculateCheckoutTotal at h
  cases items with
  | nil => cases h
  | cons first items =>
      obtain ⟨totalMinor, hadd, ⟨⟩⟩ := Relational.Except.bind_eq_ok.mp h
      exact addCheckoutItems_le hadd (by decide)

/-! ## §3 What a verified payment does -/

/-- A terminal payment result is contradicted by any other status. -/
def isContradictoryTerminalStatus (current incoming : PaymentAttemptStatus) : Bool :=
  isTerminalPaymentStatus current && current != incoming

inductive PaidFulfillmentReview
  | HOLD_RELEASED | HOLD_EXPIRED | HOLD_NOT_ACTIVE | SESSION_CANCELLED | SESSION_UNAVAILABLE
  | ORDER_TERMINAL_CONFLICT
  deriving DecidableEq

def PaidFulfillmentReview.code : PaidFulfillmentReview → Code
  | .HOLD_RELEASED => "HOLD_RELEASED"
  | .HOLD_EXPIRED => "HOLD_EXPIRED"
  | .HOLD_NOT_ACTIVE => "HOLD_NOT_ACTIVE"
  | .SESSION_CANCELLED => "SESSION_CANCELLED"
  | .SESSION_UNAVAILABLE => "SESSION_UNAVAILABLE"
  | .ORDER_TERMINAL_CONFLICT => "ORDER_TERMINAL_CONFLICT"

inductive PaidFulfillmentDecision
  | FULFILL
  | IDEMPOTENT
  | REVIEW (code : PaidFulfillmentReview)
  deriving DecidableEq

structure PaidFulfillmentInput where
  orderStatus : CheckoutOrderStatus
  holdStatus : SeatHoldStatus
  holdExpiresAt : Time
  eventStatus : EventStatus
  sessionStatus : EventSessionStatus
  now : Time

def decidePaidFulfillment (input : PaidFulfillmentInput) : PaidFulfillmentDecision :=
  if input.orderStatus = .FULFILLED then .IDEMPOTENT
  else if input.orderStatus ∈
      [.FAILED, .CANCELLED, .EXPIRED, .PAID_UNFULFILLED, .REQUIRES_REVIEW] then
    .REVIEW .ORDER_TERMINAL_CONFLICT
  else if input.holdStatus = .RELEASED then .REVIEW .HOLD_RELEASED
  else if input.holdStatus = .EXPIRED ∨ input.holdExpiresAt ≤ input.now then .REVIEW .HOLD_EXPIRED
  else if input.holdStatus ≠ .ACTIVE then .REVIEW .HOLD_NOT_ACTIVE
  else if input.sessionStatus = .CANCELLED then .REVIEW .SESSION_CANCELLED
  else if input.eventStatus ≠ .PUBLISHED ∨
      input.sessionStatus ∉ [.SCHEDULED, .ON_SALE, .SALES_PAUSED] then
    .REVIEW .SESSION_UNAVAILABLE
  else .FULFILL

/-- Only an open order with an active hold is fulfilled. -/
theorem decidePaidFulfillment_fulfill {input : PaidFulfillmentInput}
    (h : decidePaidFulfillment input = .FULFILL) :
    input.orderStatus.isTerminal = false ∧ input.holdStatus = .ACTIVE ∧
      input.now < input.holdExpiresAt := by
  unfold decidePaidFulfillment at h
  split_ifs at h with h₁ h₂ h₃ h₄ h₅ h₆ h₇
  refine ⟨?_, not_not.mp h₅, not_le.mp (not_or.mp h₄).2⟩
  cases hstatus : input.orderStatus <;> simp_all [CheckoutOrderStatus.isTerminal]

/-- The decision leaves an order alone only if it is fulfilled. -/
theorem decidePaidFulfillment_idempotent {input : PaidFulfillmentInput}
    (h : decidePaidFulfillment input = .IDEMPOTENT) : input.orderStatus = .FULFILLED := by
  unfold decidePaidFulfillment at h
  split_ifs at h with h₁
  exact h₁

/-! ## §4 Snapshots -/

/-- `new Map(rows).get(key)`: the last row under a key wins. -/
def mapGet {α κ : Type} [DecidableEq κ] (key : α → κ) (rows : List α) (k : κ) : Option α :=
  rows.reverse.find? fun row => key row == k

theorem mem_of_mapGet {α κ : Type} [DecidableEq κ] {key : α → κ} {rows : List α} {k : κ} {row : α}
    (h : mapGet key rows k = some row) : row ∈ rows ∧ key row = k := by
  have hmem := List.mem_of_find?_eq_some h
  have hkey := List.find?_some h
  exact ⟨List.mem_reverse.mp hmem, by simpa using hkey⟩

structure SnapshotsInput where
  orderItems : List CheckoutOrderItem
  holdItems : List SeatHoldItem
  inventory : List (InventoryId × SessionSeatInventory)
  holdId : HoldId
  sessionId : SessionId
  holdExpiresAt : Time

/-- One order item against the hold's item and the inventory row. -/
def itemMatches (input : SnapshotsInput) (item : CheckoutOrderItem) : Bool :=
  match mapGet (·.inventoryId) input.holdItems item.inventoryId,
    mapGet Prod.fst input.inventory item.inventoryId with
  | some holdItem, some (_, inventoryItem) =>
      holdItem.priceMinor == item.priceMinor && holdItem.currency == item.currency &&
        inventoryItem.sessionId == input.sessionId && inventoryItem.seatId == item.seatId &&
        inventoryItem.sectionId == item.sectionId &&
        inventoryItem.priceTierId == item.priceTierId &&
        inventoryItem.priceMinor == item.priceMinor && inventoryItem.currency == item.currency &&
        inventoryItem.state == .HELD && inventoryItem.currentHoldId == some input.holdId &&
        inventoryItem.holdExpiresAt == some input.holdExpiresAt
  | _, _ => false

def snapshotsMatch (input : SnapshotsInput) : Bool :=
  input.orderItems.length != 0 && input.orderItems.length == input.holdItems.length &&
    input.orderItems.length == input.inventory.length && input.orderItems.all (itemMatches input)

/-- A matching order is not empty, has as many items as its hold, and each of
them is one of the hold's rows, still held by it. -/
theorem snapshotsMatch_eq_true {input : SnapshotsInput} (h : snapshotsMatch input = true) :
    input.orderItems ≠ [] ∧ input.orderItems.length = input.holdItems.length ∧
      ∀ item ∈ input.orderItems,
        (∃ holdItem ∈ input.holdItems, holdItem.inventoryId = item.inventoryId) ∧
        ∃ row, (item.inventoryId, row) ∈ input.inventory ∧ row.state = .HELD ∧
          row.currentHoldId = some input.holdId ∧ row.snapshot =
            (input.sessionId, item.seatId, item.sectionId, item.priceTierId, item.priceMinor,
              item.currency) := by
  simp only [snapshotsMatch, Bool.and_eq_true, bne_iff_ne, ne_eq, List.length_eq_zero_iff,
    beq_iff_eq, List.all_eq_true] at h
  obtain ⟨⟨⟨hne, hlength⟩, -⟩, hall⟩ := h
  refine ⟨hne, hlength, fun item hitem => ?_⟩
  have hmatch := hall item hitem
  unfold itemMatches at hmatch
  split at hmatch
  · rename_i holdItem id row hhold hrow
    obtain ⟨hmem, hid⟩ := mem_of_mapGet hrow
    obtain ⟨hmem', hid'⟩ := mem_of_mapGet hhold
    simp only [Bool.and_eq_true, beq_iff_eq] at hmatch
    obtain ⟨⟨⟨⟨⟨⟨⟨⟨⟨-, hsession⟩, hseat⟩, hsection⟩, htier⟩, hprice⟩, hcurrency⟩, hstate⟩,
      hheld⟩, -⟩ :=
      hmatch
    cases hid
    refine ⟨⟨holdItem, hmem', hid'⟩, row, hmem, hstate, hheld, ?_⟩
    simp [SessionSeatInventory.snapshot, hsession, hseat, hsection, htier, hprice, hcurrency]
  · cases hmatch

/-! ### What a match says of the three lists -/

/-- Keys without repetition among as many others are all of them. -/
theorem perm_of_keys {κ : Type} {ids ids' : List κ} (hnodup : ids.Nodup) (hsub : ids ⊆ ids')
    (hlength : ids.length = ids'.length) : ids.Perm ids' :=
  (List.subperm_of_subset hnodup hsub).perm_of_length_le hlength.ge

/-- A row is found under its key when no two rows have one key. -/
theorem mapGet_of_mem {α κ : Type} [DecidableEq κ] {key : α → κ} {rows : List α} {row : α}
    (hnodup : (rows.map key).Nodup) (hmem : row ∈ rows) :
    mapGet key rows (key row) = some row := by
  obtain ⟨found, hfound⟩ : ∃ found, mapGet key rows (key row) = some found := by
    rw [← Option.isSome_iff_exists, mapGet, List.find?_isSome]
    exact ⟨row, List.mem_reverse.mpr hmem, by simp⟩
  obtain ⟨hmem', hkey⟩ := mem_of_mapGet hfound
  rw [hfound, List.inj_on_of_nodup_map hnodup hmem' hmem hkey]

namespace SnapshotsInput

/-- The three snapshots are of the same inventory, which the hold holds. -/
structure Agree (input : SnapshotsInput) : Prop where
  holdIds : ∀ id, id ∈ input.holdItems.map (·.inventoryId) ↔
    id ∈ input.orderItems.map (·.inventoryId)
  inventoryIds : ∀ id, id ∈ input.inventory.map Prod.fst ↔
    id ∈ input.orderItems.map (·.inventoryId)
  holdItem : ∀ item ∈ input.orderItems, ∀ holdItem ∈ input.holdItems,
    holdItem.inventoryId = item.inventoryId →
      holdItem.priceMinor = item.priceMinor ∧ holdItem.currency = item.currency
  inventoryItem : ∀ item ∈ input.orderItems, ∀ row, (item.inventoryId, row) ∈ input.inventory →
    row.priceMinor = item.priceMinor ∧ row.currency = item.currency ∧ row.seatId = item.seatId ∧
      row.sectionId = item.sectionId ∧ row.priceTierId = item.priceTierId
  held : ∀ id row, (id, row) ∈ input.inventory → row.state = .HELD ∧
    row.currentHoldId = some input.holdId ∧ row.holdExpiresAt = some input.holdExpiresAt ∧
      row.sessionId = input.sessionId

end SnapshotsInput

/-- **A match is an agreement.** Only the order's inventory must not repeat: the other lists are
as long and contain it, so they repeat none either. -/
theorem snapshotsMatch_sound (input : SnapshotsInput)
    (hnodup : (input.orderItems.map (·.inventoryId)).Nodup) (h : snapshotsMatch input = true) :
    input.Agree := by
  simp only [snapshotsMatch, Bool.and_eq_true, beq_iff_eq, List.all_eq_true] at h
  obtain ⟨⟨⟨-, hholdLength⟩, hinventoryLength⟩, hall⟩ := h
  have hfound : ∀ item ∈ input.orderItems, ∃ holdItem row,
      mapGet (·.inventoryId) input.holdItems item.inventoryId = some holdItem ∧
      mapGet Prod.fst input.inventory item.inventoryId = some (item.inventoryId, row) ∧
      (holdItem.priceMinor = item.priceMinor ∧ holdItem.currency = item.currency) ∧
      (row.priceMinor = item.priceMinor ∧ row.currency = item.currency ∧ row.seatId = item.seatId ∧
        row.sectionId = item.sectionId ∧ row.priceTierId = item.priceTierId) ∧
      row.state = .HELD ∧ row.currentHoldId = some input.holdId ∧
        row.holdExpiresAt = some input.holdExpiresAt ∧ row.sessionId = input.sessionId := by
    intro item hitem
    have hmatch := hall item hitem
    unfold itemMatches at hmatch
    split at hmatch
    · rename_i holdItem id row hhold hrow
      obtain ⟨-, hid⟩ := mem_of_mapGet hrow
      cases hid
      simp only [Bool.and_eq_true, beq_iff_eq] at hmatch
      exact ⟨holdItem, row, hhold, hrow, by simp [hmatch], by simp [hmatch], by simp [hmatch]⟩
    · cases hmatch
  have hholdIds : (input.orderItems.map (·.inventoryId)).Perm
      (input.holdItems.map (·.inventoryId)) := by
    refine perm_of_keys hnodup ?_ (by simpa using hholdLength)
    rintro id hid
    obtain ⟨item, hitem, rfl⟩ := List.mem_map.mp hid
    obtain ⟨holdItem, -, hhold, -⟩ := hfound item hitem
    obtain ⟨hmem, hsame⟩ := mem_of_mapGet hhold
    exact List.mem_map.mpr ⟨holdItem, hmem, hsame⟩
  have hinventoryIds :
      (input.orderItems.map (·.inventoryId)).Perm (input.inventory.map Prod.fst) := by
    refine perm_of_keys hnodup ?_ (by simpa using hinventoryLength)
    rintro id hid
    obtain ⟨item, hitem, rfl⟩ := List.mem_map.mp hid
    obtain ⟨-, row, -, hrow, -⟩ := hfound item hitem
    exact List.mem_map.mpr ⟨_, (mem_of_mapGet hrow).1, rfl⟩
  have hholdNodup := hholdIds.nodup hnodup
  have hinventoryNodup := hinventoryIds.nodup hnodup
  constructor
  case holdIds => exact fun id => hholdIds.mem_iff.symm
  case inventoryIds => exact fun id => hinventoryIds.mem_iff.symm
  case holdItem =>
    intro item hitem holdItem hmem hid
    obtain ⟨holdItem', -, hhold, -, hterms, -⟩ := hfound item hitem
    rw [← hid, mapGet_of_mem hholdNodup hmem] at hhold
    cases hhold
    exact hterms
  case inventoryItem =>
    intro item hitem row hmem
    obtain ⟨-, row', -, hrow, -, hterms, -⟩ := hfound item hitem
    rw [mapGet_of_mem hinventoryNodup hmem] at hrow
    cases hrow
    exact hterms
  case held =>
    intro id row hmem
    have hid := hinventoryIds.mem_iff.mpr (List.mem_map_of_mem (f := Prod.fst) hmem)
    obtain ⟨item, hitem, rfl⟩ := List.mem_map.mp hid
    obtain ⟨-, row', -, hrow, -, -, hheld⟩ := hfound item hitem
    rw [mapGet_of_mem hinventoryNodup hmem] at hrow
    cases hrow
    exact hheld

/-- Two seats held by hold 7, ordered in the other order. -/
theorem snapshotsMatch_sound_twoSeats :
    SnapshotsInput.Agree
      { orderItems :=
          [{ inventoryId := 2, seatId := 2, sectionId := 1, priceTierId := 2, priceMinor := 400
             currency := .USD },
            { inventoryId := 1, seatId := 1, sectionId := 1, priceTierId := 1, priceMinor := 600
              currency := .USD }]
        holdItems :=
          [{ inventoryId := 1, priceMinor := 600, currency := .USD },
            { inventoryId := 2, priceMinor := 400, currency := .USD }]
        inventory :=
          [(1, { sessionId := 1, seatId := 1, sectionId := 1, priceTierId := 1, priceMinor := 600
                 currency := .USD, state := .HELD, currentHoldId := some 7
                 holdExpiresAt := some 700 }),
            (2, { sessionId := 1, seatId := 2, sectionId := 1, priceTierId := 2, priceMinor := 400
                  currency := .USD, state := .HELD, currentHoldId := some 7
                  holdExpiresAt := some 700 })]
        holdId := 7
        sessionId := 1
        holdExpiresAt := 700 } :=
  snapshotsMatch_sound _ (by decide) (by decide)

end SeatFlow
