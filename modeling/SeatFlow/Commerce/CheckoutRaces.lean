import Mathlib.Data.List.Perm.Subperm
import SeatFlow.Commerce.CheckoutService
import SeatFlow.Database.Indexes

/-!
# Checkouts under interference

Any number of `createCheckoutOrder` calls at once. Each locks the hold it is for
before it looks for an order of that hold, and keeps the lock until it ends: an
order that is not there when it looks cannot appear meanwhile. What is committed
is therefore one order for each hold, of exactly the hold's items, with their
exact sum as its total.
-/

namespace SeatFlow

open Relational Program Isolation Discipline

/-! ## §1 What is committed -/

/-- One `createCheckoutOrder` call. -/
structure CheckoutCall where
  userId : UserId
  input : CreateCheckoutInput
  provider : PaymentProviderName
  fresh : FreshOrder
  now : Time

def CheckoutCall.program (call : CheckoutCall) : Sql CreateCheckoutResult :=
  createCheckoutOrder call.userId call.input call.provider call.fresh call.now

def CheckoutCall.transaction (call : CheckoutCall) :
    Transaction Db RowKey Write Failure CreateCheckoutResult :=
  { program := call.program }

/-- The order is of the hold's customer and of exactly its items; its total is
their exact sum, in one currency and within an `INTEGER` column. -/
structure CheckoutOrder.Sells (o : CheckoutOrder) (hold : SeatHold) : Prop where
  customer : o.userId = hold.userId
  items : o.items.map (fun item => (item.inventoryId, item.priceMinor, item.currency))
    = hold.items.map fun item => (item.inventoryId, item.priceMinor, item.currency)
  total : o.totalMinor = (hold.items.map (·.priceMinor)).sum
  subtotal : o.subtotalMinor = o.totalMinor
  nonneg : 0 ≤ o.totalMinor
  fits : o.totalMinor ≤ 2147483647
  currency : ∀ item ∈ o.items, item.currency = o.currency

/-- Orders are exact, and no hold has two. -/
structure CheckoutsExact (db : Db) : Prop where
  settled : db.deferred = []
  once : ∀ id id' o o', db.orders.lookup id = some o → db.orders.lookup id' = some o' →
    o.sourceHoldId = o'.sourceHoldId → id = id'
  sells : ∀ id o, db.orders.lookup id = some o →
    ∃ hold, db.holds.lookup o.sourceHoldId = some hold ∧ o.Sells hold

/-- What a checkout may commit: new exact orders, each of a hold that it has
locked and that has no other. -/
structure Placing (locks : List (Lock RowKey IndexEntry)) (writes : List Write) (db : Db) :
    Prop where
  holds : ∀ w ∈ writes, Db.holdRows.rowPut w = none
  inventory : ∀ w ∈ writes, Db.inventoryRows.rowPut w = none
  settled : (applyAll writes db).deferred = []
  orders : Db.orderRows.Alters (fun _ old o => old = none ∧ .row (.hold o.sourceHoldId) ∈ locks ∧
    ∃ hold, db.holds.lookup o.sourceHoldId = some hold ∧ o.Sells hold) writes db
  once : ∀ id o, Db.orderRows.overlay writes id = some o → ∀ id' o',
    (applyAll writes db).orders.lookup id' = some o' → o'.sourceHoldId = o.sourceHoldId → id' = id

section Placing

variable {locks : List (Lock RowKey IndexEntry)} {writes : List Write} {db : Db}

theorem Placing.holds_eq (h : Placing locks writes db) : (applyAll writes db).holds = db.holds :=
  Projection.get_applyAll_of_silent (P := Db.holdRows) h.holds db

/-- An order after the commit was there before, or is one of the new ones. -/
theorem Placing.order_cases (h : Placing locks writes db) {id : OrderId} {o : CheckoutOrder}
    (hlook : (applyAll writes db).orders.lookup id = some o) :
    db.orders.lookup id = some o ∨
      (Db.orderRows.overlay writes id = some o ∧ .row (.hold o.sourceHoldId) ∈ locks ∧
        ∃ hold, db.holds.lookup o.sourceHoldId = some hold ∧ o.Sells hold) := by
  rcases h.orders.cases hlook with ⟨-, hold⟩ | ⟨hover, -, hnew⟩
  · exact .inl hold
  · exact .inr ⟨hover, hnew⟩

/-- Orders stay. -/
theorem Placing.order_stays (h : Placing locks writes db) {id : OrderId} {o : CheckoutOrder}
    (hlook : db.orders.lookup id = some o) :
    (applyAll writes db).orders.lookup id = some o := by
  have happly : (applyAll writes db).orders.lookup id
      = (Db.orderRows.overlay writes id).or (db.orders.lookup id) :=
    Projection.lookup_applyAll (P := Db.orderRows) writes db id
  cases hover : Db.orderRows.overlay writes id with
  | none => rw [happly, hover, Option.none_or, hlook]
  | some new =>
      have habsent : db.orders.lookup id = none := (h.orders id new hover).1
      rw [hlook] at habsent
      cases habsent

theorem Placing.keeps (h : Placing locks writes db) (hdb : CheckoutsExact db) :
    CheckoutsExact (applyAll writes db) where
  settled := h.settled
  once := by
    intro id id' o o' hid hid' hsame
    rcases h.order_cases hid with hold | ⟨hover, -⟩
    · rcases h.order_cases hid' with hold' | ⟨hover', -⟩
      · exact hdb.once id id' o o' hold hold' hsame
      · exact h.once id' o' hover' id o hid hsame
    · exact (h.once id o hover id' o' hid' hsame.symm).symm
  sells := by
    intro id o hid
    rw [h.holds_eq]
    rcases h.order_cases hid with hold | ⟨-, -, hsells⟩
    · exact hdb.sells id o hold
    · exact hsells

end Placing

/-- The discipline of checkouts. -/
def checkouts : Discipline Db RowKey Write IndexEntry where
  Inv := CheckoutsExact
  Permits := Placing
  keeps := Placing.keeps

/-! ## §2 What a checkout may rely on -/

section Others

variable {ok : List (Lock RowKey IndexEntry) → List Write → Prop} {db db' : Db}

theorem holds_of_others (h : checkouts.Others ok db db') : db'.holds = db.holds :=
  h.get_eq (P := Db.holdRows) fun _ _ _ hpermits => hpermits.holds

theorem inventory_of_others (h : checkouts.Others ok db db') : db'.inventory = db.inventory :=
  h.get_eq (P := Db.inventoryRows) fun _ _ _ hpermits => hpermits.inventory

/-- An order does not change, whoever commits. -/
theorem order_of_others (h : checkouts.Others ok db db') {orderId : OrderId}
    {order : CheckoutOrder} (hlook : db.orders.lookup orderId = some order) :
    db'.orders.lookup orderId = some order := by
  refine h.stable (A := fun db => db.orders.lookup orderId = some order) hlook ?_
  intro _ _ _ _ _ _ hpermits hlook
  exact hpermits.order_stays hlook

/-- No order has been placed for the hold. -/
def Db.Unsold (db : Db) (holdId : HoldId) : Prop :=
  ∀ id o, db.orders.lookup id = some o → o.sourceHoldId ≠ holdId

/-- Nobody else places an order for a hold that I have locked. -/
theorem unsold_of_others {mine : List (Lock RowKey IndexEntry)} {holdId : HoldId}
    (h : checkouts.Others (Apart mine) db db') (hmine : .row (.hold holdId) ∈ mine)
    (hdb : db.Unsold holdId) : db'.Unsold holdId := by
  refine h.stable (A := fun db => db.Unsold holdId) hdb ?_
  intro locks writes s _ _ hapart hpermits hs id o hlook hhold
  rcases hpermits.order_cases hlook with hold | ⟨-, hlocked, -⟩
  · exact hs id o hold hhold
  · rw [hhold] at hlocked
    exact hapart _ hmine hlocked

end Others

/-! ## §3 One call under interference -/

section Calls

variable {α : Type} {db : Db} {locks : List (Lock RowKey IndexEntry)}
  {Q : Post α Db RowKey Write IndexEntry}

/-- What `placeOrder` writes, in its order. -/
def placedWrites (fresh : FreshOrder) (order : CheckoutOrder) (items : List CheckoutOrderItem)
    (provider : PaymentProviderName) (now : Time) : List Write :=
  [.order fresh.orderId order, .defer (.verifyOrderTotals fresh.orderId),
    .order fresh.orderId { order with items := order.items ++ items },
    .defer (.verifyOrderTotals fresh.orderId),
    .attempt fresh.attemptId
      (.created fresh.orderId order provider fresh.providerIdempotencyKey now),
    .inventoryOutbox (.checkoutCreated fresh.orderId)
      { sessionId := order.sessionId, createdAt := now }]

theorem overlay_placedWrites {fresh : FreshOrder} {order : CheckoutOrder}
    {items : List CheckoutOrderItem} {provider : PaymentProviderName} {now : Time} (id : OrderId) :
    Db.orderRows.overlay (placedWrites fresh order items provider now ++ [.settled]) id
      = if fresh.orderId = id then some { order with items := order.items ++ items } else none := by
  by_cases hid : fresh.orderId = id <;>
    simp [placedWrites, Projection.overlay, Db.orderRows, hid]

theorem lookup_placedWrites {fresh : FreshOrder} {order : CheckoutOrder}
    {items : List CheckoutOrderItem} {provider : PaymentProviderName} {now : Time} (db : Db) :
    (applyAll (placedWrites fresh order items provider now ++ [.settled]) db).orders.lookup
      fresh.orderId = some { order with items := order.items ++ items } := by
  have hlook := Projection.lookup_applyAll (P := Db.orderRows)
    (placedWrites fresh order items provider now ++ [.settled]) db fresh.orderId
  rw [overlay_placedWrites, if_pos rfl] at hlook
  exact hlook

/-- The order's number was free, and is this transaction's until it ends. -/
theorem wp_placeOrder {fresh : FreshOrder} {order : CheckoutOrder}
    {items : List CheckoutOrderItem} {provider : PaymentProviderName} {now : Time}
    {f : Unit → Sql α}
    (h : ∀ db₁, checkouts.Others (Apart locks) db db₁ →
      db₁.orders.lookup fresh.orderId = none → ∀ locks', (∀ l ∈ locks, l ∈ locks') →
        .row (.order fresh.orderId) ∈ locks' →
        checkouts.Wp (f ()) db₁ (placedWrites fresh order items provider now) locks' Q) :
    checkouts.Wp (placeOrder fresh order items provider now >>= f) db [] locks Q := by
  simp only [placeOrder, bind_assoc]
  refine Entity.wp_insert fun db₁ h₁ habsent _ locks₁ hlocks₁ hrow _ => ?_
  refine wp_defer fun db₂ h₂ => ?_
  refine Entity.wp_update fun db₃ h₃ row hlook _ locks₂ hlocks₂ _ _ => ?_
  have hown : row = order := by
    have hlook' : (Db.orderRows.get (applyAll (([] ++ [Write.order fresh.orderId order]) ++
        [.defer (.verifyOrderTotals fresh.orderId)]) db₃)).lookup fresh.orderId = some row := hlook
    rw [Projection.lookup_applyAll] at hlook'
    simpa [Projection.overlay, Db.orderRows] using hlook'.symm
  subst hown
  refine wp_defer fun db₄ h₄ => ?_
  refine Entity.wp_insert fun db₅ h₅ _ _ locks₃ hlocks₃ _ _ => ?_
  refine Entity.wp_insert fun db₆ h₆ _ _ locks₄ hlocks₄ _ _ => ?_
  have hall : checkouts.Others (Apart locks₁) db₁ db₆ :=
    h₂.trans <| h₃.trans <| (h₄.apart_mono hlocks₂).trans <| (h₅.apart_mono hlocks₂).trans <|
      h₆.apart_mono fun l hl => hlocks₃ l (hlocks₂ l hl)
  refine h db₆ (h₁.trans (hall.apart_mono hlocks₁)) ?_ locks₄
    (fun l hl => hlocks₄ l (hlocks₃ l (hlocks₂ l (hlocks₁ l hl))))
    (hlocks₄ _ (hlocks₃ _ (hlocks₂ _ hrow)))
  exact (hall.avoiding.lookup_eq (P := Db.orderRows) hrow).trans habsent

/-- Every item of a hold whose inventory is locked in full has its row. -/
theorem map_fst_holdItems {hold : SeatHold} {holdId : HoldId} {db : Db}
    {locked : List (InventoryId × SessionSeatInventory)} (hnodup : (locked.map Prod.fst).Nodup)
    (hlocked : ∀ e ∈ locked, db.inventory.lookup e.1 = some e.2 ∧
      e.1 ∈ hold.items.map (·.inventoryId)) (hheld : heldFor holdId hold locked = true) :
    (hold.items.filterMap fun item =>
      (db.inventory.lookup item.inventoryId).map fun row => (item, row)).map Prod.fst
        = hold.items := by
  have hlength : (hold.items.map (·.inventoryId)).length ≤ (locked.map Prod.fst).length := by
    simp only [heldFor, Bool.and_eq_true, beq_iff_eq] at hheld
    simp [hheld.1]
  have hsub : locked.map Prod.fst ⊆ hold.items.map (·.inventoryId) := by
    intro id hid
    obtain ⟨e, he, rfl⟩ := List.mem_map.mp hid
    exact (hlocked e he).2
  have hpresent : ∀ item ∈ hold.items, ∃ row, db.inventory.lookup item.inventoryId = some row := by
    intro item hitem
    have hid := ((List.subperm_of_subset hnodup hsub).perm_of_length_le hlength).mem_iff.mpr
      (List.mem_map_of_mem hitem)
    obtain ⟨e, he, heq⟩ := List.mem_map.mp hid
    exact ⟨e.2, heq ▸ (hlocked e he).1⟩
  clear hheld hlength hsub hlocked
  generalize hold.items = items at hpresent
  induction items with
  | nil => rfl
  | cons item items ih =>
      obtain ⟨row, hrow⟩ := hpresent item List.mem_cons_self
      rw [List.filterMap_cons, hrow]
      simp [ih fun it hit => hpresent it (List.mem_cons_of_mem item hit)]

/-- What the checkout reads, checks and computes makes the order exact. -/
theorem sells_created {holdId : HoldId} {hold : SeatHold} {session : EventSession} {event : Event}
    {total : CheckoutTotal} {key : RequestKey} {reference : Reference} {now : Time}
    {items : List (SeatHoldItem × SessionSeatInventory)} (hitems : items.map Prod.fst = hold.items)
    (htotal : calculateCheckoutTotal hold.items = .ok total) :
    CheckoutOrder.Sells
      { CheckoutOrder.created holdId hold session event total key reference now with
        items := [] ++ items.map fun e => e.1.orderItem e.2 } hold := by
  obtain ⟨-, hsum, hsubtotal, hnonneg, hcurrency⟩ := calculateCheckoutTotal_eq_ok htotal
  have hcopied : (items.map fun e => e.1.orderItem e.2).map
      (fun item => (item.inventoryId, item.priceMinor, item.currency))
        = hold.items.map fun item => (item.inventoryId, item.priceMinor, item.currency) := by
    rw [← hitems, List.map_map, List.map_map]
    rfl
  refine ⟨rfl, hcopied, hsum, hsubtotal, hnonneg, calculateCheckoutTotal_le htotal, ?_⟩
  intro item hitem
  obtain ⟨e, he, rfl⟩ := List.mem_map.mp hitem
  exact hcurrency e.1 (hitems ▸ List.mem_map_of_mem he)

/-- The order of the one hold with the call's token. -/
structure CheckoutCall.Finds (call : CheckoutCall) (orderId : OrderId) (order : CheckoutOrder)
    (db : Db) : Prop where
  hold : ∃ hold, db.holds.lookup order.sourceHoldId = some hold ∧
    hold.publicToken = call.input.holdToken
  unique : ∀ id hold, db.holds.lookup id = some hold → hold.publicToken = call.input.holdToken →
    id = order.sourceHoldId
  stored : db.orders.lookup orderId = some order

/-- The call's order, under its customer, its key and the reference it returned. -/
structure CheckoutCall.Placed (call : CheckoutCall) (result : CreateCheckoutResult)
    (order : CheckoutOrder) (db : Db) : Prop where
  finds : call.Finds result.orderId order db
  customer : order.userId = call.userId
  key : order.idempotencyKey = call.input.idempotencyKey
  reference : order.publicReference = result.publicReference

theorem Placing.keeps_finds {writes : List Write} {call : CheckoutCall} {orderId : OrderId}
    {order : CheckoutOrder} (h : Placing locks writes db) (hfinds : call.Finds orderId order db) :
    call.Finds orderId order (applyAll writes db) where
  hold := by rw [h.holds_eq]; exact hfinds.hold
  unique := by rw [h.holds_eq]; exact hfinds.unique
  stored := h.order_stays hfinds.stored

/-- What a call does when it commits: it has placed its order, on a hold without
one, or it has found it and changed nothing. -/
def CheckoutCall.Does (call : CheckoutCall) (result : CreateCheckoutResult) (db db' : Db) : Prop :=
  ∃ order, call.Placed result order db' ∧ (db' = db ∨ db.Unsold order.sourceHoldId)

/-- A replay writes nothing. -/
theorem placing_replay {locks : List (Lock RowKey IndexEntry)} (db : Db) :
    Placing locks [.settled] db where
  holds := by simp [Db.holdRows]
  inventory := by simp [Db.inventoryRows]
  settled := rfl
  orders id o h := by simp [Projection.overlay, Db.orderRows] at h
  once id o h := by simp [Projection.overlay, Db.orderRows] at h

/-- The writes of a new order, on a state in which its number is free, its hold is
locked and nothing has been placed for it. -/
theorem placing_placedWrites {fresh : FreshOrder} {order : CheckoutOrder}
    {items : List CheckoutOrderItem} {provider : PaymentProviderName} {now : Time} {hold : SeatHold}
    (habsent : db.orders.lookup fresh.orderId = none)
    (hlocked : .row (.hold order.sourceHoldId) ∈ locks) (hunsold : db.Unsold order.sourceHoldId)
    (hhold : db.holds.lookup order.sourceHoldId = some hold)
    (hsells : CheckoutOrder.Sells { order with items := order.items ++ items } hold) :
    Placing locks (placedWrites fresh order items provider now ++ [.settled]) db where
  holds := by simp [placedWrites, Db.holdRows]
  inventory := by simp [placedWrites, Db.inventoryRows]
  settled := deferred_settled _ _
  orders := by
    intro id o hover
    rw [overlay_placedWrites] at hover
    split at hover
    · rename_i hid
      cases hover
      exact ⟨hid ▸ habsent, hlocked, hold, hhold, hsells⟩
    · cases hover
  once := by
    intro id o hover id' o' hlook hsame
    rw [overlay_placedWrites] at hover
    split at hover
    · rename_i hid
      cases hover
      have hlook' : (Db.orderRows.get (applyAll (placedWrites fresh order items provider now ++
          [.settled]) db)).lookup id' = some o' := hlook
      rw [Projection.lookup_applyAll, overlay_placedWrites] at hlook'
      split at hlook'
      · rename_i hid'
        exact hid'.symm.trans hid
      · exact absurd hsame (hunsold id' o' hlook')
    · cases hover

/-- The hold with the call's token, the only one, is locked. -/
structure CheckoutCall.Locks (call : CheckoutCall) (holdId : HoldId) (hold : SeatHold)
    (locks : List (Lock RowKey IndexEntry)) (db : Db) : Prop where
  locked : .row (.hold holdId) ∈ locks
  found : db.holds.lookup holdId = some hold
  token : hold.publicToken = call.input.holdToken
  unique : ∀ id hold, db.holds.lookup id = some hold → hold.publicToken = call.input.holdToken →
    id = holdId

section Locks

variable {call : CheckoutCall} {holdId : HoldId} {hold : SeatHold} {db db' : Db}

/-- A search by the token that locks one row has locked the hold. -/
theorem CheckoutCall.locks_of_recheck {busy : RowKey → Bool} (hholds : db'.holds = db.holds)
    (hlocked : ∀ id hold, db.holds.lookup id = some hold →
      hold.publicToken = call.input.holdToken → .row (.hold id) ∈ locks)
    (hone : (Prisma.seatHold.recheck ⟨db, db', busy⟩ fun _ h =>
      h.publicToken == call.input.holdToken).length = 1)
    (hhead : (Prisma.seatHold.recheck ⟨db, db', busy⟩ fun _ h =>
      h.publicToken == call.input.holdToken).head? = some (holdId, hold)) :
    call.Locks holdId hold locks db' := by
  obtain ⟨e, he⟩ := List.length_eq_one_iff.mp hone
  have hmem := List.mem_of_mem_head? hhead
  obtain ⟨-, hfound, htoken⟩ := Entity.mem_recheck.mp hmem
  replace hfound : db'.holds.lookup holdId = some hold := hfound
  have htoken : hold.publicToken = call.input.holdToken := by simpa using htoken
  refine ⟨hlocked holdId hold (hholds ▸ hfound) htoken, hfound, htoken,
    fun id other hlook hother => ?_⟩
  have hmem' : (id, other) ∈ Prisma.seatHold.recheck ⟨db, db', busy⟩ fun _ h =>
      h.publicToken == call.input.holdToken := by
    refine Entity.mem_recheck.mpr ⟨⟨other, ?_, by simp [hother]⟩, hlook, by simp [hother]⟩
    rw [hholds] at hlook
    exact hlook
  rw [he, List.mem_singleton] at hmem hmem'
  exact congrArg Prod.fst (hmem'.trans hmem.symm)

theorem CheckoutCall.Locks.of_holds (h : call.Locks holdId hold locks db)
    (hholds : db'.holds = db.holds) {locks' : List (Lock RowKey IndexEntry)}
    (hlocks : ∀ l ∈ locks, l ∈ locks') : call.Locks holdId hold locks' db' where
  locked := hlocks _ h.locked
  found := by rw [hholds]; exact h.found
  token := h.token
  unique := by rw [hholds]; exact h.unique

/-- Who finds an order of the hold returns it, and changes nothing. -/
theorem CheckoutCall.Locks.replays (h : call.Locks holdId hold locks db) (hdb : CheckoutsExact db)
    {orderId : OrderId} {order : CheckoutOrder} (hstored : db.orders.lookup orderId = some order)
    (hsource : order.sourceHoldId = holdId) (hcustomer : order.userId = call.userId)
    (hkey : order.idempotencyKey = call.input.idempotencyKey) :
    checkouts.MayCommit call.Does
      { orderId := orderId, publicReference := order.publicReference, replayed := true } db
      [.settled] locks := by
  subst hsource
  have hplacing : Placing locks [.settled] db := placing_replay db
  have hfinds : call.Finds orderId order db := ⟨⟨hold, h.found, h.token⟩, h.unique, hstored⟩
  refine ⟨hplacing, order, ⟨hplacing.keeps_finds hfinds, hcustomer, hkey, rfl⟩, .inl ?_⟩
  exact congrArg (fun deferred => { db with deferred := deferred })
    (hdb.settled.symm : [] = db.deferred)

/-- Who finds none places one, and it is exact. -/
theorem CheckoutCall.Locks.places (h : call.Locks holdId hold locks db)
    (habsent : db.orders.lookup call.fresh.orderId = none) (hunsold : db.Unsold holdId)
    (hcustomer : hold.userId = call.userId) {session : EventSession} {event : Event}
    {total : CheckoutTotal} {items : List (SeatHoldItem × SessionSeatInventory)}
    (hitems : items.map Prod.fst = hold.items)
    (htotal : calculateCheckoutTotal hold.items = .ok total) :
    checkouts.MayCommit call.Does
      { orderId := call.fresh.orderId, publicReference := call.fresh.publicReference
        replayed := false } db
      (placedWrites call.fresh
        (.created holdId hold session event total call.input.idempotencyKey
          call.fresh.publicReference call.now) (items.map fun e => e.1.orderItem e.2) call.provider
        call.now ++ [.settled]) locks := by
  have hplacing : Placing locks (placedWrites call.fresh
      (.created holdId hold session event total call.input.idempotencyKey
        call.fresh.publicReference call.now) (items.map fun e => e.1.orderItem e.2) call.provider
      call.now ++ [.settled]) db :=
    placing_placedWrites habsent h.locked hunsold h.found (sells_created hitems htotal)
  refine ⟨hplacing, _, ⟨⟨⟨hold, ?_, h.token⟩, ?_, lookup_placedWrites db⟩, hcustomer, rfl, rfl⟩,
    .inr hunsold⟩
  · rw [hplacing.holds_eq]
    exact h.found
  · rw [hplacing.holds_eq]
    exact h.unique

end Locks

/-- **One call.** Under any interference by other checkouts, a call that commits
has placed its order, or found it. -/
theorem CheckoutCall.wp (call : CheckoutCall) (db : Db) :
    checkouts.Wp call.program db [] [] (checkouts.MayCommit call.Does) := by
  unfold CheckoutCall.program createCheckoutOrder
  refine wp_runInTransaction ?_
  refine Entity.wp_lockMany fun db₁ h₁ db₂ h₂ busy locks₂ _ hlocked => ?_
  refine wp_require fun hone => wp_orThrow ?_
  rintro ⟨holdId, found⟩ hhead
  have hlocks₂ : call.Locks holdId found locks₂ db₂ :=
    call.locks_of_recheck (holds_of_others h₂)
      (fun id hold hlook htoken => hlocked id hold hlook (by simp [htoken])) hone hhead
  refine Entity.wp_findOrThrow fun db₃ h₃ row hrow => ?_
  have hholds₃ : db₃.holds = db₂.holds := holds_of_others h₃
  replace hrow : db₃.holds.lookup holdId = some row := hrow
  have hsame : row = found := by
    rw [hholds₃, hlocks₂.found] at hrow
    exact (Option.some.inj hrow).symm
  subst hsame
  refine wp_require fun hcustomer => ?_
  refine Entity.wp_findMany fun db₄ h₄ => ?_
  have hholds₄ : db₄.holds = db₂.holds := (holds_of_others h₄).trans hholds₃
  have hread : Prisma.checkoutOrder.get (applyAll [] db₄) = db₄.orders := rfl
  rw [hread]
  cases hexisting : (db₄.orders.select fun _ o => o.sourceHoldId == holdId).head? with
  | some existing =>
      obtain ⟨orderId, order⟩ := existing
      obtain ⟨horder, hsource⟩ := Table.mem_select.mp (List.mem_of_mem_head? hexisting)
      refine wp_require fun hkey => ?_
      -- an order does not change, whoever commits before this call does
      intro db₅ h₅ _ _ db₆ h₆ hinv₆ _
      have hothers := h₅.trans h₆
      have hlocks₆ := hlocks₂.of_holds ((holds_of_others hothers).trans hholds₄) fun _ hl => hl
      exact hlocks₆.replays hinv₆
        (order_of_others hothers horder) (by simpa using hsource) hkey.1 hkey.2
  | none =>
      have hunsold : db₄.Unsold holdId := by
        intro id o hlook hsource
        have hmem' : (id, o) ∈ db₄.orders.select fun _ o => o.sourceHoldId == holdId :=
          Table.mem_select.mpr ⟨hlook, by simp [hsource]⟩
        rw [List.head?_eq_none_iff.mp hexisting] at hmem'
        cases hmem'
      refine wp_require fun _ => wp_require fun _ => wp_read fun db₅ h₅ => ?_
      refine Entity.wp_lockMany fun db₆ h₆ db₇ h₇ busy' locks₇ hlocks₇ _ => ?_
      refine wp_require fun hheld => ?_
      refine Entity.wp_findOrThrow fun db₈ h₈ session _ => ?_
      refine Entity.wp_findOrThrow fun db₉ h₉ event _ => ?_
      dsimp only
      split
      · trivial
      · trivial
      · rename_i total _ htotal
        -- the items' inventory has not changed since they were read
        have hinventory : db₇.inventory = db₅.inventory := inventory_of_others (h₆.trans h₇)
        have hitems : (row.items.filterMap fun item =>
            ((applyAll ([] : List Write) db₅).inventory.lookup item.inventoryId).map fun r =>
              (item, r)).map Prod.fst = row.items := by
          refine map_fst_holdItems (Entity.nodup_recheck _ _ _) (fun e he => ?_) hheld
          obtain ⟨-, hlook, hin⟩ := Entity.mem_recheck.mp he
          replace hlook : db₇.inventory.lookup e.1 = some e.2 := hlook
          exact ⟨hinventory ▸ hlook, by simpa using hin⟩
        have h₉₄ : checkouts.Others (Apart locks₂) db₄ db₉ :=
          h₅.trans <| h₆.trans <| h₇.trans <| (h₈.apart_mono hlocks₇).trans (h₉.apart_mono hlocks₇)
        refine wp_placeOrder fun db₁₀ h₁₀ habsent locks₁₀ hlocks₁₀ hrow₁₀ => ?_
        intro db₁₁ h₁₁ _ _ db₁₂ h₁₂ _ _
        have hend : checkouts.Others (Apart locks₁₀) db₁₀ db₁₂ := h₁₁.trans h₁₂
        have hall : checkouts.Others (Apart locks₂) db₄ db₁₂ :=
          h₉₄.trans <| (h₁₀.apart_mono hlocks₇).trans <|
            hend.apart_mono fun l hl => hlocks₁₀ l (hlocks₇ l hl)
        exact (hlocks₂.of_holds ((holds_of_others hall).trans hholds₄)
          fun l hl => hlocks₁₀ l (hlocks₇ l hl)).places
            ((hend.avoiding.lookup_eq (P := Db.orderRows) hrow₁₀).trans habsent)
            (unsold_of_others hall hlocks₂.locked hunsold) hcustomer hitems htotal

end Calls

/-! ## §4 Replays -/

section Replays

variable {db : Db} {call : CheckoutCall} {orderId : OrderId} {order : CheckoutOrder}

theorem CheckoutCall.Finds.select_orders (h : call.Finds orderId order db)
    (hdb : CheckoutsExact db) :
    (db.orders.select fun _ o => o.sourceHoldId == order.sourceHoldId) = [(orderId, order)] := by
  refine Table.select_eq_singleton h.stored (by simp) fun id o hlook hsource => ?_
  exact hdb.once id orderId o order hlook h.stored (by simpa using hsource)

/-- A call that finds the order of its hold returns it when the key and the
customer are the order's, and fails otherwise; either way it writes nothing. -/
theorem CheckoutCall.Finds.run (h : call.Finds orderId order db) (hdb : CheckoutsExact db) :
    (order.userId = call.userId → order.idempotencyKey = call.input.idempotencyKey →
      call.program.run db = .ok
        ({ orderId := orderId, publicReference := order.publicReference, replayed := true }, db)) ∧
    (¬(order.userId = call.userId ∧ order.idempotencyKey = call.input.idempotencyKey) →
      ∃ e, call.program.run db = .error e) := by
  obtain ⟨hold, hhold, htoken⟩ := h.hold
  have hselect : (db.holds.select fun _ h => h.publicToken == call.input.holdToken)
      = [(order.sourceHoldId, hold)] := by
    refine Table.select_eq_singleton hhold (by simp [htoken]) fun id hold' hlook htok => ?_
    exact h.unique id hold' hlook (by simpa using htok)
  have hcustomer : order.userId = hold.userId := by
    obtain ⟨hold', hhold', hsells⟩ := hdb.sells orderId order h.stored
    rw [hhold] at hhold'
    cases hhold'
    exact hsells.customer
  have hsettled : ({ db with deferred := [] } : Db) = db := by rw [← hdb.settled]
  constructor
  · intro huser hkey
    have hcommits : call.program.Commits db fun a db' =>
        a = { orderId := orderId, publicReference := order.publicReference, replayed := true } ∧
          db' = db := by
      refine commits_runInTransaction (commits_bind.mpr (Entity.commits_lockMany.mpr ?_))
      rw [show Prisma.seatHold.get db = db.holds from rfl, hselect]
      refine commits_bind.mpr (commits_require.mpr ⟨rfl, commits_bind.mpr ?_⟩)
      refine commits_orThrow.mpr ⟨_, rfl, commits_bind.mpr ?_⟩
      refine Entity.commits_findOrThrow.mpr ⟨hold, hhold, commits_bind.mpr ?_⟩
      refine commits_require.mpr ⟨hcustomer.symm.trans huser, commits_bind.mpr ?_⟩
      refine Entity.commits_findMany.mpr ?_
      rw [show Prisma.checkoutOrder.get db = db.orders from rfl, h.select_orders hdb]
      refine commits_bind.mpr (commits_require.mpr ⟨⟨huser, hkey⟩, commits_pure.mpr ⟨?_, rfl, ?_⟩⟩)
      · rw [hdb.settled]
        rfl
      · exact hsettled
    obtain ⟨a, db', hrun, rfl, rfl⟩ := hcommits
    exact hrun
  · intro hother
    have hensures : call.program.Ensures db fun _ _ => False := by
      refine ensures_runInTransaction (ensures_bind.mpr (Entity.ensures_lockMany.mpr ?_))
      rw [show Prisma.seatHold.get db = db.holds from rfl, hselect]
      refine ensures_bind.mpr (ensures_require.mpr fun _ => ensures_bind.mpr ?_)
      refine ensures_orThrow.mpr fun e he => ?_
      cases he
      refine ensures_bind.mpr (Entity.ensures_findOrThrow.mpr fun row _ => ensures_bind.mpr ?_)
      refine ensures_require.mpr fun _ => ensures_bind.mpr (Entity.ensures_findMany.mpr ?_)
      rw [show Prisma.checkoutOrder.get db = db.orders from rfl, h.select_orders hdb]
      exact ensures_bind.mpr (ensures_require.mpr fun hkey => absurd hkey hother)
    cases hrun : call.program.run db with
    | error e => exact ⟨e, rfl⟩
    | ok result => exact (hensures result.1 result.2 hrun).elim

end Replays

/-! ## §5 Any number of calls -/

section System

variable {ι : Type} [Fintype ι] [DecidableEq ι]

theorem CheckoutCall.obeys (call : CheckoutCall) : checkouts.Obeys call.transaction call.Does where
  readCommitted _ db _ := call.wp db
  serializable h := by cases h
  rescue _ _ _ := trivial

theorem checkouts_sound (calls : ι → CheckoutCall) {db : Db} (hdb : CheckoutsExact db)
    {sys : System ι Db RowKey Write IndexEntry Failure CreateCheckoutResult}
    (hreach : Reaches System.step (fun _ _ => True)
      (System.start db fun i => (calls i).transaction) sys) :
    checkouts.Sound (fun i => (calls i).Does) sys :=
  sound_of_reaches (D := checkouts) hdb (fun i => (calls i).obeys) hreach

/-- Every call that has committed has its order. -/
theorem placed_of_returned (calls : ι → CheckoutCall) {db : Db} (hdb : CheckoutsExact db)
    {sys : System ι Db RowKey Write IndexEntry Failure CreateCheckoutResult}
    (hreach : Reaches System.step (fun _ _ => True)
      (System.start db fun i => (calls i).transaction) sys) {i : ι} {result : CreateCheckoutResult}
    (hreturned : sys.Returned i result) :
    ∃ order, (calls i).Placed result order sys.committed := by
  refine returned_of_reaches (D := checkouts) (T := fun i => (calls i).Does)
    (R := fun i result db => ∃ order, (calls i).Placed result order db) hdb
    (fun i => (calls i).obeys) ?_ ?_ hreach i result hreturned
  · rintro i result db db' ⟨order, hplaced, -⟩
    exact ⟨order, hplaced⟩
  · rintro i result locks writes db - hpermits ⟨order, hplaced⟩
    exact ⟨order, { hplaced with finds := hpermits.keeps_finds hplaced.finds }⟩

/-- **Checkouts are exact, and unique for each hold.** However any number of calls
interleave, no hold has two orders, and every order sells exactly its hold. A
call commits with the one order of its hold, placed under its own key; only a
call whose hold had no order changes anything. A further call with the customer
and the key of the order returns it, any other fails; neither writes. -/
theorem createCheckoutOrder_exact_and_unique (calls : ι → CheckoutCall) {db : Db}
    (hdb : CheckoutsExact db)
    {sys : System ι Db RowKey Write IndexEntry Failure CreateCheckoutResult}
    (hreach : Reaches System.step (fun _ _ => True)
      (System.start db fun i => (calls i).transaction) sys) :
    CheckoutsExact sys.committed ∧
    (∀ i result, sys.Returned i result →
      ∃ order, (calls i).Placed result order sys.committed) ∧
    (∀ i j result result', sys.Returned i result → sys.Returned j result' →
      (calls i).input.holdToken = (calls j).input.holdToken →
        (calls i).input.idempotencyKey = (calls j).input.idempotencyKey ∧
          result.orderId = result'.orderId ∧ result.publicReference = result'.publicReference) ∧
    (∀ m sys', sys.step m = some sys' → sys'.committed ≠ sys.committed →
      ∃ i result order, m = .commit i ∧ (calls i).Placed result order sys'.committed ∧
        sys.committed.Unsold order.sourceHoldId) ∧
    ∀ (call : CheckoutCall) orderId order, call.Finds orderId order sys.committed →
      (order.userId = call.userId → order.idempotencyKey = call.input.idempotencyKey →
        call.program.run sys.committed = .ok
          ({ orderId := orderId, publicReference := order.publicReference, replayed := true },
            sys.committed)) ∧
      (¬(order.userId = call.userId ∧ order.idempotencyKey = call.input.idempotencyKey) →
        ∃ e, call.program.run sys.committed = .error e) := by
  have hsound := checkouts_sound calls hdb hreach
  have hplaced : ∀ i result, sys.Returned i result →
      ∃ order, (calls i).Placed result order sys.committed :=
    fun _ _ hreturned => placed_of_returned calls hdb hreach hreturned
  refine ⟨hsound.inv, hplaced, ?_, ?_, fun call orderId order hfinds => hfinds.run hsound.inv⟩
  · intro i j result result' hi hj htoken
    obtain ⟨order, h⟩ := hplaced i result hi
    obtain ⟨order', h'⟩ := hplaced j result' hj
    obtain ⟨hold, hhold, htok⟩ := h.finds.hold
    have hsame : order.sourceHoldId = order'.sourceHoldId :=
      h'.finds.unique _ hold hhold (htok.trans htoken)
    have hid : result.orderId = result'.orderId :=
      hsound.inv.once _ _ _ _ h.finds.stored h'.finds.stored hsame
    have horder : order = order' := by
      have hstored := h.finds.stored
      rw [hid, h'.finds.stored] at hstored
      exact (Option.some.inj hstored).symm
    subst horder
    exact ⟨h.key.symm.trans h'.key, hid, h.reference.symm.trans h'.reference⟩
  · intro m sys' hstep hchanged
    rcases hsound.committed_step hstep with hsame | ⟨i, result, rfl, -, order, hplaced, hcases⟩
    · exact absurd hsame hchanged
    · rcases hcases with hsame | hunsold
      · exact absurd hsame hchanged
      · exact ⟨i, result, order, rfl, hplaced, hunsold⟩

/-! ### Two calls for one hold -/

/-- User 1 holds both seats of the open session under the token 5. -/
def heldSeats : Db :=
  (acquireInTransaction 1 (holdRequest [1, 2] 1) holdConfiguration
    { holdId := 1, publicToken := 5, createdAt := 10 } 10).commit openSession

theorem heldSeats_exact : CheckoutsExact heldSeats where
  settled := by decide +kernel
  once := by
    intro id id' o o' hid
    have hnone := Table.forall_lookup (t := heldSeats.orders) (p := fun _ _ => False)
      (by decide +kernel)
    exact (hnone id o hid).elim
  sells := by
    intro id o hid
    have hnone := Table.forall_lookup (t := heldSeats.orders) (p := fun _ _ => False)
      (by decide +kernel)
    exact (hnone id o hid).elim

/-- Two calls with one request. -/
def sameRequest (i : Fin 2) : CheckoutCall :=
  { userId := 1
    input := { holdToken := 5, idempotencyKey := 8 }
    provider := .STRIPE
    fresh :=
      { orderId := 1 + i, publicReference := 1 + i, attemptId := 1 + i
        providerIdempotencyKey := 1 + i }
    now := 20 }

/-- The second call waits for the hold until the first has committed. -/
def checkoutSchedule : List (Move (Fin 2) Failure) :=
  [.begin firstSession, .begin secondSession] ++ [.finish firstSession] ++
    (List.replicate 13 [Move.begin firstSession, Move.finish firstSession]).flatten ++
    [.commit firstSession] ++
    (List.replicate 4 [Move.finish secondSession, Move.begin secondSession]).flatten ++
    [.commit secondSession]

theorem createCheckoutOrder_exact_and_unique_sameRequest :
    ∃ sys result result', Reaches System.step (fun _ _ => True)
        (System.start heldSeats fun i => (sameRequest i).transaction) sys ∧
      sys.Returned 0 result ∧ sys.Returned 1 result' ∧
      result.replayed = false ∧ result'.replayed = true ∧ result.orderId = result'.orderId ∧
      CheckoutsExact sys.committed := by
  have hrun : (execute System.step checkoutSchedule
      (System.start heldSeats fun i => (sameRequest i).transaction)).any
      (fun sys => (sys.sessions 0).result.any (fun result => !result.replayed) &&
        (sys.sessions 1).result.any fun result => result.replayed) = true := by
    decide +kernel
  obtain ⟨sys, hsys, hcheck⟩ := (Option.any_eq_true _ _).mp hrun
  rw [Bool.and_eq_true] at hcheck
  obtain ⟨result, hresult, hnew⟩ := (Option.any_eq_true _ _).mp hcheck.1
  obtain ⟨result', hresult', hreplayed⟩ := (Option.any_eq_true _ _).mp hcheck.2
  have hreach : Reaches System.step (fun _ _ => True)
      (System.start heldSeats fun i => (sameRequest i).transaction) sys :=
    reaches_of_execute hsys fun _ _ _ => trivial
  obtain ⟨hexact, -, hsame, -⟩ :=
    createCheckoutOrder_exact_and_unique sameRequest heldSeats_exact hreach
  have hzero := System.returned_of_result hresult
  have hone := System.returned_of_result hresult'
  exact ⟨sys, result, result', hreach, hzero, hone, by simpa using hnew, hreplayed,
    (hsame 0 1 result result' hzero hone rfl).2.1, hexact⟩

end System

end SeatFlow
