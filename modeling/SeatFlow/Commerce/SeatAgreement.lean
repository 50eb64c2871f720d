import SeatFlow.Commerce.SalesTransactions
import SeatFlow.Relational.Runs

/-!
# Inventory and holds agree

A seat is held by a hold exactly when the hold is active and has an item for it. The two
sides are different tables, written by different statements; a unit of work writes both,
and keeps them in agreement.
-/

namespace SeatFlow

open Relational

/-- Only a held row points at a hold. -/
theorem SessionSeatInventory.held_of_pointing {row : SessionSeatInventory} {h : HoldId}
    (hcheck : row.stateCheck = true) (hrow : row.currentHoldId = some h) : row.state = .HELD := by
  cases hstate : row.state <;> simp [stateCheck, hstate, hrow] at hcheck ⊢

/-- A row that is not held has no hold. -/
theorem SessionSeatInventory.free_of_not_held {row : SessionSeatInventory}
    (hcheck : row.stateCheck = true) (hstate : row.state ≠ .HELD) :
    row.currentHoldId = none ∧ row.holdExpiresAt = none := by
  cases hs : row.state <;> simp_all [stateCheck]

/-- Distinct items that are among the others', as many as they are, are the others'. -/
theorem mem_of_length_eq {κ : Type} {l l' : List κ} (hdistinct : l.Nodup) (hsub : l ⊆ l')
    (hlength : l.length = l'.length) {k : κ} (hk : k ∈ l') : k ∈ l :=
  ((List.subperm_of_subset hdistinct hsub).perm_of_length_le hlength.ge).mem_iff.mpr hk

namespace Sales

/-- Holds and inventory agree. -/
structure SeatsAgree (s : Sales) : Prop where
  inventory : s.inventory.Coherent (fun row => row.stateCheck = true) SessionSeatInventory.Apart
  holds : s.holds.Coherent (fun hold => (hold.items.map (·.inventoryId)).Nodup) SeatHold.Apart
  pointing : ∀ id row h, s.inventory.lookup id = some row → row.currentHoldId = some h →
    ∃ hold, s.holds.lookup h = some hold ∧ hold.status = .ACTIVE ∧
      id ∈ hold.items.map (·.inventoryId) ∧ row.holdExpiresAt = some hold.expiresAt
  items : ∀ h hold, s.holds.lookup h = some hold → hold.status = .ACTIVE →
    ∀ id ∈ hold.items.map (·.inventoryId), ∃ row, s.inventory.lookup id = some row ∧
      row.currentHoldId = some h
  ordered : ∀ id o, s.orders.lookup id = some o → (o.items.map (·.inventoryId)).Nodup

variable {s s' : Sales}

/-! ## §1 Steps that leave both sides alone -/

theorem SeatsAgree.of_orders (hs : s.SeatsAgree) (hinventory : s'.inventory = s.inventory)
    (hholds : s'.holds = s.holds)
    (hordered : ∀ id o, s'.orders.lookup id = some o → (o.items.map (·.inventoryId)).Nodup) :
    s'.SeatsAgree where
  inventory := hinventory ▸ hs.inventory
  holds := hholds ▸ hs.holds
  pointing := by
    rw [hinventory, hholds]
    exact hs.pointing
  items := by
    rw [hinventory, hholds]
    exact hs.items
  ordered := hordered

/-- An order rewritten with the same items. -/
theorem SeatsAgree.ordered_insert (hs : s.SeatsAgree) {id : OrderId} {o o' : CheckoutOrder}
    (hlook : s.orders.lookup id = some o) (hitems : o'.items = o.items) (k : OrderId)
    (ok : CheckoutOrder) (hk : (s.orders.insert id o').lookup k = some ok) :
    (ok.items.map (·.inventoryId)).Nodup := by
  rcases Table.wrote_insert.cases hk with ⟨-, rfl⟩ | ⟨-, hold⟩
  · rw [hitems]
    exact hs.ordered id o hlook
  · exact hs.ordered k ok hold

/-! ## §2 Holds end -/

theorem EndsHolds.seatsAgree {f : SeatHold → SeatHold} {ids : List HoldId}
    (h : EndsHolds f ids s s') (hs : s.SeatsAgree) : s'.SeatsAgree where
  inventory := by
    refine hs.inventory.mapped sessionSeatInventoryConstraints.symm h.inventory ?_ ?_
    · intro id row hrow
      split
      · rfl
      · exact hs.inventory.row id row hrow
    · intro id row other _ hapart
      split
      · exact hapart
      · exact hapart
  holds := by
    refine hs.holds.mapped seatHoldConstraints.symm h.holds ?_ ?_
    · intro id hold hhold
      split
      · rw [h.ends.items]
        exact hs.holds.row id hold hhold
      · exact hs.holds.row id hold hhold
    · intro id hold other _ hapart
      split
      · -- the identity stays, and the hold is no longer active
        obtain ⟨hsession, huser, htoken, hkey, -⟩ := h.ends.identity hold
        refine ⟨?_, ?_, fun hboth => h.ends.not_active hold hboth.1⟩
        · rw [htoken]
          exact hapart.token
        · rw [hsession, huser, hkey]
          exact hapart.key
      · exact hapart
  pointing := by
    intro id row' k hrow' hk
    obtain ⟨row, hrow, rfl⟩ := h.inventory.cases hrow'
    by_cases hids : ∃ id ∈ ids, row.currentHoldId = some id
    · rw [if_pos hids] at hk
      cases hk
    · rw [if_neg hids] at hk ⊢
      obtain ⟨hold, hhold, hrest⟩ := hs.pointing id row k hrow hk
      -- the row still points at its hold, so that hold has not ended
      have hk' : k ∉ ids := fun hmem => hids ⟨k, hmem, hk⟩
      have hhold' := h.holds.lookup hhold
      rw [if_neg hk'] at hhold'
      exact ⟨hold, hhold', hrest⟩
  items := by
    intro k hold' hhold' hactive id hid
    obtain ⟨hold, hhold, rfl⟩ := h.holds.cases hhold'
    by_cases hk : k ∈ ids
    · rw [if_pos hk] at hactive
      exact absurd hactive (h.ends.not_active hold)
    · rw [if_neg hk] at hactive hid
      obtain ⟨row, hrow, hpoints⟩ := hs.items k hold hhold hactive id hid
      have hrow' := h.inventory.lookup hrow
      have hother : ¬∃ id ∈ ids, row.currentHoldId = some id := by
        rintro ⟨k', hmem, hk'⟩
        cases hpoints.symm.trans hk'
        exact hk hmem
      rw [if_neg hother] at hrow'
      exact ⟨row, hrow', hpoints⟩
  ordered := by
    rw [h.rest]
    exact hs.ordered

/-! ## §3 A hold takes its seats -/

theorem map_holdItem (locked : List (InventoryId × SessionSeatInventory)) :
    (locked.map fun e => e.2.holdItem e.1).map (·.inventoryId) = locked.map Prod.fst := by
  rw [List.map_map]
  rfl

theorem Acquires.seatsAgree {holdId : HoldId} {hold : SeatHold}
    {locked : List (InventoryId × SessionSeatInventory)} (h : Acquires holdId hold locked s s')
    (hs : s.SeatsAgree) : s'.SeatsAgree := by
  have hitems : hold.items.map (·.inventoryId) = locked.map Prod.fst := by
    rw [h.items, map_holdItem]
  constructor
  case inventory =>
    refine hs.inventory.mapped sessionSeatInventoryConstraints.symm h.inventory ?_ ?_
    · intro id row hrow
      split
      · rfl
      · exact hs.inventory.row id row hrow
    · intro id row other _ hapart
      split
      · exact hapart
      · exact hapart
  case holds =>
    refine hs.holds.wrote seatHoldConstraints.symm h.holds ?_ fun k other hother _ =>
      h.apart k other hother
    rw [hitems]
    exact h.distinct
  case pointing =>
    intro id row' k hrow' hk
    obtain ⟨row, hrow, rfl⟩ := h.inventory.cases hrow'
    by_cases hid : id ∈ locked.map Prod.fst
    · rw [if_pos hid] at hk ⊢
      cases hk
      exact ⟨hold, h.holds.lookup_self, h.active, hitems ▸ hid, rfl⟩
    · rw [if_neg hid] at hk ⊢
      obtain ⟨hold', hhold', hrest⟩ := hs.pointing id row k hrow hk
      exact ⟨hold', h.holds.keeps h.absent hhold', hrest⟩
  case items =>
    intro k hold' hhold' hactive id hid
    rcases h.holds.cases hhold' with ⟨rfl, rfl⟩ | ⟨hne, hhold⟩
    · rw [hitems] at hid
      obtain ⟨⟨_, row⟩, hmem, rfl⟩ := List.mem_map.mp hid
      have hrow' := h.inventory.lookup (h.free _ hmem).1
      rw [if_pos hid] at hrow'
      exact ⟨_, hrow', rfl⟩
    · obtain ⟨row, hrow, hpoints⟩ := hs.items k hold' hhold hactive id hid
      have hrow' := h.inventory.lookup hrow
      -- a row of another hold is held, and the rows taken were free
      have hid' : id ∉ locked.map Prod.fst := by
        intro hmem
        obtain ⟨⟨_, taken⟩, htaken, rfl⟩ := List.mem_map.mp hmem
        obtain ⟨hlook, havailable⟩ := h.free _ htaken
        have hfree : row.state = .AVAILABLE :=
          Option.some.inj (hlook.symm.trans hrow) ▸ havailable
        cases hfree.symm.trans
          (SessionSeatInventory.held_of_pointing (hs.inventory.row _ row hrow) hpoints)
      rw [if_neg hid'] at hrow'
      exact ⟨row, hrow', hpoints⟩
  case ordered =>
    rw [h.rest]
    exact hs.ordered

/-! ## §4 A hold is converted -/

variable {attemptId : AttemptId} {a : PaymentAttempt} {order : CheckoutOrder} {hold : SeatHold}
  {fresh : FreshBooking} {now : Time}

/-- All that the hold holds is among the order's items. -/
theorem Fulfils.covers (h : Fulfils attemptId a order hold fresh now s s') (hs : s.SeatsAgree)
    {id : InventoryId} (hid : id ∈ hold.items.map (·.inventoryId)) :
    id ∈ order.items.map (·.inventoryId) := by
  refine mem_of_length_eq (hs.ordered _ order h.ordered) ?_ ?_ hid
  · intro id hid
    obtain ⟨item, hitem, rfl⟩ := List.mem_map.mp hid
    exact h.held item hitem
  · rw [List.length_map, List.length_map, h.length]

theorem Fulfils.seatsAgree (h : Fulfils attemptId a order hold fresh now s s') (hs : s.SeatsAgree) :
    s'.SeatsAgree := by
  have hholds : s'.holds = s.holds.insert order.sourceHoldId (hold.converted now) := by
    rw [h.rest]
  have horders : s'.orders = s.orders.insert a.orderId (order.fulfilled now) := by
    rw [h.rest]
  have hconverted : (hold.converted now).status ≠ .ACTIVE := by
    simp [SeatHold.converted]
  constructor
  case inventory =>
    refine hs.inventory.mapped sessionSeatInventoryConstraints.symm h.inventory ?_ ?_
    · intro id row hrow
      split
      · rfl
      · exact hs.inventory.row id row hrow
    · intro id row other _ hapart
      split
      · exact hapart
      · exact hapart
  case holds =>
    rw [hholds]
    refine hs.holds.insert seatHoldConstraints.symm (hs.holds.row _ hold h.source) ?_
    intro k other hother hne
    have hapart := hs.holds.apart k other _ hold hother h.source hne
    exact ⟨hapart.token, hapart.key, fun hboth => hconverted hboth.2.1⟩
  case pointing =>
    intro id row' k hrow' hk
    obtain ⟨row, hrow, rfl⟩ := h.inventory.cases hrow'
    by_cases hbooked : id ∈ order.items.map (·.inventoryId) ∧ row.state = .HELD ∧
        row.currentHoldId = some order.sourceHoldId
    · rw [if_pos hbooked] at hk
      cases hk
    · rw [if_neg hbooked] at hk ⊢
      obtain ⟨hold', hhold', hactive, hid, hexpires⟩ := hs.pointing id row k hrow hk
      -- a row of the converted hold is one of the order's, so it was booked
      have hne : k ≠ order.sourceHoldId := by
        rintro rfl
        cases Option.some.inj (h.source.symm.trans hhold')
        exact hbooked ⟨h.covers hs hid,
          SessionSeatInventory.held_of_pointing (hs.inventory.row id row hrow) hk, hk⟩
      refine ⟨hold', ?_, hactive, hid, hexpires⟩
      rw [hholds, AList.lookup_insert_ne hne, hhold']
  case items =>
    intro k hold' hhold' hactive id hid
    rw [hholds] at hhold'
    rcases Table.wrote_insert.cases hhold' with ⟨rfl, rfl⟩ | ⟨hne, hhold⟩
    · exact absurd hactive hconverted
    · obtain ⟨row, hrow, hpoints⟩ := hs.items k hold' hhold hactive id hid
      have hrow' := h.inventory.lookup hrow
      rw [if_neg fun hbooked => hne (Option.some.inj (hpoints.symm.trans hbooked.2.2))] at hrow'
      exact ⟨row, hrow', hpoints⟩
  case ordered =>
    rw [horders]
    exact hs.ordered_insert h.ordered rfl

/-! ## §5 Any step -/

/-- **A step keeps holds and inventory in agreement.** -/
theorem Step.seatsAgree (h : Step s s') (hs : s.SeatsAgree) : s'.SeatsAgree := by
  cases h with
  | ended h => exact h.seatsAgree hs
  | acquired h => exact h.seatsAgree hs
  | fulfilled h => exact h.seatsAgree hs
  | placed h =>
      refine hs.of_orders (by rw [h.rest]) (by rw [h.rest]) fun id o ho => ?_
      rcases h.orders.cases ho with ⟨-, rfl⟩ | ⟨-, hold⟩
      · exact h.distinct
      · exact hs.ordered id o hold
  | attached h =>
      refine hs.of_orders (by rw [h.rest]) (by rw [h.rest]) fun id o ho => ?_
      rw [h.orders] at ho
      split at ho
      · exact hs.ordered_insert h.ordered (by rfl) id o ho
      · exact hs.ordered id o ho
  | expiredOrders h =>
      refine hs.of_orders (by rw [h.rest]) (by rw [h.rest]) fun id o ho => ?_
      obtain ⟨old, hold, rfl⟩ := h.orders.cases ho
      split
      · exact hs.ordered id old hold
      · exact hs.ordered id old hold
  | reviewed h =>
      refine hs.of_orders (by rw [h.rest]) (by rw [h.rest]) fun id o ho => ?_
      rw [h.rest] at ho
      exact hs.ordered_insert h.ordered (by rfl) id o ho
  | capturedUnfulfilled h =>
      refine hs.of_orders (by rw [h.rest]) (by rw [h.rest]) fun id o ho => ?_
      rw [h.rest] at ho
      exact hs.ordered_insert h.ordered (by rfl) id o ho
  | failed h =>
      refine hs.of_orders (by rw [h.rest]) (by rw [h.rest]) fun id o ho => ?_
      rw [h.rest] at ho
      dsimp only at ho
      split at ho
      · exact hs.ordered_insert h.ordered (by rfl) id o ho
      · exact hs.ordered id o ho
  | awaits h =>
      refine hs.of_orders (by rw [h.rest]) (by rw [h.rest]) fun id o ho => ?_
      rw [h.rest] at ho
      exact hs.ordered id o ho

/-- **A run of steps keeps them in agreement.** -/
theorem SeatsAgree.steps (hs : s.SeatsAgree) (h : Relation.ReflTransGen Step s s') :
    s'.SeatsAgree := by
  induction h with
  | refl => exact hs
  | tail _ hlast ih => exact hlast.seatsAgree ih

end Sales

/-! ## §6 The database -/

/-- Everything that sells seats or frees them: the commerce transactions, the cancellation
of an event, and the two ways of ending a session's holds, each in a transaction of its
own. -/
inductive CommerceAction
  | transaction (t : CommerceTransaction)
  | cancelEvent (eventId : EventId) (organizationId : OrganizationId) (cancelledAt : Time)
  | releaseExpiredHoldsForSession (sessionId : SessionId) (now : Time)
  | releaseActiveHoldsForSession (sessionId : SessionId) (now : Time)

namespace Commerce

def commit (db : Db) : CommerceAction → Db
  | .transaction t => t.commit db
  | .cancelEvent eventId organizationId cancelledAt =>
      (cancelEventInTransaction eventId organizationId cancelledAt).commit db
  | .releaseExpiredHoldsForSession sessionId now =>
      (runInTransaction (SeatFlow.releaseExpiredHoldsForSession sessionId now)).commit db
  | .releaseActiveHoldsForSession sessionId now =>
      (runInTransaction (SeatFlow.releaseActiveHoldsForSession sessionId now)).commit db

/-- Every action is possible at any time; one that fails changes nothing. -/
def step (db : Db) (a : CommerceAction) : Option Db :=
  some (commit db a)

theorem sells_commit (db : Db) (a : CommerceAction) : db.Sells (commit db a) := by
  have hcommit : ∀ {α : Type} {p : Sql α}, Selling p → db.Sells (p.commit db) :=
    fun hp => Program.Ensures.commit (hp db) (.of_eq rfl)
  cases a with
  | transaction t => exact t.sells db
  | cancelEvent => exact hcommit (selling_cancelEventInTransaction _ _ _)
  | releaseExpiredHoldsForSession =>
      exact hcommit (selling_releaseExpiredHoldsForSession _ _).runInTransaction
  | releaseActiveHoldsForSession =>
      exact hcommit (selling_releaseActiveHoldsForSession _ _).runInTransaction

/-- A run of the database is a run of the sales machine. -/
theorem sells_of_reaches {ok : Db → CommerceAction → Prop} {db db' : Db}
    (h : Reaches step ok db db') : db.Sells db' := by
  refine h.invariant (I := fun t => db.Sells t) (.of_eq rfl) fun s a s' _ hstep hs => ?_
  cases hstep
  exact hs.trans (sells_commit s a)

end Commerce

/-- A database before anything was sold: sessions may have their seats, all of them free, and
no two rows are of one seat. -/
structure Db.BeforeSales (db : Db) : Prop where
  inventory : db.inventory.Coherent (fun row => row.state = .AVAILABLE ∧ row.stateCheck = true)
    SessionSeatInventory.Apart
  holds : ∀ id, db.holds.lookup id = none
  orders : ∀ id, db.orders.lookup id = none
  attempts : ∀ id, db.attempts.lookup id = none
  bookings : ∀ id, db.bookings.lookup id = none

theorem Db.BeforeSales.seatsAgree {db : Db} (h : db.BeforeSales) : db.sales.SeatsAgree where
  inventory := ⟨fun id row hrow => (h.inventory.row id row hrow).2, h.inventory.apart⟩
  holds :=
    ⟨fun id hold hhold => (by cases (h.holds id).symm.trans hhold),
      fun id hold _ _ hhold => (by cases (h.holds id).symm.trans hhold)⟩
  pointing := by
    intro id row k hrow hk
    obtain ⟨havailable, hcheck⟩ := h.inventory.row id row hrow
    cases havailable.symm.trans (SessionSeatInventory.held_of_pointing hcheck hk)
  items := fun id hold hhold => (by cases (h.holds id).symm.trans hhold)
  ordered := fun id o ho => (by cases (h.orders id).symm.trans ho)

/-- An active hold has an item for an inventory row. -/
def Db.HeldBy (db : Db) (id : InventoryId) (h : HoldId) : Prop :=
  ∃ hold, db.holds.lookup h = some hold ∧ hold.status = .ACTIVE ∧
    ∃ item ∈ hold.items, item.inventoryId = id

/-- Inventory and hold state agree. -/
structure Db.SeatAgreement (db : Db) : Prop where
  held_iff : ∀ id row h, db.inventory.lookup id = some row →
    ((row.state = .HELD ∧ row.currentHoldId = some h) ↔ db.HeldBy id h)
  expiry : ∀ id row h hold, db.inventory.lookup id = some row → row.currentHoldId = some h →
    db.holds.lookup h = some hold → row.holdExpiresAt = some hold.expiresAt
  item_held : ∀ h hold, db.holds.lookup h = some hold → hold.status = .ACTIVE →
    ∀ item ∈ hold.items, ∃ row, db.inventory.lookup item.inventoryId = some row ∧
      row.state = .HELD ∧ row.currentHoldId = some h
  free : ∀ id row, db.inventory.lookup id = some row → row.state ≠ .HELD →
    row.currentHoldId = none ∧ row.holdExpiresAt = none
  seat : ∀ id id' row row' h h', db.inventory.lookup id = some row →
    db.inventory.lookup id' = some row' → row.sessionId = row'.sessionId →
    row.seatId = row'.seatId → db.HeldBy id h → db.HeldBy id' h' → h = h'
  customer : ∀ h h' hold hold', db.holds.lookup h = some hold → db.holds.lookup h' = some hold' →
    hold.status = .ACTIVE → hold'.status = .ACTIVE → hold.userId = hold'.userId →
    hold.sessionId = hold'.sessionId → h = h'

theorem Sales.SeatsAgree.agreement {db : Db} (hs : db.sales.SeatsAgree) : db.SeatAgreement := by
  have hheld : ∀ id row h, db.inventory.lookup id = some row → db.HeldBy id h →
      row.state = .HELD ∧ row.currentHoldId = some h := by
    rintro id row h hrow ⟨hold, hhold, hactive, item, hitem, rfl⟩
    obtain ⟨row', hrow', hpoints⟩ := hs.items h hold hhold hactive _ (List.mem_map_of_mem hitem)
    cases Option.some.inj (hrow.symm.trans hrow')
    exact ⟨SessionSeatInventory.held_of_pointing (hs.inventory.row _ row hrow) hpoints, hpoints⟩
  constructor
  case held_iff =>
    intro id row h hrow
    refine ⟨fun hboth => ?_, hheld id row h hrow⟩
    obtain ⟨hold, hhold, hactive, hid, -⟩ := hs.pointing id row h hrow hboth.2
    exact ⟨hold, hhold, hactive, List.mem_map.mp hid⟩
  case expiry =>
    intro id row h hold hrow hpoints hhold
    obtain ⟨hold', hhold', -, -, hexpires⟩ := hs.pointing id row h hrow hpoints
    cases Option.some.inj (hhold.symm.trans hhold')
    exact hexpires
  case item_held =>
    intro h hold hhold hactive item hitem
    obtain ⟨row, hrow, -⟩ := hs.items h hold hhold hactive _ (List.mem_map_of_mem hitem)
    exact ⟨row, hrow, hheld _ row h hrow ⟨hold, hhold, hactive, item, hitem, rfl⟩⟩
  case free =>
    exact fun id row hrow => SessionSeatInventory.free_of_not_held (hs.inventory.row id row hrow)
  case seat =>
    intro id id' row row' h h' hrow hrow' hsession hseat hby hby'
    -- the unique index: it is one row, and a row points at one hold
    have hid : id = id' := by
      by_contra hne
      exact hs.inventory.apart id row id' row' hrow hrow' hne ⟨hsession, hseat⟩
    subst hid
    cases Option.some.inj (hrow.symm.trans hrow')
    exact Option.some.inj ((hheld id row h hrow hby).2.symm.trans (hheld id row h' hrow hby').2)
  case customer =>
    intro h h' hold hold' hhold hhold' hactive hactive' huser hsession
    by_contra hne
    have hapart := hs.holds.apart h hold h' hold' hhold hhold' hne
    exact hapart.active ⟨hactive, hactive', huser, hsession⟩

namespace Commerce

/-- **Inventory and holds agree** after any run, whatever its actions and their times. -/
theorem seats_agree {db db' : Db} (hstart : db.BeforeSales)
    (hrun : Reaches step (fun _ _ => True) db db') : db'.SeatAgreement :=
  (hstart.seatsAgree.steps (sells_of_reaches hrun)).agreement

end Commerce

theorem openSession_beforeSales : openSession.BeforeSales where
  inventory := by
    refine (Table.coherent_singleton ⟨rfl, rfl⟩).insert sessionSeatInventoryConstraints.symm
      ⟨rfl, rfl⟩ fun k row hlook _ => ?_
    have hfirst := Table.forall_lookup (t := AList.singleton 1 _)
      (p := fun _ (row : SessionSeatInventory) => row.seatId = 1) (by simp [Table.rows]) k row hlook
    exact fun hsame => by simp [hfirst] at hsame
  holds := fun _ => rfl
  orders := fun _ => rfl
  attempts := fun _ => rfl
  bookings := fun _ => rfl

/-- User 1 takes both seats, and again after the first hold has expired. -/
theorem Commerce.seats_agree_reacquired :
    ∃ db' : Db, (db'.inventory.lookup 1).any (fun row =>
        row.state == .HELD && row.currentHoldId == some 8) = true ∧ db'.SeatAgreement := by
  have hrun : (execute Commerce.step
      [.transaction (.acquireSeatHold 1 (holdRequest [1, 2] 1) holdConfiguration
          { holdId := 7, publicToken := 7, createdAt := 100 } 100),
        .transaction (.acquireSeatHold 1 (holdRequest [1] 2) holdConfiguration
          { holdId := 8, publicToken := 8, createdAt := 800 } 800)] openSession).any (fun db' =>
        (db'.inventory.lookup 1).any fun row =>
          row.state == .HELD && row.currentHoldId == some 8) = true := by
    decide +kernel
  obtain ⟨db', hdb', hheld⟩ := (Option.any_eq_true _ _).mp hrun
  exact ⟨db', hheld, Commerce.seats_agree openSession_beforeSales
    (reaches_of_execute hdb' fun _ _ _ => trivial)⟩

end SeatFlow
