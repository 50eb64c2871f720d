import SeatFlow.Commerce.CommerceWrites
import SeatFlow.Commerce.Sales

/-!
# The transactions are steps of the sales machine

Each commerce transaction, whatever it finds in the database and whenever it runs, takes
steps of `Sales` or none. Its other writes (outboxes, webhook records, sessions, the
queue of deferred triggers) leave the machine's tables alone.
-/

namespace SeatFlow

open Relational Program Entity

/-- From one state to the other by steps of the sales machine. -/
def Db.Sells (s s' : Db) : Prop :=
  Relation.ReflTransGen Sales.Step s.sales s'.sales

variable {s s' s'' : Db}

theorem Db.Sells.of_eq (h : s'.sales = s.sales) : s.Sells s' := by
  rw [Db.Sells, h]

theorem Db.Sells.of_step (h : Sales.Step s.sales s'.sales) : s.Sells s' :=
  .single h

theorem Db.Sells.trans (h : s.Sells s') (h' : s'.Sells s'') : s.Sells s'' :=
  Relation.ReflTransGen.trans h h'

variable {α β : Type}

/-- A program whose runs are steps of the sales machine. -/
def Selling (p : Sql α) : Prop :=
  ∀ s, p.Ensures s fun _ s' => s.Sells s'

theorem Selling.bind {p : Sql α} {f : α → Sql β} (hp : Selling p) (hf : ∀ a, Selling (f a)) :
    Selling (p >>= f) := by
  intro s
  refine ensures_bind.mpr ((hp s).mono fun a s' hs' => ?_)
  exact (hf a s').mono fun _ _ hs'' => hs'.trans hs''

/-- A program that leaves the machine's tables alone. -/
theorem selling_of_framing {p : Sql α} (h : p.Steps (Framing Db.sales)) : Selling p :=
  fun s => (h.framed s).mono fun _ _ hs' => .of_eq hs'

theorem Selling.runInTransaction {p : Sql α} (hp : Selling p) : Selling (runInTransaction p) :=
  fun s => ensures_runInTransaction ((hp s).mono fun _ _ hs' _ => hs')

/-- After the last step, what leaves the machine's tables alone. -/
theorem ensures_framed {p : Sql α} {Q : Sales → Prop} (hp : p.Steps (Framing Db.sales))
    (hs : Q s.sales) : p.Ensures s fun _ s' => Q s'.sales :=
  (hp.framed s).mono fun _ _ hs' => hs'.symm ▸ hs

/-! ## §1 Writes of other tables -/

theorem sales_defer (trigger : DeferredTrigger) : (defer trigger).Steps (Framing Db.sales) := by
  refine fun s => ensures_perform.mpr ?_
  rintro eff ⟨⟩
  exact .single rfl

theorem sales_deferAll (triggers : List DeferredTrigger) :
    (deferAll triggers).Steps (Framing Db.sales) := by
  induction triggers with
  | nil => exact steps_pure
  | cons trigger triggers ih => exact (sales_defer _).bind fun _ => ih

theorem sales_enqueueInventoryEvent (key : InventoryEventKey) (sessionId : SessionId)
    (now : Time) : (enqueueInventoryEvent key sessionId now).Steps (Framing Db.sales) :=
  steps_insert fun _ _ _ => rfl

theorem sales_enqueueExpiredHoldEvents (sessionId : SessionId) (now : Time)
    (holdIds : List HoldId) :
    (enqueueExpiredHoldEvents sessionId now holdIds).Steps (Framing Db.sales) := by
  induction holdIds with
  | nil => exact steps_pure
  | cons holdId holdIds ih => exact (sales_enqueueInventoryEvent _ _ _).bind fun _ => ih

theorem sales_enqueueSweptHoldEvents (now : Time) (holds : List (HoldId × SeatHold)) :
    (enqueueSweptHoldEvents now holds).Steps (Framing Db.sales) := by
  induction holds with
  | nil => exact steps_pure
  | cons hold holds ih => exact (sales_enqueueExpiredHoldEvents _ _ _).bind fun _ => ih

theorem sales_updateWebhook (id : WebhookId) (f : PaymentWebhookEvent → PaymentWebhookEvent)
    (missing : Failure) :
    (Prisma.paymentWebhookEvent.update id f missing).Steps (Framing Db.sales) :=
  steps_update fun _ _ _ _ => rfl

theorem sales_closeWebhook (webhookId : WebhookId)
    (processingStatus : PaymentWebhookProcessingStatus) (error : Option Code) (now : Time) :
    (closeWebhook webhookId processingStatus error now).Steps (Framing Db.sales) :=
  (sales_updateWebhook _ _ _).bind fun _ => steps_pure

/-! ## §2 Holds end -/

theorem ensures_updateHolds {p : HoldId → SeatHold → Bool} {f : SeatHold → SeatHold}
    {Q : List (HoldId × SeatHold) → Db → Prop}
    (hQ : ∀ updated s', updated.map Prod.fst = (s.holds.select p).map Prod.fst →
      s.holds.Mapped (fun id h => if p id h then f h else h) s'.holds →
      s'.sales = { s.sales with holds := s'.holds } → Q updated s') :
    (updateHolds p f).Ensures s Q := by
  refine ensures_bind.mpr (ensures_updateMany.mpr fun _ => ensures_bind.mpr ?_)
  have hmapped := Table.mapped_updates p (fun _ => f) s.holds
  change Ensures _ { s with holds := s.holds.putAll (s.holds.updates p fun _ => f) } _
  generalize s.holds.putAll (s.holds.updates p fun _ => f) = holds at hmapped
  refine ((sales_deferAll _).framed _).mono fun _ s' hs' => ensures_pure.mpr ?_
  obtain rfl : s'.holds = holds := congrArg Sales.holds hs'
  exact hQ _ s' (Table.updates_map_fst _ _ _) hmapped hs'

theorem ensures_releaseInventoryForHolds {ids : List HoldId} {Q : Nat → Db → Prop}
    (hQ : ∀ released s', s.inventory.Mapped
        (fun _ row => if ∃ id ∈ ids, row.currentHoldId = some id then row.vacated else row)
        s'.inventory →
      s'.sales = { s.sales with inventory := s'.inventory } → Q released s') :
    (releaseInventoryForHolds ids).Ensures s Q := by
  unfold releaseInventoryForHolds
  split
  · rename_i hnil
    subst hnil
    refine ensures_pure.mpr (hQ 0 s ?_ rfl)
    simpa using Table.mapped_id s.inventory
  · refine ensures_bind.mpr (ensures_updateMany.mpr fun _ => ensures_pure.mpr (hQ _ _ ?_ rfl))
    refine (Table.mapped_updates _ _ _).congr fun id row _ => ?_
    have hiff : row.currentHoldId.any ids.contains = true ↔
        ∃ id ∈ ids, row.currentHoldId = some id := by
      rw [Option.any_eq_true]
      constructor
      · rintro ⟨k, hrow, hk⟩
        exact ⟨k, by simpa using hk, hrow⟩
      · rintro ⟨k, hk, hrow⟩
        exact ⟨k, hrow, by simpa using hk⟩
    simp only [hiff]

/-- The holds that satisfy `p` end, and the inventory pointing at `ids`, which are they, is
free. -/
theorem endsHolds_of_updates {p : HoldId → SeatHold → Bool} {f : SeatHold → SeatHold}
    (ids : List HoldId) {s₁ s₂ : Db} (hf : SeatHold.Ends f)
    (hp : ∀ id h, s.holds.lookup id = some h → p id h = true → h.status = .ACTIVE)
    (hids : ∀ id, id ∈ ids ↔ id ∈ (s.holds.select p).map Prod.fst)
    (hholds : s.holds.Mapped (fun id h => if p id h then f h else h) s₁.holds)
    (hsales₁ : s₁.sales = { s.sales with holds := s₁.holds })
    (hinventory : s₁.inventory.Mapped
      (fun _ row => if ∃ id ∈ ids, row.currentHoldId = some id then row.vacated else row)
      s₂.inventory)
    (hsales₂ : s₂.sales = { s₁.sales with inventory := s₂.inventory }) :
    Sales.EndsHolds f ids s.sales s₂.sales := by
  have hmem : ∀ id, id ∈ ids ↔ ∃ h, s.holds.lookup id = some h ∧ p id h = true := by
    intro id
    rw [hids]
    constructor
    · intro hid
      obtain ⟨⟨_, h⟩, hsel, rfl⟩ := List.mem_map.mp hid
      exact ⟨h, Table.mem_select.mp hsel⟩
    · rintro ⟨h, hh⟩
      exact List.mem_map.mpr ⟨(id, h), Table.mem_select.mpr hh, rfl⟩
  have hinventory₁ : s₁.inventory = s.inventory := congrArg Sales.inventory hsales₁
  have hholds₂ : s₂.holds = s₁.holds := congrArg Sales.holds hsales₂
  refine ⟨hf, ?_, ?_, ?_, ?_⟩
  · intro id hid
    obtain ⟨h, hlook, hph⟩ := (hmem id).mp hid
    exact ⟨h, hlook, hp id h hlook hph⟩
  · show s.holds.Mapped _ s₂.holds
    rw [hholds₂]
    refine hholds.congr fun id h hlook => ?_
    have hiff : id ∈ ids ↔ p id h = true := by
      rw [hmem]
      constructor
      · rintro ⟨h', hlook', hph⟩
        cases Option.some.inj (hlook.symm.trans hlook')
        exact hph
      · exact fun hph => ⟨h, hlook, hph⟩
    simp only [hiff]
  · show s.inventory.Mapped _ s₂.inventory
    rw [hinventory₁] at hinventory
    exact hinventory
  · rw [hsales₂, hsales₁, ← hholds₂]

theorem ensures_releaseExpiredHoldsForSession (sessionId : SessionId) (now : Time) :
    (releaseExpiredHoldsForSession sessionId now).Ensures s fun _ s' =>
      ∃ ids, Sales.EndsHolds (·.expired now) ids s.sales s'.sales := by
  refine ensures_bind.mpr (ensures_updateHolds fun expired s₁ hkeys hholds hsales₁ => ?_)
  refine ensures_bind.mpr (ensures_releaseInventoryForHolds fun _ s₂ hinventory hsales₂ => ?_)
  have hends : Sales.EndsHolds (·.expired now) (expired.map Prod.fst) s.sales s₂.sales := by
    refine endsHolds_of_updates _ (SeatHold.ends_expired now) ?_ (by simp [hkeys]) hholds hsales₁
      hinventory hsales₂
    intro id h _ hp
    simp only [Bool.and_eq_true, beq_iff_eq] at hp
    exact hp.1.2
  have hrest : (do
      enqueueExpiredHoldEvents sessionId now (expired.map Prod.fst)
      pure expired.length : Sql Nat).Steps (Framing Db.sales) :=
    (sales_enqueueExpiredHoldEvents _ _ _).bind fun _ => steps_pure
  exact ensures_framed (Q := fun t => ∃ ids, Sales.EndsHolds (·.expired now) ids s.sales t) hrest
    ⟨_, hends⟩

theorem selling_releaseExpiredHoldsForSession (sessionId : SessionId) (now : Time) :
    Selling (releaseExpiredHoldsForSession sessionId now) :=
  fun _ => (ensures_releaseExpiredHoldsForSession sessionId now).mono
    fun _ _ ⟨_, hends⟩ => .single (.ended hends)

theorem selling_releaseActiveHoldsForSession (sessionId : SessionId) (now : Time) :
    Selling (releaseActiveHoldsForSession sessionId now) := by
  refine fun s => ensures_bind.mpr (ensures_updateHolds fun released s₁ hkeys hholds hsales₁ => ?_)
  refine ensures_bind.mpr (ensures_releaseInventoryForHolds fun _ s₂ hinventory hsales₂ => ?_)
  refine ensures_pure.mpr (.single (.ended (endsHolds_of_updates _ (SeatHold.ends_released now) ?_
    (by simp [hkeys]) hholds hsales₁ hinventory hsales₂)))
  intro id h _ hp
  simp only [Bool.and_eq_true, beq_iff_eq] at hp
  exact hp.2

theorem selling_sweepExpiredHolds (batchSize : Nat) (now : Time) :
    Selling (sweepExpiredHolds batchSize now) := by
  refine Selling.runInTransaction fun s => ensures_bind.mpr (ensures_lockBatch.mpr ?_)
  split
  · exact ensures_pure.mpr (.of_eq rfl)
  · -- the claimed holds are active, so all of them expire
    generalize hclaimed : List.take batchSize _ = claimed
    have hactive : ∀ e ∈ claimed, s.holds.lookup e.1 = some e.2 ∧ e.2.status = .ACTIVE := by
      rintro e he
      subst hclaimed
      have hsorted := (List.mem_insertionSort _).mp (List.mem_of_mem_take he)
      obtain ⟨hlook, hp⟩ := Table.mem_select.mp hsorted
      simp only [Bool.and_eq_true, beq_iff_eq] at hp
      exact ⟨hlook, hp.1⟩
    refine ensures_bind.mpr (ensures_updateHolds fun expired s₁ hkeys hholds hsales₁ => ?_)
    refine ensures_bind.mpr (ensures_releaseInventoryForHolds fun seats s₂ hinventory hsales₂ => ?_)
    have hends : Sales.EndsHolds (·.expired now) (claimed.map Prod.fst) s.sales s₂.sales := by
      refine endsHolds_of_updates _ (SeatHold.ends_expired now) ?_ ?_ hholds hsales₁ hinventory
        hsales₂
      · intro id h _ hp
        simp only [Bool.and_eq_true, beq_iff_eq] at hp
        exact hp.2
      · intro id
        constructor
        · intro hid
          obtain ⟨⟨_, h⟩, hmem, rfl⟩ := List.mem_map.mp hid
          obtain ⟨hlook, hstatus⟩ := hactive _ hmem
          refine List.mem_map.mpr ⟨_, Table.mem_select.mpr ⟨hlook, ?_⟩, rfl⟩
          rw [Bool.and_eq_true]
          exact ⟨List.contains_iff_mem.mpr hid, beq_iff_eq.mpr hstatus⟩
        · intro hid
          obtain ⟨⟨_, h⟩, hmem, rfl⟩ := List.mem_map.mp hid
          obtain ⟨-, hp⟩ := Table.mem_select.mp hmem
          simp only [Bool.and_eq_true, List.contains_iff_mem] at hp
          exact hp.1
    have hrest : (do
        enqueueSweptHoldEvents now claimed
        pure (expired.length, seats) : Sql (Nat × Nat)).Steps (Framing Db.sales) :=
      (sales_enqueueSweptHoldEvents _ _).bind fun _ => steps_pure
    exact ensures_framed hrest (.single (.ended hends))

theorem selling_releaseInTransaction (holdId : HoldId) (sessionId : SessionId) (now : Time) :
    Selling (releaseInTransaction holdId sessionId now) := by
  refine Selling.runInTransaction fun s => ensures_bind.mpr
    (ensures_updateHolds fun updated s₁ hkeys hholds hsales₁ => ?_)
  have hactive : ∀ id h, s.holds.lookup id = some h → (id == holdId && h.status == .ACTIVE) = true →
      h.status = .ACTIVE := by
    intro id h _ hp
    simp only [Bool.and_eq_true, beq_iff_eq] at hp
    exact hp.2
  have hids : ∀ id ∈ updated.map Prod.fst, id = holdId := by
    intro id hid
    rw [hkeys] at hid
    obtain ⟨⟨_, h⟩, hmem, rfl⟩ := List.mem_map.mp hid
    have hp := (Table.mem_select.mp hmem).2
    simp only [Bool.and_eq_true, beq_iff_eq] at hp
    exact hp.1
  split
  · rename_i hone
    obtain ⟨e, rfl⟩ := List.length_eq_one_iff.mp hone
    obtain rfl : e.1 = holdId := hids _ (by simp)
    refine ensures_bind.mpr (ensures_updateMany.mpr fun _ => ?_)
    have hends : Sales.EndsHolds (·.released now) [e.1] s.sales
        (Db.sales { s₁ with inventory := s₁.inventory.putAll (s₁.inventory.updates
          (fun _ row => row.currentHoldId == some e.1) fun _ row => row.vacated) }) := by
      refine endsHolds_of_updates [e.1] (SeatHold.ends_released now) hactive (by simp [← hkeys])
        hholds hsales₁ ?_ rfl
      refine (Table.mapped_updates _ _ _).congr fun id row _ => ?_
      simp
    have hrest : (do
        enqueueInventoryEvent (.holdReleased e.1) sessionId now
        pure true : Sql Bool).Steps (Framing Db.sales) :=
      (sales_enqueueInventoryEvent _ _ _).bind fun _ => steps_pure
    exact ensures_framed hrest (.single (.ended hends))
  · rename_i hnone
    have hnil : updated.map Prod.fst = [] := by
      have hnodup : (updated.map Prod.fst).Nodup := hkeys ▸ Table.nodup_select_fst _ _
      rcases hupdated : updated with _ | ⟨e, _ | ⟨e', rest⟩⟩
      · rfl
      · exact absurd (by simp [hupdated]) hnone
      · rw [hupdated, List.map_cons, List.map_cons, List.nodup_cons] at hnodup
        rw [hupdated] at hids
        have hsame : e.1 = e'.1 := (hids _ (by simp)).trans (hids e'.1 (by simp)).symm
        exact absurd (by simp [hsame]) hnodup.1
    refine ensures_pure.mpr (.of_step (.ended (endsHolds_of_updates [] (SeatHold.ends_released now)
      hactive (by simp [← hkeys, hnil]) hholds hsales₁ ?_ rfl)))
    simpa using Table.mapped_id s₁.inventory

theorem selling_releaseSeatHold (userId : UserId) (publicToken : Reference) (now : Time) :
    Selling (releaseSeatHold userId publicToken now) := by
  refine Selling.bind (selling_of_framing steps_findMany) fun found => ?_
  refine Selling.bind (selling_of_framing steps_orThrow) fun hold => ?_
  refine Selling.bind (selling_of_framing steps_require) fun _ => ?_
  split
  · exact selling_releaseInTransaction _ _ _
  · exact selling_of_framing steps_pure

/-! ## §3 A hold takes its seats -/

/-- The insertion, the claim and the items together. -/
theorem ensures_takeSeats {holdId : HoldId} {hold : SeatHold}
    {locked : List (InventoryId × SessionSeatInventory)} (now : Time)
    (hactive : hold.status = .ACTIVE) (hnoItems : hold.items = [])
    (hlocked : ∀ e ∈ locked, s.inventory.lookup e.1 = some e.2)
    (hfree : ∀ e ∈ locked, e.2.state = .AVAILABLE) (hdistinct : (locked.map Prod.fst).Nodup) :
    (takeSeats holdId hold locked now).Ensures s fun _ s' => Sales.Step s.sales s'.sales := by
  unfold takeSeats
  refine ensures_bind.mpr (ensures_insert.mpr fun habsent hvalid => ?_)
  obtain ⟨-, hapart, -⟩ := (seatHoldConstraints.validate_iff _ _ _ _).mp hvalid
  refine ensures_bind.mpr (ensures_updateMany.mpr fun _ => ?_)
  refine ensures_bind.mpr (ensures_require.mpr fun _ => ?_)
  refine ensures_bind.mpr (ensures_update.mpr fun h hlook _ => ?_)
  cases Option.some.inj ((AList.lookup_insert _).symm.trans hlook)
  refine ensures_framed (Q := fun t => Sales.Step s.sales t) (sales_enqueueInventoryEvent _ _ _) ?_
  suffices hacquires : Sales.Acquires holdId
      { hold with items := hold.items ++ locked.map fun e => e.2.holdItem e.1 } locked s.sales _
    from .acquired hacquires
  refine ⟨habsent, hactive, by rw [hnoItems]; rfl, fun e he => ⟨hlocked e he, hfree e he⟩,
    hdistinct, fun k other hk => ?_, Table.wrote_insert.insert, ?_, rfl⟩
  · have hne : k ≠ holdId := by
      rintro rfl
      cases (show s.holds.lookup k = none from habsent).symm.trans hk
    have hother : SeatHold.Apart other hold := hapart k other hk hne
    exact ⟨hother.token, hother.key, hother.active⟩
  · -- the locked rows are free, so the claim takes all of them
    refine (Table.mapped_updates _ _ s.inventory).congr fun id row hrow => ?_
    have hiff : ((locked.map Prod.fst).contains id && row.state == .AVAILABLE) = true ↔
        id ∈ locked.map Prod.fst := by
      rw [Bool.and_eq_true, List.contains_iff_mem, beq_iff_eq, and_iff_left_iff_imp]
      intro hid
      obtain ⟨⟨_, row'⟩, hmem, rfl⟩ := List.mem_map.mp hid
      cases Option.some.inj (hrow.symm.trans (hlocked _ hmem))
      exact hfree _ hmem
    simp only [hiff]

theorem selling_acquireInTransaction (userId : UserId) (input : HoldCreateInput)
    (config : HoldConfiguration) (fresh : FreshHold) (now : Time) :
    Selling (acquireInTransaction userId input config fresh now) := by
  refine Selling.runInTransaction
    (Selling.bind (selling_releaseExpiredHoldsForSession _ _) fun _ s => ?_)
  refine ensures_bind.mpr (ensures_lockMany.mpr ?_)
  refine ensures_bind.mpr (ensures_findOrThrow.mpr fun session _ => ?_)
  refine ensures_bind.mpr (ensures_findOrThrow.mpr fun event _ => ?_)
  refine ensures_bind.mpr (ensures_findMany.mpr ?_)
  dsimp only
  split
  · exact ensures_abort.mpr trivial
  · refine ensures_bind.mpr (ensures_require.mpr fun _ => ?_)
    refine ensures_bind.mpr (ensures_require.mpr fun hfree => ensures_bind.mpr ?_)
    refine (ensures_takeSeats now rfl rfl (fun e he => (Table.mem_select.mp he).1) hfree
      (Table.nodup_select_fst _ _)).mono fun _ _ hstep => ensures_pure.mpr (.of_step hstep)

theorem selling_acquireSeatHold (userId : UserId) (input : HoldCreateInput)
    (config : HoldConfiguration) (fresh : FreshHold) (now : Time) :
    Selling (acquireSeatHold userId input config fresh now) := by
  refine Selling.bind (selling_of_framing steps_require) fun _ => ?_
  refine Selling.bind (selling_of_framing ?_) fun replay => ?_
  · refine steps_findMany.bind fun existing => ?_
    split
    · exact steps_pure
    · exact steps_read.bind fun _ => steps_require.bind fun _ => steps_pure
  · split
    · exact selling_of_framing steps_pure
    · exact (selling_acquireInTransaction _ _ _ _ _).bind fun _ => selling_of_framing steps_pure

/-! ## §4 Sessions and events are cancelled -/

theorem selling_cancelInTransaction (sessionId : SessionId) (now : Time) :
    Selling (cancelInTransaction sessionId now) := by
  refine Selling.runInTransaction (Selling.bind (selling_of_framing steps_lockMany) fun _ => ?_)
  refine Selling.bind (selling_of_framing (steps_update fun _ _ _ _ => rfl)) fun _ => ?_
  refine (selling_releaseActiveHoldsForSession _ _).bind fun _ => ?_
  exact selling_of_framing (sales_enqueueInventoryEvent _ _ _)

theorem selling_cancelEventSession (sessionId : SessionId) (now : Time) :
    Selling (cancelEventSession sessionId now) := by
  refine Selling.bind (selling_of_framing steps_findOrThrow) fun session => ?_
  refine Selling.bind (selling_of_framing steps_findOrThrow) fun event => ?_
  split
  · exact selling_of_framing steps_pure
  · refine Selling.bind (selling_of_framing steps_require) fun _ => ?_
    refine Selling.bind (selling_of_framing steps_require) fun _ => ?_
    exact selling_cancelInTransaction _ _

theorem selling_releaseCancelledSessions (cancelledAt : Time) (sessionIds : List SessionId) :
    Selling (releaseCancelledSessions cancelledAt sessionIds) := by
  induction sessionIds with
  | nil => exact selling_of_framing steps_pure
  | cons sessionId sessionIds ih =>
      refine (selling_releaseActiveHoldsForSession _ _).bind fun _ => ?_
      exact (selling_of_framing (sales_enqueueInventoryEvent _ _ _)).bind fun _ => ih

theorem selling_cancelEventInTransaction (eventId : EventId) (organizationId : OrganizationId)
    (cancelledAt : Time) :
    Selling (cancelEventInTransaction eventId organizationId cancelledAt) := by
  refine Selling.runInTransaction (Selling.bind (selling_of_framing steps_find) fun found => ?_)
  refine Selling.bind (selling_of_framing steps_orThrow) fun event => ?_
  split
  · exact selling_of_framing steps_pure
  · refine Selling.bind (selling_of_framing steps_require) fun _ => ?_
    refine Selling.bind (selling_of_framing steps_findMany) fun sessions => ?_
    refine Selling.bind (selling_of_framing ?_) fun _ => ?_
    · unfold lockInventoryOfSessions
      split
      · exact steps_pure
      · exact steps_lockMany.bind fun _ => steps_pure
    · refine Selling.bind (selling_of_framing (steps_updateMany fun _ _ => rfl)) fun _ => ?_
      refine (selling_releaseCancelledSessions _ _).bind fun _ => ?_
      refine selling_of_framing (Steps.bind (steps_update fun _ _ _ _ => ?_) fun _ => steps_pure)
      rfl

/-! ## §5 Orders -/

theorem ensures_defer {trigger : DeferredTrigger} {Q : Unit → Db → Prop}
    (h : Q () { s with deferred := trigger :: s.deferred }) : (defer trigger).Ensures s Q := by
  refine ensures_perform.mpr ?_
  rintro eff ⟨⟩
  exact h

theorem ensures_updateOrder {id : OrderId} {f : CheckoutOrder → CheckoutOrder}
    {Q : Unit → Db → Prop}
    (h : ∀ o, s.orders.lookup id = some o → CheckoutOrder.protectIdentity o (f o) = .ok () →
      Q () { s with
        orders := s.orders.insert id (f o)
        deferred := .verifyOrderTotals id :: s.deferred }) : (updateOrder id f).Ensures s Q := by
  refine ensures_bind.mpr (ensures_update.mpr fun o hlook hvalid => ensures_defer ?_)
  obtain ⟨-, -, hkeep⟩ := (checkoutOrderConstraints.validate_iff _ _ _ _).mp hvalid
  exact h o hlook hkeep

theorem ensures_updateAttempt {id : AttemptId} {f : PaymentAttempt → PaymentAttempt}
    {missing : Failure} {Q : PaymentAttempt → Db → Prop}
    (h : ∀ a, s.attempts.lookup id = some a → PaymentAttempt.protectIdentity a (f a) = .ok () →
      Q (f a) { s with attempts := s.attempts.insert id (f a) }) :
    (Prisma.paymentAttempt.update id f missing).Ensures s Q := by
  refine ensures_update.mpr fun a hlook hvalid => ?_
  obtain ⟨-, -, hkeep⟩ := (paymentAttemptConstraints.validate_iff _ _ _ _).mp hvalid
  exact h a hlook hkeep

/-- A payment whose status changes was not terminal. -/
theorem PaymentAttempt.open_of_protect {old new : PaymentAttempt}
    (h : PaymentAttempt.protectIdentity old new = .ok ())
    (hne : isTerminalPaymentStatus old.status = true → new.status ≠ old.status) :
    isTerminalPaymentStatus old.status = false := by
  simp only [PaymentAttempt.protectIdentity, Except.bind_unit_eq_ok, check_eq_ok] at h
  by_contra hterminal
  rw [Bool.not_eq_false] at hterminal
  exact hne hterminal (h.2.2 hterminal)

/-- An order whose status changes was not terminal. -/
theorem CheckoutOrder.status_of_protect {old new : CheckoutOrder}
    (h : CheckoutOrder.protectIdentity old new = .ok ())
    (hterminal : old.status.isTerminal = true) : old.status = new.status := by
  simp only [CheckoutOrder.protectIdentity, Except.bind_unit_eq_ok, check_eq_ok] at h
  exact (h.2.1 hterminal).symm

theorem CheckoutOrder.total_of_verify {db : Db} {id : OrderId} {o : CheckoutOrder}
    (hlook : db.orders.lookup id = some o) (h : CheckoutOrder.verifyTotals db id = .ok ()) :
    (o.items.map (·.priceMinor)).sum = o.totalMinor := by
  simp only [CheckoutOrder.verifyTotals, hlook, check_eq_ok] at h
  exact h.2.1

theorem ensures_placeOrder {fresh : FreshOrder} {order : CheckoutOrder} {hold : SeatHold}
    {items : List CheckoutOrderItem} {provider : PaymentProviderName} {now : Time}
    (hsource : s.holds.lookup order.sourceHoldId = some hold) (hactive : hold.status = .ACTIVE)
    (hfirst : ∀ k o, s.orders.lookup k = some o → o.sourceHoldId ≠ order.sourceHoldId)
    (hstatus : order.status = .PENDING) :
    (placeOrder fresh order items provider now).Ensures s fun _ s' =>
      checkAll (DeferredTrigger.check s') s'.deferred = .ok () → Sales.Step s.sales s'.sales := by
  unfold placeOrder
  refine ensures_bind.mpr (ensures_insert.mpr fun habsent _ => ensures_bind.mpr (ensures_defer ?_))
  refine ensures_bind.mpr (ensures_update.mpr fun o hlook hvalid => ?_)
  cases Option.some.inj ((AList.lookup_insert _).symm.trans hlook)
  refine ensures_bind.mpr (ensures_defer (ensures_bind.mpr
    (ensures_insert.mpr fun habsent' _ => ensures_insert.mpr fun _ _ hchecked => ?_)))
  suffices hplaces : Sales.Places fresh.orderId { order with items := order.items ++ items }
      fresh.attemptId (.created fresh.orderId order provider fresh.providerIdempotencyKey now)
      s.sales _ from .placed hplaces
  simp only [Prisma.checkoutOrderItem, CheckoutOrderItem.validate, Except.bind_unit_eq_ok,
    check_eq_ok] at hvalid
  have htotal := CheckoutOrder.total_of_verify (AList.lookup_insert _)
    (checkAll_eq_ok.mp hchecked (DeferredTrigger.verifyOrderTotals fresh.orderId)
      List.mem_cons_self)
  exact ⟨habsent, habsent', ⟨hold, hsource, hactive⟩, hfirst, hstatus, hvalid.1, htotal, rfl, rfl,
    Table.wrote_insert.insert, Table.wrote_insert, rfl⟩

theorem selling_createCheckoutOrder (userId : UserId) (input : CreateCheckoutInput)
    (provider : PaymentProviderName) (fresh : FreshOrder) (now : Time) :
    Selling (createCheckoutOrder userId input provider fresh now) := by
  refine fun s => ensures_runInTransaction (ensures_bind.mpr (ensures_lockMany.mpr ?_))
  refine ensures_bind.mpr (ensures_require.mpr fun _ => ?_)
  refine ensures_bind.mpr (ensures_orThrow.mpr fun found _ => ?_)
  refine ensures_bind.mpr (ensures_findOrThrow.mpr fun hold hhold => ?_)
  refine ensures_bind.mpr (ensures_require.mpr fun _ => ensures_bind.mpr (ensures_findMany.mpr ?_))
  split
  · exact ensures_bind.mpr (ensures_require.mpr fun _ => ensures_pure.mpr fun _ => .of_eq rfl)
  · rename_i hnone
    refine ensures_bind.mpr (ensures_require.mpr fun hopen => ?_)
    refine ensures_bind.mpr (ensures_require.mpr fun _ => ensures_bind.mpr (ensures_read.mpr ?_))
    refine ensures_bind.mpr (ensures_lockMany.mpr ?_)
    refine ensures_bind.mpr (ensures_require.mpr fun _ => ?_)
    refine ensures_bind.mpr (ensures_findOrThrow.mpr fun session _ => ?_)
    refine ensures_bind.mpr (ensures_findOrThrow.mpr fun event _ => ?_)
    dsimp only
    split
    · exact ensures_abort.mpr trivial
    · exact ensures_abort.mpr trivial
    · refine ensures_bind.mpr ((ensures_placeOrder hhold hopen.1 ?_ rfl).mono fun _ _ hstep => ?_)
      · intro k o hlook heq
        have hmem : (k, o) ∈ s.orders.select fun _ o => o.sourceHoldId == found.1 :=
          Table.mem_select.mpr ⟨hlook, beq_iff_eq.mpr heq⟩
        have hnil : (s.orders.select fun _ o => o.sourceHoldId == found.1) = [] :=
          List.head?_eq_none_iff.mp hnone
        rw [hnil] at hmem
        cases hmem
      · exact ensures_pure.mpr fun hchecked => .of_step (hstep hchecked)

theorem selling_recordPaymentIntent (attemptId : AttemptId) (providerIntentId : ProviderRef)
    (now : Time) : Selling (recordPaymentIntent attemptId providerIntentId now) := by
  refine Selling.runInTransaction fun s => ensures_bind.mpr (ensures_lock.mpr ?_)
  refine ensures_bind.mpr (ensures_findOrThrow.mpr fun a hfound => ?_)
  refine ensures_bind.mpr (ensures_findOrThrow.mpr fun order hordered => ?_)
  split
  · exact ensures_pure.mpr (.of_eq rfl)
  · rename_i hdetached
    refine ensures_bind.mpr (ensures_updateAttempt fun a' hlook hkeep => ?_)
    cases Option.some.inj (hfound.symm.trans hlook)
    have hisOpen : isTerminalPaymentStatus a.status = false := by
      refine PaymentAttempt.open_of_protect hkeep fun hterminal heq => ?_
      rw [← heq] at hterminal
      cases hterminal
    have hrest : (do
        enqueueInventoryEvent (.paymentIntentCreated attemptId) order.sessionId now
        pure false : Sql Bool).Steps (Framing Db.sales) :=
      (sales_enqueueInventoryEvent _ _ _).bind fun _ => steps_pure
    have hstep : ∀ orders, orders = (if order.status = .PENDING then
        s.orders.insert a.orderId order.awaitingPayment else s.orders) →
        Sales.Step s.sales { s.sales with
          attempts := s.attempts.insert attemptId (a.withIntent providerIntentId)
          orders := orders } := by
      intro orders horders
      suffices hattaches : Sales.Attaches attemptId a providerIntentId order s.sales _ from
        .attached hattaches
      exact ⟨hfound, hordered, by simpa using hdetached, hisOpen, rfl, horders, rfl⟩
    dsimp only
    split
    · rename_i hpending
      refine ensures_bind.mpr (ensures_updateOrder fun o ho _ => ?_)
      cases Option.some.inj (hordered.symm.trans ho)
      exact ensures_framed hrest (.single (hstep _ (by rw [if_pos hpending])))
    · rename_i hpending
      exact ensures_framed hrest (.single (hstep _ (by rw [if_neg hpending])))

theorem selling_releaseExpiredHoldsForSessions (now : Time) (sessionIds : List SessionId) :
    Selling (releaseExpiredHoldsForSessions now sessionIds) := by
  induction sessionIds with
  | nil => exact selling_of_framing steps_pure
  | cons sessionId sessionIds ih =>
      exact (selling_releaseExpiredHoldsForSession _ _).bind fun _ => ih

theorem selling_expireUnpaidCheckoutOrders (batchSize : Nat) (now : Time) :
    Selling (expireUnpaidCheckoutOrders batchSize now) := by
  refine Selling.runInTransaction
    (Selling.bind (selling_of_framing steps_lockBatch) fun claimed => ?_)
  split
  · exact selling_of_framing steps_pure
  · refine Selling.bind (fun s => ensures_updateMany.mpr fun _ => .of_step ?_) fun expired => ?_
    · refine .expiredOrders ⟨fun id o hp => ?_, Table.mapped_updates _ _ _, rfl⟩
      exact (Bool.and_eq_true_iff.mp hp).2
    · refine (selling_of_framing (sales_deferAll _)).bind fun _ => ?_
      exact (selling_releaseExpiredHoldsForSessions _ _).bind fun _ => selling_of_framing steps_pure

/-! ## §6 Payment events -/

variable {webhookId : WebhookId} {attemptId : AttemptId} {a : PaymentAttempt}
  {order : CheckoutOrder} {now : Time}

/-- The captured payment of an order that cannot be fulfilled. -/
theorem ensures_markWebhookReview_paid {sessionId : SessionId} (code : Code)
    (hfound : s.attempts.lookup attemptId = some a)
    (hordered : s.orders.lookup a.orderId = some order)
    (hopen : isTerminalPaymentStatus a.status = false) :
    (markWebhookReview webhookId
      (some { attemptId := attemptId, orderId := a.orderId, sessionId := sessionId }) code now
      true).Ensures s fun _ s' =>
        Sales.CapturesUnfulfilled attemptId a order code now s.sales s'.sales := by
  unfold markWebhookReview reviewTarget
  refine ensures_bind.mpr (ensures_bind.mpr (ensures_updateAttempt fun a' ha' _ => ?_))
  cases Option.some.inj (hfound.symm.trans ha')
  refine ensures_bind.mpr (ensures_updateOrder fun o ho hkeep => ?_)
  cases Option.some.inj (hordered.symm.trans ho)
  have hcaptures : Sales.CapturesUnfulfilled attemptId a order code now s.sales { s.sales with
      attempts := s.attempts.insert attemptId (a.paidUnderReview now)
      orders := s.orders.insert a.orderId (order.underReview true code now) } :=
    ⟨hfound, hordered, hopen, fun hterminal => CheckoutOrder.status_of_protect hkeep hterminal, rfl⟩
  refine ensures_bind.mpr (ensures_framed
    (Q := fun t => Sales.CapturesUnfulfilled attemptId a order code now s.sales t)
    (sales_enqueueInventoryEvent _ _ _) hcaptures |>.mono fun _ s₁ h₁ => ?_)
  refine ensures_framed
    (Q := fun t => Sales.CapturesUnfulfilled attemptId a order code now s.sales t)
    (sales_enqueueInventoryEvent _ _ _) h₁ |>.mono fun _ s₂ h₂ => ?_
  exact ensures_framed (sales_closeWebhook _ _ _ _) h₂

/-- An order is put under review, and no payment was captured. -/
theorem ensures_markWebhookReview_unpaid {sessionId : SessionId} (code : Code)
    (hordered : s.orders.lookup a.orderId = some order) :
    (markWebhookReview webhookId
      (some { attemptId := attemptId, orderId := a.orderId, sessionId := sessionId }) code now
      false).Ensures s fun _ s' => Sales.Reviews a.orderId order code now s.sales s'.sales := by
  unfold markWebhookReview reviewTarget
  refine ensures_bind.mpr (ensures_bind.mpr (ensures_updateOrder fun o ho hkeep => ?_))
  cases Option.some.inj (hordered.symm.trans ho)
  have hreviews : Sales.Reviews a.orderId order code now s.sales { s.sales with
      orders := s.orders.insert a.orderId (order.underReview false code now) } :=
    ⟨hordered, fun hterminal => CheckoutOrder.status_of_protect hkeep hterminal, rfl⟩
  refine ensures_framed (Q := fun t => Sales.Reviews a.orderId order code now s.sales t)
    (sales_enqueueInventoryEvent _ _ _) hreviews |>.mono fun _ s₁ h₁ => ?_
  exact ensures_framed (sales_closeWebhook _ _ _ _) h₁

/-- A contradictory result changes the record only. -/
theorem sales_markWebhookReview_preserving (orderId : OrderId) (sessionId : SessionId)
    (code : Code) :
    (markWebhookReview webhookId
      (some
        { attemptId := attemptId
          orderId := orderId
          sessionId := sessionId
          preserveOrder := true })
      code now false).Steps (Framing Db.sales) := by
  unfold markWebhookReview reviewTarget
  exact (sales_enqueueInventoryEvent _ _ _).bind fun _ => sales_closeWebhook _ _ _ _

theorem ensures_failPayment {cancelled : Bool} (hfound : s.attempts.lookup attemptId = some a)
    (hordered : s.orders.lookup a.orderId = some order)
    (hopen : isTerminalPaymentStatus a.status = false) :
    (failPayment webhookId attemptId a.orderId order cancelled now).Ensures s fun _ s' =>
      Sales.FailsPayment attemptId a order cancelled now s.sales s'.sales := by
  have hrest : (do
      enqueueInventoryEvent (.paymentFailed webhookId) order.sessionId now
      closeWebhook webhookId .PROCESSED none now : Sql Unit).Steps (Framing Db.sales) :=
    (sales_enqueueInventoryEvent _ _ _).bind fun _ => sales_closeWebhook _ _ _ _
  unfold failPayment
  refine ensures_bind.mpr (ensures_updateAttempt fun a' ha' _ => ?_)
  cases Option.some.inj (hfound.symm.trans ha')
  dsimp only
  split
  · rename_i hunpaid
    refine ensures_bind.mpr (ensures_updateOrder fun o ho _ => ?_)
    cases Option.some.inj (hordered.symm.trans ho)
    refine ensures_framed
      (Q := fun t => Sales.FailsPayment attemptId a order cancelled now s.sales t) hrest ?_
    exact ⟨hfound, hordered, hopen, by rw [if_pos hunpaid]; rfl⟩
  · rename_i hpaid
    refine ensures_framed
      (Q := fun t => Sales.FailsPayment attemptId a order cancelled now s.sales t) hrest ?_
    exact ⟨hfound, hordered, hopen, by rw [if_neg hpaid]; rfl⟩

theorem ensures_recordPendingPayment (hfound : s.attempts.lookup attemptId = some a)
    (hopen : isTerminalPaymentStatus a.status = false) :
    (recordPendingPayment webhookId attemptId now).Ensures s fun _ s' =>
      Sales.Awaits attemptId a s.sales s'.sales := by
  refine ensures_bind.mpr (ensures_updateAttempt fun a' ha' _ => ?_)
  cases Option.some.inj (hfound.symm.trans ha')
  refine ensures_framed (Q := fun t => Sales.Awaits attemptId a s.sales t)
    ((sales_updateWebhook _ _ _).bind fun _ => steps_pure) ?_
  exact ⟨hfound, hopen, rfl⟩

/-! ## §7 Fulfilment -/

variable {hold : SeatHold} {fresh : FreshBooking}

/-- The booking as its transaction leaves it, with a seat for each item of the order. -/
def CheckoutOrder.bookingWithSeats (order : CheckoutOrder) (orderId : OrderId)
    (fresh : FreshBooking) (now : Time) : Booking :=
  { order.booking orderId fresh.publicReference now with
    seats := order.items.map fun item =>
      item.bookingSeat order.sessionId (fresh.seatId item.inventoryId) }

theorem ensures_insertedBooking {orderId : OrderId} :
    (createBooking fresh orderId order now).Ensures s fun _ s' =>
      s.bookings.lookup fresh.bookingId = none ∧
        s.bookings.Wrote fresh.bookingId (order.bookingWithSeats orderId fresh now) s'.bookings ∧
        s'.sales = { s.sales with bookings := s'.bookings } := by
  unfold createBooking
  refine ensures_bind.mpr (ensures_insert.mpr fun habsent _ => ?_)
  refine ensures_bind.mpr (ensures_defer (ensures_bind.mpr (ensures_update.mpr fun b hb _ => ?_)))
  cases Option.some.inj ((AList.lookup_insert _).symm.trans hb)
  refine ensures_bind.mpr (ensures_defer ?_)
  have hrest : (do
      let _ ← Prisma.ticketIssuanceRequest.insertNew fresh.bookingId
        { availableAt := now, createdAt := now } : Sql Unit).Steps (Framing Db.sales) :=
    Steps.bind (steps_insertNew fun _ _ _ => rfl) fun _ => steps_pure
  exact ensures_framed
    (Q := fun t => s.bookings.lookup fresh.bookingId = none ∧
      s.bookings.Wrote fresh.bookingId (order.bookingWithSeats orderId fresh now) t.bookings ∧
      t = { s.sales with bookings := t.bookings }) hrest
    ⟨habsent, Table.wrote_insert.insert, rfl⟩

theorem ensures_bookInventory {orderId : OrderId} (hordered : s.orders.lookup orderId = some order)
    (hsource : s.holds.lookup order.sourceHoldId = some hold) :
    (bookInventory orderId order now).Ensures s fun _ s' =>
      s.inventory.Mapped (fun id row => if id ∈ order.items.map (·.inventoryId) ∧
        row.state = .HELD ∧ row.currentHoldId = some order.sourceHoldId then row.booked else row)
        s'.inventory ∧
      s'.sales = { s.sales with
        inventory := s'.inventory
        holds := s.holds.insert order.sourceHoldId (hold.converted now)
        orders := s.orders.insert orderId (order.fulfilled now) } := by
  unfold bookInventory
  refine ensures_bind.mpr (ensures_updateMany.mpr fun _ => ?_)
  refine ensures_bind.mpr (ensures_require.mpr fun _ => ?_)
  refine ensures_bind.mpr (ensures_update.mpr fun h hh _ => ensures_bind.mpr (ensures_defer ?_))
  cases Option.some.inj (hsource.symm.trans hh)
  refine ensures_updateOrder fun o ho _ => ?_
  cases Option.some.inj (hordered.symm.trans ho)
  refine ⟨(Table.mapped_updates _ _ s.inventory).congr fun id row _ => ?_, rfl⟩
  simp only [Bool.and_eq_true, beq_iff_eq, List.contains_iff_mem, and_assoc]

theorem ensures_fulfillOrder (hfound : s.attempts.lookup attemptId = some a)
    (hordered : s.orders.lookup a.orderId = some order)
    (hsource : s.holds.lookup order.sourceHoldId = some hold)
    (hopen : isTerminalPaymentStatus a.status = false) (horder : order.status.isTerminal = false)
    (hactive : hold.status = .ACTIVE)
    (hunbooked : ∀ k b, s.bookings.lookup k = some b → b.orderId ≠ a.orderId)
    (hlength : order.items.length = hold.items.length)
    (hheld : ∀ item ∈ order.items, item.inventoryId ∈ hold.items.map (·.inventoryId))
    (hrows : ∀ item ∈ order.items, ∃ row, s.inventory.lookup item.inventoryId = some row ∧
      row.state = .HELD ∧ row.currentHoldId = some order.sourceHoldId) :
    (fulfillOrder webhookId attemptId a.orderId order fresh now).Ensures s fun _ s' =>
      Sales.Fulfils attemptId a order hold fresh now s.sales s'.sales := by
  have hrest : (do
      enqueueInventoryEvent (.paymentSucceeded webhookId) order.sessionId now
      enqueueInventoryEvent (.inventoryBooked fresh.bookingId) order.sessionId now
      enqueueInventoryEvent (.bookingConfirmed fresh.bookingId) order.sessionId now
      closeWebhook webhookId .PROCESSED none now : Sql Unit).Steps (Framing Db.sales) :=
    (sales_enqueueInventoryEvent _ _ _).bind fun _ =>
      (sales_enqueueInventoryEvent _ _ _).bind fun _ =>
        (sales_enqueueInventoryEvent _ _ _).bind fun _ => sales_closeWebhook _ _ _ _
  unfold fulfillOrder
  refine ensures_bind.mpr (ensures_updateAttempt fun a' ha' _ => ?_)
  cases Option.some.inj (hfound.symm.trans ha')
  refine ensures_bind.mpr (ensures_insertedBooking.mono fun _ s₁ ⟨habsent, hbooking, hsales₁⟩ => ?_)
  have hordered₁ : s₁.orders.lookup a.orderId = some order := by
    rw [show s₁.orders = s.orders from congrArg Sales.orders hsales₁]
    exact hordered
  have hsource₁ : s₁.holds.lookup order.sourceHoldId = some hold := by
    rw [show s₁.holds = s.holds from congrArg Sales.holds hsales₁]
    exact hsource
  refine ensures_bind.mpr ((ensures_bookInventory hordered₁ hsource₁).mono
    fun _ s₂ ⟨hbooked, hsales₂⟩ => ?_)
  refine ensures_framed
    (Q := fun t => Sales.Fulfils attemptId a order hold fresh now s.sales t) hrest ?_
  have hbookings₂ : s₂.bookings = s₁.bookings := congrArg Sales.bookings hsales₂
  refine ⟨hfound, hordered, hsource, hopen, horder, hactive, hunbooked, habsent, hlength, hheld,
    hrows, ?_, ?_, ?_⟩
  · show s.bookings.Wrote _ _ s₂.bookings
    rw [hbookings₂]
    exact hbooking
  · rw [show s₁.inventory = s.inventory from congrArg Sales.inventory hsales₁] at hbooked
    exact hbooked
  · rw [hsales₂, hsales₁, ← hbookings₂]
    rw [show s₁.holds = s.holds from congrArg Sales.holds hsales₁,
      show s₁.orders = s.orders from congrArg Sales.orders hsales₁]
    rfl

theorem selling_processSuccess {inventory : List (InventoryId × SessionSeatInventory)}
    {session : EventSession} {event : Event} (hfound : s.attempts.lookup attemptId = some a)
    (hordered : s.orders.lookup a.orderId = some order)
    (hsource : s.holds.lookup order.sourceHoldId = some hold)
    (hopen : isTerminalPaymentStatus a.status = false) (hfulfilled : order.status ≠ .FULFILLED)
    (hunbooked : ∀ k b, s.bookings.lookup k = some b → b.orderId ≠ a.orderId)
    (hinventory : ∀ id row, (id, row) ∈ inventory → s.inventory.lookup id = some row) :
    (processSuccess webhookId attemptId a.orderId order hold inventory session event fresh
      now).Ensures s fun _ s' => s.Sells s' := by
  unfold processSuccess
  extract_lets target decision
  have hreview : ∀ code, (markWebhookReview webhookId (some target) code now true).Ensures s
      fun _ s' => s.Sells s' := fun code =>
    (ensures_markWebhookReview_paid code hfound hordered hopen).mono
      fun _ _ h => .of_step (.capturedUnfulfilled h)
  rcases hdecision : decision with _ | _ | code
  · obtain ⟨horder, hactive, -⟩ := decidePaidFulfillment_fulfill hdecision
    dsimp only
    split
    · rename_i hmatch
      obtain ⟨-, hlength, hitems⟩ := snapshotsMatch_eq_true hmatch
      refine (ensures_fulfillOrder hfound hordered hsource hopen horder hactive hunbooked hlength
        (fun item hitem => ?_) fun item hitem => ?_).mono fun _ _ h => .of_step (.fulfilled h)
      · obtain ⟨⟨held, hheld, hid⟩, -⟩ := hitems item hitem
        exact List.mem_map.mpr ⟨held, hheld, hid⟩
      · obtain ⟨-, row, hrow, hstate, hpoints, -⟩ := hitems item hitem
        exact ⟨row, hinventory _ _ hrow, hstate, hpoints⟩
    · exact hreview _
  · exact absurd (decidePaidFulfillment_idempotent hdecision) hfulfilled
  · dsimp only
    split
    · refine ensures_bind.mpr ((ensures_releaseExpiredHoldsForSession _ _).mono
        fun _ s₁ ⟨ids, hends⟩ => ?_)
      have hattempts : s₁.attempts = s.attempts := congrArg Sales.attempts hends.rest
      have horders : s₁.orders = s.orders := congrArg Sales.orders hends.rest
      refine (ensures_markWebhookReview_paid code.code (hattempts ▸ hfound) (horders ▸ hordered)
        hopen).mono fun _ s₂ h => ?_
      have hended : s.Sells s₁ := .of_step (.ended hends)
      exact hended.trans (.of_step (.capturedUnfulfilled h))
    · exact hreview _

/-- **Processing a payment event** takes a step of the machine, or two, or none. -/
theorem selling_processPayment (webhook : PaymentWebhookEvent)
    (normalizedStatus : PaymentAttemptStatus) :
    Selling (processPayment webhookId webhook normalizedStatus attemptId fresh now) := by
  refine fun s => ensures_bind.mpr (ensures_lock.mpr ?_)
  refine ensures_bind.mpr (ensures_findOrThrow.mpr fun a hfound => ?_)
  refine ensures_bind.mpr (ensures_lock.mpr ?_)
  refine ensures_bind.mpr (ensures_findOrThrow.mpr fun order hordered => ?_)
  refine ensures_bind.mpr (ensures_findMany.mpr (ensures_bind.mpr (ensures_lock.mpr ?_)))
  refine ensures_bind.mpr (ensures_findOrThrow.mpr fun hold hsource => ?_)
  refine ensures_bind.mpr (ensures_lockMany.mpr ?_)
  refine ensures_bind.mpr (ensures_findOrThrow.mpr fun session _ => ?_)
  refine ensures_bind.mpr (ensures_findOrThrow.mpr fun event _ => ?_)
  dsimp only
  split
  · exact selling_of_framing (sales_closeWebhook _ _ _ _) s
  · rename_i hunbooked
    rw [not_or, not_not] at hunbooked
    split
    · exact selling_of_framing (sales_markWebhookReview_preserving _ _ _) s
    · rename_i hcontradictory
      split
      · exact selling_of_framing (sales_closeWebhook _ _ _ _) s
      · rename_i hsame
        have hopen : isTerminalPaymentStatus a.status = false := by
          by_contra hterminal
          rw [Bool.not_eq_false] at hterminal
          have hne : a.status ≠ normalizedStatus := fun heq => hsame ⟨hterminal, heq⟩
          simp [isContradictoryTerminalStatus, hterminal, hne] at hcontradictory
        split
        · by_cases hpaid : normalizedStatus = .SUCCEEDED
          · rw [beq_iff_eq.mpr hpaid]
            exact (ensures_markWebhookReview_paid _ hfound hordered hopen).mono
              fun _ _ h => .of_step (.capturedUnfulfilled h)
          · rw [beq_eq_false_iff_ne.mpr hpaid]
            exact (ensures_markWebhookReview_unpaid _ hordered).mono
              fun _ _ h => .of_step (.reviewed h)
        · split
          · exact (ensures_failPayment hfound hordered hopen).mono fun _ _ h => .of_step (.failed h)
          · split
            · exact (ensures_recordPendingPayment hfound hopen).mono
                fun _ _ h => .of_step (.awaits h)
            · refine selling_processSuccess hfound hordered hsource hopen hunbooked.2
                (fun k b hb heq => ?_) fun id row hmem => (Table.mem_select.mp hmem).1
              have hmem : (k, b) ∈ s.bookings.select fun _ b => b.orderId == a.orderId :=
                Table.mem_select.mpr ⟨hb, beq_iff_eq.mpr heq⟩
              have hnil : (s.bookings.select fun _ b => b.orderId == a.orderId) = [] := hunbooked.1
              rw [hnil] at hmem
              cases hmem

theorem selling_processInTransaction (webhookId : WebhookId) (fresh : FreshBooking) (now : Time) :
    Selling (processInTransaction webhookId fresh now) := by
  refine Selling.runInTransaction (Selling.bind (selling_of_framing steps_lock) fun _ => ?_)
  refine Selling.bind (selling_of_framing steps_findOrThrow) fun webhook => ?_
  split
  · exact selling_of_framing steps_pure
  · refine Selling.bind (selling_of_framing steps_require) fun _ => ?_
    split
    · split
      · exact selling_of_framing (sales_closeWebhook _ _ _ _)
      · exact selling_processPayment _ _
    · exact fun _ => ensures_abort.mpr trivial

theorem sells_processVerifiedWebhookRecord (webhookId : WebhookId) (fresh : FreshBooking)
    (now : Time) (db : Db) : db.Sells (processVerifiedWebhookRecord webhookId fresh now db) := by
  unfold processVerifiedWebhookRecord
  split
  · rename_i db' hrun
    exact selling_processInTransaction webhookId fresh now db () db' hrun
  · exact .of_eq rfl
  · refine Ensures.commit (Q := fun s' => db.Sells s') ?_ (.of_eq rfl)
    exact ensures_bind.mpr (ensures_updateMany.mpr fun _ => ensures_pure.mpr (.of_eq rfl))

/-! ## §8 Any transaction -/

/-- **A commerce transaction takes steps of the sales machine.** -/
theorem CommerceTransaction.sells (t : CommerceTransaction) (db : Db) : db.Sells (t.commit db) := by
  have hcommit : ∀ {α : Type} {p : Sql α}, Selling p → db.Sells (p.commit db) :=
    fun hp => Ensures.commit (hp db) (.of_eq rfl)
  cases t with
  | acquireSeatHold => exact hcommit (selling_acquireSeatHold _ _ _ _ _)
  | releaseSeatHold => exact hcommit (selling_releaseSeatHold _ _ _)
  | sweepExpiredHolds => exact hcommit (selling_sweepExpiredHolds _ _)
  | cancelEventSession => exact hcommit (selling_cancelEventSession _ _)
  | createCheckoutOrder => exact hcommit (selling_createCheckoutOrder _ _ _ _ _)
  | recordPaymentIntent => exact hcommit (selling_recordPaymentIntent _ _ _)
  | expireUnpaidCheckoutOrders => exact hcommit (selling_expireUnpaidCheckoutOrders _ _)
  | storeVerifiedWebhook provider event fresh now =>
      refine hcommit (Selling.bind (selling_of_framing steps_findMany) fun attempts => ?_)
      refine Selling.bind (selling_of_framing steps_findMany) fun existing => ?_
      split
      · exact selling_of_framing steps_pure
      · exact selling_of_framing (Steps.bind (steps_insert fun _ _ _ => rfl) fun _ => steps_pure)
  | processVerifiedWebhookRecord webhookId fresh now =>
      exact sells_processVerifiedWebhookRecord webhookId fresh now db

end SeatFlow
