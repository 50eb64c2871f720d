import SeatFlow.Commerce.HoldService
import SeatFlow.Database.Coherence

/-!
# Swept and lazy expiry

A hold past its expiry is ended by whoever comes first: the sweeper, batch by batch
over all sessions, or a transaction on its session. Both are instances of one effect,
`Db.Expires`: a set of overdue holds ends, the inventory pointing at them is free
again and each is announced once. Such effects compose, and two of them that leave
nothing overdue agree.
-/

namespace SeatFlow

open Relational Program Entity

/-! ## §1 The two of them, to the end -/

/-- What a run of the sweeper reports. -/
structure ExpirySweepResult where
  holdsExpired : Nat := 0
  seatsReleased : Nat := 0
  batches : Nat := 0
  deriving DecidableEq

/-- The loop of `sweepExpiredHolds`: batches, each of them a transaction, until one finds
nothing or `maxBatches` are done. An error ends it and keeps the batches before. `none`
is a loop that needs more than `fuel` rounds. -/
def sweepBatches (batchSize : Nat) (maxBatches : Option Nat) (now : Time) :
    Nat → ExpirySweepResult → Db → Option (Except Failure ExpirySweepResult × Db)
  | 0, _, _ => none
  | fuel + 1, result, db =>
      if maxBatches.all (result.batches < ·) then
        match (sweepExpiredHolds batchSize now).run db with
        | .error e => some (.error e, db)
        | .ok ((holds, seats), db') =>
            if holds = 0 then some (.ok result, db')
            else sweepBatches batchSize maxBatches now fuel
              { holdsExpired := result.holdsExpired + holds
                seatsReleased := result.seatsReleased + seats
                batches := result.batches + 1 } db'
      else some (.ok result, db)

/-- Lazy expiry of one session after another, each in a transaction of its own. -/
def releaseExpiredHoldsForEach (now : Time) : List SessionId → Db → Except Failure Db
  | [], db => .ok db
  | sessionId :: sessionIds, db => do
      let (_, db') ← (runInTransaction (releaseExpiredHoldsForSession sessionId now)).run db
      releaseExpiredHoldsForEach now sessionIds db'

/-! ## §2 Expiring a set of holds -/

/-- An active hold past its expiry. -/
def SeatHold.overdue (now : Time) (h : SeatHold) : Bool :=
  h.status == .ACTIVE && h.expiresAt ≤ now

theorem SeatHold.overdue_iff {now : Time} {h : SeatHold} :
    h.overdue now = true ↔ h.status = .ACTIVE ∧ h.expiresAt ≤ now := by
  simp [SeatHold.overdue]

theorem SeatHold.rowOk_expired {h : SeatHold} (hok : h.RowOk) (hactive : h.status = .ACTIVE)
    (now : Time) : (h.expired now).RowOk where
  expiry := hok.expiry
  lifecycle := by
    have hlifecycle := hok.lifecycle
    simp only [SeatHold.lifecycleCheck, hactive, Bool.and_eq_true] at hlifecycle
    simp [SeatHold.lifecycleCheck, SeatHold.expired, hlifecycle]

def Db.Overdue (db : Db) (now : Time) (id : HoldId) : Prop :=
  ∃ h, db.holds.lookup id = some h ∧ h.overdue now = true

/-- What expiry relies on: the constraints of holds and inventory, and that the expiry of an
active hold has not been announced. -/
structure Db.Expirable (db : Db) : Prop where
  holds : seatHoldConstraints.Coherent db
  inventory : sessionSeatInventoryConstraints.Coherent db
  unannounced : ∀ id h, db.holds.lookup id = some h → h.status = .ACTIVE →
    db.inventoryOutbox.lookup (.holdExpired id) = none
  idle : db.deferred = []

/-- The holds `ids` are announced as expired, and nothing else is. -/
def Db.Announces (db : Db) (ids : List HoldId) (db' : Db) : Prop :=
  ∀ key, (db'.inventoryOutbox.lookup key).isSome ↔
    (db.inventoryOutbox.lookup key).isSome ∨ ∃ id ∈ ids, key = .holdExpired id

theorem Db.Announces.refl {db : Db} : db.Announces [] db := by
  simp [Db.Announces]

theorem Db.Announces.trans {ids ids' : List HoldId} {db db' db'' : Db} (h : db.Announces ids db')
    (h' : db'.Announces ids' db'') : db.Announces (ids ++ ids') db'' := by
  intro key
  rw [h' key, h key]
  simp only [List.mem_append, or_and_right, exists_or, or_assoc]

theorem Db.Announces.absent {ids : List HoldId} {db db' : Db} {id : HoldId}
    (h : db.Announces ids db') (hnone : db.inventoryOutbox.lookup (.holdExpired id) = none)
    (hid : id ∉ ids) : db'.inventoryOutbox.lookup (.holdExpired id) = none := by
  rw [← Option.not_isSome_iff_eq_none, h, hnone]
  simpa using hid

theorem Db.announces_insert (db : Db) (id : HoldId) (event : InventoryEvent) :
    db.Announces [id]
      { db with inventoryOutbox := db.inventoryOutbox.insert (.holdExpired id) event } := by
  intro key
  rw [Table.lookup_insert_ite]
  by_cases hkey : key = .holdExpired id
  · simp [hkey]
  · simp [hkey]

/-- The holds `ids`, all of them overdue, expired: nothing else is different. -/
structure Db.Expires (now : Time) (ids : List HoldId) (db db' : Db) : Prop where
  due : ∀ id ∈ ids, db.Overdue now id
  holds : db.holds.Mapped (fun id h => if id ∈ ids then h.expired now else h) db'.holds
  inventory : db.inventory.Mapped
    (fun _ row => if ∃ id ∈ ids, row.currentHoldId = some id then row.vacated else row)
    db'.inventory
  outbox : db.Announces ids db'
  rest : db' = { db with
    holds := db'.holds
    inventory := db'.inventory
    inventoryOutbox := db'.inventoryOutbox }

namespace Db.Expires

variable {now : Time} {ids ids' : List HoldId} {db db' db'' : Db}

theorem refl (now : Time) (db : Db) : Expires now [] db db where
  due := by simp
  holds := by simpa using Table.mapped_id db.holds
  inventory := by simpa using Table.mapped_id db.inventory
  outbox := .refl
  rest := rfl

/-- What is overdue afterwards was there before and is not among the expired. -/
theorem lookup_of_overdue (h : Expires now ids db db') {id : HoldId} {hold : SeatHold}
    (hlook' : db'.holds.lookup id = some hold) (hdue : hold.overdue now = true) :
    db.holds.lookup id = some hold ∧ id ∉ ids := by
  obtain ⟨old, hlook, rfl⟩ := h.holds.cases hlook'
  by_cases hmem : id ∈ ids
  · simp [hmem, SeatHold.overdue, SeatHold.expired] at hdue
  · rw [if_neg hmem]
    exact ⟨hlook, hmem⟩

theorem overdue_iff (h : Expires now ids db db') {id : HoldId} :
    db'.Overdue now id ↔ db.Overdue now id ∧ id ∉ ids := by
  constructor
  · rintro ⟨hold, hlook', hdue⟩
    obtain ⟨hlook, hmem⟩ := h.lookup_of_overdue hlook' hdue
    exact ⟨⟨hold, hlook, hdue⟩, hmem⟩
  · rintro ⟨⟨hold, hlook, hdue⟩, hmem⟩
    have hlook' := h.holds.lookup hlook
    rw [if_neg hmem] at hlook'
    exact ⟨hold, hlook', hdue⟩

theorem trans (h : Expires now ids db db') (h' : Expires now ids' db' db'') :
    Expires now (ids ++ ids') db db'' where
  due := by
    intro id hid
    rcases List.mem_append.mp hid with hold | hnew
    · exact h.due id hold
    · exact (h.overdue_iff.mp (h'.due id hnew)).1
  holds := by
    intro id
    rw [h'.holds id, h.holds id, Option.map_map]
    refine congrArg (Option.map · _) (funext fun hold => ?_)
    by_cases hmem : id ∈ ids <;> by_cases hmem' : id ∈ ids' <;>
      simp [hmem, hmem', SeatHold.expired]
  inventory := by
    intro id
    rw [h'.inventory id, h.inventory id, Option.map_map]
    refine congrArg (Option.map · _) (funext fun row => ?_)
    by_cases hold : ∃ k ∈ ids, row.currentHoldId = some k
    · -- a vacated row points at no hold, so the second step leaves it
      have hboth : ∃ k ∈ ids ++ ids', row.currentHoldId = some k := by
        obtain ⟨k, hk, hrow⟩ := hold
        exact ⟨k, List.mem_append_left _ hk, hrow⟩
      simp only [Function.comp_apply, if_pos hold, if_pos hboth]
      exact if_neg (by simp [SessionSeatInventory.vacated])
    · have hiff : (∃ k ∈ ids ++ ids', row.currentHoldId = some k) ↔
          ∃ k ∈ ids', row.currentHoldId = some k := by
        simp only [List.mem_append, or_and_right, exists_or, hold, false_or]
      simp only [Function.comp_apply, if_neg hold, hiff]
  outbox := h.outbox.trans h'.outbox
  rest := by
    rw [h'.rest, h.rest]

/-- Expiry keeps what it relies on. -/
theorem expirable (h : Expires now ids db db') (hdb : db.Expirable) : db'.Expirable where
  holds := by
    refine Table.Coherent.mapped hdb.holds seatHoldConstraints.symm h.holds ?_ ?_
    · intro id hold hlook
      have hok : hold.RowOk := hdb.holds.row id hold hlook
      split
      · rename_i hmem
        obtain ⟨_, hlook', hdue⟩ := h.due id hmem
        cases hlook.symm.trans hlook'
        exact SeatHold.rowOk_expired hok (SeatHold.overdue_iff.mp hdue).1 now
      · exact hok
    · intro id hold other hlook hapart
      split
      · exact ⟨hapart.token, hapart.key, by simp [SeatHold.expired]⟩
      · exact hapart
  inventory := by
    refine Table.Coherent.mapped hdb.inventory sessionSeatInventoryConstraints.symm h.inventory
      ?_ ?_
    · intro id row hlook
      have hok : row.RowOk := hdb.inventory.row id row hlook
      split
      · exact ⟨hok.price, rfl⟩
      · exact hok
    · intro id row other hlook hapart
      split
      · exact hapart
      · exact hapart
  unannounced := by
    intro id hold' hlook' hactive
    obtain ⟨hold, hlook, rfl⟩ := h.holds.cases hlook'
    by_cases hmem : id ∈ ids
    · simp [hmem, SeatHold.expired] at hactive
    · rw [if_neg hmem] at hactive
      exact h.outbox.absent (hdb.unannounced id hold hlook hactive) hmem
  idle := by
    rw [h.rest]
    exact hdb.idle

end Db.Expires

/-! ## §3 The transactions -/

section Transactions

variable {now : Time} {ids : List HoldId} {db : Db}

theorem commits_deferAll {triggers : List DeferredTrigger} {Q : Unit → Db → Prop} :
    (deferAll triggers).Commits db Q ↔
      Q () { db with deferred := triggers.reverse ++ db.deferred } := by
  induction triggers generalizing db with
  | nil => exact commits_pure
  | cons trigger triggers ih =>
      refine commits_bind.trans ?_
      have hfirst : (defer trigger).Commits db (fun _ s => (deferAll triggers).Commits s Q) ↔
          (deferAll triggers).Commits { db with deferred := trigger :: db.deferred } Q := by
        rw [defer, commits_perform]
        constructor
        · rintro ⟨eff, ⟨⟩, hrest⟩
          exact hrest
        · intro hrest
          exact ⟨_, rfl, hrest⟩
      rw [hfirst, ih, List.reverse_cons, List.append_assoc]
      rfl

theorem commits_updateHolds_expired (hdb : seatHoldConstraints.Coherent db)
    {p : HoldId → SeatHold → Bool}
    (hp : ∀ id h, db.holds.lookup id = some h → p id h = true → h.status = .ACTIVE)
    {Q : List (HoldId × SeatHold) → Db → Prop}
    (hQ : ∀ updated holds, updated.map Prod.fst = (db.holds.select p).map Prod.fst →
      db.holds.Mapped (fun id h => if p id h then h.expired now else h) holds →
      Q updated { db with
        holds := holds
        deferred := ((updated.map Prod.fst).map .verifyHoldConversion).reverse ++ db.deferred }) :
    (updateHolds p (·.expired now)).Commits db Q := by
  refine commits_bind.mpr (commits_updateMany.mpr ⟨?_, ?_⟩)
  · intro id h hlook hph
    have hactive := hp id h hlook hph
    refine Constraints.validate_update (C := seatHoldConstraints) hdb hlook
      (SeatHold.rowOk_expired (hdb.row id h hlook) hactive now) (fun x hx => ?_) ?_
    · exact ⟨hx.token, hx.key, by simp [SeatHold.expired]⟩
    · simp [seatHoldConstraints, SeatHold.protectIdentity, SeatHold.SameIdentity,
        SeatHold.expired, hactive]
  · refine commits_bind.mpr (commits_deferAll.mpr (commits_pure.mpr ?_))
    have hdone := hQ (db.holds.updates p fun _ h => h.expired now) _
      (Table.updates_map_fst _ _ _) (Table.mapped_updates _ _ _)
    rwa [List.map_map] at hdone

theorem commits_releaseInventoryForHolds (hdb : sessionSeatInventoryConstraints.Coherent db)
    {Q : Nat → Db → Prop}
    (hQ : ∀ vacated inventory, db.inventory.Mapped
        (fun _ row => if ∃ id ∈ ids, row.currentHoldId = some id then row.vacated else row)
        inventory → Q vacated { db with inventory := inventory }) :
    (releaseInventoryForHolds ids).Commits db Q := by
  unfold releaseInventoryForHolds
  split
  · rename_i hnil
    subst hnil
    refine commits_pure.mpr (hQ 0 db.inventory ?_)
    simpa using Table.mapped_id db.inventory
  · refine commits_bind.mpr (commits_updateMany.mpr ⟨?_, commits_pure.mpr (hQ _ _ ?_)⟩)
    · intro id row hlook hpoints
      have hok : row.RowOk := hdb.row id row hlook
      refine Constraints.validate_update (C := sessionSeatInventoryConstraints) hdb hlook
        ⟨hok.price, rfl⟩ (fun _ hx => hx) ?_
      have hstate : row.state ≠ .BOOKED := by
        intro hbooked
        have hcheck := hok.state
        simp only [SessionSeatInventory.stateCheck, hbooked, Bool.and_eq_true,
          Option.isNone_iff_eq_none] at hcheck
        simp [hcheck.1] at hpoints
      simp [sessionSeatInventoryConstraints, SessionSeatInventory.protectSnapshot,
        SessionSeatInventory.snapshot, SessionSeatInventory.vacated, hstate]
    · refine (Table.mapped_updates _ _ _).congr fun id row _ => ?_
      have hiff : row.currentHoldId.any ids.contains = true ↔
          ∃ id ∈ ids, row.currentHoldId = some id := by
        rw [Option.any_eq_true]
        constructor
        · rintro ⟨k, hrow, hk⟩
          exact ⟨k, by simpa using hk, hrow⟩
        · rintro ⟨k, hk, hrow⟩
          exact ⟨k, hrow, by simpa using hk⟩
      simp only [hiff]

theorem commits_enqueueExpiredHoldEvents {sessionId : SessionId} (hnodup : ids.Nodup)
    (habsent : ∀ id ∈ ids, db.inventoryOutbox.lookup (.holdExpired id) = none)
    {Q : Unit → Db → Prop}
    (hQ : ∀ db', db' = { db with inventoryOutbox := db'.inventoryOutbox } →
      db.Announces ids db' → Q () db') :
    (enqueueExpiredHoldEvents sessionId now ids).Commits db Q := by
  induction ids generalizing db with
  | nil => exact commits_pure.mpr (hQ db rfl .refl)
  | cons id ids ih =>
      obtain ⟨hfresh, hnodup⟩ := List.nodup_cons.mp hnodup
      refine commits_bind.mpr (commits_insert.mpr ⟨habsent id List.mem_cons_self, rfl, ?_⟩)
      have hfirst := Db.announces_insert db id { sessionId := sessionId, createdAt := now }
      refine ih hnodup (fun k hk => ?_) fun db' hrest htail => ?_
      · refine hfirst.absent (habsent k (List.mem_cons_of_mem _ hk)) ?_
        rw [List.mem_singleton]
        rintro rfl
        exact hfresh hk
      · refine hQ db' ?_ (hfirst.trans htail)
        rw [hrest]
        rfl

theorem commits_enqueueSweptHoldEvents {claimed : List (HoldId × SeatHold)}
    (hnodup : (claimed.map Prod.fst).Nodup)
    (habsent : ∀ id ∈ claimed.map Prod.fst, db.inventoryOutbox.lookup (.holdExpired id) = none)
    {Q : Unit → Db → Prop}
    (hQ : ∀ db', db' = { db with inventoryOutbox := db'.inventoryOutbox } →
      db.Announces (claimed.map Prod.fst) db' → Q () db') :
    (enqueueSweptHoldEvents now claimed).Commits db Q := by
  induction claimed generalizing db with
  | nil => exact commits_pure.mpr (hQ db rfl .refl)
  | cons hold claimed ih =>
      rw [List.map_cons] at hnodup habsent hQ
      obtain ⟨hfresh, hnodup⟩ := List.nodup_cons.mp hnodup
      refine commits_bind.mpr (commits_enqueueExpiredHoldEvents (List.nodup_singleton _) ?_ ?_)
      · intro id hid
        rw [List.mem_singleton] at hid
        exact hid ▸ habsent hold.1 List.mem_cons_self
      · intro db₁ hrest₁ hfirst
        refine ih hnodup (fun k hk => ?_) fun db' hrest htail => ?_
        · refine hfirst.absent (habsent k (List.mem_cons_of_mem _ hk)) ?_
          rw [List.mem_singleton]
          rintro rfl
          exact hfresh hk
        · refine hQ db' ?_ (hfirst.trans htail)
          rw [hrest, hrest₁]

/-- **What the statements leave** once the holds `ids` are expired, their inventory is free
and they are announced: the queued triggers accept it. -/
theorem expires_of_statements (hdb : db.Expirable) (hdue : ∀ id ∈ ids, db.Overdue now id)
    {queued : List HoldId} (hqueued : ∀ id ∈ queued, id ∈ ids)
    {holds : Table HoldId SeatHold} {inventory : Table InventoryId SessionSeatInventory} {db' : Db}
    (hholds : db.holds.Mapped (fun id h => if id ∈ ids then h.expired now else h) holds)
    (hinventory : db.inventory.Mapped
      (fun _ row => if ∃ id ∈ ids, row.currentHoldId = some id then row.vacated else row) inventory)
    (houtbox : db.Announces ids db')
    (hrest : db' = { db with
      holds := holds
      inventory := inventory
      inventoryOutbox := db'.inventoryOutbox
      deferred := (queued.map .verifyHoldConversion).reverse ++ db.deferred }) :
    checkAll (DeferredTrigger.check db') db'.deferred = .ok () ∧
      Db.Expires now ids db { db' with deferred := [] } := by
  have hfields : db'.holds = holds ∧ db'.inventory = inventory ∧
      db'.deferred = (queued.map .verifyHoldConversion).reverse := by
    rw [hrest, hdb.idle]
    exact ⟨rfl, rfl, List.append_nil _⟩
  obtain ⟨rfl, rfl, hqueue⟩ := hfields
  constructor
  · rw [checkAll_eq_ok, hqueue]
    intro trigger htrigger
    obtain ⟨id, hid, rfl⟩ := List.mem_map.mp (List.mem_reverse.mp htrigger)
    obtain ⟨hold, hlook, -⟩ := hdue id (hqueued id hid)
    have hlook' := hholds.lookup hlook
    rw [if_pos (hqueued id hid)] at hlook'
    simp [DeferredTrigger.check, SeatHold.verifyConversion, hlook', SeatHold.expired]
  · refine ⟨hdue, hholds, hinventory, houtbox, ?_⟩
    rw [hrest, hdb.idle]

/-- Nothing to do is done. -/
theorem checked_idle (now : Time) (hdb : db.Expirable) :
    checkAll (DeferredTrigger.check db) db.deferred = .ok () ∧
      Db.Expires now [] db { db with deferred := [] } := by
  have hsame : { db with deferred := [] } = db := by
    rw [← hdb.idle]
  rw [hdb.idle, hsame]
  exact ⟨rfl, .refl now db⟩

/-- One session: all of its overdue holds expire. -/
theorem commits_releaseExpiredHolds (hdb : db.Expirable) (sessionId : SessionId) (now : Time) :
    (runInTransaction (releaseExpiredHoldsForSession sessionId now)).Commits db fun _ db' =>
      ∃ ids, Db.Expires now ids db db' ∧
        ∀ id hold, db.holds.lookup id = some hold →
          (id ∈ ids ↔ hold.sessionId = sessionId ∧ hold.overdue now = true) := by
  let p (_ : HoldId) (h : SeatHold) : Bool :=
    h.sessionId == sessionId && h.status == .ACTIVE && h.expiresAt ≤ now
  have hp : ∀ id h, p id h = true ↔ h.sessionId = sessionId ∧ h.overdue now = true := by
    intro id h
    simp [p, SeatHold.overdue_iff, and_assoc]
  refine commits_runInTransaction (commits_bind.mpr ?_)
  refine commits_updateHolds_expired hdb.holds (p := p)
    (fun id h _ hph => (SeatHold.overdue_iff.mp ((hp id h).mp hph).2).1) ?_
  intro updated holds hids hholds
  generalize hupdated : updated.map Prod.fst = ids at hids ⊢
  have hmem : ∀ id, id ∈ ids ↔ ∃ h, db.holds.lookup id = some h ∧ p id h = true := by
    intro id
    simp only [hids, List.mem_map, Prod.exists, Table.mem_select, exists_and_right,
      exists_eq_right]
  have hdue : ∀ id ∈ ids, db.Overdue now id := by
    intro id hid
    obtain ⟨h, hlook, hph⟩ := (hmem id).mp hid
    exact ⟨h, hlook, ((hp id h).mp hph).2⟩
  have hnodup : ids.Nodup := hids ▸ Table.nodup_select_fst p db.holds
  refine commits_bind.mpr (commits_releaseInventoryForHolds ?_ ?_)
  · exact hdb.inventory
  intro vacated inventory hinventory
  refine commits_bind.mpr (commits_enqueueExpiredHoldEvents hnodup ?_ ?_)
  · intro id hid
    obtain ⟨h, hlook, hdue⟩ := hdue id hid
    exact hdb.unannounced id h hlook (SeatHold.overdue_iff.mp hdue).1
  · intro db' hrest houtbox
    refine commits_pure.mpr ?_
    have hmapped := hholds.congr fun id h hlook => by
      show (if p id h then h.expired now else h) = if id ∈ ids then h.expired now else h
      have hiff : id ∈ ids ↔ p id h = true := by
        rw [hmem id]
        constructor
        · rintro ⟨_, hlook', hph⟩
          cases Option.some.inj (hlook.symm.trans hlook')
          exact hph
        · exact fun hph => ⟨h, hlook, hph⟩
      simp only [hiff]
    obtain ⟨hchecked, hexpires⟩ :=
      expires_of_statements hdb hdue (fun _ hid => hid) hmapped hinventory houtbox hrest
    refine ⟨hchecked, ids, hexpires, fun id hold hlook => ?_⟩
    rw [← hp id hold, hmem id]
    constructor
    · rintro ⟨_, hlook', hph⟩
      cases Option.some.inj (hlook.symm.trans hlook')
      exact hph
    · exact fun hph => ⟨hold, hlook, hph⟩

/-- What a batch of the sweeper claims: the overdue holds that expired first. -/
def Db.overdueBatch (db : Db) (batchSize : Nat) (now : Time) : List (HoldId × SeatHold) :=
  ((db.holds.select fun _ h => h.status == .ACTIVE && h.expiresAt ≤ now).insertionSort
    fun a b => a.2.expiresAt ≤ b.2.expiresAt).take batchSize

theorem overdue_of_mem_batch {batchSize : Nat} {id : HoldId}
    (hid : id ∈ (db.overdueBatch batchSize now).map Prod.fst) : db.Overdue now id := by
  obtain ⟨e, he, rfl⟩ := List.mem_map.mp hid
  have hselected := (List.mem_insertionSort _).mp (List.mem_of_mem_take he)
  exact ⟨e.2, Table.mem_select.mp hselected⟩

theorem nodup_overdueBatch (db : Db) (batchSize : Nat) (now : Time) :
    ((db.overdueBatch batchSize now).map Prod.fst).Nodup := by
  have hsorted := ((List.perm_insertionSort
    (fun a b : HoldId × SeatHold => a.2.expiresAt ≤ b.2.expiresAt) (db.holds.select fun _ h =>
      h.status == .ACTIVE && h.expiresAt ≤ now)).map Prod.fst).nodup_iff.mpr
        (Table.nodup_select_fst _ db.holds)
  exact hsorted.sublist ((List.take_sublist _ _).map _)

theorem not_overdue_of_batch_eq_nil {batchSize : Nat} (hpos : 0 < batchSize)
    (hnone : db.overdueBatch batchSize now = []) (id : HoldId) : ¬db.Overdue now id := by
  rintro ⟨hold, hlook, hoverdue⟩
  have hsorted := (List.take_eq_nil_iff.mp hnone).resolve_left hpos.ne'
  have hselected : (id, hold) ∈ db.holds.select fun _ h =>
      h.status == .ACTIVE && h.expiresAt ≤ now :=
    Table.mem_select.mpr ⟨hlook, hoverdue⟩
  rw [← List.mem_insertionSort (fun a b : HoldId × SeatHold => a.2.expiresAt ≤ b.2.expiresAt),
    hsorted] at hselected
  cases hselected

/-- One batch: what it claims is overdue, and it claims something while anything is. -/
theorem commits_sweepExpiredHolds (hdb : db.Expirable) (batchSize : Nat) (now : Time) :
    (sweepExpiredHolds batchSize now).Commits db fun counted db' =>
      ∃ ids, Db.Expires now ids db db' ∧ ids.Nodup ∧ counted.1 = ids.length ∧
        (ids = [] → db' = db) ∧ (0 < batchSize → ids = [] → ∀ id, ¬db.Overdue now id) := by
  refine commits_runInTransaction (commits_bind.mpr (commits_lockBatch.mpr ?_))
  rw [show (((Prisma.seatHold.get db).select fun _ h =>
      h.status == .ACTIVE && h.expiresAt ≤ now).insertionSort
        fun a b => a.2.expiresAt ≤ b.2.expiresAt).take batchSize
      = db.overdueBatch batchSize now from rfl]
  have hdue : ∀ id ∈ (db.overdueBatch batchSize now).map Prod.fst, db.Overdue now id :=
    fun _ => overdue_of_mem_batch
  have hnodup := nodup_overdueBatch db batchSize now
  have hall : 0 < batchSize → db.overdueBatch batchSize now = [] → ∀ id, ¬db.Overdue now id :=
    not_overdue_of_batch_eq_nil
  generalize db.overdueBatch batchSize now = claimed at hdue hnodup hall ⊢
  refine commits_ite.mpr ?_
  by_cases hnone : claimed = []
  · obtain ⟨hchecked, hsame⟩ := checked_idle now hdb
    refine .inl ⟨hnone, commits_pure.mpr ⟨hchecked, [], hsame, List.nodup_nil, rfl, fun _ => ?_,
      fun hpos _ => hall hpos hnone⟩⟩
    rw [← hdb.idle]
  · refine .inr ⟨hnone, ?_⟩
    generalize hids : claimed.map Prod.fst = ids at hdue hnodup
    let p (id : HoldId) (h : SeatHold) : Bool := ids.contains id && h.status == .ACTIVE
    have hp : ∀ id h, db.holds.lookup id = some h → (p id h = true ↔ id ∈ ids) := by
      intro id h hlook
      constructor
      · intro hph
        simpa using (Bool.and_eq_true_iff.mp hph).1
      · intro hid
        obtain ⟨h', hlook', hoverdue⟩ := hdue id hid
        cases hlook.symm.trans hlook'
        simp [p, hid, (SeatHold.overdue_iff.mp hoverdue).1]
    refine commits_bind.mpr (commits_updateHolds_expired hdb.holds (p := p)
      (fun id h _ hph => by simpa using (Bool.and_eq_true_iff.mp hph).2) ?_)
    intro updated holds hupdated hholds
    have hupdatedMem : ∀ id, id ∈ updated.map Prod.fst ↔ id ∈ ids := by
      intro id
      simp only [hupdated, List.mem_map, Prod.exists, Table.mem_select, exists_and_right,
        exists_eq_right]
      constructor
      · rintro ⟨h, hlook, hph⟩
        exact (hp id h hlook).mp hph
      · intro hid
        obtain ⟨h, hlook, -⟩ := hdue id hid
        exact ⟨h, hlook, (hp id h hlook).mpr hid⟩
    have hlength : updated.length = ids.length := by
      have hupdatedNodup : (updated.map Prod.fst).Nodup :=
        hupdated ▸ Table.nodup_select_fst p db.holds
      have hperm := (List.perm_ext_iff_of_nodup hupdatedNodup hnodup).mpr hupdatedMem
      rw [← hperm.length_eq, List.length_map]
    refine commits_bind.mpr (commits_releaseInventoryForHolds ?_ ?_)
    · exact hdb.inventory
    intro vacated inventory hinventory
    refine commits_bind.mpr (commits_enqueueSweptHoldEvents ?_ ?_ ?_)
    · rwa [hids]
    · intro id hid
      obtain ⟨h, hlook, hoverdue⟩ := hdue id (hids ▸ hid)
      exact hdb.unannounced id h hlook (SeatHold.overdue_iff.mp hoverdue).1
    · intro db' hrest houtbox
      have hmapped := hholds.congr fun id h hlook => by
        show (if p id h then h.expired now else h) = if id ∈ ids then h.expired now else h
        simp only [hp id h hlook]
      obtain ⟨hchecked, hexpires⟩ := expires_of_statements hdb hdue
        (fun id hid => (hupdatedMem id).mp hid) hmapped hinventory (hids ▸ houtbox) hrest
      have hsome : ids ≠ [] := by
        rw [← hids, Ne, List.map_eq_nil_iff]
        exact hnone
      exact commits_pure.mpr ⟨hchecked, ids, hexpires, hnodup, hlength,
        fun hempty => absurd hempty hsome, fun _ hempty => absurd hempty hsome⟩

/-- With nothing overdue a session's expiry does nothing. -/
theorem commits_releaseExpiredHolds_idle (hdb : db.Expirable) (hnone : ∀ id, ¬db.Overdue now id)
    (sessionId : SessionId) :
    (runInTransaction (releaseExpiredHoldsForSession sessionId now)).Commits db
      fun _ db' => db' = db := by
  let p (_ : HoldId) (h : SeatHold) : Bool :=
    h.sessionId == sessionId && h.status == .ACTIVE && h.expiresAt ≤ now
  have hselected : (Prisma.seatHold.get db).select p = [] := by
    refine List.eq_nil_iff_forall_not_mem.mpr fun e he => ?_
    obtain ⟨hlook, hp⟩ := Table.mem_select.mp he
    refine hnone e.1 ⟨e.2, hlook, ?_⟩
    rw [Bool.and_eq_true, Bool.and_eq_true] at hp
    simp only [SeatHold.overdue, Bool.and_eq_true]
    exact ⟨hp.1.2, hp.2⟩
  refine commits_runInTransaction (commits_bind.mpr (commits_bind.mpr
    (commits_updateMany.mpr ⟨fun id h hlook hp => ?_, ?_⟩)))
  · have hin : (id, h) ∈ (Prisma.seatHold.get db).select p := Table.mem_select.mpr ⟨hlook, hp⟩
    rw [hselected] at hin
    cases hin
  · have hupdates : (Prisma.seatHold.get db).updates p (fun _ h => h.expired now) = [] := by
      rw [Table.updates, hselected, List.map_nil]
    rw [hupdates, Table.putAll_nil, Prisma.seatHold.set_get]
    have hchecked := checked_idle now hdb
    refine commits_bind.mpr (commits_pure.mpr (commits_pure.mpr ?_))
    refine commits_bind.mpr (commits_pure.mpr (commits_bind.mpr (commits_pure.mpr ?_)))
    refine commits_pure.mpr ⟨hchecked.1, ?_⟩
    rw [← hdb.idle]

end Transactions

/-! ## §4 To the end -/

def Db.overdueHolds (db : Db) (now : Time) : List HoldId :=
  (db.holds.select fun _ h => h.overdue now).map Prod.fst

theorem mem_overdueHolds {db : Db} {now : Time} {id : HoldId} :
    id ∈ db.overdueHolds now ↔ db.Overdue now id := by
  simp only [Db.overdueHolds, List.mem_map, Prod.exists, Table.mem_select, exists_and_right,
    exists_eq_right, Db.Overdue]

/-- Each hold that expires is one less to go. -/
theorem Db.Expires.length_overdueHolds {now : Time} {ids : List HoldId} {db db' : Db}
    (h : db.Expires now ids db') (hnodup : ids.Nodup) :
    (db'.overdueHolds now).length + ids.length ≤ (db.overdueHolds now).length := by
  rw [← List.length_append]
  have hboth : (db'.overdueHolds now ++ ids).Nodup := by
    refine List.nodup_append.mpr ⟨Table.nodup_select_fst _ _, hnodup, ?_⟩
    rintro id hleft _ hexpired rfl
    exact (h.overdue_iff.mp (mem_overdueHolds.mp hleft)).2 hexpired
  refine (List.subperm_of_subset hboth fun id hid => ?_).length_le
  rw [mem_overdueHolds]
  rcases List.mem_append.mp hid with hleft | hexpired
  · exact (h.overdue_iff.mp (mem_overdueHolds.mp hleft)).1
  · exact h.due id hexpired

/-- **Two ways of expiring everything that is overdue agree**: on the holds, on the
inventory and on what has been announced. -/
theorem Db.Expires.agree {now : Time} {ids ids' : List HoldId} {db db₁ db₂ : Db}
    (h₁ : db.Expires now ids db₁) (h₂ : db.Expires now ids' db₂)
    (hdone₁ : ∀ id, ¬db₁.Overdue now id) (hdone₂ : ∀ id, ¬db₂.Overdue now id) :
    (∀ id, db₁.holds.lookup id = db₂.holds.lookup id) ∧
      (∀ id, db₁.inventory.lookup id = db₂.inventory.lookup id) ∧
        ∀ key,
          (db₁.inventoryOutbox.lookup key).isSome ↔ (db₂.inventoryOutbox.lookup key).isSome := by
  have hall : ∀ {is : List HoldId} {db' : Db}, db.Expires now is db' →
      (∀ id, ¬db'.Overdue now id) → ∀ id, id ∈ is ↔ db.Overdue now id := by
    intro is db' h hdone id
    refine ⟨h.due id, fun hdue => ?_⟩
    by_contra hmem
    exact hdone id (h.overdue_iff.mpr ⟨hdue, hmem⟩)
  have hsame : ∀ id, id ∈ ids ↔ id ∈ ids' := fun id =>
    (hall h₁ hdone₁ id).trans (hall h₂ hdone₂ id).symm
  refine ⟨fun id => ?_, fun id => ?_, fun key => ?_⟩
  · rw [h₁.holds id, h₂.holds id]
    simp only [hsame]
  · rw [h₁.inventory id, h₂.inventory id]
    simp only [hsame]
  · rw [h₁.outbox key, h₂.outbox key]
    simp only [hsame]

/-- **The sweeper ends**, after no more batches than there are overdue holds, and leaves
none of them. -/
theorem sweepBatches_drains {batchSize : Nat} (hpos : 0 < batchSize) (now : Time) (fuel : Nat)
    (result : ExpirySweepResult) {db : Db} (hdb : db.Expirable)
    (hfuel : (db.overdueHolds now).length < fuel) :
    ∃ result' ids db', sweepBatches batchSize none now fuel result db = some (.ok result', db') ∧
      db.Expires now ids db' ∧ (∀ id, ¬db'.Overdue now id) ∧
        result'.batches ≤ result.batches + (db.overdueHolds now).length := by
  induction fuel generalizing result db with
  | zero => omega
  | succ fuel ih =>
      obtain ⟨⟨holds, seats⟩, db₁, hrun, ids, hexpires, hnodup, hcounted, -, hnone⟩ :=
        commits_sweepExpiredHolds hdb batchSize now
      dsimp only at hcounted
      have hless := hexpires.length_overdueHolds hnodup
      by_cases hzero : holds = 0
      · have hempty : ids = [] := List.length_eq_zero_iff.mp (hcounted ▸ hzero)
        refine ⟨result, ids, db₁, ?_, hexpires, fun id hdue => ?_, by omega⟩
        · simp [sweepBatches, hrun, hzero]
        · exact hnone hpos hempty id (hexpires.overdue_iff.mp hdue).1
      · obtain ⟨result', ids', db', hloop, hrest, hdone, hbatches⟩ := ih
          { holdsExpired := result.holdsExpired + holds
            seatsReleased := result.seatsReleased + seats
            batches := result.batches + 1 } (hexpires.expirable hdb) (by omega)
        refine ⟨result', ids ++ ids', db', ?_, hexpires.trans hrest, hdone, ?_⟩
        · simp [sweepBatches, hrun, hzero, hloop]
        · dsimp only at hbatches
          omega

/-- With nothing overdue the sweeper stops after its first look. -/
theorem sweepBatches_idle (batchSize : Nat) {now : Time} (fuel : Nat) (result : ExpirySweepResult)
    {db : Db} (hdb : db.Expirable) (hnone : ∀ id, ¬db.Overdue now id) :
    sweepBatches batchSize none now (fuel + 1) result db = some (.ok result, db) := by
  obtain ⟨⟨holds, seats⟩, db', hrun, ids, hexpires, -, hcounted, hsame, -⟩ :=
    commits_sweepExpiredHolds hdb batchSize now
  have hempty : ids = [] := List.eq_nil_iff_forall_not_mem.mpr fun id hid =>
    hnone id (hexpires.due id hid)
  have hzero : holds = 0 := hcounted.trans (List.length_eq_zero_iff.mpr hempty)
  rw [hsame hempty] at hrun
  simp [sweepBatches, hrun, hzero]

theorem releaseExpiredHoldsForEach_expires (now : Time) (sessionIds : List SessionId) {db : Db}
    (hdb : db.Expirable) :
    ∃ ids db', releaseExpiredHoldsForEach now sessionIds db = .ok db' ∧ db.Expires now ids db' ∧
      ∀ id hold, db'.holds.lookup id = some hold → hold.sessionId ∈ sessionIds →
        hold.overdue now = false := by
  induction sessionIds generalizing db with
  | nil => exact ⟨[], db, rfl, .refl now db, by simp⟩
  | cons sessionId sessionIds ih =>
      obtain ⟨expired, db₁, hrun, ids, hexpires, hids⟩ :=
        commits_releaseExpiredHolds hdb sessionId now
      obtain ⟨ids', db', hloop, hrest, hdone⟩ := ih (hexpires.expirable hdb)
      refine ⟨ids ++ ids', db', ?_, hexpires.trans hrest, fun id hold hlook hsession => ?_⟩
      · rw [releaseExpiredHoldsForEach, hrun]
        exact hloop
      · rcases List.mem_cons.mp hsession with hfirst | hlater
        · by_contra hdue
          rw [Bool.not_eq_false] at hdue
          have hbetween := (hrest.lookup_of_overdue hlook hdue).1
          obtain ⟨hbefore, hkept⟩ := hexpires.lookup_of_overdue hbetween hdue
          exact hkept ((hids id hold hbefore).mpr ⟨hfirst, hdue⟩)
        · exact hdone id hold hlook hlater

theorem releaseExpiredHoldsForEach_idle {now : Time} (sessionIds : List SessionId) {db : Db}
    (hdb : db.Expirable) (hnone : ∀ id, ¬db.Overdue now id) :
    releaseExpiredHoldsForEach now sessionIds db = .ok db := by
  induction sessionIds with
  | nil => rfl
  | cons sessionId sessionIds ih =>
      obtain ⟨expired, db', hrun, rfl⟩ := commits_releaseExpiredHolds_idle hdb hnone sessionId
      rw [releaseExpiredHoldsForEach, hrun]
      exact ih

/-- **Swept expiry equals lazy expiry.** Over any holds and any sessions that cover them, the
sweeper run to its end and lazy expiry of every session leave the same holds, the same
inventory and the same announcements; and running either of them again, after the one or
the other, changes nothing. -/
theorem sweepExpiredHolds_eq_releaseExpiredHoldsForEach {db : Db} (hdb : db.Expirable)
    {batchSize : Nat} (hpos : 0 < batchSize) (now : Time) (sessionIds : List SessionId)
    (hall : ∀ id hold, db.holds.lookup id = some hold → hold.sessionId ∈ sessionIds) :
    ∃ result swept released,
      sweepBatches batchSize none now ((db.overdueHolds now).length + 1) {} db
          = some (.ok result, swept) ∧
        result.batches ≤ (db.overdueHolds now).length ∧
        releaseExpiredHoldsForEach now sessionIds db = .ok released ∧
        (∀ id, swept.holds.lookup id = released.holds.lookup id) ∧
        (∀ id, swept.inventory.lookup id = released.inventory.lookup id) ∧
        (∀ key, (swept.inventoryOutbox.lookup key).isSome ↔
          (released.inventoryOutbox.lookup key).isSome) ∧
        ∀ again ∈ [swept, released],
          sweepBatches batchSize none now 1 {} again = some (.ok {}, again) ∧
            releaseExpiredHoldsForEach now sessionIds again = .ok again := by
  obtain ⟨result, ids, swept, hswept, hexpires, hdone, hbatches⟩ :=
    sweepBatches_drains hpos now ((db.overdueHolds now).length + 1) {} hdb (by omega)
  obtain ⟨ids', released, hreleased, hexpires', hsessions⟩ :=
    releaseExpiredHoldsForEach_expires now sessionIds hdb
  have hdone' : ∀ id, ¬released.Overdue now id := by
    rintro id ⟨hold, hlook, hdue⟩
    have hcovered := hall id hold (hexpires'.lookup_of_overdue hlook hdue).1
    rw [hsessions id hold hlook hcovered] at hdue
    cases hdue
  obtain ⟨hholds, hinventory, hannounced⟩ := hexpires.agree hexpires' hdone hdone'
  refine ⟨result, swept, released, hswept, ?_, hreleased, hholds, hinventory, hannounced, ?_⟩
  · simpa using hbatches
  · intro again hagain
    have hfinal : again.Expirable ∧ ∀ id, ¬again.Overdue now id := by
      rcases List.mem_cons.mp hagain with rfl | hlast
      · exact ⟨hexpires.expirable hdb, hdone⟩
      · rw [List.mem_singleton.mp hlast]
        exact ⟨hexpires'.expirable hdb, hdone'⟩
    exact ⟨sweepBatches_idle batchSize 0 {} hfinal.1 hfinal.2,
      releaseExpiredHoldsForEach_idle sessionIds hfinal.1 hfinal.2⟩

def lapsedHold : SeatHold :=
  { publicToken := 1, sessionId := 1, userId := 1, idempotencyKey := 1, expiresAt := 10,
    createdAt := 0 }

/-- Two sessions, each with a hold that has expired and the seat it still occupies. -/
def lapsedHolds : Db :=
  { holds := (AList.singleton 1 lapsedHold).insert 2
      { lapsedHold with publicToken := 2, sessionId := 2, expiresAt := 20 }
    inventory := AList.singleton 1
      { sessionId := 1, seatId := 1, sectionId := 1, priceTierId := 1, priceMinor := 600,
        currency := .USD, state := .HELD, currentHoldId := some 1, holdExpiresAt := some 10 } }

theorem lapsedHolds_expirable : lapsedHolds.Expirable where
  holds := by
    refine (Table.coherent_singleton ⟨by decide, rfl⟩).insert seatHoldConstraints.symm
      ⟨by decide, rfl⟩ fun k h hlook _ => ?_
    have hfirst := Table.forall_lookup (t := AList.singleton 1 lapsedHold)
      (p := fun _ h => h = lapsedHold) (by simp [Table.rows]) k h hlook
    subst hfirst
    exact ⟨by decide, by decide, by decide⟩
  inventory := Table.coherent_singleton ⟨by decide, rfl⟩
  unannounced := fun _ _ _ _ => rfl
  idle := rfl

theorem sweepExpiredHolds_eq_releaseExpiredHoldsForEach_lapsed :
    ∃ result swept released,
      sweepBatches 1 none 50 3 {} lapsedHolds = some (.ok result, swept) ∧
        result.batches ≤ 2 ∧
        releaseExpiredHoldsForEach 50 [1, 2] lapsedHolds = .ok released ∧
        (∀ id, swept.holds.lookup id = released.holds.lookup id) ∧
        (∀ id, swept.inventory.lookup id = released.inventory.lookup id) ∧
        (∀ key, (swept.inventoryOutbox.lookup key).isSome ↔
          (released.inventoryOutbox.lookup key).isSome) ∧
        ∀ again ∈ [swept, released],
          sweepBatches 1 none 50 1 {} again = some (.ok {}, again) ∧
            releaseExpiredHoldsForEach 50 [1, 2] again = .ok again :=
  sweepExpiredHolds_eq_releaseExpiredHoldsForEach lapsedHolds_expirable (by decide) 50 [1, 2]
    (Table.forall_lookup (p := fun _ (hold : SeatHold) => hold.sessionId ∈ [1, 2]) (by decide))

end SeatFlow
