import SeatFlow.Commerce.Policy

/-!
# Holds

`hold-service`, `expiry-service` and the cancellation of a session. A hold is
acquired over all of its seats or not at all, and ends by release, expiry or
conversion into a booking; the first two free its inventory in the same
transaction. Generated identifiers and the clock of the database are inputs
(`FreshHold`).
-/

namespace SeatFlow

open Relational Program

/-! ## §1 Statements -/

/-- Queue a deferred trigger for each of several rows. -/
def deferAll : List DeferredTrigger → Sql Unit
  | [] => pure ()
  | trigger :: triggers => do
      defer trigger
      deferAll triggers

/-- `UPDATE SeatHold SET status, … WHERE p RETURNING`, with its constraint
trigger. -/
def updateHolds (p : HoldId → SeatHold → Bool) (f : SeatHold → SeatHold) :
    Sql (List (HoldId × SeatHold)) := do
  let updated ← Prisma.seatHold.updateMany p fun _ => f
  deferAll (updated.map fun e => .verifyHoldConversion e.1)
  pure updated

def enqueueInventoryEvent (key : InventoryEventKey) (sessionId : SessionId) (now : Time) :
    Sql Unit :=
  Prisma.inventoryEventOutbox.insert key { sessionId := sessionId, createdAt := now }

def enqueueExpiredHoldEvents (sessionId : SessionId) (now : Time) : List HoldId → Sql Unit
  | [] => pure ()
  | holdId :: holdIds => do
      enqueueInventoryEvent (.holdExpired holdId) sessionId now
      enqueueExpiredHoldEvents sessionId now holdIds

/-! ## §2 Ending holds -/

def SeatHold.released (h : SeatHold) (now : Time) : SeatHold :=
  { h with status := .RELEASED, releasedAt := some now }

def SeatHold.expired (h : SeatHold) (now : Time) : SeatHold :=
  { h with status := .EXPIRED, expiredAt := some now }

/-- The row is free again. -/
def SessionSeatInventory.vacated (row : SessionSeatInventory) : SessionSeatInventory :=
  { row with state := .AVAILABLE, currentHoldId := none, holdExpiresAt := none }

/-- Free the inventory that points at ended holds. -/
def releaseInventoryForHolds (holdIds : List HoldId) : Sql Nat :=
  if holdIds = [] then pure 0
  else do
    let vacated ← Prisma.sessionSeatInventory.updateMany
      (fun _ row => row.currentHoldId.any holdIds.contains) fun _ row => row.vacated
    pure vacated.length

/-- Lazy expiry, inside the caller's transaction. -/
def releaseExpiredHoldsForSession (sessionId : SessionId) (now : Time) : Sql Nat := do
  let expired ← updateHolds
    (fun _ h => h.sessionId == sessionId && h.status == .ACTIVE && h.expiresAt ≤ now)
    (·.expired now)
  let holdIds := expired.map Prod.fst
  let _ ← releaseInventoryForHolds holdIds
  enqueueExpiredHoldEvents sessionId now holdIds
  pure expired.length

/-- Release every active hold of a session, inside the caller's transaction. -/
def releaseActiveHoldsForSession (sessionId : SessionId) (now : Time) : Sql Nat := do
  let released ← updateHolds (fun _ h => h.sessionId == sessionId && h.status == .ACTIVE)
    (·.released now)
  let _ ← releaseInventoryForHolds (released.map Prod.fst)
  pure released.length

/-- The events of one sweep. -/
def enqueueSweptHoldEvents (now : Time) : List (HoldId × SeatHold) → Sql Unit
  | [] => pure ()
  | hold :: holds => do
      enqueueExpiredHoldEvents hold.2.sessionId now [hold.1]
      enqueueSweptHoldEvents now holds

/-- One batch of `sweepExpiredHolds`, a transaction of its own: the holds expired
and the seats released. The sweeper repeats it until a batch finds nothing. -/
def sweepExpiredHolds (batchSize : Nat) (now : Time) : Sql (Nat × Nat) := runInTransaction do
  let claimed ← Prisma.seatHold.lockBatch (fun _ h => h.status == .ACTIVE && h.expiresAt ≤ now)
    (fun a b => a.2.expiresAt ≤ b.2.expiresAt) batchSize
  if claimed = [] then pure (0, 0)
  else do
    let ids := claimed.map Prod.fst
    let expired ← updateHolds (fun id h => ids.contains id && h.status == .ACTIVE) (·.expired now)
    let seats ← releaseInventoryForHolds ids
    enqueueSweptHoldEvents now claimed
    pure (expired.length, seats)

/-! ## §3 `acquireSeatHold` and `releaseSeatHold` -/

structure HoldConfiguration where
  holdDurationMs : Time
  maxSeatsPerHold : Nat

structure HoldCreateInput where
  sessionId : SessionId
  seatIds : List SeatId
  idempotencyKey : RequestKey

/-- `holdCreateInputSchema`: one to `upperBound` seats, all different. -/
def HoldCreateInput.valid (input : HoldCreateInput) (maxSeatsPerHold : Nat) : Bool :=
  let upperBound := min (max maxSeatsPerHold 1) 20
  1 ≤ input.seatIds.length && input.seatIds.length ≤ upperBound && decide input.seatIds.Nodup

/-- What the database generates for a new hold. -/
structure FreshHold where
  holdId : HoldId
  publicToken : Reference
  createdAt : Time

/-- The hold of an earlier request under the same key; the key may not be reused
for other seats. -/
def tryIdempotentReplay (userId : UserId) (input : HoldCreateInput) : Sql (Option HoldId) := do
  let existing ← Prisma.seatHold.findMany fun _ h =>
    h.sessionId == input.sessionId && h.userId == userId &&
      h.idempotencyKey == input.idempotencyKey
  match existing.head? with
  | none => pure none
  | some (holdId, hold) => do
      let existingSeatIds ← read fun db =>
        hold.items.filterMap fun item => (db.inventory.lookup item.inventoryId).map (·.seatId)
      require (seatSelectionsMatch existingSeatIds input.seatIds)
        (.domain "This idempotency key was already used for a different seat selection.")
      pure (some holdId)

/-- The hold's item for an inventory row: the price is the row's. -/
def SessionSeatInventory.holdItem (id : InventoryId) (row : SessionSeatInventory) : SeatHoldItem :=
  { inventoryId := id, priceMinor := row.priceMinor, currency := row.currency }

def SessionSeatInventory.heldBy (row : SessionSeatInventory) (holdId : HoldId) (expiresAt : Time) :
    SessionSeatInventory :=
  { row with state := .HELD, currentHoldId := some holdId, holdExpiresAt := some expiresAt }

/-- The hold as it is inserted, before its items. -/
def SeatHold.created (userId : UserId) (input : HoldCreateInput) (config : HoldConfiguration)
    (fresh : FreshHold) (now : Time) : SeatHold :=
  { publicToken := fresh.publicToken
    sessionId := input.sessionId
    userId := userId
    idempotencyKey := input.idempotencyKey
    expiresAt := now + config.holdDurationMs
    createdAt := fresh.createdAt }

/-- The seats are locked and free: take them all. -/
def takeSeats (holdId : HoldId) (hold : SeatHold)
    (locked : List (InventoryId × SessionSeatInventory)) (now : Time) : Sql Unit := do
  Prisma.seatHold.insert holdId hold
  let rowIds := locked.map Prod.fst
  let claimed ← Prisma.sessionSeatInventory.updateMany
    (fun id row => rowIds.contains id && row.state == .AVAILABLE)
    fun _ row => row.heldBy holdId hold.expiresAt
  -- another writer slipped between lock and update
  require (claimed.length = rowIds.length)
    (.domain "One or more selected seats are no longer available.")
  let _ ← Prisma.seatHoldItem.update holdId
    (fun h => { h with items := h.items ++ locked.map fun e => e.2.holdItem e.1 })
    (.notFound "SeatHold")
  enqueueInventoryEvent (.holdCreated holdId) hold.sessionId now

/-- The transaction of `acquireSeatHold`. -/
def acquireInTransaction (userId : UserId) (input : HoldCreateInput) (config : HoldConfiguration)
    (fresh : FreshHold) (now : Time) : Sql HoldId := runInTransaction do
  let _ ← releaseExpiredHoldsForSession input.sessionId now
  let locked ← Prisma.sessionSeatInventory.lockMany fun _ row =>
    row.sessionId == input.sessionId && input.seatIds.contains row.seatId
  let session ← Prisma.eventSession.findOrThrow input.sessionId
    (.domain "That session is not available.")
  let event ← Prisma.event.findOrThrow session.eventId (.notFound "Event")
  let seatInventory ← Prisma.sessionSeatInventory.findMany fun _ row =>
    row.sessionId == input.sessionId
  let eligibility := evaluateSessionSalesEligibility
    { eventStatus := event.status
      sessionStatus := session.status
      sessionStartAt := session.startAt
      salesStartAt := session.salesStartAt
      salesEndAt := session.salesEndAt
      hasInventory := 0 < seatInventory.length
      now := now }
  match eligibility with
  | .blocked reason => .abort (.domain reason.message)
  | .sellable => do
      require (locked.length = input.seatIds.length)
        (.domain "One or more selected seats are not available for this session.")
      require (∀ row ∈ locked, row.2.state = .AVAILABLE)
        (.domain "One or more selected seats are no longer available.")
      takeSeats fresh.holdId (.created userId input config fresh now) locked now
      pure fresh.holdId

/-- The hold, and whether it was there already. -/
def acquireSeatHold (userId : UserId) (input : HoldCreateInput) (config : HoldConfiguration)
    (fresh : FreshHold) (now : Time) : Sql (HoldId × Bool) := do
  require (input.valid config.maxSeatsPerHold) (.domain "Your seat selection is not valid.")
  let replay ← tryIdempotentReplay userId input
  match replay with
  | some holdId => pure (holdId, true)
  | none => do
      let holdId ← acquireInTransaction userId input config fresh now
      pure (holdId, false)

/-- The transaction of `releaseSeatHold`: whether this call released the hold. -/
def releaseInTransaction (holdId : HoldId) (sessionId : SessionId) (now : Time) : Sql Bool :=
  runInTransaction do
    let updated ← updateHolds (fun id h => id == holdId && h.status == .ACTIVE) (·.released now)
    if updated.length = 1 then do
      let _ ← Prisma.sessionSeatInventory.updateMany
        (fun _ row => row.currentHoldId == some holdId) fun _ row => row.vacated
      enqueueInventoryEvent (.holdReleased holdId) sessionId now
      pure true
    else pure false

def releaseSeatHold (userId : UserId) (publicToken : Reference) (now : Time) : Sql Bool := do
  let found ← Prisma.seatHold.findMany fun _ h => h.publicToken == publicToken
  let (holdId, hold) ← orThrow (.domain "That hold was not found or is not yours.") found.head?
  require (hold.userId = userId) (.domain "That hold was not found or is not yours.")
  if hold.status = .ACTIVE then releaseInTransaction holdId hold.sessionId now
  else pure false

/-! ## §4 Cancelling a session or an event -/

/-- The transaction of `cancelEventSession`. The inventory is locked first, so
that no acquisition slips a hold onto the session meanwhile. -/
def cancelInTransaction (sessionId : SessionId) (now : Time) : Sql Unit := runInTransaction do
  let _ ← Prisma.sessionSeatInventory.lockMany fun _ row => row.sessionId == sessionId
  let _ ← Prisma.eventSession.update sessionId
    (fun session => { session with status := .CANCELLED, cancelledAt := some now })
    (.notFound "EventSession")
  let _ ← releaseActiveHoldsForSession sessionId now
  enqueueInventoryEvent (.sessionCancelled sessionId) sessionId now

def cancelEventSession (sessionId : SessionId) (now : Time) : Sql Unit := do
  let session ← Prisma.eventSession.findOrThrow sessionId (.notFound "EventSession")
  let event ← Prisma.event.findOrThrow session.eventId (.notFound "Event")
  if session.status = .CANCELLED then pure ()
  else do
    require (event.status ∈ [.DRAFT, .PUBLISHED])
      (.domain "Restore an archived event before changing its sessions.")
    require (session.status ∉ [.CANCELLED, .COMPLETED])
      (.domain "This session cannot be cancelled.")
    cancelInTransaction sessionId now

def canCancelEvent (status : EventStatus) : Bool :=
  status == .DRAFT || status == .PUBLISHED

/-- The inventory of the sessions that `cancelEvent` is about to cancel. -/
def lockInventoryOfSessions (sessionIds : List SessionId) : Sql Unit :=
  if sessionIds = [] then pure ()
  else do
    let _ ← Prisma.sessionSeatInventory.lockMany fun _ row => sessionIds.contains row.sessionId
    pure ()

/-- The holds of each cancelled session end, and each session is announced. -/
def releaseCancelledSessions (cancelledAt : Time) : List SessionId → Sql Unit
  | [] => pure ()
  | sessionId :: sessionIds => do
      let _ ← releaseActiveHoldsForSession sessionId cancelledAt
      enqueueInventoryEvent (.sessionCancelled sessionId) sessionId cancelledAt
      releaseCancelledSessions cancelledAt sessionIds

/-- The transaction of `cancelEvent`, which checks again what was checked before it:
all sessions of the event that can still be cancelled are, with their holds. -/
def cancelEventInTransaction (eventId : EventId) (organizationId : OrganizationId)
    (cancelledAt : Time) : Sql Unit := runInTransaction do
  let found ← Prisma.event.find eventId
  let event ← orThrow
    (.domain "The resource was not found or you do not have permission to change it.")
    (found.filter fun event => event.organizerOrganizationId == organizationId)
  if event.status = .CANCELLED then pure ()
  else do
    require (canCancelEvent event.status)
      (.domain "This event cannot be cancelled from its current state.")
    let sessions ← Prisma.eventSession.findMany fun _ session =>
      session.eventId == eventId && session.status != .CANCELLED && session.status != .COMPLETED
    lockInventoryOfSessions (sessions.map Prod.fst)
    let _ ← Prisma.eventSession.updateMany
      (fun _ session => session.eventId == eventId && session.status != .CANCELLED &&
        session.status != .COMPLETED)
      fun _ session => { session with status := .CANCELLED, cancelledAt := some cancelledAt }
    releaseCancelledSessions cancelledAt (sessions.map Prod.fst)
    let _ ← Prisma.event.update eventId (fun event => { event with status := .CANCELLED })
      (.notFound "Event")

/-! ### A session on sale -/

/-- A session on sale with two free seats, for user 1. -/
def openSession : Db where
  users := AList.singleton 1 { platformRole := .USER, memberships := [] }
  events := AList.singleton 1 { organizerOrganizationId := 1, status := .PUBLISHED }
  sessions := AList.singleton 1
    { eventId := 1, venueOrganizationId := 1, status := .ON_SALE, startAt := 5000, endAt := 9000
      salesStartAt := 0, salesEndAt := 4000 }
  inventory := AList.insert 2
    { sessionId := 1, seatId := 2, sectionId := 1, priceTierId := 2, priceMinor := 400
      currency := .USD }
    (AList.singleton 1
      { sessionId := 1, seatId := 1, sectionId := 1, priceTierId := 1, priceMinor := 600
        currency := .USD })

/-- User 1 asks for `seatIds` under the key `idempotencyKey`. -/
def holdRequest (seatIds : List SeatId) (idempotencyKey : RequestKey) : HoldCreateInput :=
  { sessionId := 1, seatIds := seatIds, idempotencyKey := idempotencyKey }

/-- Ten seats at most, for 600 ms. -/
def holdConfiguration : HoldConfiguration :=
  { holdDurationMs := 600, maxSeatsPerHold := 10 }

end SeatFlow
