import SeatFlow.Database.RefundConstraints
import SeatFlow.Relational.Projection

/-!
# Unique indexes and tables under interference

An entry of a unique index is claimed by every write of a row version that it
would list, until the transaction ends: a second row with the same entry waits
for the first, and is a duplicate once that one has committed. Primary keys and
the keys that key a table are row locks already; the indexes over child rows of
one parent are covered by the parent's.
-/

namespace SeatFlow

open Relational Isolation

/-! ## §1 Entries -/

/-- Entries of the unique indexes; the partial ones list some rows only. -/
inductive IndexEntry
  | inventorySeat (sessionId : SessionId) (seatId : SeatId)
  | holdToken (publicToken : Reference)
  | holdKey (sessionId : SessionId) (userId : UserId) (idempotencyKey : RequestKey)
  | activeHold (sessionId : SessionId) (userId : UserId)
  | orderReference (publicReference : Reference)
  | orderHold (sourceHoldId : HoldId)
  | attemptKey (providerIdempotencyKey : Reference)
  | attemptProvider (orderId : OrderId) (provider : PaymentProviderName)
  | attemptIntent (provider : PaymentProviderName) (providerIntentId : ProviderRef)
  | webhookEvent (provider : PaymentProviderName) (providerEventId : ProviderRef)
  | bookingReference (publicReference : Reference)
  | bookingOrder (orderId : OrderId)
  | bookingSeat (id : BookingSeatId)
  | bookedInventory (inventoryId : InventoryId)
  | bookedSeat (sessionId : SessionId) (seatId : SeatId)
  | ticketReference (publicReference : Reference)
  | ticketSeat (bookingSeatId : BookingSeatId)
  | credentialHash (hash : CredentialToken)
  | credentialVersion (ticketId : TicketId) (version : Nat)
  | credentialReplacement (replacementCredentialId : CredentialId)
  | activeCredential (ticketId : TicketId)
  | redemptionKey (scannerUserId : UserId) (idempotencyKey : RequestKey)
  | acceptedTicket (ticketId : Option TicketId)
  | refundReference (publicReference : Reference)
  | refundKey (providerIdempotencyKey : AttemptId × RequestKey)
  | providerRefund (provider : PaymentProviderName) (providerRefundId : ProviderRef)
  | disputeReference (publicReference : Reference)
  | providerDispute (provider : PaymentProviderName) (providerDisputeId : ProviderRef)
  deriving DecidableEq

def SeatHold.entries (h : SeatHold) : List IndexEntry :=
  [.holdToken h.publicToken, .holdKey h.sessionId h.userId h.idempotencyKey] ++
    if h.status = .ACTIVE then [.activeHold h.sessionId h.userId] else []

def PaymentAttempt.entries (a : PaymentAttempt) : List IndexEntry :=
  [.attemptKey a.providerIdempotencyKey, .attemptProvider a.orderId a.provider] ++
    a.providerIntentId.toList.map fun intent => .attemptIntent a.provider intent

def Booking.entries (b : Booking) : List IndexEntry :=
  [.bookingReference b.publicReference, .bookingOrder b.orderId] ++
    b.seats.flatMap fun seat =>
      [.bookingSeat seat.id, .bookedInventory seat.inventoryId,
        .bookedSeat seat.sessionId seat.seatId]

def TicketCredential.entries (c : TicketCredential) : List IndexEntry :=
  [.credentialHash c.credentialHash, .credentialVersion c.ticketId c.version] ++
    c.replacementCredentialId.toList.map .credentialReplacement ++
    if c.status = .ACTIVE then [.activeCredential c.ticketId] else []

def TicketRedemptionEvent.entries (e : TicketRedemptionEvent) : List IndexEntry :=
  e.idempotencyKey.toList.map (.redemptionKey e.scannerUserId) ++
    if e.outcome = .ACCEPTED then [.acceptedTicket e.ticketId] else []

def Refund.entries (r : Refund) : List IndexEntry :=
  [.refundReference r.publicReference, .refundKey r.providerIdempotencyKey] ++
    r.providerRefundId.toList.map (.providerRefund r.provider)

def Write.entries : Write → List IndexEntry
  | .inventory _ row => [.inventorySeat row.sessionId row.seatId]
  | .hold _ row => row.entries
  | .order _ row => [.orderReference row.publicReference, .orderHold row.sourceHoldId]
  | .attempt _ row => row.entries
  | .webhook _ row => [.webhookEvent row.provider row.providerEventId]
  | .booking _ row => row.entries
  | .ticket _ row => [.ticketReference row.publicReference, .ticketSeat row.bookingSeatId]
  | .credential _ row => row.entries
  | .redemption _ row => row.entries
  | .refund _ row => row.entries
  | .dispute _ row =>
      [.disputeReference row.publicReference, .providerDispute row.provider row.providerDisputeId]
  | .user .. | .event .. | .session .. | .issuanceRequest .. | .refundAttempt ..
  | .disputeEvent .. | .ledger .. | .inventoryOutbox .. | .financialOutbox ..
  | .defer .. | .settled => []

instance : Indexed Write IndexEntry where
  entries := Write.entries

/-! ## §2 Tables -/

namespace Db

def inventoryRows : Projection Db RowKey Write InventoryId SessionSeatInventory where
  get := Db.inventory
  lockKey := .inventory
  rowPut
    | .inventory id row => some (id, row)
    | _ => none
  get_apply w _ := by cases w <;> rfl
  key_rowPut w _ _ h := by cases w <;> cases h; rfl

def holdRows : Projection Db RowKey Write HoldId SeatHold where
  get := Db.holds
  lockKey := .hold
  rowPut
    | .hold id row => some (id, row)
    | _ => none
  get_apply w _ := by cases w <;> rfl
  key_rowPut w _ _ h := by cases w <;> cases h; rfl

def orderRows : Projection Db RowKey Write OrderId CheckoutOrder where
  get := Db.orders
  lockKey := .order
  rowPut
    | .order id row => some (id, row)
    | _ => none
  get_apply w _ := by cases w <;> rfl
  key_rowPut w _ _ h := by cases w <;> cases h; rfl

end Db

/-! ## §3 Statements of this database under interference -/

section Interference

open Discipline

variable {α β : Type} {D : Discipline Db RowKey Write IndexEntry} {s : Db} {writes : List Write}
  {locks : List (Lock RowKey IndexEntry)}

theorem wp_defer {trigger : DeferredTrigger} {f : Unit → Sql α}
    {Q : Post α Db RowKey Write IndexEntry}
    (h : ∀ s₁, D.Others (Apart locks) s s₁ →
      D.Wp (f ()) s₁ (writes ++ [.defer trigger]) locks Q) :
    D.Wp (defer trigger >>= f) s writes locks Q := by
  refine wp_perform ?_
  rintro s₁ h₁ s₂ h₂ - - busy eff ⟨⟩
  have hnothing : taken Db { locks := [], writes := [Write.defer trigger], result := () }
      = ([] : List (Lock RowKey IndexEntry)) := rfl
  rw [hnothing, List.append_nil]
  exact h s₂ (h₁.trans h₂)

/-- The deferred triggers only clear the queue. -/
theorem wp_runInTransaction {body : Sql α} {Q : Post α Db RowKey Write IndexEntry}
    (h : D.Wp body s writes locks fun a s writes locks =>
      ∀ s', D.Others (Apart locks) s s' → D.Inv s' → Covers Db locks writes →
        Q a s' (writes ++ [.settled]) locks) :
    D.Wp (runInTransaction body) s writes locks Q := by
  unfold runInTransaction
  rw [wp_bind]
  refine h.mono fun a s writes locks hQ => ?_
  refine wp_perform ?_
  rintro s₁ h₁ s₂ h₂ - hcovers busy eff heff
  obtain ⟨-, ⟨⟩⟩ := Except.bind_unit_eq_ok.mp heff
  have hnothing : taken Db { locks := [], writes := [Write.settled], result := () }
      = ([] : List (Lock RowKey IndexEntry)) := rfl
  rw [hnothing, List.append_nil]
  intro s₃ h₃ hinv _
  exact hQ s₃ ((h₁.trans h₂).trans h₃) hinv hcovers

/-- A transaction leaves no trigger queued. -/
theorem deferred_settled (writes : List Write) (s : Db) :
    (applyAll (writes ++ [.settled]) s).deferred = [] := by
  rw [applyAll_append]
  rfl

end Interference

end SeatFlow
