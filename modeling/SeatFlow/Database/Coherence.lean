import Mathlib.Tactic.MkIffOfInductiveProp
import SeatFlow.Database.RefundConstraints
import SeatFlow.Relational.Coherent

/-!
# The constraints of each table, taken apart

For each constrained table the conditions on a row (`RowOk`), its unique indexes
as a relation between two rows (`Apart`), and what its triggers demand of an
`INSERT` and of an `UPDATE`. Nothing new is said here: each `validate_iff` proves
that `validate` is these conditions together.
-/

namespace SeatFlow

open Relational

/-! ## §1 Sessions, inventory and holds -/

/-- The conditions on an inventory row: a price, and what its state asks for. -/
@[mk_iff]
structure SessionSeatInventory.RowOk (row : SessionSeatInventory) : Prop where
  price : row.priceMinor ≥ 0
  state : row.stateCheck = true

/-- Two inventory rows are not of one session and one seat. -/
def SessionSeatInventory.Apart (row row' : SessionSeatInventory) : Prop :=
  ¬(row.sessionId = row'.sessionId ∧ row.seatId = row'.seatId)

/-- An inventory row keeps its session, seat and price, and stays booked. -/
def sessionSeatInventoryConstraints : Prisma.sessionSeatInventory.Constraints where
  ok := SessionSeatInventory.RowOk
  apart := SessionSeatInventory.Apart
  start _ _ := True
  keep db id old new := SessionSeatInventory.protectSnapshot db id old new = .ok ()
  symm row row' h hsame := h ⟨hsame.1.symm, hsame.2.symm⟩
  validate_iff db id old new := by
    have hunique : db.inventory.any (fun k row => k != id && row.sessionId == new.sessionId &&
        row.seatId == new.seatId) = false ↔ ∀ k row, db.inventory.lookup k = some row → k ≠ id →
          SessionSeatInventory.Apart row new :=
      Table.any_other_eq_false id fun k row => by simp [and_assoc]
    cases old <;>
      simp only [Prisma.sessionSeatInventory, Except.bind_unit_eq_ok, check_eq_ok, hunique,
        SessionSeatInventory.rowOk_iff, Option.elim, and_assoc]

/-- The conditions on a hold: it expires after it is made, and its times fit its status. -/
@[mk_iff]
structure SeatHold.RowOk (h : SeatHold) : Prop where
  expiry : h.createdAt < h.expiresAt
  lifecycle : h.lifecycleCheck = true

/-- Two holds differ in their tokens and request keys, and a user has one active hold in a
session. -/
structure SeatHold.Apart (h h' : SeatHold) : Prop where
  token : h.publicToken ≠ h'.publicToken
  key : ¬(h.sessionId = h'.sessionId ∧ h.userId = h'.userId ∧ h.idempotencyKey = h'.idempotencyKey)
  active : ¬(h.status = .ACTIVE ∧ h'.status = .ACTIVE ∧ h.userId = h'.userId ∧
    h.sessionId = h'.sessionId)

/-- The unique indexes of holds accept a row that is apart from all others. -/
theorem SeatHold.uniqueCheck_eq_ok {db : Db} {id : HoldId} {new : SeatHold} :
    SeatHold.uniqueCheck db id new = .ok () ↔
      ∀ k h, db.holds.lookup k = some h → k ≠ id → SeatHold.Apart h new := by
  simp only [SeatHold.uniqueCheck, Except.bind_unit_eq_ok, check_eq_ok]
  rw [Table.any_other_eq_false id (p := fun h => h.publicToken = new.publicToken)
      fun k h => by simp,
    Table.any_other_eq_false id (p := fun h => h.sessionId = new.sessionId ∧ h.userId = new.userId ∧
      h.idempotencyKey = new.idempotencyKey) fun k h => by simp [and_assoc],
    Table.any_other_eq_false id (p := fun h => h.status = .ACTIVE ∧ h.userId = new.userId ∧
      h.sessionId = new.sessionId) fun k h => by simp [and_assoc]]
  constructor
  · rintro ⟨htoken, hkey, hactive⟩ k h hlook hne
    exact ⟨htoken k h hlook hne, hkey k h hlook hne, fun hboth =>
      hactive hboth.2.1 k h hlook hne ⟨hboth.1, hboth.2.2⟩⟩
  · intro hapart
    exact ⟨fun k h hlook hne => (hapart k h hlook hne).token,
      fun k h hlook hne => (hapart k h hlook hne).key,
      fun hnew k h hlook hne hboth => (hapart k h hlook hne).active ⟨hboth.1, hnew, hboth.2⟩⟩

def seatHoldConstraints : Prisma.seatHold.Constraints where
  ok := SeatHold.RowOk
  apart := SeatHold.Apart
  start _ _ := True
  keep _ _ old new := SeatHold.protectIdentity old new = .ok ()
  symm h h' hapart :=
    { token := hapart.token.symm
      key := fun ⟨hsession, huser, hkey⟩ => hapart.key ⟨hsession.symm, huser.symm, hkey.symm⟩
      active := fun ⟨hstatus, hstatus', huser, hsession⟩ =>
        hapart.active ⟨hstatus', hstatus, huser.symm, hsession.symm⟩ }
  validate_iff db id old new := by
    cases old <;>
      simp only [Prisma.seatHold, SeatHold.validate, Except.bind_unit_eq_ok, check_eq_ok,
        SeatHold.uniqueCheck_eq_ok, SeatHold.rowOk_iff, Option.elim, and_assoc]

/-! ## §2 Orders and payment attempts -/

/-- The conditions on an order: its amounts, its expiry and what its status asks for. -/
@[mk_iff]
structure CheckoutOrder.RowOk (o : CheckoutOrder) : Prop where
  amount : o.subtotalMinor ≥ 0 ∧ o.totalMinor ≥ 0 ∧ o.subtotalMinor = o.totalMinor
  expiration : o.createdAt < o.checkoutExpiresAt
  failureCode : o.safeFailureCode.all isSafeCode = true
  lifecycle : o.lifecycleCheck = true

/-- Two orders have references and holds of their own. -/
structure CheckoutOrder.Apart (o o' : CheckoutOrder) : Prop where
  reference : o.publicReference ≠ o'.publicReference
  hold : o.sourceHoldId ≠ o'.sourceHoldId

theorem CheckoutOrder.uniqueCheck_eq_ok {db : Db} {id : OrderId} {new : CheckoutOrder} :
    CheckoutOrder.uniqueCheck db id new = .ok () ↔
      ∀ k o, db.orders.lookup k = some o → k ≠ id → CheckoutOrder.Apart o new := by
  simp only [CheckoutOrder.uniqueCheck, Except.bind_unit_eq_ok, check_eq_ok]
  rw [Table.any_other_eq_false id (p := fun o => o.publicReference = new.publicReference)
      fun k o => by simp,
    Table.any_other_eq_false id (p := fun o => o.sourceHoldId = new.sourceHoldId)
      fun k o => by simp]
  constructor
  · rintro ⟨hreference, hhold⟩ k o hlook hne
    exact ⟨hreference k o hlook hne, hhold k o hlook hne⟩
  · intro hapart
    exact ⟨fun k o hlook hne => (hapart k o hlook hne).reference,
      fun k o hlook hne => (hapart k o hlook hne).hold⟩

/-- An order is made of a hold of its customer, and stays the order that was made. -/
def checkoutOrderConstraints : Prisma.checkoutOrder.Constraints where
  ok := CheckoutOrder.RowOk
  apart := CheckoutOrder.Apart
  start db new := CheckoutOrder.enforceAncestry db new = .ok ()
  keep _ _ old new := CheckoutOrder.protectIdentity old new = .ok ()
  symm o o' hapart := { reference := hapart.reference.symm, hold := hapart.hold.symm }
  validate_iff db id old new := by
    cases old <;>
      simp only [Prisma.checkoutOrder, CheckoutOrder.validate, Except.bind_unit_eq_ok, check_eq_ok,
        CheckoutOrder.uniqueCheck_eq_ok, CheckoutOrder.rowOk_iff, Option.elim, and_assoc]

/-- The conditions on a payment: money is returned of a captured one only, and never more. -/
@[mk_iff]
structure PaymentAttempt.RowOk (a : PaymentAttempt) : Prop where
  amount : a.amountMinor ≥ 0
  failureCode : a.safeFailureCode.all isSafeCode = true
  lifecycle : a.lifecycleCheck = true
  aggregate : a.refundAggregateCheck
  capture : (a.refundedMinor = 0 ∧ a.inFlightRefundMinor = 0) ∨ a.status = .SUCCEEDED

/-- Two payments are of different orders or providers, and no intent is recorded twice. -/
structure PaymentAttempt.Apart (a a' : PaymentAttempt) : Prop where
  key : a.providerIdempotencyKey ≠ a'.providerIdempotencyKey
  order : ¬(a.orderId = a'.orderId ∧ a.provider = a'.provider)
  intent : ∀ intent, ¬(a.provider = a'.provider ∧ a.providerIntentId = some intent ∧
    a'.providerIntentId = some intent)

theorem PaymentAttempt.uniqueCheck_eq_ok {db : Db} {id : AttemptId} {new : PaymentAttempt} :
    PaymentAttempt.uniqueCheck db id new = .ok () ↔
      ∀ k a, db.attempts.lookup k = some a → k ≠ id → PaymentAttempt.Apart a new := by
  simp only [PaymentAttempt.uniqueCheck, Except.bind_unit_eq_ok, check_eq_ok]
  rw [Table.any_other_eq_false id
    (p := fun a => a.providerIdempotencyKey = new.providerIdempotencyKey)
      fun k a => by simp,
    Table.any_other_eq_false id (p := fun a => a.orderId = new.orderId ∧ a.provider = new.provider)
      fun k a => by simp [and_assoc],
    Table.any_other_eq_false id (p := fun a => a.provider = new.provider ∧
      a.providerIntentId = new.providerIntentId) fun k a => by simp [and_assoc]]
  constructor
  · rintro ⟨hkey, horder, hintent⟩ k a hlook hne
    refine ⟨hkey k a hlook hne, horder k a hlook hne, ?_⟩
    rintro intent ⟨hprovider, ha, hnew⟩
    exact hintent (by simp [hnew]) k a hlook hne ⟨hprovider, ha.trans hnew.symm⟩
  · intro hapart
    refine ⟨fun k a hlook hne => (hapart k a hlook hne).key,
      fun k a hlook hne => (hapart k a hlook hne).order, fun hsome k a hlook hne hboth => ?_⟩
    obtain ⟨intent, hintent⟩ := Option.isSome_iff_exists.mp hsome
    exact (hapart k a hlook hne).intent intent ⟨hboth.1, hboth.2.trans hintent, hintent⟩

def paymentAttemptConstraints : Prisma.paymentAttempt.Constraints where
  ok := PaymentAttempt.RowOk
  apart := PaymentAttempt.Apart
  start db new := PaymentAttempt.enforceOrder db new = .ok ()
  keep _ _ old new := PaymentAttempt.protectIdentity old new = .ok ()
  symm a a' hapart :=
    { key := hapart.key.symm
      order := fun ⟨horder, hprovider⟩ => hapart.order ⟨horder.symm, hprovider.symm⟩
      intent := fun intent ⟨hprovider, ha, ha'⟩ => hapart.intent intent ⟨hprovider.symm, ha', ha⟩ }
  validate_iff db id old new := by
    cases old <;>
      simp only [Prisma.paymentAttempt, PaymentAttempt.validate, Except.bind_unit_eq_ok,
        check_eq_ok,
        PaymentAttempt.uniqueCheck_eq_ok, PaymentAttempt.rowOk_iff, Option.elim, and_assoc]

/-! ## §3 Webhook records and bookings -/

/-- The conditions on a webhook record: it is verified, and its columns fit its category. -/
@[mk_iff]
structure PaymentWebhookEvent.RowOk (w : PaymentWebhookEvent) : Prop where
  category : w.categoryCheck = true
  amount : w.amountMinor ≥ 0
  signature : w.signatureStatus = .VERIFIED
  processing : w.processingCheck = true

/-- Two webhook records are not of one event of one provider. -/
def PaymentWebhookEvent.Apart (w w' : PaymentWebhookEvent) : Prop :=
  ¬(w.provider = w'.provider ∧ w.providerEventId = w'.providerEventId)

def paymentWebhookEventConstraints : Prisma.paymentWebhookEvent.Constraints where
  ok := PaymentWebhookEvent.RowOk
  apart := PaymentWebhookEvent.Apart
  start _ _ := True
  keep _ _ old new := PaymentWebhookEvent.protectEnvelope old new = .ok ()
  symm w w' h hsame := h ⟨hsame.1.symm, hsame.2.symm⟩
  validate_iff db id old new := by
    have hunique : db.webhooks.any (fun k w => k != id && w.provider == new.provider &&
        w.providerEventId == new.providerEventId) = false ↔
          ∀ k w, db.webhooks.lookup k = some w → k ≠ id → PaymentWebhookEvent.Apart w new :=
      Table.any_other_eq_false id fun k w => by simp [and_assoc]
    cases old <;>
      simp only [Prisma.paymentWebhookEvent, PaymentWebhookEvent.validate, Except.bind_unit_eq_ok,
        check_eq_ok, hunique, PaymentWebhookEvent.rowOk_iff, Option.elim, and_assoc]

/-- The conditions on a booking: its amount, its times and what its refund state asks for. -/
@[mk_iff]
structure Booking.RowOk (b : Booking) : Prop where
  amount : b.totalMinor ≥ 0
  time : b.createdAt ≤ b.confirmedAt
  lifecycle : b.refundLifecycleCheck = true

/-- Two bookings have references and orders of their own. -/
structure Booking.Apart (b b' : Booking) : Prop where
  reference : b.publicReference ≠ b'.publicReference
  order : b.orderId ≠ b'.orderId

def bookingConstraints : Prisma.booking.Constraints where
  ok := Booking.RowOk
  apart := Booking.Apart
  start db new := Booking.enforceOrder db new = .ok ()
  keep _ _ old new := Booking.protectSnapshot old new = .ok ()
  symm b b' hapart := { reference := hapart.reference.symm, order := hapart.order.symm }
  validate_iff db id old new := by
    have hreference : db.bookings.any (fun k b =>
        k != id && b.publicReference == new.publicReference) = false ↔ _ :=
      Table.any_other_eq_false id (p := fun b => b.publicReference = new.publicReference)
        fun k b => by simp
    have horder : db.bookings.any (fun k b => k != id && b.orderId == new.orderId) = false ↔ _ :=
      Table.any_other_eq_false id (p := fun b => b.orderId = new.orderId) fun k b => by simp
    have hunique : (∀ k b, db.bookings.lookup k = some b → k ≠ id → Booking.Apart b new) ↔
        (∀ k b, db.bookings.lookup k = some b → k ≠ id →
          ¬b.publicReference = new.publicReference) ∧
        ∀ k b, db.bookings.lookup k = some b → k ≠ id → ¬b.orderId = new.orderId :=
      ⟨fun h =>
        ⟨fun k b hb hne => (h k b hb hne).reference, fun k b hb hne => (h k b hb hne).order⟩,
        fun h k b hb hne => ⟨h.1 k b hb hne, h.2 k b hb hne⟩⟩
    cases old <;>
      simp only [Prisma.booking, Booking.validate, Except.bind_unit_eq_ok, check_eq_ok, hreference,
        horder, Booking.rowOk_iff, Option.elim, and_assoc, hunique]

/-! ## §4 Refunds -/

/-- The conditions on a refund: a positive amount, one outcome, and times in order. -/
@[mk_iff]
structure Refund.RowOk (r : Refund) : Prop where
  amount : 0 < r.requestedAmountMinor
  failureCode : r.safeFailureCode.all isSafeCode = true
  timeOrder : r.timeOrderCheck = true
  exclusive : r.outcomeExclusivityCheck = true
  lifecycle : r.lifecycleCheck = true

/-- Two refunds have keys of their own, and no refund of a provider is recorded twice. -/
structure Refund.Apart (r r' : Refund) : Prop where
  reference : r.publicReference ≠ r'.publicReference
  key : r.providerIdempotencyKey ≠ r'.providerIdempotencyKey
  external : ∀ ref, ¬(r.provider = r'.provider ∧ r.providerRefundId = some ref ∧
    r'.providerRefundId = some ref)

theorem Refund.uniqueCheck_eq_ok {db : Db} {id : RefundId} {new : Refund} :
    Refund.uniqueCheck db id new = .ok () ↔
      ∀ k r, db.refunds.lookup k = some r → k ≠ id → Refund.Apart r new := by
  simp only [Refund.uniqueCheck, Except.bind_unit_eq_ok, check_eq_ok]
  rw [Table.any_other_eq_false id (p := fun r => r.publicReference = new.publicReference)
      fun k r => by simp,
    Table.any_other_eq_false id
      (p := fun r => r.providerIdempotencyKey = new.providerIdempotencyKey)
      fun k r => by simp,
    Table.any_other_eq_false id (p := fun r => r.provider = new.provider ∧
      r.providerRefundId = new.providerRefundId) fun k r => by simp [and_assoc]]
  constructor
  · rintro ⟨hreference, hkey, hexternal⟩ k r hlook hne
    refine ⟨hreference k r hlook hne, hkey k r hlook hne, ?_⟩
    rintro ref ⟨hprovider, hr, hnew⟩
    exact hexternal (by simp [hnew]) k r hlook hne ⟨hprovider, hr.trans hnew.symm⟩
  · intro hapart
    refine ⟨fun k r hlook hne => (hapart k r hlook hne).reference,
      fun k r hlook hne => (hapart k r hlook hne).key, fun hsome k r hlook hne hboth => ?_⟩
    obtain ⟨ref, href⟩ := Option.isSome_iff_exists.mp hsome
    exact (hapart k r hlook hne).external ref ⟨hboth.1, hboth.2.trans href, href⟩

def refundConstraints : Prisma.refund.Constraints where
  ok := Refund.RowOk
  apart := Refund.Apart
  start db new := Refund.enforceAncestry db new = .ok ()
  keep _ _ old new := Refund.protectIdentity old new = .ok ()
  symm r r' hapart :=
    { reference := hapart.reference.symm
      key := hapart.key.symm
      external := fun ref ⟨hprovider, hr, hr'⟩ => hapart.external ref ⟨hprovider.symm, hr', hr⟩ }
  validate_iff db id old new := by
    cases old <;>
      simp only [Prisma.refund, Refund.validate, Except.bind_unit_eq_ok, check_eq_ok,
        Refund.uniqueCheck_eq_ok, Refund.rowOk_iff, Option.elim, and_assoc]

/-! ## §5 Disputes -/

/-- The conditions on a dispute: a positive amount, times in order, what its status asks for. -/
@[mk_iff]
structure PaymentDispute.RowOk (d : PaymentDispute) : Prop where
  amount : 0 < d.disputedAmountMinor
  timeOrder : d.timeOrderCheck = true
  lifecycle : d.lifecycleCheck = true

/-- Two disputes are not one dispute of one provider. -/
structure PaymentDispute.Apart (d d' : PaymentDispute) : Prop where
  reference : d.publicReference ≠ d'.publicReference
  external : ¬(d.provider = d'.provider ∧ d.providerDisputeId = d'.providerDisputeId)

def paymentDisputeConstraints : Prisma.paymentDispute.Constraints where
  ok := PaymentDispute.RowOk
  apart := PaymentDispute.Apart
  start db new := PaymentDispute.enforceAncestry db new = .ok ()
  keep _ _ old new := PaymentDispute.protectIdentity old new = .ok ()
  symm d d' hapart :=
    { reference := hapart.reference.symm
      external := fun ⟨hprovider, hid⟩ => hapart.external ⟨hprovider.symm, hid.symm⟩ }
  validate_iff db id old new := by
    have hunique : PaymentDispute.uniqueCheck db id new = .ok () ↔
        ∀ k d, db.disputes.lookup k = some d → k ≠ id → PaymentDispute.Apart d new := by
      simp only [PaymentDispute.uniqueCheck, Except.bind_unit_eq_ok, check_eq_ok]
      rw [Table.any_other_eq_false id (p := fun d => d.publicReference = new.publicReference)
          fun k d => by simp,
        Table.any_other_eq_false id (p := fun d => d.provider = new.provider ∧
          d.providerDisputeId = new.providerDisputeId) fun k d => by simp [and_assoc]]
      constructor
      · rintro ⟨hreference, hexternal⟩ k d hlook hne
        exact ⟨hreference k d hlook hne, hexternal k d hlook hne⟩
      · intro hapart
        exact ⟨fun k d hlook hne => (hapart k d hlook hne).reference,
          fun k d hlook hne => (hapart k d hlook hne).external⟩
    cases old <;>
      simp only [Prisma.paymentDispute, PaymentDispute.validate, Except.bind_unit_eq_ok,
        check_eq_ok, hunique, PaymentDispute.rowOk_iff, Option.elim, and_assoc]

/-! ## §6 Tickets and credentials -/

/-- A booked seat has one ticket. -/
structure Ticket.Apart (t t' : Ticket) : Prop where
  reference : t.publicReference ≠ t'.publicReference
  seat : t.bookingSeatId ≠ t'.bookingSeatId

def ticketConstraints : Prisma.ticket.Constraints where
  ok t := t.lifecycleCheck = true
  apart := Ticket.Apart
  start db new := Ticket.enforceAncestry db new = .ok ()
  keep _ _ old new := Ticket.protectHistory old new = .ok ()
  symm t t' hapart := { reference := hapart.reference.symm, seat := hapart.seat.symm }
  validate_iff db id old new := by
    have hunique : Ticket.uniqueCheck db id new = .ok () ↔
        ∀ k t, db.tickets.lookup k = some t → k ≠ id → Ticket.Apart t new := by
      simp only [Ticket.uniqueCheck, Except.bind_unit_eq_ok, check_eq_ok]
      rw [Table.any_other_eq_false id (p := fun t => t.publicReference = new.publicReference)
          fun k t => by simp,
        Table.any_other_eq_false id (p := fun t => t.bookingSeatId = new.bookingSeatId)
          fun k t => by simp]
      constructor
      · rintro ⟨hreference, hseat⟩ k t hlook hne
        exact ⟨hreference k t hlook hne, hseat k t hlook hne⟩
      · intro hapart
        exact ⟨fun k t hlook hne => (hapart k t hlook hne).reference,
          fun k t hlook hne => (hapart k t hlook hne).seat⟩
    cases old <;>
      simp only [Prisma.ticket, Ticket.validate, Except.bind_unit_eq_ok, check_eq_ok, hunique,
        Option.elim]

/-- The conditions on a credential: versions count from one, and its times fit its status. -/
@[mk_iff]
structure TicketCredential.RowOk (c : TicketCredential) : Prop where
  version : 1 ≤ c.version
  lifecycle : c.lifecycleCheck = true

/-- Two credentials have different hashes, and a ticket has one credential of each version and
one active credential. -/
structure TicketCredential.Apart (c c' : TicketCredential) : Prop where
  hash : c.credentialHash ≠ c'.credentialHash
  replacement : ∀ id, ¬(c.replacementCredentialId = some id ∧ c'.replacementCredentialId = some id)
  version : ¬(c.ticketId = c'.ticketId ∧ c.version = c'.version)
  active : ¬(c.status = .ACTIVE ∧ c'.status = .ACTIVE ∧ c.ticketId = c'.ticketId)

theorem TicketCredential.uniqueCheck_eq_ok {db : Db} {id : CredentialId} {new : TicketCredential} :
    TicketCredential.uniqueCheck db id new = .ok () ↔
      ∀ k c, db.credentials.lookup k = some c → k ≠ id → TicketCredential.Apart c new := by
  simp only [TicketCredential.uniqueCheck, Except.bind_unit_eq_ok, check_eq_ok]
  rw [Table.any_other_eq_false id (p := fun c => c.credentialHash = new.credentialHash)
      fun k c => by simp,
    Table.any_other_eq_false id
      (p := fun c => c.replacementCredentialId = new.replacementCredentialId) fun k c => by simp,
    Table.any_other_eq_false id (p := fun c => c.ticketId = new.ticketId ∧ c.version = new.version)
      fun k c => by simp [and_assoc],
    Table.any_other_eq_false id (p := fun c => c.status = .ACTIVE ∧ c.ticketId = new.ticketId)
      fun k c => by simp [and_assoc]]
  constructor
  · rintro ⟨hhash, hreplacement, hversion, hactive⟩ k c hlook hne
    refine ⟨hhash k c hlook hne, ?_, hversion k c hlook hne, ?_⟩
    · rintro replacement ⟨hc, hnew⟩
      exact hreplacement (by simp [hnew]) k c hlook hne (hc.trans hnew.symm)
    · rintro ⟨hc, hnew, hticket⟩
      exact hactive hnew k c hlook hne ⟨hc, hticket⟩
  · intro hapart
    refine ⟨fun k c hlook hne => (hapart k c hlook hne).hash, fun hsome k c hlook hne hsame => ?_,
      fun k c hlook hne => (hapart k c hlook hne).version, fun hnew k c hlook hne hboth =>
        (hapart k c hlook hne).active ⟨hboth.1, hnew, hboth.2⟩⟩
    obtain ⟨replacement, hreplacement⟩ := Option.isSome_iff_exists.mp hsome
    exact (hapart k c hlook hne).replacement replacement ⟨hsame.trans hreplacement, hreplacement⟩

def ticketCredentialConstraints : Prisma.ticketCredential.Constraints where
  ok := TicketCredential.RowOk
  apart := TicketCredential.Apart
  start _ _ := True
  keep db _ old new := TicketCredential.protectHistory db old new = .ok ()
  symm c c' hapart :=
    { hash := hapart.hash.symm
      replacement := fun id ⟨hc, hc'⟩ => hapart.replacement id ⟨hc', hc⟩
      version := fun ⟨hticket, hversion⟩ => hapart.version ⟨hticket.symm, hversion.symm⟩
      active := fun ⟨hc, hc', hticket⟩ => hapart.active ⟨hc', hc, hticket.symm⟩ }
  validate_iff db id old new := by
    cases old <;>
      simp only [Prisma.ticketCredential, TicketCredential.validate, Except.bind_unit_eq_ok,
        check_eq_ok, TicketCredential.uniqueCheck_eq_ok, TicketCredential.rowOk_iff, Option.elim,
        and_assoc]

end SeatFlow
