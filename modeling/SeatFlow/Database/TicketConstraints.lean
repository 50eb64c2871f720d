import SeatFlow.Database.CommerceConstraints

/-!
# Constraints of tickets

Tickets, their credentials and the scans at the entrance: the row constraints,
unique indexes and triggers of each table. A ticket is only issued for a seat of
a confirmed booking, neither a ticket nor a credential leaves a final status, and
a ticket is accepted at most once.
-/

namespace SeatFlow

open Relational

/-! ## §1 Tickets -/

/-- `Ticket_lifecycle_check`. -/
def Ticket.lifecycleCheck (t : Ticket) : Bool :=
  match t.status with
  | .ACTIVE | .USED => t.revokedAt.isNone && t.revocationReason.isNone && t.revokedByUserId.isNone
  | .REVOKED => t.revokedAt.isSome && t.revocationReason.isSome

/-- `Ticket_enforce_ancestry`. -/
def Ticket.enforceAncestry (db : Db) (new : Ticket) : Except Failure Unit :=
  check (∃ b ∈ db.bookings.lookup new.bookingId, b.status = .CONFIRMED ∧
      (b.seats.any fun seat => seat.id == new.bookingSeatId) = true ∧ b.userId = new.userId ∧
      b.organizationId = new.organizationId ∧ b.eventId = new.eventId ∧
      b.sessionId = new.sessionId)
    "Ticket ancestry must match one confirmed booked seat"

/-- The columns that `Ticket_protect_history` freezes are unchanged. -/
def Ticket.SameIdentity (old new : Ticket) : Prop :=
  new.publicReference = old.publicReference ∧ new.bookingId = old.bookingId ∧
    new.bookingSeatId = old.bookingSeatId ∧ new.userId = old.userId ∧
    new.organizationId = old.organizationId ∧ new.eventId = old.eventId ∧
    new.sessionId = old.sessionId ∧ new.issuedAt = old.issuedAt

instance (old new : Ticket) : Decidable (Ticket.SameIdentity old new) :=
  inferInstanceAs (Decidable (_ ∧ _))

/-- `Ticket_protect_history`. -/
def Ticket.protectHistory (old new : Ticket) : Except Failure Unit := do
  check (Ticket.SameIdentity old new) "Ticket identity and ancestry are immutable"
  check (old.status ≠ .ACTIVE → new.status = old.status)
    "A terminal ticket cannot be reactivated or changed"

def Ticket.uniqueCheck (db : Db) (id : TicketId) (new : Ticket) : Except Failure Unit := do
  check (db.tickets.any (fun k t => k != id && t.publicReference == new.publicReference) = false)
    "Ticket_publicReference_key"
  check (db.tickets.any (fun k t => k != id && t.bookingSeatId == new.bookingSeatId) = false)
    "Ticket_bookingSeatId_key"

def Ticket.validate (db : Db) (id : TicketId) (old : Option Ticket) (new : Ticket) :
    Except Failure Unit := do
  check new.lifecycleCheck "Ticket_lifecycle_check"
  Ticket.uniqueCheck db id new
  match old with
  | none => Ticket.enforceAncestry db new
  | some old => Ticket.protectHistory old new

/-! ## §2 Credentials -/

/-- `TicketCredential_lifecycle_check`. -/
def TicketCredential.lifecycleCheck (c : TicketCredential) : Bool :=
  match c.status with
  | .ACTIVE => c.revokedAt.isNone && c.replacedAt.isNone && c.usedAt.isNone &&
      c.replacementCredentialId.isNone
  | .REVOKED => c.revokedAt.isSome && c.replacedAt.isNone && c.usedAt.isNone &&
      c.replacementCredentialId.isNone
  | .REPLACED => c.revokedAt.isNone && c.replacedAt.isSome && c.usedAt.isNone
  | .USED => c.revokedAt.isNone && c.replacedAt.isNone && c.usedAt.isSome &&
      c.replacementCredentialId.isNone

/-- The columns that `TicketCredential_protect_history` freezes are unchanged. -/
def TicketCredential.SameIdentity (old new : TicketCredential) : Prop :=
  new.ticketId = old.ticketId ∧ new.version = old.version ∧
    new.credentialHash = old.credentialHash ∧ new.issuedAt = old.issuedAt

instance (old new : TicketCredential) : Decidable (TicketCredential.SameIdentity old new) :=
  inferInstanceAs (Decidable (_ ∧ _))

/-- `TicketCredential_protect_history`. -/
def TicketCredential.protectHistory (db : Db) (old new : TicketCredential) :
    Except Failure Unit := do
  check (TicketCredential.SameIdentity old new) "Ticket credential identity is immutable"
  check (old.status ≠ .ACTIVE → new.status = old.status)
    "A terminal credential cannot be revived or changed"
  check (∀ replacement ∈ new.replacementCredentialId, ∃ c ∈ db.credentials.lookup replacement,
      c.ticketId = new.ticketId ∧ new.version < c.version)
    "Credential replacement must be a newer credential for the same ticket"

def TicketCredential.uniqueCheck (db : Db) (id : CredentialId) (new : TicketCredential) :
    Except Failure Unit := do
  check (db.credentials.any (fun k c => k != id && c.credentialHash == new.credentialHash) = false)
    "TicketCredential_credentialHash_key"
  check (new.replacementCredentialId.isSome → db.credentials.any (fun k c =>
      k != id && c.replacementCredentialId == new.replacementCredentialId) = false)
    "TicketCredential_replacementCredentialId_key"
  check (db.credentials.any (fun k c =>
      k != id && c.ticketId == new.ticketId && c.version == new.version) = false)
    "TicketCredential_ticketId_version_key"
  check (new.status = .ACTIVE → db.credentials.any (fun k c =>
      k != id && c.status == .ACTIVE && c.ticketId == new.ticketId) = false)
    "TicketCredential_one_active_per_ticket_key"

def TicketCredential.validate (db : Db) (id : CredentialId) (old : Option TicketCredential)
    (new : TicketCredential) : Except Failure Unit := do
  check (1 ≤ new.version) "TicketCredential_version_check"
  check new.lifecycleCheck "TicketCredential_lifecycle_check"
  TicketCredential.uniqueCheck db id new
  match old with
  | none => .ok ()
  | some old => TicketCredential.protectHistory db old new

/-- `TicketCredential_verify_replacement`, run at commit. -/
def TicketCredential.verifyReplacement (db : Db) (id : CredentialId) : Except Failure Unit :=
  check (∀ c ∈ db.credentials.lookup id, c.status = .REPLACED → c.replacementCredentialId.isSome)
    "A replaced credential must identify its replacement"

/-! ## §3 Scans -/

/-- `TicketRedemptionEvent_identity_check`. -/
def TicketRedemptionEvent.identityCheck (e : TicketRedemptionEvent) : Bool :=
  match e.outcome with
  | .INVALID | .UNAUTHORIZED_SCANNER => e.ticketId.isNone && e.ticketCredentialId.isNone
  | _ => e.ticketId.isSome && e.ticketCredentialId.isSome

def TicketRedemptionEvent.uniqueCheck (db : Db) (id : RedemptionId) (new : TicketRedemptionEvent) :
    Except Failure Unit := do
  check (new.idempotencyKey.isSome → db.redemptions.any (fun k e => k != id &&
      e.scannerUserId == new.scannerUserId && e.idempotencyKey == new.idempotencyKey) = false)
    "TicketRedemptionEvent_scannerUserId_idempotencyKey_key"
  check (new.outcome = .ACCEPTED → db.redemptions.any (fun k e =>
      k != id && e.outcome == .ACCEPTED && e.ticketId == new.ticketId) = false)
    "TicketRedemptionEvent_first_success_per_ticket_key"

namespace Prisma

def ticket : Model TicketId Ticket where
  get := Db.tickets
  set t db := { db with tickets := t }
  put := .ticket
  lockKey := .ticket
  validate := Ticket.validate
  duplicate := .constraint "Ticket_pkey"
  get_set _ _ := rfl
  set_get := Db.eta
  set_set _ _ _ := rfl
  apply_put _ _ _ := rfl
  key_put _ _ := rfl

def ticketCredential : Model CredentialId TicketCredential where
  get := Db.credentials
  set t db := { db with credentials := t }
  put := .credential
  lockKey := .credential
  validate := TicketCredential.validate
  duplicate := .constraint "TicketCredential_pkey"
  get_set _ _ := rfl
  set_get := Db.eta
  set_set _ _ _ := rfl
  apply_put _ _ _ := rfl
  key_put _ _ := rfl

def ticketRedemptionEvent : Model RedemptionId TicketRedemptionEvent where
  get := Db.redemptions
  set t db := { db with redemptions := t }
  put := .redemption
  lockKey := .redemption
  validate db id old new := do
    check (old = none) "Ticket redemption events are append-only"
    check new.identityCheck "TicketRedemptionEvent_identity_check"
    TicketRedemptionEvent.uniqueCheck db id new
  duplicate := .constraint "TicketRedemptionEvent_pkey"
  get_set _ _ := rfl
  set_get := Db.eta
  set_set _ _ _ := rfl
  apply_put _ _ _ := rfl
  key_put _ _ := rfl

end Prisma

end SeatFlow
