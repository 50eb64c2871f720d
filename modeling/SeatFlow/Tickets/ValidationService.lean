import SeatFlow.Tickets.ManagementService

/-!
# Scanning tickets

`validation-service`, `scanner-authorization` and the entry window: a scan is answered
from an earlier one under the same key, or the presented credential is looked up and
locked, then its ticket, and the outcome is recorded. Titles and labels that a reply
shows of an accepted ticket are descriptive text and left out.
-/

namespace SeatFlow

open Relational Program

/-! ## §1 Decisions -/

inductive EntryWindowOutcome
  | OPEN | TOO_EARLY | TOO_LATE | SESSION_CANCELLED
  deriving DecidableEq

def decideEntryWindow (session : EventSession) (now : Time) (earlyMinutes lateMinutes : Nat) :
    EntryWindowOutcome :=
  if session.status = .CANCELLED then .SESSION_CANCELLED
  else if now < session.startAt - earlyMinutes * 60000 then .TOO_EARLY
  else if session.endAt + lateMinutes * 60000 < now then .TOO_LATE
  else .OPEN

/-- The outcome of a scan under a window. -/
def EntryWindowOutcome.outcome : EntryWindowOutcome → TicketRedemptionOutcome
  | .OPEN => .ACCEPTED
  | .TOO_EARLY => .TOO_EARLY
  | .TOO_LATE => .TOO_LATE
  | .SESSION_CANCELLED => .SESSION_CANCELLED

/-- What a scan presents. The credential is what `parseTicketCredential` makes of the
presented text: `none` for a text of another shape. -/
structure ScanInput where
  scannerUserId : UserId
  sessionId : SessionId
  credential : Option CredentialToken
  earlyMinutes : Nat
  lateMinutes : Nat
  scannerIdentifier : Option Code := none
  idempotencyKey : Option RequestKey := none

/-- The outcome for a ticket and credential that were found. -/
def decideScan (input : ScanInput) (eventId : EventId) (credential : TicketCredential)
    (ticket : Ticket) (bookingStatus : BookingStatus) (session : EventSession) (now : Time) :
    TicketRedemptionOutcome :=
  if ticket.sessionId ≠ input.sessionId ∨ ticket.eventId ≠ eventId then .WRONG_SESSION
  else if credential.status = .USED ∨ ticket.status = .USED then .ALREADY_USED
  else if credential.status ∈ [.REVOKED, .REPLACED] ∨ ticket.status = .REVOKED then .REVOKED
  else if bookingStatus ≠ .CONFIRMED then .REVOKED
  else (decideEntryWindow session now input.earlyMinutes input.lateMinutes).outcome

structure TicketScanResult where
  outcome : TicketRedemptionOutcome
  accepted : Bool
  reference : Option Reference := none
  deriving DecidableEq

/-- A reply without details. -/
def TicketScanResult.of (outcome : TicketRedemptionOutcome) : TicketScanResult :=
  { outcome := outcome, accepted := outcome == .ACCEPTED }

/-- The reply to a scan that reached a ticket. -/
def Ticket.scanResult (ticket : Ticket) (outcome : TicketRedemptionOutcome) : TicketScanResult :=
  { outcome := outcome
    accepted := outcome == .ACCEPTED
    reference :=
      if outcome ∈ [.ACCEPTED, .ALREADY_USED, .REVOKED] then some ticket.publicReference else none }

/-! ## §2 The record of a scan -/

/-- The session a scan is for, with its event's organizer. -/
structure ScanTarget where
  eventId : EventId
  organizationId : OrganizationId

/-- `safeReason`. -/
def safeReason (outcome : TicketRedemptionOutcome) : Option TicketRedemptionOutcome :=
  if outcome = .ACCEPTED then none else some outcome

/-- A scan's record. -/
def ScanInput.event (input : ScanInput) (target : ScanTarget)
    (subject : Option (TicketId × CredentialId)) (outcome : TicketRedemptionOutcome) (now : Time) :
    TicketRedemptionEvent :=
  { ticketId := subject.map Prod.fst
    ticketCredentialId := subject.map Prod.snd
    organizationId := target.organizationId
    eventId := target.eventId
    sessionId := input.sessionId
    scannerUserId := input.scannerUserId
    outcome := outcome
    scannedAt := now
    scannerIdentifier := input.scannerIdentifier
    rejectionReason := safeReason outcome
    idempotencyKey := input.idempotencyKey }

/-- The outcome of an earlier scan under the same key. -/
def replayedOutcome (input : ScanInput) : Sql (Option TicketRedemptionOutcome) :=
  match input.idempotencyKey with
  | none => pure none
  | some key => do
      let existing ← Prisma.ticketRedemptionEvent.findMany fun _ e =>
        e.scannerUserId == input.scannerUserId && e.idempotencyKey == some key
      pure (existing.head?.map fun e => e.2.outcome)

/-- Record a credential that is not one of ours. -/
def recordInvalid (input : ScanInput) (target : ScanTarget) (fresh : RedemptionId) (now : Time) :
    Sql TicketScanResult := do
  Prisma.ticketRedemptionEvent.insert fresh (input.event target none .INVALID now)
  pure (.of .INVALID)

def TicketCredential.used (c : TicketCredential) (now : Time) : TicketCredential :=
  { c with status := .USED, usedAt := some now }

def Ticket.used (t : Ticket) : Ticket :=
  { t with status := .USED }

/-- The entry of an accepted scan. -/
def useTicket (credentialId : CredentialId) (ticketId : TicketId) (now : Time) : Sql Unit := do
  updateCredential credentialId (·.used now)
  let _ ← Prisma.ticket.update ticketId (·.used) (.notFound "Ticket")

/-! ## §3 `validateTicketEntry` -/

/-- The rest of a scan, once its credential is locked: the ticket is locked before
anything about it is read. -/
def scanTicket (input : ScanInput) (target : ScanTarget) (credentialId : CredentialId)
    (ticketId : TicketId) (fresh : RedemptionId) (now : Time) : Sql TicketScanResult := do
  let _ ← Prisma.ticket.lock ticketId
  let credential ← Prisma.ticketCredential.findOrThrow credentialId (.notFound "TicketCredential")
  let ticket ← Prisma.ticket.findOrThrow ticketId (.notFound "Ticket")
  let booking ← Prisma.booking.findOrThrow ticket.bookingId (.notFound "Booking")
  let session ← Prisma.eventSession.findOrThrow ticket.sessionId (.notFound "EventSession")
  let outcome := decideScan input target.eventId credential ticket booking.status session now
  Prisma.ticketRedemptionEvent.insert fresh
    (input.event target (some (ticketId, credentialId)) outcome now)
  if outcome = .ACCEPTED then useTicket credentialId ticketId now
  else pure ()
  pure (ticket.scanResult outcome)

/-- The transaction of `validateTicketEntry`; `now` is the time it began. -/
def scanInTransaction (input : ScanInput) (target : ScanTarget) (fresh : RedemptionId)
    (now : Time) : Sql TicketScanResult := runInTransaction do
  let replayed ← replayedOutcome input
  match replayed with
  | some outcome => pure (.of outcome)
  | none =>
      match input.credential with
      | none => recordInvalid input target fresh now
      | some suppliedHash => do
          let rows ← Prisma.ticketCredential.lockMany fun _ c => c.credentialHash == suppliedHash
          match rows.head? with
          | none => recordInvalid input target fresh now
          | some (credentialId, locked) =>
              scanTicket input target credentialId locked.ticketId fresh now

/-- The session of a scan. -/
def findScanTarget (sessionId : SessionId) : Sql (Option (EventSession × ScanTarget)) := do
  let session ← Prisma.eventSession.find sessionId
  match session with
  | none => pure none
  | some session => do
      let event ← Prisma.event.findOrThrow session.eventId (.notFound "Event")
      pure (some (session,
        { eventId := session.eventId, organizationId := event.organizerOrganizationId }))

/-- `findAuthorizedScannerSession`: an administrator of the organizer or of the venue. -/
def isAuthorizedScanner (scannerUserId : UserId) (session : EventSession) (target : ScanTarget) :
    Sql Bool := do
  let user ← Prisma.user.find scannerUserId
  pure (user.any fun u =>
    u.administers target.organizationId || u.administers session.venueOrganizationId)

/-- What is looked up before the transaction: the target if the scanner may scan there,
and whether the session exists at all. -/
def authorizeScan (input : ScanInput) : Sql (Option (ScanTarget × Bool)) := do
  let found ← findScanTarget input.sessionId
  match found with
  | none => pure none
  | some (session, target) => do
      let authorized ← isAuthorizedScanner input.scannerUserId session target
      pure (some (target, authorized))

/-- The record of a scan by somebody else. -/
def recordUnauthorized (input : ScanInput) (target : ScanTarget) (fresh : RedemptionId)
    (now : Time) : Sql Unit :=
  Prisma.ticketRedemptionEvent.insert fresh (input.event target none .UNAUTHORIZED_SCANNER now)

/-- The reply and the database after a scan. The record of an unauthorized one may fail
without notice; an error of the transaction is the caller's. -/
def validateTicketEntry (input : ScanInput) (fresh : RedemptionId) (now : Time) (db : Db) :
    Except Failure (TicketScanResult × Db) := do
  let (target, _) ← (authorizeScan input).run db
  match target with
  | none => .ok (.of .UNAUTHORIZED_SCANNER, db)
  | some (target, false) =>
      .ok (.of .UNAUTHORIZED_SCANNER, (recordUnauthorized input target fresh now).commit db)
  | some (target, true) => (scanInTransaction input target fresh now).run db

end SeatFlow
