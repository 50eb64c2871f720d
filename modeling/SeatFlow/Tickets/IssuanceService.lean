import SeatFlow.Database.RefundConstraints

/-!
# Issuing tickets

`issuance-service`: a confirmed booking's request is completed once every seat has a
ticket with a live credential, in one transaction. A failed attempt is counted in a
transaction of its own until the request is given up. The audit trail and the
notification that are written besides are read by no modelled service and left out.
-/

namespace SeatFlow

open Relational Program

/-! ## §1 Credentials -/

/-- `ticketCredential.create`, with its constraint trigger. -/
def createCredential (id : CredentialId) (row : TicketCredential) : Sql Unit := do
  Prisma.ticketCredential.insert id row
  defer (.verifyCredentialReplacement id)

/-- `ticketCredential.update({ where: { id } })`, with its constraint trigger. -/
def updateCredential (id : CredentialId) (f : TicketCredential → TicketCredential) :
    Sql Unit := do
  let _ ← Prisma.ticketCredential.update id f (.notFound "TicketCredential")
  defer (.verifyCredentialReplacement id)

/-- The credential of a ticket and version as it is inserted. -/
def Ticket.credential (ticket : Ticket) (ticketId : TicketId) (version : Nat) (now : Time) :
    TicketCredential :=
  { ticketId := ticketId
    version := version
    credentialHash := .derived ticket.publicReference version
    issuedAt := now }

/-! ## §2 `issueBookingTicketsInTransaction` -/

/-- What is generated for the tickets of a booking. -/
structure FreshTickets where
  ticketId : BookingSeatId → TicketId
  publicReference : BookingSeatId → Reference
  credentialId : BookingSeatId → CredentialId

structure IssuanceResult where
  total : Nat
  issued : Nat
  credentialsCreated : Nat

/-- The ticket of a booked seat as it is inserted. -/
def Booking.ticket (booking : Booking) (bookingId : BookingId) (seat : BookingSeat)
    (publicReference : Reference) (now : Time) : Ticket :=
  { publicReference := publicReference
    bookingId := bookingId
    bookingSeatId := seat.id
    userId := booking.userId
    organizationId := booking.organizationId
    eventId := booking.eventId
    sessionId := booking.sessionId
    issuedAt := now }

/-- The seat's ticket, issued now if there is none; whether it was issued. -/
def issueTicket (bookingId : BookingId) (booking : Booking) (fresh : FreshTickets) (now : Time)
    (seat : BookingSeat) : Sql (TicketId × Ticket × Bool) := do
  let found ← Prisma.ticket.findMany fun _ t => t.bookingSeatId == seat.id
  match found.head? with
  | some (ticketId, ticket) => pure (ticketId, ticket, false)
  | none => do
      let ticket := booking.ticket bookingId seat (fresh.publicReference seat.id) now
      Prisma.ticket.insert (fresh.ticketId seat.id) ticket
      pure (fresh.ticketId seat.id, ticket, true)

/-- A live ticket without a live credential gets the next version; whether it did. -/
def issueCredential (credentialId : CredentialId) (ticketId : TicketId) (ticket : Ticket)
    (now : Time) : Sql Bool := do
  let active ← Prisma.ticketCredential.findMany fun _ c =>
    c.ticketId == ticketId && c.status == .ACTIVE
  if active = [] ∧ ticket.status = .ACTIVE then do
    let versions ← Prisma.ticketCredential.findMany fun _ c => c.ticketId == ticketId
    let latest := (versions.map fun e => e.2.version).foldr max 0
    createCredential credentialId (ticket.credential ticketId (latest + 1) now)
    pure true
  else pure false

/-- Tickets issued and credentials created for a list of seats. -/
def issueSeats (bookingId : BookingId) (booking : Booking) (fresh : FreshTickets) (now : Time) :
    List BookingSeat → Sql (Nat × Nat)
  | [] => pure (0, 0)
  | seat :: seats => do
      let (ticketId, ticket, issued) ← issueTicket bookingId booking fresh now seat
      let created ← issueCredential (fresh.credentialId seat.id) ticketId ticket now
      let rest ← issueSeats bookingId booking fresh now seats
      pure (issued.toNat + rest.1, created.toNat + rest.2)

/-- The live credentials of a booking's tickets. -/
def Db.liveCredentials (db : Db) (bookingId : BookingId) : List (CredentialId × TicketCredential) :=
  db.credentials.select fun _ c =>
    c.status == .ACTIVE && (db.tickets.lookup c.ticketId).any fun t => t.bookingId == bookingId

def issueBookingTicketsInTransaction (bookingId : BookingId) (fresh : FreshTickets) (now : Time) :
    Sql IssuanceResult := do
  let booking ← Prisma.booking.findOrThrow bookingId (.notFound "Booking")
  require (booking.status = .CONFIRMED ∧ booking.seats ≠ [])
    (.domain "TICKET_ISSUANCE_BOOKING_NOT_CONFIRMED")
  let counts ← issueSeats bookingId booking fresh now
    (booking.seats.insertionSort fun a b => a.id ≤ b.id)
  let tickets ← Prisma.ticket.findMany fun _ t => t.bookingId == bookingId
  let live ← read fun db => db.liveCredentials bookingId
  require (tickets.length = booking.seats.length ∧ live.length = booking.seats.length)
    (.domain "TICKET_ISSUANCE_INCOMPLETE")
  pure { total := tickets.length, issued := counts.1, credentialsCreated := counts.2 }

/-! ## §3 Requests -/

def TicketIssuanceRequest.completed (r : TicketIssuanceRequest) (now : Time) :
    TicketIssuanceRequest :=
  { r with status := .COMPLETED, processedAt := some now }

def completeIssuance (bookingId : BookingId) (now : Time) : Sql Unit := do
  let _ ← Prisma.ticketIssuanceRequest.update bookingId (·.completed now)
    (.notFound "TicketIssuanceRequest")

def processTicketIssuanceForBooking (bookingId : BookingId) (fresh : FreshTickets) (now : Time) :
    Sql IssuanceResult := runInTransaction do
  let _ ← Prisma.ticketIssuanceRequest.lock bookingId
  let request ← Prisma.ticketIssuanceRequest.findOrThrow bookingId
    (.notFound "TicketIssuanceRequest")
  match request.status with
  | .COMPLETED => pure { total := 0, issued := 0, credentialsCreated := 0 }
  | .DEAD_LETTER => .abort (.domain "TICKET_ISSUANCE_DEAD_LETTER")
  | .PENDING => do
      let result ← issueBookingTicketsInTransaction bookingId fresh now
      completeIssuance bookingId now
      pure result

structure TicketIssuanceConfiguration where
  maximumAttempts : Nat
  backoffBaseMs : Time
  backoffMaximumMs : Time

def calculateBackoff (attempt : Nat) (baseMs maximumMs : Time) : Time :=
  min maximumMs (baseMs * 2 ^ min (attempt - 1) 30)

/-- The oldest request that is due and that nobody else has claimed. A request's own
identifier, which breaks ties, stands for its booking's. -/
def claimIssuance (now : Time) : Sql (Option BookingId) := do
  let rows ← Prisma.ticketIssuanceRequest.lockBatch
    (fun _ r => r.status == .PENDING && r.availableAt ≤ now)
    (fun a b => a.2.createdAt < b.2.createdAt ∨ a.2.createdAt = b.2.createdAt ∧ a.1 ≤ b.1) 1
  pure (rows.head?.map Prod.fst)

/-- The transaction of one round of `processTicketIssuanceBatch`; `none` when no request
is due. -/
def issueClaimed (fresh : FreshTickets) (now : Time) : Sql (Option IssuanceResult) :=
  runInTransaction do
    let claimed ← claimIssuance now
    match claimed with
    | none => pure none
    | some bookingId => do
        let issued ← issueBookingTicketsInTransaction bookingId fresh now
        completeIssuance bookingId now
        pure (some issued)

/-- A request after one more failed attempt. -/
def TicketIssuanceRequest.failed (r : TicketIssuanceRequest)
    (configuration : TicketIssuanceConfiguration) (now : Time) : TicketIssuanceRequest :=
  let nextAttempt := r.attemptCount + 1
  let deadLettered := decide (configuration.maximumAttempts ≤ nextAttempt)
  { r with
    status := if deadLettered then .DEAD_LETTER else .PENDING
    attemptCount := nextAttempt
    availableAt := now + calculateBackoff nextAttempt configuration.backoffBaseMs
      configuration.backoffMaximumMs
    deadLetterAt := if deadLettered then some now else none }

/-- What the `catch` of a round records about the request it had claimed. -/
def recordIssuanceFailure (configuration : TicketIssuanceConfiguration) (bookingId : BookingId)
    (now : Time) : Sql Unit := runInTransaction do
  let _ ← Prisma.ticketIssuanceRequest.lock bookingId
  let due ← Prisma.ticketIssuanceRequest.find bookingId
  match due with
  | none => pure ()
  | some due =>
      if due.status ≠ .PENDING ∨ now < due.availableAt then pure ()
      else do
        let _ ← Prisma.ticketIssuanceRequest.update bookingId (·.failed configuration now)
          (.notFound "TicketIssuanceRequest")

/-- The database after one round of `processTicketIssuanceBatch`: the claimed request's
tickets are issued, or its failure is counted. -/
def issuanceRound (configuration : TicketIssuanceConfiguration) (fresh : FreshTickets) (now : Time)
    (db : Db) : Db :=
  match (issueClaimed fresh now).run db with
  | .ok (_, db') => db'
  | .error _ =>
      match (claimIssuance now).run db with
      | .ok (some bookingId, _) => (recordIssuanceFailure configuration bookingId now).commit db
      | _ => db

def TicketIssuanceRequest.retried (r : TicketIssuanceRequest) (now : Time) :
    TicketIssuanceRequest :=
  { r with
    status := .PENDING
    availableAt := now
    attemptCount := 0
    processedAt := none
    deadLetterAt := none }

def retryTicketIssuanceRequest (bookingId : BookingId) (now : Time) : Sql Nat := do
  let updated ← Prisma.ticketIssuanceRequest.updateMany
    (fun id r => id == bookingId && r.status == .DEAD_LETTER) fun _ r => r.retried now
  pure updated.length

end SeatFlow
