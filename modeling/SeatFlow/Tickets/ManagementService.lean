import SeatFlow.Tickets.IssuanceService

/-!
# Managing tickets

`management-service`: an organization's administrator rotates the credential of a live
ticket or revokes the ticket, each in one transaction under the ticket's row lock.
-/

namespace SeatFlow

open Relational Program

/-- `membershipRoleRank` at least `ADMIN`. -/
def MembershipRole.administers : MembershipRole → Bool
  | .OWNER | .ADMIN => true
  | .MEMBER => false

def User.administers (user : User) (organizationId : OrganizationId) : Bool :=
  user.memberships.any fun m => m.organizationId == organizationId && m.role.administers

def canManageTicket (actorUserId : UserId) (ticketReference : Reference) : Sql Bool := do
  let actor ← Prisma.user.find actorUserId
  let tickets ← Prisma.ticket.findMany fun _ t => t.publicReference == ticketReference
  match actor, tickets.head? with
  | some actor, some (_, ticket) =>
      pure (actor.platformRole == .ADMIN || actor.administers ticket.organizationId)
  | _, _ => pure false

def canRotateTicket (status : TicketStatus) : Bool :=
  status == .ACTIVE

/-- Lock a ticket by its reference, then read it. -/
def lockTicket (ticketReference : Reference) : Sql (TicketId × Ticket) := do
  let rows ← Prisma.ticket.lockMany fun _ t => t.publicReference == ticketReference
  let (ticketId, _) ← orThrow (.domain "TICKET_NOT_FOUND") rows.head?
  let ticket ← Prisma.ticket.findOrThrow ticketId (.notFound "Ticket")
  pure (ticketId, ticket)

/-- The live credentials of a ticket, the newest first. -/
def findActiveCredentials (ticketId : TicketId) : Sql (List (CredentialId × TicketCredential)) := do
  let active ← Prisma.ticketCredential.findMany fun _ c =>
    c.ticketId == ticketId && c.status == .ACTIVE
  pure (active.insertionSort fun a b => b.2.version ≤ a.2.version)

/-! ## §1 `rotateTicketCredential` -/

def TicketCredential.replaced (c : TicketCredential) (now : Time) : TicketCredential :=
  { c with status := .REPLACED, replacedAt := some now }

def TicketCredential.replacedBy (c : TicketCredential) (replacement : CredentialId) :
    TicketCredential :=
  { c with replacementCredentialId := some replacement }

def Ticket.rotated (t : Ticket) (now : Time) : Ticket :=
  { t with lastCredentialRotationAt := some now }

/-- The transaction of `rotateTicketCredential`: the new version. -/
def rotateInTransaction (ticketReference : Reference) (fresh : CredentialId) (now : Time) :
    Sql Nat := runInTransaction do
  let (ticketId, ticket) ← lockTicket ticketReference
  require (canRotateTicket ticket.status) (.domain "TICKET_CREDENTIAL_ROTATION_FORBIDDEN")
  let active ← findActiveCredentials ticketId
  let (credentialId, credential) ← orThrow (.notFound "TicketCredential") active.head?
  let _ ← Prisma.ticketCredential.lock credentialId
  let nextVersion := credential.version + 1
  updateCredential credentialId (·.replaced now)
  createCredential fresh (ticket.credential ticketId nextVersion now)
  updateCredential credentialId (·.replacedBy fresh)
  let _ ← Prisma.ticket.update ticketId (·.rotated now) (.notFound "Ticket")
  pure nextVersion

def rotateTicketCredential (actorUserId : UserId) (ticketReference : Reference)
    (fresh : CredentialId) (now : Time) : Sql Nat := do
  let allowed ← canManageTicket actorUserId ticketReference
  require allowed (.domain "TICKET_MANAGEMENT_FORBIDDEN")
  rotateInTransaction ticketReference fresh now

/-! ## §2 `revokeTicket` -/

def TicketCredential.revoked (c : TicketCredential) (now : Time) : TicketCredential :=
  { c with status := .REVOKED, revokedAt := some now }

def Ticket.revokedBy (t : Ticket) (actorUserId : UserId) (reason : Code) (now : Time) : Ticket :=
  { t with
    status := .REVOKED
    revokedAt := some now
    revocationReason := some reason
    revokedByUserId := some actorUserId }

/-- The transaction of `revokeTicket`: whether the ticket was revoked already. -/
def revokeInTransaction (actorUserId : UserId) (ticketReference : Reference) (reason : Code)
    (now : Time) : Sql Bool := runInTransaction do
  let (ticketId, ticket) ← lockTicket ticketReference
  match ticket.status with
  | .REVOKED => pure true
  | .USED => .abort (.domain "USED_TICKET_CANNOT_BE_REVOKED")
  | .ACTIVE => do
      let active ← Prisma.ticketCredential.findMany fun _ c =>
        c.ticketId == ticketId && c.status == .ACTIVE
      match active.head? with
      | some (credentialId, _) => do
          let _ ← Prisma.ticketCredential.lock credentialId
          updateCredential credentialId (·.revoked now)
      | none => pure ()
      let _ ← Prisma.ticket.update ticketId (·.revokedBy actorUserId reason now)
        (.notFound "Ticket")
      pure false

/-- `reason` is what `ticketRevocationReasonSchema` makes of the given text: `none` when
it is refused. -/
def revokeTicket (actorUserId : UserId) (ticketReference : Reference) (reason : Option Code)
    (now : Time) : Sql Bool := do
  let allowed ← canManageTicket actorUserId ticketReference
  require allowed (.domain "TICKET_MANAGEMENT_FORBIDDEN")
  let reason ← orThrow (.domain "ZodError") reason
  revokeInTransaction actorUserId ticketReference reason now

end SeatFlow
