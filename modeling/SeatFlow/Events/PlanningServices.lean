import SeatFlow.Events.PlanningStore
import SeatFlow.SeatMaps.SeatMapService

/-!
# The event services

A request first reads what its sender may act on, and acts on it later: other requests may come in
between. Each service is given what was read (`access`); what it reads again, and writes, is its
program. What a cancellation does to holds, and the announcements, are not part of it.
-/

namespace SeatFlow.Planning

open Relational

/-! ## §1 Access -/

structure OrganizerScope where
  authorized : Bool
  organizationId : OrganizationId

structure EventScope extends OrganizerScope where
  eventSlug : String

structure SessionScope extends EventScope where
  sessionId : SessionId

structure PriceTierScope extends SessionScope where
  priceTierId : PriceTierId

/-- A membership that is high enough, and the slug of its organization. -/
structure OrganizerAccess where
  organizationId : OrganizationId
  organizationSlug : String

structure EventAccess extends OrganizerAccess where
  eventId : EventId
  event : Event

structure SessionAccess extends EventAccess where
  sessionId : SessionId
  eventSession : EventSession

structure PriceTierAccess extends SessionAccess where
  priceTierId : PriceTierId
  priceTier : SessionPriceTier

structure VenueAccess where
  venueId : VenueId
  venue : Venue

section Access

variable (db : PlanningDb)

def findAuthorizedOrganizerOrganization (scope : OrganizerScope) : Option OrganizerAccess :=
  if scope.authorized then
    ((db.organizations.lookup scope.organizationId).filter (·.kind == .ORGANIZER)).map
      fun organization =>
        { organizationId := scope.organizationId, organizationSlug := organization.slug }
  else none

def findAuthorizedEvent (scope : EventScope) : Option EventAccess := do
  let membership ← findAuthorizedOrganizerOrganization db scope.toOrganizerScope
  let found ← (db.events.select fun _ event =>
    event.organizerOrganizationId == membership.organizationId &&
      event.slug == scope.eventSlug).head?
  some { membership with eventId := found.1, event := found.2 }

def findAuthorizedEventSession (scope : SessionScope) : Option SessionAccess := do
  let access ← findAuthorizedEvent db scope.toEventScope
  let session ← (db.sessions.lookup scope.sessionId).filter (·.eventId == access.eventId)
  some { access with sessionId := scope.sessionId, eventSession := session }

def findAuthorizedPriceTier (scope : PriceTierScope) : Option PriceTierAccess := do
  let access ← findAuthorizedEventSession db scope.toSessionScope
  let tier ← (db.priceTiers.lookup scope.priceTierId).filter (·.sessionId == access.sessionId)
  some { access with priceTierId := scope.priceTierId, priceTier := tier }

def findAuthorizedVenue (authorized : Bool) (venueId : VenueId) : Option VenueAccess :=
  if authorized then
    (db.layout.venues.lookup venueId).map fun venue => { venueId := venueId, venue := venue }
  else none

end Access

/-- `schema.parse(rawInput)`. -/
def parsed {α : Type} : Except (List SchemaIssue) α → PlanningSql α
  | .ok input => pure input
  | .error issues => .abort (.schema issues)

/-- The event may have sessions that are still worked on. -/
def isOpen (status : EventStatus) : Prop :=
  status ∈ [EventStatus.DRAFT, .PUBLISHED]

instance (status : EventStatus) : Decidable (isOpen status) :=
  inferInstanceAs (Decidable (_ ∈ _))

/-! ## §2 Venue access -/

def grantVenueAccess (access : Option VenueAccess) (organizer : Option OrganizationId)
    (userId : UserId) (fresh : GrantId) : PlanningSql Unit := do
  let access ← .orThrow .authorization access
  .require (access.venue.status ≠ .ARCHIVED)
    (.lifecycle "Restore the venue before granting new access.")
  let organizer ← .orThrow
    (.validation ["Enter an existing organizer organization slug."]) organizer
  let existing ← .read fun db => db.activeGrants organizer access.venueId
  if existing ≠ [] then pure ()
  else do
    Prisma.venueAccessGrant.insert fresh
      { organizerOrganizationId := organizer, venueId := access.venueId, grantedByUserId := userId }

def revokeVenueAccess (access : Option VenueAccess) (grantId : GrantId) (userId : UserId)
    (now : Time) : PlanningSql Unit := do
  let access ← .orThrow .authorization access
  let found ← Prisma.venueAccessGrant.find grantId
  let grant ← .orThrow .authorization (found.filter (·.venueId == access.venueId))
  if grant.status = .REVOKED then pure ()
  else do
    let _ ← Prisma.venueAccessGrant.update grantId
      (fun grant => { grant with
        status := .REVOKED, revokedAt := some now, revokedByUserId := some userId })
      (.notFound "VenueAccessGrant")

/-! ## §3 Events -/

/-- For the platform's `normalize("NFKD")` and `toLowerCase`. -/
structure TextForms where
  nfkd : String → String
  lower : String → String

def createEvent (forms : TextForms) (access : Option OrganizerAccess) (rawInput : EventInput)
    (fresh : EventId) : PlanningSql Unit := do
  let membership ← .orThrow .authorization access
  let input ← parsed (eventInputSchema forms.lower rawInput)
  let slug := input.slug.getD (createEventSlug forms.nfkd forms.lower input.title)
  Prisma.event.insert fresh
    { organizerOrganizationId := membership.organizationId
      title := input.title
      slug := slug
      publicSlug := createPublicEventSlug membership.organizationSlug slug
      shortDescription := input.shortDescription
      description := input.description
      category := input.category
      imagePath := input.imagePath }

/-- An image path that is left out stays as it was. -/
def updateEvent (forms : TextForms) (access : Option EventAccess) (rawInput : EventInput) :
    PlanningSql Unit := do
  let access ← .orThrow .authorization access
  .require (canEditEvent access.event.status = true)
    (.lifecycle "Only draft event content can be edited.")
  let input ← parsed (eventInputSchema forms.lower rawInput)
  let slug := input.slug.getD (createEventSlug forms.nfkd forms.lower input.title)
  let _ ← Prisma.event.update access.eventId
    (fun event => { event with
      title := input.title
      slug := slug
      publicSlug := createPublicEventSlug access.organizationSlug slug
      shortDescription := input.shortDescription
      description := input.description
      category := input.category
      imagePath := input.imagePath.orElse fun _ => event.imagePath })
    (.notFound "Event")

/-- The event, when it is still one of the organization. -/
def PlanningDb.eventOf (db : PlanningDb) (access : EventAccess) : Option Event :=
  (db.events.lookup access.eventId).filter fun event =>
    event.organizerOrganizationId == access.organizationId

def getSessionPricingCoverage (db : PlanningDb) (sessionId : SessionId)
    (eventSession : EventSession) : PricingCoverage :=
  calculatePricingCoverage (pricingSections db.layout eventSession.seatMapId)
    (db.orderedTiers sessionId) (db.assignments sessionId)

/-- `eligibleSessions`. -/
def PlanningDb.eligibleSessions (db : PlanningDb) (eventId : EventId) (now : Time) :
    List (SessionId × EventSession) :=
  db.sessions.select fun _ session => session.eventId == eventId && session.publishedAt.isSome &&
    [EventSessionStatus.SCHEDULED, .ON_SALE, .SALES_PAUSED].contains session.status &&
      decide (session.startAt > now)

def PlanningDb.hasValidSession (db : PlanningDb) (eventId : EventId) (now : Time) : Bool :=
  (db.eligibleSessions eventId now).any fun e =>
    let coverage := getSessionPricingCoverage db e.1 e.2
    coverage.issues.length == 0 && decide (coverage.totalSellable > 0) &&
      decide ((db.orderedTiers e.1).length > 0)

def publishEvent (access : Option EventAccess) (now : Time) : PlanningSql Unit := do
  let access ← .orThrow .authorization access
  .require (canPublishEvent access.event.status = true)
    (.lifecycle "This event cannot be published from its current state.")
  let found ← .read fun db => db.eventOf access
  let event ← .orThrow .authorization found
  if event.status = .PUBLISHED then pure ()
  else do
    .require (event.status = .DRAFT)
      (.lifecycle "This event cannot be published from its current state.")
    let hasValidSession ← .read fun db => db.hasValidSession access.eventId now
    .require (hasValidSession = true) (.validation
      ["Publish at least one future session with complete pricing before publishing the event."])
    let _ ← Prisma.event.update access.eventId
      (fun event => { event with status := .PUBLISHED, publishedAt := some now })
      (.notFound "Event")

def cancelEvent (access : Option EventAccess) (cancelledAt : Time) : PlanningSql Unit := do
  let access ← .orThrow .authorization access
  if access.event.status = .CANCELLED then pure ()
  else do
    .require (canCancelEvent access.event.status = true)
      (.lifecycle "This event cannot be cancelled from its current state.")
    let found ← .read fun db => db.eventOf access
    let event ← .orThrow .authorization found
    if event.status = .CANCELLED then pure ()
    else do
      .require (canCancelEvent event.status = true)
        (.lifecycle "This event cannot be cancelled from its current state.")
      let _ ← Prisma.eventSession.updateMany
        (fun _ session => session.eventId == access.eventId && canCancelSession session.status)
        fun _ session => { session with status := .CANCELLED, cancelledAt := some cancelledAt }
      let _ ← Prisma.event.update access.eventId
        (fun event => { event with status := .CANCELLED, cancelledAt := some cancelledAt })
        (.notFound "Event")

def archiveEvent (access : Option EventAccess) (now : Time) : PlanningSql Unit := do
  let access ← .orThrow .authorization access
  if access.event.status = .ARCHIVED then pure ()
  else do
    .require (canArchiveEvent access.event.status = true)
      (.lifecycle "This event cannot be archived.")
    let _ ← Prisma.event.update access.eventId
      (fun event => { event with
        preArchiveStatus := some access.event.status, status := .ARCHIVED, archivedAt := some now })
      (.notFound "Event")

def restoreEvent (access : Option EventAccess) : PlanningSql Unit := do
  let access ← .orThrow .authorization access
  .require (canRestoreEvent access.event.status access.event.preArchiveStatus = true)
    (.lifecycle "Only events archived from draft or published state can be restored.")
  let restoreStatus ← .orThrow (.lifecycle "This archived event is not eligible for restore.")
    (access.event.preArchiveStatus.filter fun status => status == .DRAFT || status == .PUBLISHED)
  let _ ← Prisma.event.update access.eventId
    (fun event => { event with
      status := restoreStatus, preArchiveStatus := none, archivedAt := none })
    (.notFound "Event")

/-- After the sessions were counted. -/
def deleteEmptyDraftEvent (access : Option EventAccess) (sessionCount : Nat) :
    PlanningSql Unit := do
  let access ← .orThrow .authorization access
  .require (access.event.status = .DRAFT) (.lifecycle "Only an empty draft event can be deleted.")
  .require (sessionCount = 0)
    (.lifecycle "Remove draft sessions before deleting this draft event.")
  deleteEventRow access.eventId

/-! ## §4 Sessions -/

structure SessionConfiguration where
  venue : Venue
  space : Space
  seatMap : SeatMap

def PlanningDb.configuration (db : PlanningDb) (organizationId : OrganizationId)
    (venueId : VenueId) (spaceId : SpaceId) (seatMapId : SeatMapId) :
    Option SessionConfiguration := do
  let venue ← db.layout.venues.lookup venueId
  let space ← db.layout.spaces.lookup spaceId
  let seatMap ← db.layout.seatMaps.lookup seatMapId
  if db.activeGrants organizationId venueId = [] then none
  else some { venue := venue, space := space, seatMap := seatMap }

def loadAuthorizedConfiguration (organizationId : OrganizationId) (venueId : VenueId)
    (spaceId : SpaceId) (seatMapId : SeatMapId) : PlanningSql Unit := do
  let found ← .read fun db => db.configuration organizationId venueId spaceId seatMapId
  let configuration ← .orThrow .authorization found
  .require (configuration.venue.status = .ACTIVE ∧ configuration.space.status = .ACTIVE)
    (.lifecycle "Sessions require an active venue and space.")
  .require (configuration.space.venueId = venueId) .authorization
  .require (configuration.seatMap.spaceId = spaceId ∧ configuration.seatMap.status = .PUBLISHED)
    .authorization

def assertEventAllowsSessionManagement (status : EventStatus) : PlanningSql Unit :=
  .require (isOpen status) (.lifecycle "Restore an archived event before changing its sessions.")

def localTime (value : String) (timeZone : TimeZone) : PlanningSql Time :=
  match zonedLocalDateTimeToUtc value timeZone with
  | .ok date => pure date
  | .error message => .abort (.validation [message])

/-- In the time zone of the venue. -/
def parseSessionTimes (input : EventSessionInput) (timeZone : TimeZone) :
    PlanningSql SessionDateRange := do
  let startAt ← localTime input.startLocal timeZone
  let endAt ← localTime input.endLocal timeZone
  let salesStartAt ← localTime input.salesStartLocal timeZone
  let salesEndAt ← localTime input.salesEndLocal timeZone
  parsed (sessionDateRangeSchema
    { startAt := startAt, endAt := endAt, salesStartAt := salesStartAt, salesEndAt := salesEndAt })

/-- `findConflict`, for the sessions but one. -/
def PlanningDb.hasConflict (db : PlanningDb) (spaceId : SpaceId) (times : SessionDateRange)
    (excludeSessionId : Option SessionId) : Bool :=
  db.sessions.any fun k session => session.spaceId == spaceId && session.status != .CANCELLED &&
    decide (Overlaps session.toSessionDateRange times) && some k != excludeSessionId

def overlapError : PlanningError :=
  .conflict "Another non-cancelled session already occupies this space during that time."

def createEventSession (access : Option EventAccess) (rawInput : EventSessionInput)
    (timeZone : TimeZone) (fresh : SessionId) : PlanningSql Unit := do
  let access ← .orThrow .authorization access
  .require (isOpen access.event.status) (.lifecycle "Sessions cannot be added to this event.")
  let input ← parsed (eventSessionInputSchema rawInput)
  let found ← .read fun db => db.eventOf access
  let _ ← .orThrow .authorization (found.filter fun event => decide (isOpen event.status))
  loadAuthorizedConfiguration access.organizationId input.venueId input.spaceId input.seatMapId
  let times ← parseSessionTimes input timeZone
  let conflict ← .read fun db => db.hasConflict input.spaceId times none
  .require (conflict = false) overlapError
  Prisma.eventSession.insert fresh
    { times with
      eventId := access.eventId, venueId := input.venueId, spaceId := input.spaceId
      seatMapId := input.seatMapId }

/-- The session, when it is still one of the event, with the event. -/
def PlanningDb.sessionOf (db : PlanningDb) (access : SessionAccess) :
    Option (EventSession × Event) := do
  let session ← (db.sessions.lookup access.sessionId).filter (·.eventId == access.eventId)
  let event ← db.events.lookup session.eventId
  some (session, event)

def updateDraftEventSession (access : Option SessionAccess) (rawInput : EventSessionInput)
    (timeZone : TimeZone) : PlanningSql Unit := do
  let access ← .orThrow .authorization access
  assertEventAllowsSessionManagement access.event.status
  .require (canEditSession access.eventSession.status = true)
    (.lifecycle "Only draft sessions can be edited.")
  let input ← parsed (eventSessionInputSchema rawInput)
  let found ← .read fun db => db.sessionOf access
  let _ ← .orThrow (.lifecycle "Only draft sessions can be edited.")
    (found.filter fun e => e.1.status == .DRAFT && decide (isOpen e.2.status))
  loadAuthorizedConfiguration access.organizationId input.venueId input.spaceId input.seatMapId
  let times ← parseSessionTimes input timeZone
  let conflict ← .read fun db => db.hasConflict input.spaceId times (some access.sessionId)
  .require (conflict = false) overlapError
  let _ ← Prisma.eventSession.update access.sessionId
    (fun session => { session with
      toSessionDateRange := times
      venueId := input.venueId, spaceId := input.spaceId, seatMapId := input.seatMapId })
    (.notFound "EventSession")

/-- `createMany` with `skipDuplicates`: how many rows were new. -/
def createInventory (sessionId : SessionId) : List MaterializedInventoryRow → PlanningSql Nat
  | [] => pure 0
  | row :: rows => do
      let created ← Prisma.sessionSeatInventory.insertNew (sessionId, row.seatId) row
      let rest ← createInventory sessionId rows
      pure (if created then rest + 1 else rest)

def PlanningDb.inventoryRows (db : PlanningDb) (sessionId : SessionId) (session : EventSession) :
    List MaterializedInventoryRow :=
  computeSessionInventoryRows (pricingSections db.layout session.seatMapId)
    (db.pricingTiers sessionId) (db.assignments sessionId)

def PlanningDb.inventoryOf (db : PlanningDb) (sessionId : SessionId) :
    List ((SessionId × SeatId) × MaterializedInventoryRow) :=
  db.inventory.select fun key _ => key.1 == sessionId

structure MaterializationResult where
  created : Nat
  sellableCapacity : Nat
  total : Nat

def materializeSessionInventory (sessionId : SessionId) : PlanningSql MaterializationResult := do
  let found ← Prisma.eventSession.find sessionId
  let session ← .orThrow (.thrown "The session no longer exists for materialization.") found
  let rows ← .read fun db => db.inventoryRows sessionId session
  let created ← createInventory sessionId rows
  let total ← .read fun db => (db.inventoryOf sessionId).length
  pure { created := created, sellableCapacity := rows.length, total := total }

def ensureSessionInventory (sessionId : SessionId) : PlanningSql MaterializationResult := do
  let result ← materializeSessionInventory sessionId
  .require (result.total = result.sellableCapacity)
    (.thrown "Materialized inventory does not match the session's sellable capacity.")
  pure result

/-- What keeps a session from being published. -/
def publicationIssues (db : PlanningDb) (sessionId : SessionId) (session : EventSession)
    (now : Time) : List String :=
  let coverage := getSessionPricingCoverage db sessionId session
  coverage.issues ++
  (if session.startAt ≤ now then ["The session start time must be in the future."] else []) ++
  (if session.salesEndAt ≤ now then ["The sales window has already ended."] else []) ++
  (if coverage.totalSellable ≤ 0 then
    ["The published seat map must have positive sellable capacity."] else []) ++
  (if (db.orderedTiers sessionId).length = 0 then ["Add at least one price tier."] else []) ++
  if db.hasConflict session.spaceId session.toSessionDateRange (some sessionId) then
    ["Another non-cancelled session overlaps this space and time."] else []

def publishedStatus (session : EventSession) (now : Time) : EventSessionStatus :=
  if session.salesStartAt ≤ now ∧ now < session.salesEndAt then .ON_SALE else .SCHEDULED

def publishEventSession (access : Option SessionAccess) (now : Time) : PlanningSql Unit := do
  let access ← .orThrow .authorization access
  let found ← .read fun db => db.sessionOf access
  let found ← .orThrow .authorization found
  let session := found.1
  if session.status ∈ [.SCHEDULED, .ON_SALE, .SALES_PAUSED] then pure ()
  else do
    .require (session.status = .DRAFT)
      (.lifecycle "This session cannot be published from its current state.")
    .require (isOpen found.2.status)
      (.lifecycle "The parent event is not eligible for session publication.")
    loadAuthorizedConfiguration access.organizationId session.venueId session.spaceId
      session.seatMapId
    let _ ← parsed (sessionDateRangeSchema session.toSessionDateRange)
    let issues ← .read fun db => publicationIssues db access.sessionId session now
    .require (issues = []) (.validation issues.eraseDups)
    let _ ← ensureSessionInventory access.sessionId
    let _ ← Prisma.eventSession.update access.sessionId
      (fun row => { row with status := publishedStatus session now, publishedAt := some now })
      (.notFound "EventSession")

def pauseEventSessionSales (access : Option SessionAccess) : PlanningSql Unit := do
  let access ← .orThrow .authorization access
  assertEventAllowsSessionManagement access.event.status
  .require (canPauseSessionSales access.eventSession.status = true)
    (.lifecycle "Only an on-sale session can be paused.")
  let _ ← Prisma.eventSession.update access.sessionId
    (fun session => { session with status := .SALES_PAUSED }) (.notFound "EventSession")

def resumeEventSessionSales (access : Option SessionAccess) (now : Time) : PlanningSql Unit := do
  let access ← .orThrow .authorization access
  assertEventAllowsSessionManagement access.event.status
  .require (access.eventSession.status ∈ [.SCHEDULED, .SALES_PAUSED])
    (.lifecycle "Only a scheduled or paused session can open sales.")
  .require (¬(now < access.eventSession.salesStartAt ∨ now ≥ access.eventSession.salesEndAt))
    (.lifecycle "Sales can open only inside the configured sales window.")
  let _ ← Prisma.eventSession.update access.sessionId
    (fun session => { session with status := .ON_SALE }) (.notFound "EventSession")

def cancelEventSession (access : Option SessionAccess) (now : Time) : PlanningSql Unit := do
  let access ← .orThrow .authorization access
  if access.eventSession.status = .CANCELLED then pure ()
  else do
    assertEventAllowsSessionManagement access.event.status
    .require (canCancelSession access.eventSession.status = true)
      (.lifecycle "This session cannot be cancelled.")
    let _ ← Prisma.eventSession.update access.sessionId
      (fun session => { session with status := .CANCELLED, cancelledAt := some now })
      (.notFound "EventSession")

/-! ## §5 Prices -/

def assertDraftPricing (status : EventSessionStatus) : PlanningSql Unit :=
  .require (canEditSessionPricing status = true)
    (.lifecycle "Pricing can only be changed on a draft session.")

def assertEventAllowsPricing (status : EventStatus) : PlanningSql Unit :=
  .require (isOpen status)
    (.lifecycle "Restore an archived event before changing session pricing.")

/-- The session, when it is still a draft of the event. -/
def findDraftSession (access : SessionAccess) : PlanningSql EventSession := do
  let found ← Prisma.eventSession.find access.sessionId
  .orThrow (.lifecycle "Pricing can only be changed on a draft session.")
    (found.filter fun session => session.eventId == access.eventId && session.status == .DRAFT)

def createSessionPriceTier [Casing] (access : Option SessionAccess) (rawInput : PriceTierInput)
    (fresh : PriceTierId) : PlanningSql Unit := do
  let access ← .orThrow .authorization access
  assertEventAllowsPricing access.event.status
  assertDraftPricing access.eventSession.status
  let input ← parsed (priceTierInputSchema rawInput)
  let _ ← findDraftSession access
  let tiers ← .read fun db => db.tiersOf access.sessionId
  Prisma.sessionPriceTier.insert fresh
    { sessionId := access.sessionId, name := input.name, code := input.code
      priceMinor := input.priceMinor, currency := input.currency
      displayOrder := nextDisplayOrder (tiers.map (·.2.displayOrder))
      description := input.description }

/-- A description that is left out stays as it was. -/
def updateSessionPriceTier [Casing] (access : Option PriceTierAccess)
    (rawInput : PriceTierInput) : PlanningSql Unit := do
  let access ← .orThrow .authorization access
  assertEventAllowsPricing access.event.status
  assertDraftPricing access.eventSession.status
  let input ← parsed (priceTierInputSchema rawInput)
  let _ ← Prisma.sessionPriceTier.update access.priceTierId
    (fun tier => { tier with
      name := input.name, code := input.code, priceMinor := input.priceMinor
      currency := input.currency
      description := input.description.orElse fun _ => tier.description })
    (.notFound "SessionPriceTier")

/-- After the assignments were counted. -/
def deleteUnusedSessionPriceTier (access : Option PriceTierAccess) (assignments : Nat) :
    PlanningSql Unit := do
  let access ← .orThrow .authorization access
  assertEventAllowsPricing access.event.status
  assertDraftPricing access.eventSession.status
  .require (assignments = 0)
    (.lifecycle "Unassign this tier from all sections before deleting it.")
  deletePriceTierRow access.priceTierId

def moveSessionPriceTier (access : Option PriceTierAccess) (direction : MoveDirection) :
    PlanningSql Unit := do
  let access ← .orThrow .authorization access
  assertEventAllowsPricing access.event.status
  assertDraftPricing access.eventSession.status
  let tiers ← .read fun db => db.tiersOf access.sessionId
  match withNeighbour (tiers.insertionSort (OrderedBefore (·.displayOrder))) access.priceTierId
      direction with
  | none => pure ()
  | some (current, target) => do
      let _ ← Prisma.sessionPriceTier.update current.1
        (fun tier => { tier with displayOrder := target.2.displayOrder })
        (.notFound "SessionPriceTier")
      let _ ← Prisma.sessionPriceTier.update target.1
        (fun tier => { tier with displayOrder := current.2.displayOrder })
        (.notFound "SessionPriceTier")

/-- `createMany`, under new identifiers. -/
def createSectionPricing (sessionId : SessionId) (fresh : Nat → AssignmentId) :
    Nat → List SectionAssignment → PlanningSql Unit
  | _, [] => pure ()
  | index, assignment :: rest => do
      Prisma.sessionSectionPricing.insert (fresh index)
        { sessionId := sessionId, sectionId := assignment.sectionId
          priceTierId := assignment.priceTierId }
      createSectionPricing sessionId fresh (index + 1) rest

/-- Every assignment names a section of the session's map and a tier of the session. -/
def PlanningDb.allowsAssignments (db : PlanningDb) (sessionId : SessionId) (session : EventSession)
    (assignments : List SectionAssignment) : Bool :=
  assignments.all fun assignment =>
    ((db.layout.sections.lookup assignment.sectionId).any (·.seatMapId == session.seatMapId)) &&
      (db.priceTiers.lookup assignment.priceTierId).any (·.sessionId == sessionId)

def assignSessionSectionPricing (access : Option SessionAccess)
    (assignments : List SectionAssignment) (fresh : Nat → AssignmentId) : PlanningSql Unit := do
  let access ← .orThrow .authorization access
  assertEventAllowsPricing access.event.status
  assertDraftPricing access.eventSession.status
  .require ((assignments.map (·.sectionId)).Nodup)
    (.validation ["A seat-map section can be assigned only once per session."])
  let session ← findDraftSession access
  let allowed ← .read fun db => db.allowsAssignments access.sessionId session assignments
  .require (allowed = true) .authorization
  deletePricingOf access.sessionId
  createSectionPricing access.sessionId fresh 0 assignments

/-! ## §6 The backfill -/

inductive BackfillOutcome
  | materialized | skipped_complete | skipped_ineligible | refused_inconsistent
  deriving DecidableEq

/-- `candidates`. -/
def PlanningDb.backfillCandidates (db : PlanningDb) : List (SessionId × EventSession) :=
  db.sessions.select fun _ session => session.publishedAt.isSome &&
    [EventSessionStatus.SCHEDULED, .ON_SALE, .SALES_PAUSED].contains session.status &&
      (db.events.lookup session.eventId).any (·.status == .PUBLISHED)

/-- What a candidate is found to need. -/
def backfillOutcome (db : PlanningDb) (sessionId : SessionId) (session : EventSession) :
    BackfillOutcome :=
  let coverage := getSessionPricingCoverage db sessionId session
  let expected := (db.inventoryRows sessionId session).length
  let existing := (db.inventoryOf sessionId).length
  if coverage.issues.length > 0 ∨ coverage.totalSellable ≤ 0 then .skipped_ineligible
  else if existing = expected then .skipped_complete
  else if existing ≠ 0 then .refused_inconsistent
  else .materialized

/-- The transaction of one candidate. -/
def backfillSession (outcome : BackfillOutcome) (sessionId : SessionId) : PlanningSql Unit :=
  if outcome = .materialized then do
    let _ ← ensureSessionInventory sessionId
  else pure ()

end SeatFlow.Planning
