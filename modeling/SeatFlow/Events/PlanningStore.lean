import SeatFlow.Events.PlanningSchema
import SeatFlow.Events.Pricing
import SeatFlow.SeatMaps.SeatMapStore

/-!
# Events in the database

The tables of an organizer's events beside those of the venues, with the triggers and constraints
on their rows, and what a session is priced from. The layouts of the venues are a part of the
state of their own. Of a venue's owner and of an organizer's members the tables say nothing: who
may act is a part of a request.
-/

namespace SeatFlow.Planning

open Relational

/-! ## §1 Tables and writes -/

abbrev GrantId := Nat
abbrev AssignmentId := Nat

inductive OrganizationKind
  | VENUE_OPERATOR | ORGANIZER
  deriving DecidableEq

structure Organization where
  kind : OrganizationKind
  slug : String
  deriving DecidableEq

inductive VenueAccessGrantStatus
  | ACTIVE | REVOKED
  deriving DecidableEq

structure VenueAccessGrant where
  organizerOrganizationId : OrganizationId
  venueId : VenueId
  status : VenueAccessGrantStatus := .ACTIVE
  grantedByUserId : UserId
  revokedByUserId : Option UserId := none
  revokedAt : Option Time := none
  deriving DecidableEq

structure Event where
  organizerOrganizationId : OrganizationId
  title : String
  slug : String
  publicSlug : String
  shortDescription : String
  description : String
  category : EventCategory
  imagePath : Option String
  status : EventStatus := .DRAFT
  preArchiveStatus : Option EventStatus := none
  publishedAt : Option Time := none
  cancelledAt : Option Time := none
  archivedAt : Option Time := none
  deriving DecidableEq

structure EventSession extends SessionDateRange where
  eventId : EventId
  venueId : VenueId
  spaceId : SpaceId
  seatMapId : SeatMapId
  status : EventSessionStatus := .DRAFT
  publishedAt : Option Time := none
  cancelledAt : Option Time := none
  deriving DecidableEq

structure SessionPriceTier where
  sessionId : SessionId
  name : String
  code : String
  priceMinor : Money
  currency : Currency
  displayOrder : Int
  description : Option String := none
  deriving DecidableEq

structure SessionSectionPricing where
  sessionId : SessionId
  sectionId : SectionId
  priceTierId : PriceTierId
  deriving DecidableEq

/-- The inventory is kept under its unique index, a session and a seat; what holds and sales do
to a row is not part of it. -/
structure PlanningDb where
  layout : SeatMapDb := {}
  organizations : Table OrganizationId Organization := ∅
  grants : Table GrantId VenueAccessGrant := ∅
  events : Table EventId Event := ∅
  sessions : Table SessionId EventSession := ∅
  priceTiers : Table PriceTierId SessionPriceTier := ∅
  sectionPricing : Table AssignmentId SessionSectionPricing := ∅
  inventory : Table (SessionId × SeatId) MaterializedInventoryRow := ∅
  deriving DecidableEq

inductive PlanningRowKey
  | grant (id : GrantId)
  | event (id : EventId)
  | session (id : SessionId)
  | priceTier (id : PriceTierId)
  | sectionPricing (id : AssignmentId)
  | inventory (key : SessionId × SeatId)
  deriving DecidableEq

inductive PlanningWrite
  | grant (id : GrantId) (row : VenueAccessGrant)
  | event (id : EventId) (row : Event)
  | session (id : SessionId) (row : EventSession)
  | priceTier (id : PriceTierId) (row : SessionPriceTier)
  | sectionPricing (id : AssignmentId) (row : SessionSectionPricing)
  | inventory (key : SessionId × SeatId) (row : MaterializedInventoryRow)
  | deleteEvent (id : EventId)
  | deletePriceTier (id : PriceTierId)
  | deleteSectionPricing (id : AssignmentId)

def PlanningWrite.apply : PlanningWrite → PlanningDb → PlanningDb
  | .grant id row, db => { db with grants := db.grants.insert id row }
  | .event id row, db => { db with events := db.events.insert id row }
  | .session id row, db => { db with sessions := db.sessions.insert id row }
  | .priceTier id row, db => { db with priceTiers := db.priceTiers.insert id row }
  | .sectionPricing id row, db => { db with sectionPricing := db.sectionPricing.insert id row }
  | .inventory key row, db => { db with inventory := db.inventory.insert key row }
  | .deleteEvent id, db => { db with events := db.events.erase id }
  | .deletePriceTier id, db => { db with priceTiers := db.priceTiers.erase id }
  | .deleteSectionPricing id, db => { db with sectionPricing := db.sectionPricing.erase id }

def PlanningWrite.key : PlanningWrite → Option PlanningRowKey
  | .grant id _ => some (.grant id)
  | .event id _ => some (.event id)
  | .session id _ => some (.session id)
  | .priceTier id _ => some (.priceTier id)
  | .sectionPricing id _ => some (.sectionPricing id)
  | .inventory key _ => some (.inventory key)
  | .deleteEvent id => some (.event id)
  | .deletePriceTier id => some (.priceTier id)
  | .deleteSectionPricing id => some (.sectionPricing id)

instance : Store PlanningDb PlanningRowKey PlanningWrite where
  apply := PlanningWrite.apply
  key := PlanningWrite.key

/-- The event services have error classes of the same kinds as the seat-map services. -/
abbrev PlanningError := SeatMapError

abbrev PlanningSql (α : Type) := Program PlanningDb PlanningRowKey PlanningWrite PlanningError α

abbrev PlanningModel (τ ρ : Type) [DecidableEq τ] :=
  Entity PlanningDb PlanningRowKey PlanningWrite PlanningError τ ρ

/-! ## §2 Constraints and triggers -/

/-- `char_length`, in characters. -/
def charLength (text : String) : Nat :=
  text.toList.length

/-- `VenueAccessGrant_state_check`. -/
def VenueAccessGrant.stateCheck (grant : VenueAccessGrant) : Bool :=
  match grant.status with
  | .ACTIVE => grant.revokedAt.isNone && grant.revokedByUserId.isNone
  | .REVOKED => grant.revokedAt.isSome

/-- `VenueAccessGrant_enforce_boundary`, on update. -/
def VenueAccessGrant.enforceHistory (old new : VenueAccessGrant) : Except PlanningError Unit := do
  checkRow (new.organizerOrganizationId = old.organizerOrganizationId ∧
      new.venueId = old.venueId ∧ new.grantedByUserId = old.grantedByUserId)
    "Venue access grant identity is immutable"
  checkRow (old.status = .REVOKED → new.status = old.status ∧ new.revokedAt = old.revokedAt ∧
      (new.revokedByUserId = old.revokedByUserId ∨ new.revokedByUserId = none))
    "Revoked venue access grants are immutable"
  checkRow (old.status = .ACTIVE → new.status = .REVOKED →
      new.revokedByUserId.isSome ∧ new.revokedAt.isSome)
    "Venue access revocation requires an authorized user and timestamp"

def VenueAccessGrant.validate (db : PlanningDb) (id : GrantId) (old : Option VenueAccessGrant)
    (new : VenueAccessGrant) : Except PlanningError Unit := do
  checkRow ((db.organizations.lookup new.organizerOrganizationId).map (·.kind) = some .ORGANIZER)
    "Venue access can only be granted to an organizer organization"
  match old with
  | none => pure ()
  | some old => VenueAccessGrant.enforceHistory old new
  checkRow new.stateCheck "VenueAccessGrant_state_check"
  checkIndex (new.status = .ACTIVE → db.grants.any (fun k grant =>
      k != id && grant.organizerOrganizationId == new.organizerOrganizationId &&
        grant.venueId == new.venueId && grant.status == .ACTIVE) = false)
    "VenueAccessGrant_one_active_per_organizer_venue_key"

/-- `Event_lifecycle_check`. -/
def Event.lifecycleCheck (event : Event) : Bool :=
  match event.status with
  | .DRAFT => event.publishedAt.isNone && event.cancelledAt.isNone && event.archivedAt.isNone &&
      event.preArchiveStatus.isNone
  | .PUBLISHED => event.publishedAt.isSome && event.cancelledAt.isNone &&
      event.archivedAt.isNone && event.preArchiveStatus.isNone
  | .CANCELLED => event.cancelledAt.isSome && event.archivedAt.isNone &&
      event.preArchiveStatus.isNone
  | .ARCHIVED => event.archivedAt.isSome &&
      match event.preArchiveStatus with
      | some .DRAFT => event.publishedAt.isNone && event.cancelledAt.isNone
      | some .PUBLISHED => event.publishedAt.isSome && event.cancelledAt.isNone
      | some .CANCELLED => event.cancelledAt.isSome
      | _ => false

/-- The `CHECK` constraints on an event's texts. -/
def Event.textChecks (event : Event) : Except PlanningError Unit := do
  checkRow (3 ≤ charLength event.title ∧ charLength event.title ≤ 160) "Event_title_check"
  checkRow (slugPattern.rmatch event.slug.toList = true) "Event_slug_check"
  checkRow (publicSlugCheck event.publicSlug = true) "Event_publicSlug_check"
  checkRow (10 ≤ charLength event.shortDescription ∧ charLength event.shortDescription ≤ 280)
    "Event_shortDescription_check"
  checkRow (30 ≤ charLength event.description ∧ charLength event.description ≤ 10000)
    "Event_description_check"
  checkRow (∀ path ∈ event.imagePath, imagePathPattern.rmatch path.toList = true)
    "Event_imagePath_check"

/-- `Event_require_organizer_organization`. -/
def Event.requireOrganizerOrganization (db : PlanningDb) (old : Option Event) (new : Event) :
    Except PlanningError Unit := do
  checkRow ((db.organizations.lookup new.organizerOrganizationId).map (·.kind) = some .ORGANIZER)
    "Events must belong to an organizer organization"
  checkRow (∀ organization ∈ db.organizations.lookup new.organizerOrganizationId,
      new.publicSlug = createPublicEventSlug organization.slug new.slug)
    "Event public slugs must be derived from organizer and event slugs"
  checkRow (∀ event ∈ old, new.organizerOrganizationId = event.organizerOrganizationId)
    "Events cannot be moved between organizer organizations"

def Event.validate (db : PlanningDb) (id : EventId) (old : Option Event) (new : Event) :
    Except PlanningError Unit := do
  Event.requireOrganizerOrganization db old new
  new.textChecks
  checkRow new.lifecycleCheck "Event_lifecycle_check"
  checkIndex (db.events.any (fun k event => k != id && event.publicSlug == new.publicSlug) = false)
    "Event_publicSlug_key"
  checkIndex (db.events.any (fun k event =>
      k != id && event.organizerOrganizationId == new.organizerOrganizationId &&
        event.slug == new.slug) = false)
    "Event_organizerOrganizationId_slug_key"

/-- The columns that `EventSession_enforce_ancestry` watches. -/
def EventSession.ancestry (session : EventSession) :=
  (session.eventId, session.venueId, session.spaceId, session.seatMapId)

/-- The columns that `EventSession_protect_published_snapshot` freezes. -/
def EventSession.snapshot (session : EventSession) :=
  (session.ancestry, session.toSessionDateRange, session.publishedAt)

def PlanningDb.activeGrants (db : PlanningDb) (organizationId : OrganizationId)
    (venueId : VenueId) : List (GrantId × VenueAccessGrant) :=
  db.grants.select fun _ grant => grant.organizerOrganizationId == organizationId &&
    grant.venueId == venueId && grant.status == .ACTIVE

/-- The part of `EventSession_enforce_ancestry` that looks at the present. -/
def EventSession.requireCurrentAccess (db : PlanningDb) (new : EventSession) :
    Except PlanningError Unit := do
  checkRow ((db.layout.venues.lookup new.venueId).map (·.status) = some .ACTIVE ∧
      (db.layout.spaces.lookup new.spaceId).map (·.status) = some .ACTIVE)
    "Sessions require an active venue and space"
  checkRow ((db.layout.seatMaps.lookup new.seatMapId).map (·.status) = some .PUBLISHED)
    "Sessions require an exact published seat-map version"
  checkRow ((db.events.lookup new.eventId).map (fun event =>
      (db.activeGrants event.organizerOrganizationId new.venueId).length) = some 1)
    "The organizer does not have active access to this venue"

/-- `EventSession_enforce_ancestry`. -/
def EventSession.enforceAncestry (db : PlanningDb) (old : Option EventSession)
    (new : EventSession) : Except PlanningError Unit := do
  checkRow (∀ session ∈ old, new.eventId = session.eventId)
    "Sessions cannot be moved between events"
  checkRow ((db.layout.spaces.lookup new.spaceId).map (·.venueId) = some new.venueId)
    "The selected space does not belong to the selected venue"
  checkRow ((db.layout.seatMaps.lookup new.seatMapId).map (·.spaceId) = some new.spaceId)
    "The selected seat map does not belong to the selected space"
  if old.any (fun session => session.ancestry == new.ancestry &&
      (session.publishedAt.isSome || new.publishedAt.isNone)) then pure ()
  else EventSession.requireCurrentAccess db new

/-- `EventSession_lifecycle_check`. -/
def EventSession.lifecycleCheck (session : EventSession) : Bool :=
  match session.status with
  | .DRAFT => session.publishedAt.isNone && session.cancelledAt.isNone
  | .CANCELLED => session.cancelledAt.isSome
  | _ => session.publishedAt.isSome && session.cancelledAt.isNone

/-- The half-open times of the two overlap. -/
def Overlaps (times times' : SessionDateRange) : Prop :=
  times.startAt < times'.endAt ∧ times.endAt > times'.startAt

instance (times times' : SessionDateRange) : Decidable (Overlaps times times') :=
  inferInstanceAs (Decidable (_ ∧ _))

/-- `EventSession_no_overlapping_space_time`, for two sessions. -/
def EventSession.Clash (session session' : EventSession) : Prop :=
  session.spaceId = session'.spaceId ∧ session.status ≠ .CANCELLED ∧
    session'.status ≠ .CANCELLED ∧ Overlaps session.toSessionDateRange session'.toSessionDateRange

instance (session session' : EventSession) : Decidable (session.Clash session') :=
  inferInstanceAs (Decidable (_ ∧ _))

def EventSession.validate (db : PlanningDb) (id : SessionId) (old : Option EventSession)
    (new : EventSession) : Except PlanningError Unit := do
  EventSession.enforceAncestry db old new
  checkRow (∀ session ∈ old, session.publishedAt.isSome → new.snapshot = session.snapshot)
    "Published session configuration is immutable"
  checkRow (new.endAt > new.startAt) "EventSession_time_range_check"
  checkRow (new.salesStartAt < new.salesEndAt ∧ new.salesEndAt ≤ new.startAt)
    "EventSession_sales_range_check"
  checkRow new.lifecycleCheck "EventSession_lifecycle_check"
  checkIndex (db.sessions.any (fun k session => k != id && decide (session.Clash new)) = false)
    "EventSession_no_overlapping_space_time"
  checkRow (db.events.lookup new.eventId).isSome "EventSession_eventId_fkey"

def PlanningDb.sessionIsDraft (db : PlanningDb) (id : SessionId) : Prop :=
  (db.sessions.lookup id).map (·.status) = some .DRAFT

instance (db : PlanningDb) (id : SessionId) : Decidable (db.sessionIsDraft id) :=
  inferInstanceAs (Decidable (_ = _))

/-- The draft check of `SessionPriceTier_enforce_draft_and_currency`. -/
def SessionPriceTier.requireDraftSession (db : PlanningDb) (tier : SessionPriceTier) :
    Except PlanningError Unit :=
  checkRow (db.sessionIsDraft tier.sessionId) "Price tiers can only be changed on draft sessions"

/-- The `CHECK` constraints of a tier. -/
def SessionPriceTier.checks (tier : SessionPriceTier) : Except PlanningError Unit := do
  checkRow (1 ≤ charLength tier.name ∧ charLength tier.name ≤ 80) "SessionPriceTier_name_check"
  checkRow (1 ≤ charLength tier.code ∧ charLength tier.code ≤ 20 ∧ isSectionCode tier.code = true)
    "SessionPriceTier_code_check"
  checkRow (tier.priceMinor ≥ 0) "SessionPriceTier_priceMinor_check"
  checkRow (tier.displayOrder ≥ 0) "SessionPriceTier_displayOrder_check"
  checkRow (∀ description ∈ tier.description, charLength description ≤ 500)
    "SessionPriceTier_description_check"

def SessionPriceTier.validate (db : PlanningDb) (id : PriceTierId) (old : Option SessionPriceTier)
    (new : SessionPriceTier) : Except PlanningError Unit := do
  checkRow (∀ tier ∈ old, new.sessionId = tier.sessionId)
    "Price tiers cannot be moved between sessions"
  new.requireDraftSession db
  checkRow (db.priceTiers.any (fun k tier =>
      k != id && tier.sessionId == new.sessionId && tier.currency != new.currency) = false)
    "All price tiers in a session must use one currency"
  new.checks
  checkIndex (db.priceTiers.any (fun k tier =>
      k != id && tier.sessionId == new.sessionId && tier.code == new.code) = false)
    "SessionPriceTier_sessionId_code_key"

/-- The draft check of `SessionSectionPricing_enforce_ancestry`. -/
def SessionSectionPricing.requireDraftSession (db : PlanningDb) (pricing : SessionSectionPricing) :
    Except PlanningError Unit :=
  checkRow (db.sessionIsDraft pricing.sessionId)
    "Section pricing can only be changed on draft sessions"

def SessionSectionPricing.validate (db : PlanningDb) (id : AssignmentId)
    (old : Option SessionSectionPricing) (new : SessionSectionPricing) :
    Except PlanningError Unit := do
  checkRow (old = none) "Section pricing assignments must be replaced, not re-parented"
  new.requireDraftSession db
  checkRow ((db.priceTiers.lookup new.priceTierId).map (·.sessionId) = some new.sessionId)
    "The price tier belongs to another session"
  checkRow ((db.layout.sections.lookup new.sectionId).map (·.seatMapId) =
      (db.sessions.lookup new.sessionId).map (·.seatMapId))
    "The seat section belongs to another seat map"
  checkIndex (db.sectionPricing.any (fun k pricing =>
      k != id && pricing.sessionId == new.sessionId && pricing.sectionId == new.sectionId) = false)
    "SessionSectionPricing_sessionId_sectionId_key"

/-- The section of a seat, as the trigger joins it. -/
def sectionOfSeat (layout : SeatMapDb) (id : SeatId) : Option SectionId :=
  (layout.seats.lookup id).bind fun seat => (layout.rows.lookup seat.rowId).bind fun row =>
    (layout.sections.lookup row.sectionId).map fun _ => row.sectionId

/-- `SessionSeatInventory_enforce_ancestry`, of the snapshot columns. -/
def inventoryAncestry (db : PlanningDb) (sessionId : SessionId) (new : MaterializedInventoryRow) :
    Except PlanningError Unit := do
  checkRow (sectionOfSeat db.layout new.seatId).isSome
    "Inventory references a seat that does not exist"
  checkRow (sectionOfSeat db.layout new.seatId = some new.sectionId)
    "Inventory seat does not belong to its recorded section"
  checkRow ((db.layout.seats.lookup new.seatId).map (·.state) = some .ACTIVE)
    "Inventory can only reference active sellable seats"
  checkRow (db.layout.mapOfSection new.sectionId =
      (db.sessions.lookup sessionId).map (·.seatMapId))
    "Inventory section belongs to a different seat map than the session"
  checkRow ((db.priceTiers.lookup new.priceTierId).map (·.sessionId) = some sessionId)
    "Inventory price tier belongs to another session"
  checkRow ((db.priceTiers.lookup new.priceTierId).map (·.currency) = some new.currency)
    "Inventory currency must match its price tier"
  checkRow ((db.priceTiers.lookup new.priceTierId).map (·.priceMinor) = some new.priceMinor)
    "Inventory price snapshot must match its price tier"
  checkRow (db.sectionPricing.any (fun _ pricing => pricing.sessionId == sessionId &&
      pricing.sectionId == new.sectionId && pricing.priceTierId == new.priceTierId) = true)
    "Inventory price tier does not match the section pricing assignment"

/-- With `SessionSeatInventory_protect_snapshot` on update. -/
def validateInventory (db : PlanningDb) (key : SessionId × SeatId)
    (old : Option MaterializedInventoryRow) (new : MaterializedInventoryRow) :
    Except PlanningError Unit := do
  match old with
  | none => inventoryAncestry db key.1 new
  | some old =>
      checkRow (new = old)
        "Session seat inventory ancestry and price snapshot are immutable"
  checkRow (new.seatId = key.2) "SessionSeatInventory_sessionId_seatId_key"
  checkRow (new.priceMinor ≥ 0) "SessionSeatInventory_priceMinor_check"

namespace Prisma

def venueAccessGrant : PlanningModel GrantId VenueAccessGrant where
  get := PlanningDb.grants
  set t db := { db with grants := t }
  put := .grant
  lockKey := .grant
  validate := VenueAccessGrant.validate
  duplicate := .unique "VenueAccessGrant_pkey"
  get_set _ _ := rfl
  set_get _ := rfl
  set_set _ _ _ := rfl
  apply_put _ _ _ := rfl
  key_put _ _ := rfl

def event : PlanningModel EventId Event where
  get := PlanningDb.events
  set t db := { db with events := t }
  put := .event
  lockKey := .event
  validate := Event.validate
  duplicate := .unique "Event_pkey"
  get_set _ _ := rfl
  set_get _ := rfl
  set_set _ _ _ := rfl
  apply_put _ _ _ := rfl
  key_put _ _ := rfl

def eventSession : PlanningModel SessionId EventSession where
  get := PlanningDb.sessions
  set t db := { db with sessions := t }
  put := .session
  lockKey := .session
  validate := EventSession.validate
  duplicate := .unique "EventSession_pkey"
  get_set _ _ := rfl
  set_get _ := rfl
  set_set _ _ _ := rfl
  apply_put _ _ _ := rfl
  key_put _ _ := rfl

def sessionPriceTier : PlanningModel PriceTierId SessionPriceTier where
  get := PlanningDb.priceTiers
  set t db := { db with priceTiers := t }
  put := .priceTier
  lockKey := .priceTier
  validate := SessionPriceTier.validate
  duplicate := .unique "SessionPriceTier_pkey"
  get_set _ _ := rfl
  set_get _ := rfl
  set_set _ _ _ := rfl
  apply_put _ _ _ := rfl
  key_put _ _ := rfl

def sessionSectionPricing : PlanningModel AssignmentId SessionSectionPricing where
  get := PlanningDb.sectionPricing
  set t db := { db with sectionPricing := t }
  put := .sectionPricing
  lockKey := .sectionPricing
  validate := SessionSectionPricing.validate
  duplicate := .unique "SessionSectionPricing_pkey"
  get_set _ _ := rfl
  set_get _ := rfl
  set_set _ _ _ := rfl
  apply_put _ _ _ := rfl
  key_put _ _ := rfl

def sessionSeatInventory : PlanningModel (SessionId × SeatId) MaterializedInventoryRow where
  get := PlanningDb.inventory
  set t db := { db with inventory := t }
  put := .inventory
  lockKey := .inventory
  validate := validateInventory
  duplicate := .unique "SessionSeatInventory_sessionId_seatId_key"
  get_set _ _ := rfl
  set_get _ := rfl
  set_set _ _ _ := rfl
  apply_put _ _ _ := rfl
  key_put _ _ := rfl

end Prisma

/-! ## §3 Deletions -/

/-- `DELETE FROM "Event" WHERE id`: `Event_protect_history`, and the foreign key of the sessions. -/
def deleteEventRow (id : EventId) : PlanningSql Unit :=
  .perform fun v =>
    match v.current.events.lookup id with
    | none => .error (.notFound "Event")
    | some event => do
        checkRow (event.status = .DRAFT) "Only an empty draft event can be deleted"
        checkRow (v.current.sessions.any (fun _ session => session.eventId == id) = false)
          "EventSession_eventId_fkey"
        .ok { locks := [], writes := [.deleteEvent id], result := () }

/-- `DELETE FROM "SessionPriceTier" WHERE id`. -/
def deletePriceTierRow (id : PriceTierId) : PlanningSql Unit :=
  .perform fun v =>
    match v.current.priceTiers.lookup id with
    | none => .error (.notFound "SessionPriceTier")
    | some tier => do
        tier.requireDraftSession v.current
        checkRow (v.current.sectionPricing.any (fun _ pricing => pricing.priceTierId == id) = false)
          "SessionSectionPricing_priceTierId_fkey"
        checkRow (v.current.inventory.any (fun _ row => row.priceTierId == id) = false)
          "SessionSeatInventory_priceTierId_fkey"
        .ok { locks := [], writes := [.deletePriceTier id], result := () }

def PlanningDb.pricingOf (db : PlanningDb) (sessionId : SessionId) :
    List (AssignmentId × SessionSectionPricing) :=
  db.sectionPricing.select fun _ pricing => pricing.sessionId == sessionId

/-- `DELETE FROM "SessionSectionPricing" WHERE "sessionId"`. -/
def deletePricingOf (sessionId : SessionId) : PlanningSql Unit :=
  .perform fun v => do
    let rows := v.current.pricingOf sessionId
    checkAll (fun e => e.2.requireDraftSession v.current) rows
    .ok { locks := [], writes := rows.map fun e => .deleteSectionPricing e.1, result := () }

/-! ## §4 What a session is priced from -/

def pricingRow (layout : SeatMapDb) (id : RowId) : PricingRow :=
  { seats := (layout.orderedSeats id).map fun e => { id := e.1, state := e.2.state } }

def pricingSection (layout : SeatMapDb) (e : SectionId × SeatSection) : PricingSection :=
  { id := e.1, name := e.2.name, code := e.2.code
    rows := (layout.orderedRows e.1).map fun e' => pricingRow layout e'.1 }

/-- The sections of a map, in order, with their rows and seats. -/
def pricingSections (layout : SeatMapDb) (id : SeatMapId) : List PricingSection :=
  (layout.orderedSections id).map (pricingSection layout)

def SessionPriceTier.pricing (e : PriceTierId × SessionPriceTier) : PricingTier :=
  { id := e.1, name := e.2.name, code := e.2.code, priceMinor := e.2.priceMinor
    currency := e.2.currency }

def PlanningDb.tiersOf (db : PlanningDb) (sessionId : SessionId) :
    List (PriceTierId × SessionPriceTier) :=
  db.priceTiers.select fun _ tier => tier.sessionId == sessionId

/-- `priceTiers`, by display order and code. -/
def PlanningDb.orderedTiers (db : PlanningDb) (sessionId : SessionId) : List PricingTier :=
  ((db.tiersOf sessionId).insertionSort (PlacedBefore (·.displayOrder) (·.code))).map
    SessionPriceTier.pricing

/-- `priceTiers`, in no order. -/
def PlanningDb.pricingTiers (db : PlanningDb) (sessionId : SessionId) : List PricingTier :=
  (db.tiersOf sessionId).map SessionPriceTier.pricing

/-- `sectionPricing`. -/
def PlanningDb.assignments (db : PlanningDb) (sessionId : SessionId) : List SectionAssignment :=
  (db.pricingOf sessionId).map fun e =>
    { sectionId := e.2.sectionId, priceTierId := e.2.priceTierId }

end SeatFlow.Planning
