import SeatFlow.Events.PlanningServices
import SeatFlow.Relational.Runs
import SeatFlow.Relational.Steps
import SeatFlow.SeatMaps.PublishedMaps

/-!
# The planning system

Organizers and venue operators at work: requests come in and wait, each with what it has read, and
the transaction of any of them runs next. Between them the venue operators edit their venues and
seat maps. A step relation says what the transactions do to the tables, row by row.
-/

namespace SeatFlow.Planning

open Relational

/-! ## §1 Requests -/

inductive PlanningRequest
  | grantVenueAccess (authorized : Bool) (venueId : VenueId) (organizerOrganizationSlug : String)
      (userId : UserId) (fresh : GrantId)
  | revokeVenueAccess (authorized : Bool) (venueId : VenueId) (grantId : GrantId) (userId : UserId)
      (now : Time)
  | createEvent (scope : OrganizerScope) (input : EventInput) (fresh : EventId)
  | updateEvent (scope : EventScope) (input : EventInput)
  | publishEvent (scope : EventScope) (now : Time)
  | cancelEvent (scope : EventScope) (now : Time)
  | archiveEvent (scope : EventScope) (now : Time)
  | restoreEvent (scope : EventScope)
  | deleteEmptyDraftEvent (scope : EventScope)
  | createEventSession (scope : EventScope) (input : EventSessionInput) (timeZone : TimeZone)
      (fresh : SessionId)
  | updateDraftEventSession (scope : SessionScope) (input : EventSessionInput)
      (timeZone : TimeZone)
  | publishEventSession (scope : SessionScope) (now : Time)
  | pauseEventSessionSales (scope : SessionScope)
  | resumeEventSessionSales (scope : SessionScope) (now : Time)
  | cancelEventSession (scope : SessionScope) (now : Time)
  | createSessionPriceTier (scope : SessionScope) (input : PriceTierInput) (fresh : PriceTierId)
  | updateSessionPriceTier (scope : PriceTierScope) (input : PriceTierInput)
  | deleteUnusedSessionPriceTier (scope : PriceTierScope)
  | moveSessionPriceTier (scope : PriceTierScope) (direction : MoveDirection)
  | assignSessionSectionPricing (scope : SessionScope) (assignments : List SectionAssignment)
      (fresh : Nat → AssignmentId)
  | backfillSession (sessionId : SessionId)

/-- The organizer organization under a slug. -/
def PlanningDb.organizerNamed (db : PlanningDb) (forms : TextForms) (slug : String) :
    Option OrganizationId :=
  ((db.organizations.select fun _ organization => organization.kind == .ORGANIZER &&
    organization.slug == forms.lower (trim slug)).head?).map (·.1)

/-- What a request reads when it comes in; its transaction is left. -/
def PlanningRequest.begin [Casing] (forms : TextForms) (db : PlanningDb) :
    PlanningRequest → PlanningSql Unit
  | .grantVenueAccess authorized venueId slug userId fresh =>
      Planning.grantVenueAccess (findAuthorizedVenue db authorized venueId)
        (db.organizerNamed forms slug) userId fresh
  | .revokeVenueAccess authorized venueId grantId userId now =>
      Planning.revokeVenueAccess (findAuthorizedVenue db authorized venueId) grantId userId now
  | .createEvent scope input fresh =>
      Planning.createEvent forms (findAuthorizedOrganizerOrganization db scope) input fresh
  | .updateEvent scope input => Planning.updateEvent forms (findAuthorizedEvent db scope) input
  | .publishEvent scope now => Planning.publishEvent (findAuthorizedEvent db scope) now
  | .cancelEvent scope now => Planning.cancelEvent (findAuthorizedEvent db scope) now
  | .archiveEvent scope now => Planning.archiveEvent (findAuthorizedEvent db scope) now
  | .restoreEvent scope => Planning.restoreEvent (findAuthorizedEvent db scope)
  | .deleteEmptyDraftEvent scope =>
      let access := findAuthorizedEvent db scope
      Planning.deleteEmptyDraftEvent access
        (db.sessions.select fun _ session => access.any (·.eventId == session.eventId)).length
  | .createEventSession scope input timeZone fresh =>
      Planning.createEventSession (findAuthorizedEvent db scope) input timeZone fresh
  | .updateDraftEventSession scope input timeZone =>
      Planning.updateDraftEventSession (findAuthorizedEventSession db scope) input timeZone
  | .publishEventSession scope now =>
      Planning.publishEventSession (findAuthorizedEventSession db scope) now
  | .pauseEventSessionSales scope =>
      Planning.pauseEventSessionSales (findAuthorizedEventSession db scope)
  | .resumeEventSessionSales scope now =>
      Planning.resumeEventSessionSales (findAuthorizedEventSession db scope) now
  | .cancelEventSession scope now =>
      Planning.cancelEventSession (findAuthorizedEventSession db scope) now
  | .createSessionPriceTier scope input fresh =>
      Planning.createSessionPriceTier (findAuthorizedEventSession db scope) input fresh
  | .updateSessionPriceTier scope input =>
      Planning.updateSessionPriceTier (findAuthorizedPriceTier db scope) input
  | .deleteUnusedSessionPriceTier scope =>
      Planning.deleteUnusedSessionPriceTier (findAuthorizedPriceTier db scope)
        (db.sectionPricing.select fun _ pricing => pricing.priceTierId == scope.priceTierId).length
  | .moveSessionPriceTier scope direction =>
      Planning.moveSessionPriceTier (findAuthorizedPriceTier db scope) direction
  | .assignSessionSectionPricing scope assignments fresh =>
      Planning.assignSessionSectionPricing (findAuthorizedEventSession db scope) assignments fresh
  | .backfillSession sessionId =>
      match db.backfillCandidates.find? fun e => e.1 == sessionId with
      | none => pure ()
      | some found =>
          Planning.backfillSession (backfillOutcome db sessionId found.2) sessionId

structure PlanningState where
  db : PlanningDb
  pending : List (PlanningSql Unit) := []

inductive PlanningAction
  | receive (request : PlanningRequest)
  | act (index : Nat)
  | venue (action : VenueAction)

def planningStep [Casing] (forms : TextForms) (state : PlanningState) :
    PlanningAction → Option PlanningState
  | .receive request =>
      some { state with pending := state.pending ++ [request.begin forms state.db] }
  | .act index => (state.pending[index]?).map fun program =>
      { db := program.commit state.db, pending := state.pending.eraseIdx index }
  | .venue action => (venueStep state.db.layout action).map fun layout =>
      { state with db := { state.db with layout := layout } }

/-! ## §2 What becomes of the rows -/

/-- The updates of an event other than its publication and its cancellation. -/
inductive EventChange (event : Event) : Event → Prop
  | edited (title slug publicSlug shortDescription description : String)
      (category : EventCategory) (imagePath : Option String) :
      EventChange event { event with
        title := title, slug := slug, publicSlug := publicSlug
        shortDescription := shortDescription, description := description, category := category
        imagePath := imagePath }
  | archived (preArchiveStatus : EventStatus) (now : Time) :
      EventChange event { event with
        preArchiveStatus := some preArchiveStatus, status := .ARCHIVED, archivedAt := some now }
  | restored (status : EventStatus) :
      EventChange event
        { event with status := status, preArchiveStatus := none, archivedAt := none }

def Event.published (event : Event) (now : Time) : Event :=
  { event with status := .PUBLISHED, publishedAt := some now }

def Event.cancelled (event : Event) (now : Time) : Event :=
  { event with status := .CANCELLED, cancelledAt := some now }

/-- The updates of a session other than its publication. -/
inductive SessionChange (session : EventSession) : EventSession → Prop
  | configured (times : SessionDateRange) (venueId : VenueId) (spaceId : SpaceId)
      (seatMapId : SeatMapId) :
      SessionChange session { session with
        toSessionDateRange := times, venueId := venueId, spaceId := spaceId
        seatMapId := seatMapId }
  | paused : SessionChange session { session with status := .SALES_PAUSED }
  | resumed : SessionChange session { session with status := .ON_SALE }
  | cancelled (now : Time) :
      SessionChange session { session with status := .CANCELLED, cancelledAt := some now }

section Deletions

variable {db : PlanningDb}

theorem ensures_deleteEventRow {id : EventId} :
    (deleteEventRow id).Ensures db fun _ db' => ∃ event, db.events.lookup id = some event ∧
      event.status = .DRAFT ∧
      (∀ k session, db.sessions.lookup k = some session → session.eventId ≠ id) ∧
      db' = { db with events := db.events.erase id } := by
  refine Program.ensures_perform.mpr fun eff heff => ?_
  beta_reduce at heff
  split at heff
  · cases heff
  · next event hevent =>
      simp only [Except.bind_unit_eq_ok, checkRow_eq_ok] at heff
      obtain ⟨hdraft, hempty, heff⟩ := heff
      rw [← Except.ok.inj heff]
      exact ⟨event, hevent, hdraft, fun k session hsession =>
        beq_eq_false_iff_ne.mp (Table.any_eq_false.mp hempty k session hsession), rfl⟩

theorem ensures_deletePriceTierRow {id : PriceTierId} :
    (deletePriceTierRow id).Ensures db fun _ db' => ∃ tier, db.priceTiers.lookup id = some tier ∧
      db.sessionIsDraft tier.sessionId ∧
      db' = { db with priceTiers := db.priceTiers.erase id } := by
  refine Program.ensures_perform.mpr fun eff heff => ?_
  beta_reduce at heff
  split at heff
  · cases heff
  · next tier htier =>
      simp only [Except.bind_unit_eq_ok, SessionPriceTier.requireDraftSession, checkRow_eq_ok]
        at heff
      obtain ⟨hdraft, -, -, heff⟩ := heff
      rw [← Except.ok.inj heff]
      exact ⟨tier, htier, hdraft, rfl⟩

/-- Only the assignments of drafts are erased. -/
theorem ensures_deletePricingOf {id : SessionId} :
    (deletePricingOf id).Ensures db fun _ db' => ∃ t, db' = { db with sectionPricing := t } ∧
      ∀ k, ¬db.sessionIsDraft k →
        t.select (fun _ pricing => pricing.sessionId == k) = db.pricingOf k := by
  refine Program.ensures_perform.mpr fun eff heff => ?_
  simp only [Except.bind_unit_eq_ok, checkAll_eq_ok, SessionSectionPricing.requireDraftSession,
    checkRow_eq_ok] at heff
  obtain ⟨hdraft, heff⟩ := heff
  rw [← Except.ok.inj heff]
  have hentry : ∀ e ∈ db.pricingOf id, db.sectionPricing.lookup e.1 = some e.2 :=
    fun e he => (Table.mem_select.mp he).1
  have herased : ∀ (rows : List (AssignmentId × SessionSectionPricing)) (db' : PlanningDb),
      (∀ e ∈ rows, e ∈ db.pricingOf id) → (∀ e ∈ rows, ∀ pricing,
        db'.sectionPricing.lookup e.1 = some pricing → pricing = e.2) →
      ∃ t, applyAll (rows.map fun e => PlanningWrite.deleteSectionPricing e.1) db' =
          { db' with sectionPricing := t } ∧
        ∀ k, ¬db.sessionIsDraft k →
          t.select (fun _ pricing => pricing.sessionId == k) = db'.pricingOf k := by
    intro rows
    induction rows with
    | nil => exact fun db' _ _ => ⟨db'.sectionPricing, rfl, fun _ _ => rfl⟩
    | cons e rows ih =>
      intro db' hrows hlookup
      have hrest := ih { db' with sectionPricing := db'.sectionPricing.erase e.1 }
        (fun e' he' => hrows e' (List.mem_cons_of_mem _ he')) fun e' he' pricing hpricing =>
          hlookup e' (List.mem_cons_of_mem _ he') pricing (Table.lookup_of_erase hpricing).2
      obtain ⟨t, hdb', ht⟩ := hrest
      refine ⟨t, hdb', fun k hk => ?_⟩
      refine (ht k hk).trans (Table.select_erase_of_not fun pricing hpricing => ?_)
      rw [hlookup e List.mem_cons_self pricing hpricing]
      refine beq_eq_false_iff_ne.mpr fun hsame => hk ?_
      rw [← hsame]
      exact hdraft e (hrows e List.mem_cons_self)
  obtain ⟨t, hdb', ht⟩ := herased (db.pricingOf id) db (fun _ he => he) fun e he pricing hpricing =>
    Option.some.inj (hpricing.symm.trans (hentry e he))
  exact ⟨t, hdb', ht⟩

end Deletions

/-- What the statements of the services do are steps; of some services only the transaction as a
whole is one. -/
structure PlanningSteps (step : PlanningDb → PlanningDb → Prop) : Prop where
  grant : Prisma.venueAccessGrant.AdmitsRow step
  newEvent : Prisma.event.AdmitsNew (·.status = .DRAFT) step
  event : Prisma.event.AdmitsChange EventChange step
  deleteEvent : ∀ id, (deleteEventRow id).Steps step
  publishEvent : ∀ access now, (publishEvent access now).Steps step
  cancelEvent : ∀ access now, (cancelEvent access now).Steps step
  createSession : ∀ access input timeZone fresh,
    (createEventSession access input timeZone fresh).Steps step
  session : Prisma.eventSession.AdmitsChange SessionChange step
  publishSession : ∀ access now, (publishEventSession access now).Steps step
  priceTier : Prisma.sessionPriceTier.AdmitsRow step
  deletePriceTier : ∀ id, (deletePriceTierRow id).Steps step
  sectionPricing : Prisma.sessionSectionPricing.AdmitsRow step
  deletePricing : ∀ id, (deletePricingOf id).Steps step

section Steps

variable {step : PlanningDb → PlanningDb → Prop}

theorem steps_parsed {α : Type} {result : Except (List SchemaIssue) α} :
    (parsed result).Steps step := by
  cases result with
  | ok input => exact Program.steps_pure
  | error issues => exact Program.steps_abort

theorem steps_localTime {value : String} {timeZone : TimeZone} :
    (localTime value timeZone).Steps step := by
  unfold localTime
  split
  · exact Program.steps_pure
  · exact Program.steps_abort

theorem steps_parseSessionTimes {input : EventSessionInput} {timeZone : TimeZone} :
    (parseSessionTimes input timeZone).Steps step :=
  steps_localTime.bind fun _ => steps_localTime.bind fun _ => steps_localTime.bind fun _ =>
    steps_localTime.bind fun _ => steps_parsed

theorem steps_loadAuthorizedConfiguration {organizationId : OrganizationId} {venueId : VenueId}
    {spaceId : SpaceId} {seatMapId : SeatMapId} :
    (loadAuthorizedConfiguration organizationId venueId spaceId seatMapId).Steps step :=
  Program.steps_read.bind fun _ => Program.steps_orThrow.bind fun _ =>
    Program.steps_require.bind fun _ => Program.steps_require.bind fun _ => Program.steps_require

theorem steps_findDraftSession {access : SessionAccess} : (findDraftSession access).Steps step :=
  Entity.steps_find.bind fun _ => Program.steps_orThrow

theorem steps_publishEvent {access : Option EventAccess} {now : Time}
    (h : ∀ id, (Prisma.event.update id (·.published now) (.notFound "Event")).Steps step) :
    (publishEvent access now).Steps step := by
  refine Program.steps_orThrow.bind fun _ => Program.steps_require.bind fun _ => ?_
  refine Program.steps_read.bind fun _ => Program.steps_orThrow.bind fun _ => ?_
  split
  · exact Program.steps_pure
  · refine Program.steps_require.bind fun _ => Program.steps_read.bind fun _ => ?_
    exact Program.steps_require.bind fun _ => (h _).bind fun _ => Program.steps_pure

theorem steps_cancelEvent {access : Option EventAccess} {now : Time}
    (hsessions : Prisma.eventSession.AdmitsChanges SessionChange step)
    (hevent : ∀ id, (Prisma.event.update id (·.cancelled now) (.notFound "Event")).Steps step) :
    (cancelEvent access now).Steps step := by
  refine Program.steps_orThrow.bind fun _ => ?_
  split
  · exact Program.steps_pure
  · refine Program.steps_require.bind fun _ => Program.steps_read.bind fun _ => ?_
    refine Program.steps_orThrow.bind fun _ => ?_
    split
    · exact Program.steps_pure
    · refine Program.steps_require.bind fun _ => ?_
      refine (hsessions.updateMany fun _ _ => .cancelled now).bind fun _ => ?_
      exact (hevent _).bind fun _ => Program.steps_pure

theorem steps_createEventSession {access : Option EventAccess} {input : EventSessionInput}
    {timeZone : TimeZone} {fresh : SessionId}
    (h : Prisma.eventSession.AdmitsNew (·.status = .DRAFT) step) :
    (createEventSession access input timeZone fresh).Steps step := by
  refine Program.steps_orThrow.bind fun _ => Program.steps_require.bind fun _ => ?_
  refine steps_parsed.bind fun _ => Program.steps_read.bind fun _ => ?_
  refine Program.steps_orThrow.bind fun _ => steps_loadAuthorizedConfiguration.bind fun _ => ?_
  refine steps_parseSessionTimes.bind fun _ => Program.steps_read.bind fun _ => ?_
  exact Program.steps_require.bind fun _ => h.insert rfl

theorem steps_createInventory {sessionId : SessionId} {rows : List MaterializedInventoryRow}
    (h : Prisma.sessionSeatInventory.AdmitsRow step) :
    (createInventory sessionId rows).Steps step := by
  induction rows with
  | nil => exact Program.steps_pure
  | cons row rows ih => exact h.insertNew.bind fun _ => ih.bind fun _ => Program.steps_pure

theorem steps_ensureSessionInventory {sessionId : SessionId}
    (h : Prisma.sessionSeatInventory.AdmitsRow step) :
    (ensureSessionInventory sessionId).Steps step := by
  have hmaterialize : (materializeSessionInventory sessionId).Steps step :=
    Entity.steps_find.bind fun _ => Program.steps_orThrow.bind fun _ =>
      Program.steps_read.bind fun _ => (steps_createInventory h).bind fun _ =>
        Program.steps_read.bind fun _ => Program.steps_pure
  exact hmaterialize.bind fun _ => Program.steps_require.bind fun _ => Program.steps_pure

theorem steps_backfillSession {outcome : BackfillOutcome} {sessionId : SessionId}
    (h : Prisma.sessionSeatInventory.AdmitsRow step) :
    (backfillSession outcome sessionId).Steps step := by
  unfold backfillSession
  split
  · exact (steps_ensureSessionInventory h).bind fun _ => Program.steps_pure
  · exact Program.steps_pure

variable (h : PlanningSteps step)

include h

theorem steps_grantVenueAccess {access : Option VenueAccess} {organizer : Option OrganizationId}
    {userId : UserId} {fresh : GrantId} :
    (grantVenueAccess access organizer userId fresh).Steps step := by
  refine Program.steps_orThrow.bind fun _ => Program.steps_require.bind fun _ => ?_
  refine Program.steps_orThrow.bind fun _ => Program.steps_read.bind fun _ => ?_
  split
  · exact Program.steps_pure
  · exact h.grant.insert

theorem steps_revokeVenueAccess {access : Option VenueAccess} {grantId : GrantId} {userId : UserId}
    {now : Time} : (revokeVenueAccess access grantId userId now).Steps step := by
  refine Program.steps_orThrow.bind fun _ => Entity.steps_find.bind fun _ => ?_
  refine Program.steps_orThrow.bind fun _ => ?_
  split
  · exact Program.steps_pure
  · exact h.grant.update.bind fun _ => Program.steps_pure

theorem steps_createEvent {forms : TextForms} {access : Option OrganizerAccess}
    {input : EventInput} {fresh : EventId} : (createEvent forms access input fresh).Steps step :=
  Program.steps_orThrow.bind fun _ => steps_parsed.bind fun _ => h.newEvent.insert rfl

theorem steps_updateEvent {forms : TextForms} {access : Option EventAccess} {input : EventInput} :
    (updateEvent forms access input).Steps step := by
  refine Program.steps_orThrow.bind fun _ => Program.steps_require.bind fun _ => ?_
  refine steps_parsed.bind fun _ => ?_
  exact (h.event.update fun _ => .edited ..).bind fun _ => Program.steps_pure

theorem steps_archiveEvent {access : Option EventAccess} {now : Time} :
    (archiveEvent access now).Steps step := by
  refine Program.steps_orThrow.bind fun _ => ?_
  split
  · exact Program.steps_pure
  · refine Program.steps_require.bind fun _ => ?_
    exact (h.event.update fun _ => .archived ..).bind fun _ => Program.steps_pure

theorem steps_restoreEvent {access : Option EventAccess} : (restoreEvent access).Steps step := by
  refine Program.steps_orThrow.bind fun _ => Program.steps_require.bind fun _ => ?_
  refine Program.steps_orThrow.bind fun _ => ?_
  exact (h.event.update fun _ => .restored ..).bind fun _ => Program.steps_pure

theorem steps_deleteEmptyDraftEvent {access : Option EventAccess} {sessionCount : Nat} :
    (deleteEmptyDraftEvent access sessionCount).Steps step :=
  Program.steps_orThrow.bind fun _ => Program.steps_require.bind fun _ =>
    Program.steps_require.bind fun _ => h.deleteEvent _

theorem steps_updateDraftEventSession {access : Option SessionAccess} {input : EventSessionInput}
    {timeZone : TimeZone} : (updateDraftEventSession access input timeZone).Steps step := by
  refine Program.steps_orThrow.bind fun _ => Program.steps_require.bind fun _ => ?_
  refine Program.steps_require.bind fun _ => steps_parsed.bind fun _ => ?_
  refine Program.steps_read.bind fun _ => Program.steps_orThrow.bind fun _ => ?_
  refine steps_loadAuthorizedConfiguration.bind fun _ => steps_parseSessionTimes.bind fun _ => ?_
  refine Program.steps_read.bind fun _ => Program.steps_require.bind fun _ => ?_
  exact (h.session.update fun _ => .configured ..).bind fun _ => Program.steps_pure

theorem steps_pauseEventSessionSales {access : Option SessionAccess} :
    (pauseEventSessionSales access).Steps step := by
  refine Program.steps_orThrow.bind fun _ => Program.steps_require.bind fun _ => ?_
  refine Program.steps_require.bind fun _ => ?_
  exact (h.session.update fun _ => .paused).bind fun _ => Program.steps_pure

theorem steps_resumeEventSessionSales {access : Option SessionAccess} {now : Time} :
    (resumeEventSessionSales access now).Steps step := by
  refine Program.steps_orThrow.bind fun _ => Program.steps_require.bind fun _ => ?_
  refine Program.steps_require.bind fun _ => Program.steps_require.bind fun _ => ?_
  exact (h.session.update fun _ => .resumed).bind fun _ => Program.steps_pure

theorem steps_cancelEventSession {access : Option SessionAccess} {now : Time} :
    (cancelEventSession access now).Steps step := by
  refine Program.steps_orThrow.bind fun _ => ?_
  split
  · exact Program.steps_pure
  · refine Program.steps_require.bind fun _ => Program.steps_require.bind fun _ => ?_
    exact (h.session.update fun _ => .cancelled now).bind fun _ => Program.steps_pure

theorem steps_deleteUnusedSessionPriceTier {access : Option PriceTierAccess} {assignments : Nat} :
    (deleteUnusedSessionPriceTier access assignments).Steps step :=
  Program.steps_orThrow.bind fun _ => Program.steps_require.bind fun _ =>
    Program.steps_require.bind fun _ => Program.steps_require.bind fun _ => h.deletePriceTier _

theorem steps_moveSessionPriceTier {access : Option PriceTierAccess} {direction : MoveDirection} :
    (moveSessionPriceTier access direction).Steps step := by
  refine Program.steps_orThrow.bind fun _ => Program.steps_require.bind fun _ => ?_
  refine Program.steps_require.bind fun _ => Program.steps_read.bind fun _ => ?_
  split
  · exact Program.steps_pure
  · exact h.priceTier.update.bind fun _ => h.priceTier.update.bind fun _ => Program.steps_pure

theorem steps_createSectionPricing {sessionId : SessionId} {fresh : Nat → AssignmentId}
    {index : Nat} {assignments : List SectionAssignment} :
    (createSectionPricing sessionId fresh index assignments).Steps step := by
  induction assignments generalizing index with
  | nil => exact Program.steps_pure
  | cons assignment rest ih => exact h.sectionPricing.insert.bind fun _ => ih

theorem steps_assignSessionSectionPricing {access : Option SessionAccess}
    {assignments : List SectionAssignment} {fresh : Nat → AssignmentId} :
    (assignSessionSectionPricing access assignments fresh).Steps step := by
  refine Program.steps_orThrow.bind fun _ => Program.steps_require.bind fun _ => ?_
  refine Program.steps_require.bind fun _ => Program.steps_require.bind fun _ => ?_
  refine steps_findDraftSession.bind fun _ => Program.steps_read.bind fun _ => ?_
  refine Program.steps_require.bind fun _ => (h.deletePricing _).bind fun _ => ?_
  exact steps_createSectionPricing h

variable [Casing]

theorem steps_createSessionPriceTier {access : Option SessionAccess} {input : PriceTierInput}
    {fresh : PriceTierId} : (createSessionPriceTier access input fresh).Steps step := by
  refine Program.steps_orThrow.bind fun _ => Program.steps_require.bind fun _ => ?_
  refine Program.steps_require.bind fun _ => steps_parsed.bind fun _ => ?_
  refine steps_findDraftSession.bind fun _ => Program.steps_read.bind fun _ => ?_
  exact h.priceTier.insert

theorem steps_updateSessionPriceTier {access : Option PriceTierAccess} {input : PriceTierInput} :
    (updateSessionPriceTier access input).Steps step := by
  refine Program.steps_orThrow.bind fun _ => Program.steps_require.bind fun _ => ?_
  refine Program.steps_require.bind fun _ => steps_parsed.bind fun _ => ?_
  exact h.priceTier.update.bind fun _ => Program.steps_pure

/-- **Step lemma.** The transaction of every request is a sequence of steps, whatever was read
when it came in, if that of the backfill is one. -/
theorem steps_of_request {forms : TextForms} {db : PlanningDb}
    (hbackfill : ∀ e ∈ db.backfillCandidates,
      (backfillSession (backfillOutcome db e.1 e.2) e.1).Steps step) (request : PlanningRequest) :
    (request.begin forms db).Steps step := by
  cases request with
  | grantVenueAccess => exact steps_grantVenueAccess h
  | revokeVenueAccess => exact steps_revokeVenueAccess h
  | createEvent => exact steps_createEvent h
  | updateEvent => exact steps_updateEvent h
  | publishEvent => exact h.publishEvent _ _
  | cancelEvent => exact h.cancelEvent _ _
  | archiveEvent => exact steps_archiveEvent h
  | restoreEvent => exact steps_restoreEvent h
  | deleteEmptyDraftEvent => exact steps_deleteEmptyDraftEvent h
  | createEventSession => exact h.createSession _ _ _ _
  | updateDraftEventSession => exact steps_updateDraftEventSession h
  | publishEventSession => exact h.publishSession _ _
  | pauseEventSessionSales => exact steps_pauseEventSessionSales h
  | resumeEventSessionSales => exact steps_resumeEventSessionSales h
  | cancelEventSession => exact steps_cancelEventSession h
  | createSessionPriceTier => exact steps_createSessionPriceTier h
  | updateSessionPriceTier => exact steps_updateSessionPriceTier h
  | deleteUnusedSessionPriceTier => exact steps_deleteUnusedSessionPriceTier h
  | moveSessionPriceTier => exact steps_moveSessionPriceTier h
  | assignSessionSectionPricing => exact steps_assignSessionSectionPricing h
  | backfillSession sessionId =>
    dsimp only [PlanningRequest.begin]
    split
    · exact Program.steps_pure
    · next found hfound =>
        have hid : found.1 = sessionId := by simpa using List.find?_some hfound
        rw [← hid]
        exact hbackfill found (List.mem_of_find?_eq_some hfound)

end Steps

/-! ## §3 Runs -/

/-- What a run keeps, and the steps that its transactions take for it. -/
structure PlanningInvariant [Casing] (step : PlanningDb → PlanningDb → Prop)
    (I : PlanningDb → Prop) : Prop extends PlanningSteps step where
  keeps : ∀ db db', step db db' → I db → I db'
  venue : ∀ db action layout, venueStep db.layout action = some layout → I db →
    I { db with layout := layout }
  backfill : ∀ db, I db → ∀ e ∈ db.backfillCandidates,
    (backfillSession (backfillOutcome db e.1 e.2) e.1).Steps step

/-- The transactions that wait take such steps. -/
def PlanningState.Waiting (step : PlanningDb → PlanningDb → Prop) (state : PlanningState) : Prop :=
  ∀ program ∈ state.pending, program.Steps step

/-- **Run lemma.** -/
theorem PlanningInvariant.reaches [Casing] {forms : TextForms}
    {step : PlanningDb → PlanningDb → Prop} {I : PlanningDb → Prop} {s t : PlanningState}
    (h : PlanningInvariant step I)
    (hreach : Reaches (planningStep forms) (fun _ _ => True) s t)
    (hs : I s.db ∧ s.Waiting step) : I t.db ∧ t.Waiting step := by
  refine hreach.invariant (I := fun state => I state.db ∧ state.Waiting step) hs ?_
  rintro s action t - hnext ⟨hs, hpending⟩
  cases action with
  | receive request =>
    cases hnext
    refine ⟨hs, fun program hmem => ?_⟩
    rcases List.mem_append.mp hmem with hold | hnew
    · exact hpending program hold
    · rw [List.mem_singleton.mp hnew]
      exact steps_of_request h.toPlanningSteps (h.backfill s.db hs) request
  | act index =>
    obtain ⟨program, hprogram, rfl⟩ := Option.map_eq_some_iff.mp hnext
    have hrun := (hpending program (List.mem_of_getElem? hprogram)).commit s.db
    refine ⟨?_, fun other hmem => hpending other (List.mem_of_mem_eraseIdx hmem)⟩
    exact Program.Keeping.steps (Relation.ReflTransGen.mono h.keeps _ _ hrun) hs
  | venue action =>
    obtain ⟨layout, hlayout, rfl⟩ := Option.map_eq_some_iff.mp hnext
    exact ⟨h.venue s.db action layout hlayout hs, hpending⟩

end SeatFlow.Planning
