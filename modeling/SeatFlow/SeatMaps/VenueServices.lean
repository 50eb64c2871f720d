import SeatFlow.SeatMaps.DraftEditor

/-!
# Venues, spaces and their maps

What else a venue operator does around the draft editor: a venue or a space is listed, archived and
restored, and a draft is renamed. Of a venue and a space only the status and the place matter to a
seat map.
-/

namespace SeatFlow

open Relational

/-! ## §1 Venues and spaces -/

/-- `z.enum(["DRAFT", "ACTIVE"])`: a form archives nothing. -/
inductive ListedStatus
  | DRAFT | ACTIVE
  deriving DecidableEq

def ListedStatus.venue : ListedStatus → VenueStatus
  | .DRAFT => .DRAFT
  | .ACTIVE => .ACTIVE

def ListedStatus.space : ListedStatus → SpaceStatus
  | .DRAFT => .DRAFT
  | .ACTIVE => .ACTIVE

section Services

variable (authorized : Bool)

/-- `findAuthorizedVenue`. -/
def SeatMapDb.authorizedVenue (db : SeatMapDb) (id : VenueId) : Except SeatMapError Venue :=
  match if authorized then db.venues.lookup id else none with
  | none => .error .authorization
  | some venue => .ok venue

def SeatMapDb.setVenueStatus (db : SeatMapDb) (id : VenueId) (status : VenueStatus) : SeatMapDb :=
  { db with venues := db.venues.insert id { status := status } }

def createVenue (status : ListedStatus) (fresh : VenueId) (db : SeatMapDb) :
    Except SeatMapError SeatMapDb := do
  ensure (authorized = true) .authorization
  checkIndex (db.venues.lookup fresh = none) "Venue_pkey"
  .ok (db.setVenueStatus fresh status.venue)

def updateVenue (id : VenueId) (status : ListedStatus) (db : SeatMapDb) :
    Except SeatMapError SeatMapDb := do
  let venue ← db.authorizedVenue authorized id
  ensure (venue.status ≠ .ARCHIVED) (.lifecycle "Restore this venue before editing it.")
  .ok (db.setVenueStatus id status.venue)

def archiveVenue (id : VenueId) (db : SeatMapDb) : Except SeatMapError SeatMapDb := do
  let venue ← db.authorizedVenue authorized id
  if venue.status = .ARCHIVED then .ok db else .ok (db.setVenueStatus id .ARCHIVED)

def restoreVenue (id : VenueId) (db : SeatMapDb) : Except SeatMapError SeatMapDb := do
  let venue ← db.authorizedVenue authorized id
  if venue.status ≠ .ARCHIVED then .ok db else .ok (db.setVenueStatus id .ACTIVE)

def assertVenueOperational (status : VenueStatus) : Except SeatMapError Unit :=
  ensure (status ≠ .ARCHIVED) (.lifecycle "Restore the venue before changing its spaces.")

/-- `findAuthorizedSpace`, with the venue. -/
def SeatMapDb.authorizedSpace (db : SeatMapDb) (id : SpaceId) :
    Except SeatMapError (Space × Venue) :=
  match if authorized then
      (db.spaces.lookup id).bind fun space =>
        (db.venues.lookup space.venueId).map fun venue => (space, venue)
    else none with
  | none => .error .authorization
  | some access => .ok access

def SeatMapDb.setSpaceStatus (db : SeatMapDb) (id : SpaceId) (space : Space)
    (status : SpaceStatus) :
    SeatMapDb :=
  { db with spaces := db.spaces.insert id { space with status := status } }

def createSpace (venueId : VenueId) (status : ListedStatus) (fresh : SpaceId) (db : SeatMapDb) :
    Except SeatMapError SeatMapDb := do
  let venue ← db.authorizedVenue authorized venueId
  assertVenueOperational venue.status
  checkIndex (db.spaces.lookup fresh = none) "Space_pkey"
  .ok (db.setSpaceStatus fresh { venueId := venueId } status.space)

def updateSpace (id : SpaceId) (status : ListedStatus) (db : SeatMapDb) :
    Except SeatMapError SeatMapDb := do
  let access ← db.authorizedSpace authorized id
  assertVenueOperational access.2.status
  ensure (access.1.status ≠ .ARCHIVED) (.lifecycle "Restore this space before editing it.")
  .ok (db.setSpaceStatus id access.1 status.space)

def archiveSpace (id : SpaceId) (db : SeatMapDb) : Except SeatMapError SeatMapDb := do
  let access ← db.authorizedSpace authorized id
  assertVenueOperational access.2.status
  if access.1.status = .ARCHIVED then .ok db else .ok (db.setSpaceStatus id access.1 .ARCHIVED)

def restoreSpace (id : SpaceId) (db : SeatMapDb) : Except SeatMapError SeatMapDb := do
  let access ← db.authorizedSpace authorized id
  assertVenueOperational access.2.status
  if access.1.status ≠ .ARCHIVED then .ok db else .ok (db.setSpaceStatus id access.1 .ACTIVE)

end Services

/-! ## §2 Operations of a venue -/

def updateDraftSeatMap (scope : SeatMapScope) (rawInput : SeatMapInput) : SeatMapSql Unit := do
  let access ← findAuthorizedSeatMap scope
  assertEditableMap access
  let input ← parsed (seatMapInputSchema rawInput)
  let _ ← Prisma.seatMap.update scope.seatMapId (fun m => { m with name := input.name })
    (.notFound "SeatMap")

inductive VenueAction
  | createVenue (authorized : Bool) (status : ListedStatus) (fresh : VenueId)
  | updateVenue (authorized : Bool) (id : VenueId) (status : ListedStatus)
  | archiveVenue (authorized : Bool) (id : VenueId)
  | restoreVenue (authorized : Bool) (id : VenueId)
  | createSpace (authorized : Bool) (venueId : VenueId) (status : ListedStatus) (fresh : SpaceId)
  | updateSpace (authorized : Bool) (id : SpaceId) (status : ListedStatus)
  | archiveSpace (authorized : Bool) (id : SpaceId)
  | restoreSpace (authorized : Bool) (id : SpaceId)
  | updateDraftSeatMap (scope : SeatMapScope) (input : SeatMapInput)
  | edit (action : EditorAction)

/-- What is rejected changes nothing. -/
def settled (db : SeatMapDb) : Except SeatMapError SeatMapDb → SeatMapDb
  | .ok db' => db'
  | .error _ => db

/-- One operation after another. -/
def venueStep [Casing] (db : SeatMapDb) : VenueAction → Option SeatMapDb
  | .createVenue authorized status fresh =>
      some (settled db (SeatFlow.createVenue authorized status fresh db))
  | .updateVenue authorized id status =>
      some (settled db (SeatFlow.updateVenue authorized id status db))
  | .archiveVenue authorized id => some (settled db (SeatFlow.archiveVenue authorized id db))
  | .restoreVenue authorized id => some (settled db (SeatFlow.restoreVenue authorized id db))
  | .createSpace authorized venueId status fresh =>
      some (settled db (SeatFlow.createSpace authorized venueId status fresh db))
  | .updateSpace authorized id status =>
      some (settled db (SeatFlow.updateSpace authorized id status db))
  | .archiveSpace authorized id => some (settled db (SeatFlow.archiveSpace authorized id db))
  | .restoreSpace authorized id => some (settled db (SeatFlow.restoreSpace authorized id db))
  | .updateDraftSeatMap scope input =>
      some ((SeatFlow.updateDraftSeatMap scope input).commit db)
  | .edit action => editorStep db action

/-! ## §3 What they leave alone -/

variable {db db' : SeatMapDb} {authorized : Bool}

/-- No space leaves its venue. -/
def SeatMapDb.SamePlaces (db db' : SeatMapDb) : Prop :=
  ∀ id space, db.spaces.lookup id = some space →
    ∃ space', db'.spaces.lookup id = some space' ∧ space'.venueId = space.venueId

/-- The maps and their layouts are as they were. -/
structure SeatMapDb.SameMaps (db db' : SeatMapDb) : Prop where
  seatMaps : db'.seatMaps = db.seatMaps
  sections : db'.sections = db.sections
  rows : db'.rows = db.rows
  seats : db'.seats = db.seats
  places : db.SamePlaces db'

theorem samePlaces_of_eq (h : db'.spaces = db.spaces) : db.SamePlaces db' :=
  fun _ space hspace => ⟨space, h ▸ hspace, rfl⟩

theorem samePlaces_setSpaceStatus {id : SpaceId} {space : Space} {status : SpaceStatus}
    (h : ∀ old, db.spaces.lookup id = some old → old.venueId = space.venueId) :
    db.SamePlaces (db.setSpaceStatus id space status) := by
  intro k old hold
  unfold SeatMapDb.setSpaceStatus
  dsimp only
  rw [Table.lookup_insert_ite]
  split
  · next hk => exact ⟨_, rfl, (h old (hk ▸ hold)).symm⟩
  · exact ⟨old, hold, rfl⟩

theorem authorizedSpace_lookup {id : SpaceId} {access : Space × Venue}
    (h : db.authorizedSpace authorized id = .ok access) : db.spaces.lookup id = some access.1 := by
  unfold SeatMapDb.authorizedSpace at h
  split at h
  · cases h
  · next found hfound =>
      cases Except.ok.inj h
      split at hfound
      · obtain ⟨space, hspace, hvenue⟩ := Option.bind_eq_some_iff.mp hfound
        obtain ⟨venue, -, rfl⟩ := Option.map_eq_some_iff.mp hvenue
        exact hspace
      · cases hfound

/-- Of a space that was looked up. -/
theorem sameMaps_setSpaceStatus {id : SpaceId} {access : Space × Venue} {status : SpaceStatus}
    (h : db.authorizedSpace authorized id = .ok access) :
    db.SameMaps (db.setSpaceStatus id access.1 status) := by
  refine ⟨rfl, rfl, rfl, rfl, samePlaces_setSpaceStatus fun old hold => ?_⟩
  rw [Option.some.inj (hold.symm.trans (authorizedSpace_lookup h))]

theorem SeatMapDb.sameMaps_refl (db : SeatMapDb) : db.SameMaps db :=
  ⟨rfl, rfl, rfl, rfl, samePlaces_of_eq rfl⟩

theorem sameMaps_settled {result : Except SeatMapError SeatMapDb}
    (h : ∀ db', result = .ok db' → db.SameMaps db') : db.SameMaps (settled db result) := by
  cases result with
  | ok db' => exact h db' rfl
  | error _ => exact db.sameMaps_refl

theorem sameMaps_createVenue {status : ListedStatus} {fresh : VenueId}
    (h : createVenue authorized status fresh db = .ok db') : db.SameMaps db' := by
  obtain ⟨-, h⟩ := Except.bind_unit_eq_ok.mp h
  obtain ⟨-, h⟩ := Except.bind_unit_eq_ok.mp h
  rw [← Except.ok.inj h]
  exact ⟨rfl, rfl, rfl, rfl, samePlaces_of_eq rfl⟩

theorem sameMaps_updateVenue {id : VenueId} {status : ListedStatus}
    (h : updateVenue authorized id status db = .ok db') : db.SameMaps db' := by
  obtain ⟨venue, -, h⟩ := Except.bind_eq_ok.mp h
  obtain ⟨-, h⟩ := Except.bind_unit_eq_ok.mp h
  rw [← Except.ok.inj h]
  exact ⟨rfl, rfl, rfl, rfl, samePlaces_of_eq rfl⟩

theorem sameMaps_archiveVenue {id : VenueId} (h : archiveVenue authorized id db = .ok db') :
    db.SameMaps db' := by
  obtain ⟨venue, -, h⟩ := Except.bind_eq_ok.mp h
  split at h <;> rw [← Except.ok.inj h] <;> exact ⟨rfl, rfl, rfl, rfl, samePlaces_of_eq rfl⟩

theorem sameMaps_restoreVenue {id : VenueId} (h : restoreVenue authorized id db = .ok db') :
    db.SameMaps db' := by
  obtain ⟨venue, -, h⟩ := Except.bind_eq_ok.mp h
  split at h <;> rw [← Except.ok.inj h] <;> exact ⟨rfl, rfl, rfl, rfl, samePlaces_of_eq rfl⟩

theorem sameMaps_createSpace {venueId : VenueId} {status : ListedStatus} {fresh : SpaceId}
    (h : createSpace authorized venueId status fresh db = .ok db') : db.SameMaps db' := by
  obtain ⟨venue, -, h⟩ := Except.bind_eq_ok.mp h
  obtain ⟨-, h⟩ := Except.bind_unit_eq_ok.mp h
  obtain ⟨hfresh, h⟩ := Except.bind_unit_eq_ok.mp h
  rw [← Except.ok.inj h]
  refine ⟨rfl, rfl, rfl, rfl, samePlaces_setSpaceStatus fun old hold => ?_⟩
  cases (checkIndex_eq_ok.mp hfresh).symm.trans hold

theorem sameMaps_updateSpace {id : SpaceId} {status : ListedStatus}
    (h : updateSpace authorized id status db = .ok db') : db.SameMaps db' := by
  obtain ⟨access, haccess, h⟩ := Except.bind_eq_ok.mp h
  obtain ⟨-, h⟩ := Except.bind_unit_eq_ok.mp h
  obtain ⟨-, h⟩ := Except.bind_unit_eq_ok.mp h
  rw [← Except.ok.inj h]
  exact sameMaps_setSpaceStatus haccess

theorem sameMaps_archiveSpace {id : SpaceId} (h : archiveSpace authorized id db = .ok db') :
    db.SameMaps db' := by
  obtain ⟨access, haccess, h⟩ := Except.bind_eq_ok.mp h
  obtain ⟨-, h⟩ := Except.bind_unit_eq_ok.mp h
  split at h <;> rw [← Except.ok.inj h]
  · exact db.sameMaps_refl
  · exact sameMaps_setSpaceStatus haccess

theorem sameMaps_restoreSpace {id : SpaceId} (h : restoreSpace authorized id db = .ok db') :
    db.SameMaps db' := by
  obtain ⟨access, haccess, h⟩ := Except.bind_eq_ok.mp h
  obtain ⟨-, h⟩ := Except.bind_unit_eq_ok.mp h
  split at h <;> rw [← Except.ok.inj h]
  · exact db.sameMaps_refl
  · exact sameMaps_setSpaceStatus haccess

/-- **Step lemma.** An operation of a venue leaves the maps alone, renames a draft or is one of the
editor. -/
theorem venueStep_cases [Casing] {action : VenueAction} (h : venueStep db action = some db') :
    db.SameMaps db' ∨
      (∃ scope input, db' = (updateDraftSeatMap scope input).commit db) ∨
      ∃ edit, editorStep db edit = some db' := by
  cases action with
  | createVenue authorized status fresh =>
    rw [← Option.some.inj h]
    exact .inl (sameMaps_settled fun _ hok => sameMaps_createVenue hok)
  | updateVenue authorized id status =>
    rw [← Option.some.inj h]
    exact .inl (sameMaps_settled fun _ hok => sameMaps_updateVenue hok)
  | archiveVenue authorized id =>
    rw [← Option.some.inj h]
    exact .inl (sameMaps_settled fun _ hok => sameMaps_archiveVenue hok)
  | restoreVenue authorized id =>
    rw [← Option.some.inj h]
    exact .inl (sameMaps_settled fun _ hok => sameMaps_restoreVenue hok)
  | createSpace authorized venueId status fresh =>
    rw [← Option.some.inj h]
    exact .inl (sameMaps_settled fun _ hok => sameMaps_createSpace hok)
  | updateSpace authorized id status =>
    rw [← Option.some.inj h]
    exact .inl (sameMaps_settled fun _ hok => sameMaps_updateSpace hok)
  | archiveSpace authorized id =>
    rw [← Option.some.inj h]
    exact .inl (sameMaps_settled fun _ hok => sameMaps_archiveSpace hok)
  | restoreSpace authorized id =>
    rw [← Option.some.inj h]
    exact .inl (sameMaps_settled fun _ hok => sameMaps_restoreSpace hok)
  | updateDraftSeatMap scope input => exact .inr (.inl ⟨scope, input, (Option.some.inj h).symm⟩)
  | edit action => exact .inr (.inr ⟨action, h⟩)

end SeatFlow
