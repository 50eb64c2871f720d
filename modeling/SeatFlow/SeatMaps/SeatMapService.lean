import SeatFlow.SeatMaps.SeatMapStore

/-!
# The seat-map service

The draft editor, publication and cloning. Each operation finds its target within the map of
its scope, checks that the map is an editable draft, parses its input, and then writes: the
creations, moves and the update of a seat in a transaction of their own, the other updates and
the deletions in one statement. Whether the actor may administer the organization, and whether
the slugs of the scope lead to the map's space, is an input here.
-/

namespace SeatFlow

open Relational

/-! ## §1 Access -/

structure SeatMapScope where
  authorized : Bool
  seatMapId : SeatMapId

/-- A seat map with its space and venue. -/
structure SeatMapAccess where
  seatMap : SeatMap
  space : Space
  venue : Venue

def SeatMapDb.access (db : SeatMapDb) (id : SeatMapId) : Option SeatMapAccess := do
  let seatMap ← db.seatMaps.lookup id
  let space ← db.spaces.lookup seatMap.spaceId
  let venue ← db.venues.lookup space.venueId
  some { seatMap := seatMap, space := space, venue := venue }

def SeatMapAccess.lifecycleContext (access : SeatMapAccess) : SeatMapLifecycleContext :=
  { seatMapStatus := access.seatMap.status
    spaceStatus := access.space.status
    venueStatus := access.venue.status }

def findAuthorizedSeatMap (scope : SeatMapScope) : SeatMapSql SeatMapAccess := do
  let access ← .read fun db => if scope.authorized then db.access scope.seatMapId else none
  .orThrow .authorization access

def findAuthorizedSection (scope : SeatMapScope) (sectionId : SectionId) :
    SeatMapSql SeatMapAccess := do
  let access ← findAuthorizedSeatMap scope
  let found ← Prisma.seatSection.find sectionId
  .require (∃ section_ ∈ found, section_.seatMapId = scope.seatMapId) .authorization
  pure access

def findAuthorizedRow (scope : SeatMapScope) (sectionId : SectionId) (rowId : RowId) :
    SeatMapSql SeatMapAccess := do
  let access ← findAuthorizedSection scope sectionId
  let found ← Prisma.seatRow.find rowId
  .require (∃ row ∈ found, row.sectionId = sectionId) .authorization
  pure access

def findAuthorizedSeat (scope : SeatMapScope) (sectionId : SectionId) (rowId : RowId)
    (seatId : SeatId) : SeatMapSql SeatMapAccess := do
  let access ← findAuthorizedRow scope sectionId rowId
  let found ← Prisma.seat.find seatId
  .require (∃ seat ∈ found, seat.rowId = rowId) .authorization
  pure access

def assertEditableMap (access : SeatMapAccess) : SeatMapSql Unit := do
  .require (access.seatMap.status = .DRAFT)
    (.lifecycle "Published and archived seat maps are read-only.")
  .require (canEditSeatMap access.lifecycleContext = true)
    (.lifecycle "Restore the venue and space before editing this draft.")

/-- Also `draft` of `bulkGenerateRows`. -/
def assertMapStillEditable (seatMapId : SeatMapId) : SeatMapSql Unit := do
  let access ← .read fun db => db.access seatMapId
  let access ← .orThrow .authorization access
  assertEditableMap access

/-- `schema.parse(rawInput)`. -/
def parsed {α : Type} : Except (List SchemaIssue) α → SeatMapSql α
  | .ok input => pure input
  | .error issues => .abort (.schema issues)

/-- An error of plain code. -/
def thrown {α : Type} : Except String α → SeatMapSql α
  | .ok a => pure a
  | .error message => .abort (.thrown message)

/-! ## §2 Creations -/

/-- `(last?.displayOrder ?? -1) + 1`, where `last` is the first row by descending order. -/
def nextDisplayOrder (orders : List Int) : Int :=
  ((orders.insertionSort (· ≥ ·)).head?).getD (-1) + 1

def seatMapLimitError (text : String) : SeatMapError :=
  .validation [text]

def createSectionInTransaction (seatMapId : SeatMapId) (input : SectionInput) (fresh : SectionId) :
    SeatMapSql Unit := do
  assertMapStillEditable seatMapId
  let sections ← Prisma.seatSection.findMany fun _ s => s.seatMapId == seatMapId
  .require (sections.length < SEAT_MAP_LIMITS.maximumSections)
    (seatMapLimitError s!"A map can contain at most {SEAT_MAP_LIMITS.maximumSections} sections.")
  Prisma.seatSection.insert fresh
    { seatMapId := seatMapId, name := input.name, code := input.code
      displayOrder := nextDisplayOrder (sections.map (·.2.displayOrder)) }

def createRowInTransaction (seatMapId : SeatMapId) (sectionId : SectionId) (input : RowInput)
    (fresh : RowId) : SeatMapSql Unit := do
  assertMapStillEditable seatMapId
  let rows ← Prisma.seatRow.findMany fun _ r => r.sectionId == sectionId
  .require (rows.length < SEAT_MAP_LIMITS.maximumRowsPerSection)
    (seatMapLimitError
      s!"A section can contain at most {SEAT_MAP_LIMITS.maximumRowsPerSection} rows.")
  Prisma.seatRow.insert fresh
    { sectionId := sectionId, label := input.label
      displayOrder := nextDisplayOrder (rows.map (·.2.displayOrder)) }

/-- `seat.count({ where: { row: { section: { seatMapId } } } })`. -/
def SeatMapDb.seatCount (db : SeatMapDb) (seatMapId : SeatMapId) : Nat :=
  (db.seats.select fun _ seat => db.mapOfRow seat.rowId == some seatMapId).length

/-- The section of a seat. -/
def SeatMapDb.sectionOf (db : SeatMapDb) (seat : Seat) : Option SectionId :=
  (db.rows.lookup seat.rowId).map (·.sectionId)

/-- The seats of a section at these coordinates. -/
def SeatMapDb.seatsAt (db : SeatMapDb) (sectionId : SectionId) (x y : Int) : List (SeatId × Seat) :=
  db.seats.select fun _ seat =>
    seat.x == x && seat.y == y && db.sectionOf seat == some sectionId

def createSeatInTransaction (seatMapId : SeatMapId) (sectionId : SectionId) (rowId : RowId)
    (input : SeatInput) (fresh : SeatId) : SeatMapSql Unit := do
  assertMapStillEditable seatMapId
  let seats ← Prisma.seat.findMany fun _ s => s.rowId == rowId
  let mapSeatCount ← .read fun db => db.seatCount seatMapId
  let coordinateCount ← .read fun db => (db.seatsAt sectionId input.x input.y).length
  .require (seats.length < SEAT_MAP_LIMITS.maximumSeatsPerRow)
    (seatMapLimitError s!"A row can contain at most {SEAT_MAP_LIMITS.maximumSeatsPerRow} seats.")
  .require (mapSeatCount < SEAT_MAP_LIMITS.maximumSeatsPerMap)
    (seatMapLimitError s!"A map can contain at most {SEAT_MAP_LIMITS.maximumSeatsPerMap} seats.")
  .require (coordinateCount = 0)
    (.conflict "Another seat in this section already uses those coordinates.")
  Prisma.seat.insert fresh
    { rowId := rowId, label := input.label, x := input.x, y := input.y, type := input.type
      state := input.state, displayOrder := nextDisplayOrder (seats.map (·.2.displayOrder)) }

def createSection [Casing] (scope : SeatMapScope) (rawInput : SectionInput) (fresh : SectionId) :
    SeatMapSql Unit := do
  let access ← findAuthorizedSeatMap scope
  assertEditableMap access
  let input ← parsed (sectionInputSchema rawInput)
  createSectionInTransaction scope.seatMapId input fresh

def createRow [Casing] (scope : SeatMapScope) (sectionId : SectionId) (rawInput : RowInput)
    (fresh : RowId) : SeatMapSql Unit := do
  let access ← findAuthorizedSection scope sectionId
  assertEditableMap access
  let input ← parsed (rowInputSchema rawInput)
  createRowInTransaction scope.seatMapId sectionId input fresh

def createSeat [Casing] (scope : SeatMapScope) (sectionId : SectionId) (rowId : RowId)
    (rawInput : SeatInput) (fresh : SeatId) : SeatMapSql Unit := do
  let access ← findAuthorizedRow scope sectionId rowId
  assertEditableMap access
  let input ← parsed (seatInputSchema rawInput)
  createSeatInTransaction scope.seatMapId sectionId rowId input fresh

/-! ## §3 Updates and deletions -/

def updateSection [Casing] (scope : SeatMapScope) (sectionId : SectionId)
    (rawInput : SectionInput) :
    SeatMapSql Unit := do
  let access ← findAuthorizedSection scope sectionId
  assertEditableMap access
  let input ← parsed (sectionInputSchema rawInput)
  let _ ← Prisma.seatSection.update sectionId
    (fun s => { s with name := input.name, code := input.code }) (.notFound "SeatSection")

def updateRow [Casing] (scope : SeatMapScope) (sectionId : SectionId) (rowId : RowId)
    (rawInput : RowInput) : SeatMapSql Unit := do
  let access ← findAuthorizedRow scope sectionId rowId
  assertEditableMap access
  let input ← parsed (rowInputSchema rawInput)
  let _ ← Prisma.seatRow.update rowId (fun r => { r with label := input.label })
    (.notFound "SeatRow")

def updateSeatInTransaction (seatMapId : SeatMapId) (sectionId : SectionId) (seatId : SeatId)
    (input : SeatInput) : SeatMapSql Unit := do
  assertMapStillEditable seatMapId
  let others ← .read fun db =>
    (db.seatsAt sectionId input.x input.y).filter fun e => e.1 != seatId
  .require (others.length = 0)
    (.conflict "Another seat in this section already uses those coordinates.")
  let _ ← Prisma.seat.update seatId
    (fun s => { s with label := input.label, x := input.x, y := input.y, type := input.type
                       state := input.state })
    (.notFound "Seat")

def updateSeat [Casing] (scope : SeatMapScope) (sectionId : SectionId) (rowId : RowId)
    (seatId : SeatId) (rawInput : SeatInput) : SeatMapSql Unit := do
  let access ← findAuthorizedSeat scope sectionId rowId seatId
  assertEditableMap access
  let input ← parsed (seatInputSchema rawInput)
  updateSeatInTransaction scope.seatMapId sectionId seatId input

def deleteSection (scope : SeatMapScope) (sectionId : SectionId) : SeatMapSql Unit := do
  let access ← findAuthorizedSection scope sectionId
  assertEditableMap access
  deleteSectionRow sectionId

def deleteRow (scope : SeatMapScope) (sectionId : SectionId) (rowId : RowId) :
    SeatMapSql Unit := do
  let access ← findAuthorizedRow scope sectionId rowId
  assertEditableMap access
  deleteRowRow rowId

def deleteSeat (scope : SeatMapScope) (sectionId : SectionId) (rowId : RowId) (seatId : SeatId) :
    SeatMapSql Unit := do
  let access ← findAuthorizedSeat scope sectionId rowId seatId
  assertEditableMap access
  deleteSeatRow seatId

/-! ## §4 Nested creations -/

/-- Identifiers for the rows and seats of one section. -/
structure FreshRows where
  rowId : Nat → RowId
  seatId : Nat → Nat → SeatId

/-- `seats: { create: … }`; `index` counts the seats created before. -/
def insertSeats (rowId : RowId) (fresh : Nat → SeatId) :
    Nat → List PublicationSeat → SeatMapSql Unit
  | _, [] => pure ()
  | index, seat :: seats => do
      Prisma.seat.insert (fresh index)
        { rowId := rowId, label := seat.label, displayOrder := seat.displayOrder, x := seat.x
          y := seat.y, type := seat.type, state := seat.state }
      insertSeats rowId fresh (index + 1) seats

/-- `rows: { create: … }`. -/
def insertRows (sectionId : SectionId) (fresh : FreshRows) : Nat → List PublicationRow →
    SeatMapSql Unit
  | _, [] => pure ()
  | index, row :: rows => do
      Prisma.seatRow.insert (fresh.rowId index)
        { sectionId := sectionId, label := row.label, displayOrder := row.displayOrder }
      insertSeats (fresh.rowId index) (fresh.seatId index) 0 row.seats
      insertRows sectionId fresh (index + 1) rows

/-- The rows that a bulk generation creates, from the first free order and the first `y`. -/
def generatedRows (input : BulkSeatGeneration) (labels seatLabels : List String)
    (nextOrder firstY : Int) : List PublicationRow :=
  labels.zipIdx.map fun row =>
    { label := row.1
      displayOrder := nextOrder + row.2
      seats := seatLabels.zipIdx.map fun seat =>
        { label := seat.1
          displayOrder := seat.2
          x := seat.2 * input.horizontalSpacing
          y := firstY + row.2 * input.verticalSpacing
          type := .STANDARD
          state := .ACTIVE } }

/-- `Math.max(-input.verticalSpacing, …) + input.verticalSpacing`. -/
def firstGeneratedY (input : BulkSeatGeneration) (ys : List Int) : Int :=
  ys.foldl max (-(input.verticalSpacing : Int)) + input.verticalSpacing

/-- `(rows.at(-1)?.displayOrder ?? -1) + 1`, where the rows are in order. -/
def nextRowOrder (rows : List (RowId × SeatRow)) : Int :=
  ((((rows.map (·.2.displayOrder)).insertionSort (· ≤ ·))).getLast?).getD (-1) + 1

def bulkGenerateRowsInTransaction [Casing] (seatMapId : SeatMapId) (sectionId : SectionId)
    (input : BulkSeatGeneration) (labels seatLabels : List String) (fresh : FreshRows) :
    SeatMapSql Unit := do
  assertMapStillEditable seatMapId
  let rows ← Prisma.seatRow.findMany fun _ r => r.sectionId == sectionId
  let ys ← .read fun db => (db.seatsOf (rows.map (·.1))).map (·.2.y)
  let mapSeatCount ← .read fun db => db.seatCount seatMapId
  let existingLabels := rows.map fun row => toUpperCase row.2.label
  match labels.find? existingLabels.contains with
  | some label => .abort (.conflict s!"Row {label} already exists in this section.")
  | none => do
      .require (rows.length + input.rowCount ≤ SEAT_MAP_LIMITS.maximumRowsPerSection)
        (seatMapLimitError
          s!"A section can contain at most {SEAT_MAP_LIMITS.maximumRowsPerSection} rows.")
      .require (mapSeatCount + input.rowCount * input.seatsPerRow ≤
          SEAT_MAP_LIMITS.maximumSeatsPerMap)
        (seatMapLimitError
          s!"A map can contain at most {SEAT_MAP_LIMITS.maximumSeatsPerMap} seats.")
      let firstY := firstGeneratedY input ys
      .require (firstY + ((input.rowCount : Int) - 1) * input.verticalSpacing ≤
          SEAT_MAP_LIMITS.maximumCoordinate)
        (seatMapLimitError "Vertical spacing places generated rows outside the editor canvas.")
      insertRows sectionId fresh 0
        (generatedRows input labels seatLabels (nextRowOrder rows) firstY)

def bulkGenerateRows [Casing] (scope : SeatMapScope) (sectionId : SectionId)
    (rawInput : BulkSeatGenerationInput) (fresh : FreshRows) : SeatMapSql Unit := do
  let access ← findAuthorizedSection scope sectionId
  assertEditableMap access
  let input ← parsed (bulkSeatGenerationSchema rawInput)
  let labels ← thrown (generateRowLabels input.startRowLabel input.rowCount)
  let seatLabels ← thrown (generateSeatLabels input.startSeatNumber input.seatsPerRow)
  bulkGenerateRowsInTransaction scope.seatMapId sectionId input labels seatLabels fresh

/-! ## §5 Moves -/

/-- By display order, and among equals by identifier. -/
def OrderedBefore {ρ : Type} (order : ρ → Int) (e e' : Nat × ρ) : Prop :=
  order e.2 < order e'.2 ∨ order e.2 = order e'.2 ∧ e.1 ≤ e'.1

instance {ρ : Type} (order : ρ → Int) : DecidableRel (OrderedBefore order) :=
  fun _ _ => inferInstanceAs (Decidable (_ ∨ _))

/-- `current` and `target`: the entry under `id` and the one before or after it. -/
def withNeighbour {ρ : Type} (entries : List (Nat × ρ)) (id : Nat) (direction : MoveDirection) :
    Option ((Nat × ρ) × (Nat × ρ)) := do
  let index ← entries.findIdx? fun e => e.1 == id
  let current ← entries[index]?
  let target ← match direction with
    | .up => if index = 0 then none else entries[index - 1]?
    | .down => entries[index + 1]?
  some (current, target)

def moveSectionInTransaction (seatMapId : SeatMapId) (sectionId : SectionId)
    (direction : MoveDirection) : SeatMapSql Unit := do
  let sections ← Prisma.seatSection.findMany fun _ s => s.seatMapId == seatMapId
  match withNeighbour (sections.insertionSort (OrderedBefore (·.displayOrder))) sectionId
      direction with
  | none => pure ()
  | some (current, target) => do
      let _ ← Prisma.seatSection.update sectionId
        (fun s => { s with displayOrder := target.2.displayOrder }) (.notFound "SeatSection")
      let _ ← Prisma.seatSection.update target.1
        (fun s => { s with displayOrder := current.2.displayOrder }) (.notFound "SeatSection")

def moveRowInTransaction (sectionId : SectionId) (rowId : RowId) (direction : MoveDirection) :
    SeatMapSql Unit := do
  let rows ← Prisma.seatRow.findMany fun _ r => r.sectionId == sectionId
  match withNeighbour (rows.insertionSort (OrderedBefore (·.displayOrder))) rowId direction with
  | none => pure ()
  | some (current, target) => do
      let _ ← Prisma.seatRow.update rowId
        (fun r => { r with displayOrder := target.2.displayOrder }) (.notFound "SeatRow")
      let _ ← Prisma.seatRow.update target.1
        (fun r => { r with displayOrder := current.2.displayOrder }) (.notFound "SeatRow")

def moveSection (scope : SeatMapScope) (sectionId : SectionId) (direction : MoveDirection) :
    SeatMapSql Unit := do
  let access ← findAuthorizedSection scope sectionId
  assertEditableMap access
  moveSectionInTransaction scope.seatMapId sectionId direction

def moveRow (scope : SeatMapScope) (sectionId : SectionId) (rowId : RowId)
    (direction : MoveDirection) : SeatMapSql Unit := do
  let access ← findAuthorizedRow scope sectionId rowId
  assertEditableMap access
  moveRowInTransaction sectionId rowId direction

/-! ## §6 Versions -/

/-- The next version of a space's seat map. -/
def SeatMapDb.nextVersion (db : SeatMapDb) (spaceId : SpaceId) : Nat :=
  ((db.seatMaps.select fun _ m => m.spaceId == spaceId).map (·.2.version)).foldl max 0 + 1

def createDraftSeatMap (authorized : Bool) (spaceId : SpaceId) (rawInput : SeatMapInput)
    (fresh : SeatMapId) : SeatMapSql Unit := do
  let found ← .read fun db => if authorized then db.spaces.lookup spaceId else none
  let space ← .orThrow .authorization found
  let venue ← .read fun db => db.venues.lookup space.venueId
  let venue ← .orThrow .authorization venue
  .require (space.status ≠ .ARCHIVED ∧ venue.status ≠ .ARCHIVED)
    (.lifecycle "Restore the venue and space before creating a seat map.")
  let input ← parsed (seatMapInputSchema rawInput)
  let version ← .read fun db => db.nextVersion spaceId
  Prisma.seatMap.insert fresh { spaceId := spaceId, name := input.name, version := version }

/-- The transaction of `publishSeatMap`. -/
def publishSeatMapInTransaction [Casing] (seatMapId : SeatMapId) (now : Time) :
    SeatMapSql PublicationGraph := do
  let access ← .read fun db => db.access seatMapId
  let draft ← .orThrow .authorization access
  let graph ← .read fun db => db.graph seatMapId
  if draft.seatMap.status = .PUBLISHED then pure graph
  else do
    .require (canPublishSeatMap draft.lifecycleContext = true)
      (.lifecycle "Restore the venue and space before publishing this draft.")
    let issues := validateSeatMapForPublication graph
    .require (issues = []) (.validation issues)
    let _ ← Prisma.seatMap.updateMany
      (fun id m => m.spaceId == draft.seatMap.spaceId && m.status == .PUBLISHED && id != seatMapId)
      fun _ m => { m with status := .ARCHIVED }
    let _ ← Prisma.seatMap.update seatMapId
      (fun m => { m with status := .PUBLISHED, publishedAt := some now }) (.notFound "SeatMap")
    .read fun db => db.graph seatMapId

def publishSeatMap [Casing] (scope : SeatMapScope) (now : Time) : SeatMapSql PublicationGraph := do
  let access ← findAuthorizedSeatMap scope
  if access.seatMap.status = .PUBLISHED then .read fun db => db.graph scope.seatMapId
  else do
    .require (access.seatMap.status ≠ .ARCHIVED)
      (.lifecycle "Archived seat-map versions cannot be republished.")
    .require (canPublishSeatMap access.lifecycleContext = true)
      (.lifecycle "Restore the venue and space before publishing this draft.")
    publishSeatMapInTransaction scope.seatMapId now

/-- Identifiers for a cloned map. -/
structure FreshSeatMap where
  seatMapId : SeatMapId
  sectionId : Nat → SectionId
  rows : Nat → FreshRows

/-- `sections: { create: … }`. -/
def insertSections (seatMapId : SeatMapId) (fresh : FreshSeatMap) : Nat → List PublicationSection →
    SeatMapSql Unit
  | _, [] => pure ()
  | index, section_ :: sections => do
      Prisma.seatSection.insert (fresh.sectionId index)
        { seatMapId := seatMapId, name := section_.name, code := section_.code
          displayOrder := section_.displayOrder }
      insertRows (fresh.sectionId index) (fresh.rows index) 0 section_.rows
      insertSections seatMapId fresh (index + 1) sections

def clonePublishedSeatMap (scope : SeatMapScope) (fresh : FreshSeatMap) : SeatMapSql Unit := do
  let access ← findAuthorizedSeatMap scope
  .require (access.seatMap.status = .PUBLISHED)
    (.lifecycle "Only the current published seat map can be cloned.")
  .require (canCloneSeatMap access.lifecycleContext = true)
    (.lifecycle "Restore the venue and space before cloning this seat map.")
  -- the transaction looks at the source again
  let found ← .read fun db =>
    (db.access scope.seatMapId).filter fun source => source.seatMap.status == .PUBLISHED
  let source ← .orThrow
    (.lifecycle "The published source changed before it could be cloned.") found
  .require (canCloneSeatMap source.lifecycleContext = true)
    (.lifecycle "Restore the venue and space before cloning this seat map.")
  let graph ← .read fun db => db.graph scope.seatMapId
  let version ← .read fun db => db.nextVersion source.seatMap.spaceId
  Prisma.seatMap.insert fresh.seatMapId
    { spaceId := source.seatMap.spaceId, sourceSeatMapId := some scope.seatMapId
      name := source.seatMap.name, version := version }
  insertSections fresh.seatMapId fresh 0 graph.sections

end SeatFlow
