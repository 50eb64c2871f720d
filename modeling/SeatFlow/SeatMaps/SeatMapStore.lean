import Mathlib.Data.List.Sort
import SeatFlow.Relational.Entity
import SeatFlow.Relational.Siblings
import SeatFlow.SeatMaps.PublicationValidation

/-!
# Seat maps in the database

The tables of a seat map, the triggers and constraints on their rows, and the graph that they
store. A layout row can only be changed while its map is a draft: the trigger looks the map up
through the row's parents, without locking it. A deletion cascades to the children, whose own
triggers then look for a parent that is no longer there.
-/

namespace SeatFlow

open Relational

/-! ## §1 Tables and writes -/

structure Venue where
  status : VenueStatus := .DRAFT
  deriving DecidableEq

structure Space where
  venueId : VenueId
  status : SpaceStatus := .DRAFT
  deriving DecidableEq

structure SeatMap where
  spaceId : SpaceId
  sourceSeatMapId : Option SeatMapId := none
  name : String
  version : Nat
  status : SeatMapStatus := .DRAFT
  publishedAt : Option Time := none
  deriving DecidableEq

structure SeatSection where
  seatMapId : SeatMapId
  name : String
  code : String
  displayOrder : Int
  deriving DecidableEq

structure SeatRow where
  sectionId : SectionId
  label : String
  displayOrder : Int
  deriving DecidableEq

structure Seat where
  rowId : RowId
  label : String
  displayOrder : Int
  x : Int
  y : Int
  type : SeatType := .STANDARD
  state : SeatState := .ACTIVE
  deriving DecidableEq

structure SeatMapDb where
  venues : Table VenueId Venue := ∅
  spaces : Table SpaceId Space := ∅
  seatMaps : Table SeatMapId SeatMap := ∅
  sections : Table SectionId SeatSection := ∅
  rows : Table RowId SeatRow := ∅
  seats : Table SeatId Seat := ∅
  deriving DecidableEq

inductive SeatMapRowKey
  | seatMap (id : SeatMapId)
  | seatSection (id : SectionId)
  | seatRow (id : RowId)
  | seat (id : SeatId)
  deriving DecidableEq

inductive SeatMapWrite
  | seatMap (id : SeatMapId) (row : SeatMap)
  | seatSection (id : SectionId) (row : SeatSection)
  | seatRow (id : RowId) (row : SeatRow)
  | seat (id : SeatId) (row : Seat)
  | deleteSection (id : SectionId)
  | deleteRow (id : RowId)
  | deleteSeat (id : SeatId)

def SeatMapWrite.apply : SeatMapWrite → SeatMapDb → SeatMapDb
  | .seatMap id row, db => { db with seatMaps := db.seatMaps.insert id row }
  | .seatSection id row, db => { db with sections := db.sections.insert id row }
  | .seatRow id row, db => { db with rows := db.rows.insert id row }
  | .seat id row, db => { db with seats := db.seats.insert id row }
  | .deleteSection id, db => { db with sections := db.sections.erase id }
  | .deleteRow id, db => { db with rows := db.rows.erase id }
  | .deleteSeat id, db => { db with seats := db.seats.erase id }

def SeatMapWrite.key : SeatMapWrite → Option SeatMapRowKey
  | .seatMap id _ => some (.seatMap id)
  | .seatSection id _ => some (.seatSection id)
  | .seatRow id _ => some (.seatRow id)
  | .seat id _ => some (.seat id)
  | .deleteSection id => some (.seatSection id)
  | .deleteRow id => some (.seatRow id)
  | .deleteSeat id => some (.seat id)

instance : Store SeatMapDb SeatMapRowKey SeatMapWrite where
  apply := SeatMapWrite.apply
  key := SeatMapWrite.key

/-- Why an operation on a seat map is rejected: by the service, under the name of its error
class, by a schema, by a unique index, or by a trigger or check. -/
inductive SeatMapError
  | authorization
  | lifecycle (message : String)
  | conflict (message : String)
  | validation (issues : List String)
  | schema (issues : List SchemaIssue)
  | thrown (message : String)
  | notFound (model : String)
  | unique (index : String)
  | rejected (message : String)
  deriving DecidableEq

abbrev SeatMapSql (α : Type) := Program SeatMapDb SeatMapRowKey SeatMapWrite SeatMapError α

abbrev SeatMapModel (τ ρ : Type) [DecidableEq τ] :=
  Entity SeatMapDb SeatMapRowKey SeatMapWrite SeatMapError τ ρ

/-! ## §2 Constraints and triggers -/

def checkRow (c : Prop) [Decidable c] (message : String) : Except SeatMapError Unit :=
  ensure c (.rejected message)

def checkIndex (c : Prop) [Decidable c] (index : String) : Except SeatMapError Unit :=
  ensure c (.unique index)

@[simp]
theorem checkRow_eq_ok {c : Prop} [Decidable c] {message : String} :
    checkRow c message = .ok () ↔ c :=
  ensure_eq_ok

@[simp]
theorem checkIndex_eq_ok {c : Prop} [Decidable c] {index : String} :
    checkIndex c index = .ok () ↔ c :=
  ensure_eq_ok

/-- `SeatMap_publish_state_check`. -/
def SeatMap.publishStateCheck (m : SeatMap) : Bool :=
  match m.status with
  | .DRAFT => m.publishedAt.isNone
  | .PUBLISHED | .ARCHIVED => m.publishedAt.isSome

/-- `SeatMap_enforce_immutable_version`, on update. -/
def SeatMap.enforceImmutableVersion (old new : SeatMap) : Except SeatMapError Unit := do
  checkRow (old.status ≠ .ARCHIVED) "Archived seat maps are immutable"
  checkRow (old.status = .PUBLISHED → new.status ≠ .DRAFT ∧ new.spaceId = old.spaceId ∧
      new.sourceSeatMapId = old.sourceSeatMapId ∧ new.name = old.name ∧
      new.version = old.version ∧ new.publishedAt = old.publishedAt)
    "Published seat maps are immutable"

/-- `SeatMap_require_same_space_source`. -/
def SeatMap.requireSameSpaceSource (db : SeatMapDb) (new : SeatMap) : Except SeatMapError Unit :=
  checkRow (∀ source ∈ new.sourceSeatMapId,
      (db.seatMaps.lookup source).map (·.spaceId) = some new.spaceId)
    "A cloned seat map must use a source from the same space"

def SeatMap.validate (db : SeatMapDb) (id : SeatMapId) (old : Option SeatMap) (new : SeatMap) :
    Except SeatMapError Unit := do
  match old with
  | none => pure ()
  | some old => SeatMap.enforceImmutableVersion old new
  SeatMap.requireSameSpaceSource db new
  checkRow (new.version ≥ 1) "SeatMap_version_check"
  checkRow new.publishStateCheck "SeatMap_publish_state_check"
  checkIndex (db.seatMaps.any (fun k m =>
      k != id && m.spaceId == new.spaceId && m.version == new.version) = false)
    "SeatMap_spaceId_version_key"
  checkIndex (new.status = .PUBLISHED → db.seatMaps.any (fun k m =>
      k != id && m.spaceId == new.spaceId && m.status == .PUBLISHED) = false)
    "SeatMap_one_published_per_space_key"

/-- The map of a section, of a row and of a seat, as the triggers look it up. -/
def SeatMapDb.mapOfSection (db : SeatMapDb) (id : SectionId) : Option SeatMapId :=
  (db.sections.lookup id).map (·.seatMapId)

def SeatMapDb.mapOfRow (db : SeatMapDb) (id : RowId) : Option SeatMapId :=
  (db.rows.lookup id).bind fun row => db.mapOfSection row.sectionId

def SeatMapDb.IsDraft (db : SeatMapDb) (id : Option SeatMapId) : Prop :=
  (id.bind db.seatMaps.lookup).map (·.status) = some .DRAFT

instance (db : SeatMapDb) (id : Option SeatMapId) : Decidable (db.IsDraft id) :=
  inferInstanceAs (Decidable (_ = _))

/-- `SeatSection_require_draft_map`, for one version of the row. -/
def SeatSection.requireDraftMap (db : SeatMapDb) (section_ : SeatSection) :
    Except SeatMapError Unit :=
  checkRow (db.IsDraft (some section_.seatMapId))
    "Seat-map sections can only be changed on draft maps"

/-- `SeatRow_require_draft_map`. -/
def SeatRow.requireDraftMap (db : SeatMapDb) (row : SeatRow) : Except SeatMapError Unit :=
  checkRow (db.IsDraft (db.mapOfSection row.sectionId))
    "Seat-map rows can only be changed on draft maps"

/-- `Seat_require_draft_map`. -/
def Seat.requireDraftMap (db : SeatMapDb) (seat : Seat) : Except SeatMapError Unit :=
  checkRow (db.IsDraft (db.mapOfRow seat.rowId)) "Seats can only be changed on draft maps"

def SeatSection.validate (db : SeatMapDb) (id : SectionId) (old : Option SeatSection)
    (new : SeatSection) : Except SeatMapError Unit := do
  match old with
  | none => pure ()
  | some old => old.requireDraftMap db
  new.requireDraftMap db
  checkRow (new.displayOrder ≥ 0) "SeatSection_displayOrder_check"
  checkIndex (db.sections.any (fun k s =>
      k != id && s.seatMapId == new.seatMapId && s.code == new.code) = false)
    "SeatSection_seatMapId_code_key"

def SeatRow.validate (db : SeatMapDb) (id : RowId) (old : Option SeatRow) (new : SeatRow) :
    Except SeatMapError Unit := do
  match old with
  | none => pure ()
  | some old => old.requireDraftMap db
  new.requireDraftMap db
  checkRow (new.displayOrder ≥ 0) "SeatRow_displayOrder_check"
  checkIndex (db.rows.any (fun k r =>
      k != id && r.sectionId == new.sectionId && r.label == new.label) = false)
    "SeatRow_sectionId_label_key"

def Seat.validate (db : SeatMapDb) (id : SeatId) (old : Option Seat) (new : Seat) :
    Except SeatMapError Unit := do
  match old with
  | none => pure ()
  | some old => old.requireDraftMap db
  new.requireDraftMap db
  checkRow (new.displayOrder ≥ 0) "Seat_displayOrder_check"
  checkRow (0 ≤ new.x ∧ new.x ≤ 10000) "Seat_x_check"
  checkRow (0 ≤ new.y ∧ new.y ≤ 10000) "Seat_y_check"
  checkIndex (db.seats.any (fun k s =>
      k != id && s.rowId == new.rowId && s.label == new.label) = false)
    "Seat_rowId_label_key"

namespace Prisma

def seatMap : SeatMapModel SeatMapId SeatMap where
  get := SeatMapDb.seatMaps
  set t db := { db with seatMaps := t }
  put := .seatMap
  lockKey := .seatMap
  validate := SeatMap.validate
  duplicate := .unique "SeatMap_pkey"
  get_set _ _ := rfl
  set_get _ := rfl
  set_set _ _ _ := rfl
  apply_put _ _ _ := rfl
  key_put _ _ := rfl

def seatSection : SeatMapModel SectionId SeatSection where
  get := SeatMapDb.sections
  set t db := { db with sections := t }
  put := .seatSection
  lockKey := .seatSection
  validate := SeatSection.validate
  duplicate := .unique "SeatSection_pkey"
  get_set _ _ := rfl
  set_get _ := rfl
  set_set _ _ _ := rfl
  apply_put _ _ _ := rfl
  key_put _ _ := rfl

def seatRow : SeatMapModel RowId SeatRow where
  get := SeatMapDb.rows
  set t db := { db with rows := t }
  put := .seatRow
  lockKey := .seatRow
  validate := SeatRow.validate
  duplicate := .unique "SeatRow_pkey"
  get_set _ _ := rfl
  set_get _ := rfl
  set_set _ _ _ := rfl
  apply_put _ _ _ := rfl
  key_put _ _ := rfl

def seat : SeatMapModel SeatId Seat where
  get := SeatMapDb.seats
  set t db := { db with seats := t }
  put := .seat
  lockKey := .seat
  validate := Seat.validate
  duplicate := .unique "Seat_pkey"
  get_set _ _ := rfl
  set_get _ := rfl
  set_set _ _ _ := rfl
  apply_put _ _ _ := rfl
  key_put _ _ := rfl

end Prisma

/-! ## §3 Deletions -/

def SeatMapDb.rowsOf (db : SeatMapDb) (sectionIds : List SectionId) : List (RowId × SeatRow) :=
  db.rows.select fun _ row => sectionIds.contains row.sectionId

def SeatMapDb.seatsOf (db : SeatMapDb) (rowIds : List RowId) : List (SeatId × Seat) :=
  db.seats.select fun _ seat => rowIds.contains seat.rowId

/-- The `BEFORE DELETE` triggers of a statement that deletes rows of `SeatRow`, and of the cascade
that deletes their seats, which runs when the rows are gone: the writes of both. -/
def cascadeRows (db : SeatMapDb) (rows : List (RowId × SeatRow)) :
    Except SeatMapError (List SeatMapWrite) := do
  checkAll (fun e => e.2.requireDraftMap db) rows
  let deletions := rows.map fun e => SeatMapWrite.deleteRow e.1
  let seats := db.seatsOf (rows.map (·.1))
  checkAll (fun e => e.2.requireDraftMap (applyAll deletions db)) seats
  .ok (deletions ++ seats.map fun e => .deleteSeat e.1)

/-- `DELETE FROM "SeatSection" WHERE id`. -/
def deleteSectionRow (id : SectionId) : SeatMapSql Unit :=
  .perform fun v => do
    match (v.snapshot.sections.lookup id).bind fun _ => v.current.sections.lookup id with
    | none => .error (.notFound "SeatSection")
    | some section_ => do
        section_.requireDraftMap v.current
        let deletion := [SeatMapWrite.deleteSection id]
        let cascade ← cascadeRows (applyAll deletion v.current) (v.current.rowsOf [id])
        .ok { locks := [], writes := deletion ++ cascade, result := () }

/-- `DELETE FROM "SeatRow" WHERE id`. -/
def deleteRowRow (id : RowId) : SeatMapSql Unit :=
  .perform fun v => do
    match (v.snapshot.rows.lookup id).bind fun _ => v.current.rows.lookup id with
    | none => .error (.notFound "SeatRow")
    | some row => do
        let deletions ← cascadeRows v.current [(id, row)]
        .ok { locks := [], writes := deletions, result := () }

/-- `DELETE FROM "Seat" WHERE id`. -/
def deleteSeatRow (id : SeatId) : SeatMapSql Unit :=
  .perform fun v => do
    match (v.snapshot.seats.lookup id).bind fun _ => v.current.seats.lookup id with
    | none => .error (.notFound "Seat")
    | some seat => do
        seat.requireDraftMap v.current
        .ok { locks := [], writes := [.deleteSeat id], result := () }

/-! ## §4 The stored graph -/

/-- By display order, and among equals by text. -/
def PlacedBefore {τ ρ : Type} (order : ρ → Int) (text : ρ → String) (e e' : τ × ρ) : Prop :=
  order e.2 < order e'.2 ∨ order e.2 = order e'.2 ∧ text e.2 ≤ text e'.2

instance {τ ρ : Type} (order : ρ → Int) (text : ρ → String) :
    DecidableRel (PlacedBefore (τ := τ) order text) :=
  fun _ _ => inferInstanceAs (Decidable (_ ∨ _))

def sectionFiling : Table.Filing SeatSection SeatMapId String :=
  ⟨(·.seatMapId), (·.code), (·.displayOrder)⟩

def rowFiling : Table.Filing SeatRow SectionId String :=
  ⟨(·.sectionId), (·.label), (·.displayOrder)⟩

def seatFiling : Table.Filing Seat RowId String :=
  ⟨(·.rowId), (·.label), (·.displayOrder)⟩

def SeatMapDb.orderedSeats (db : SeatMapDb) (id : RowId) : List (SeatId × Seat) :=
  (db.seats.children seatFiling id).insertionSort (PlacedBefore (·.displayOrder) (·.label))

def SeatMapDb.orderedRows (db : SeatMapDb) (id : SectionId) : List (RowId × SeatRow) :=
  (db.rows.children rowFiling id).insertionSort (PlacedBefore (·.displayOrder) (·.label))

def SeatMapDb.orderedSections (db : SeatMapDb) (id : SeatMapId) : List (SectionId × SeatSection) :=
  (db.sections.children sectionFiling id).insertionSort (PlacedBefore (·.displayOrder) (·.code))

def Seat.publication (seat : Seat) : PublicationSeat :=
  { label := seat.label, displayOrder := seat.displayOrder, x := seat.x, y := seat.y
    type := seat.type, state := seat.state }

def SeatMapDb.publicationRow (db : SeatMapDb) (e : RowId × SeatRow) : PublicationRow :=
  { label := e.2.label, displayOrder := e.2.displayOrder
    seats := (db.orderedSeats e.1).map (·.2.publication) }

def SeatMapDb.publicationSection (db : SeatMapDb) (e : SectionId × SeatSection) :
    PublicationSection :=
  { name := e.2.name, code := e.2.code, displayOrder := e.2.displayOrder
    rows := (db.orderedRows e.1).map db.publicationRow }

/-- `seatMapGraphInclude`. -/
def SeatMapDb.graph (db : SeatMapDb) (id : SeatMapId) : PublicationGraph :=
  { sections := (db.orderedSections id).map db.publicationSection }

end SeatFlow
