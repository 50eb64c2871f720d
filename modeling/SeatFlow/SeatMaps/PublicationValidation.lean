import Mathlib.Data.List.Dedup
import SeatFlow.SeatMaps.Schema

/-!
# Validation for publication

A seat map is published when `validateSeatMapForPublication` finds nothing wrong with its
graph. Some of what it looks for, a part that is still empty or a companion seat too many, is
the state of unfinished work; the rest is a structure that no map should have.
-/

namespace SeatFlow

/-! ## §1 The graph and its issues -/

structure PublicationSeat where
  label : String
  displayOrder : Int
  x : Int
  y : Int
  type : SeatType
  state : SeatState
  deriving DecidableEq

structure PublicationRow where
  label : String
  displayOrder : Int
  seats : List PublicationSeat
  deriving DecidableEq

structure PublicationSection where
  name : String
  code : String
  displayOrder : Int
  rows : List PublicationRow
  deriving DecidableEq

structure PublicationGraph where
  sections : List PublicationSection
  deriving DecidableEq

/-- `new Set(values).size !== values.length`. -/
def hasDuplicates {α : Type} [DecidableEq α] (values : List α) : Bool :=
  values.dedup.length != values.length

theorem hasDuplicates_eq_false {α : Type} [DecidableEq α] {values : List α} :
    hasDuplicates values = false ↔ values.Nodup := by
  unfold hasDuplicates
  rw [bne_eq_false_iff_eq, ← List.dedup_eq_self]
  exact ⟨fun h => (List.dedup_sublist values).eq_of_length h, fun h => by rw [h]⟩

/-- What `validateSeatMapForPublication` reports. -/
inductive SeatMapIssue
  | noSections
  | sectionLimit
  | noSeats
  | seatLimit
  | sectionCodes
  | sectionOrders
  | noRows (code : String)
  | rowLimit (code : String)
  | rowLabels (code : String)
  | rowOrders (code : String)
  | coordinates (code : String)
  | emptyRow (code label : String)
  | rowSeatLimit (code label : String)
  | seatLabels (code label : String)
  | seatOrders (code label : String)
  | companions (code label : String)
  | outsideCanvas (code label seatLabel : String)
  deriving DecidableEq

def SeatMapIssue.message : SeatMapIssue → String
  | .noSections => "Add at least one section."
  | .sectionLimit => s!"A map can contain at most {SEAT_MAP_LIMITS.maximumSections} sections."
  | .noSeats => "Add at least one seat."
  | .seatLimit => s!"A map can contain at most {SEAT_MAP_LIMITS.maximumSeatsPerMap} seats."
  | .sectionCodes => "Section codes must be unique."
  | .sectionOrders => "Section order values must be unique."
  | .noRows code => s!"Section {code} has no rows."
  | .rowLimit code => s!"Section {code} exceeds the row limit."
  | .rowLabels code => s!"Section {code} contains duplicate row labels."
  | .rowOrders code => s!"Section {code} contains duplicate row order values."
  | .coordinates code => s!"Section {code} contains overlapping seat coordinates."
  | .emptyRow code label => s!"Row {code}-{label} has no seats."
  | .rowSeatLimit code label => s!"Row {code}-{label} exceeds the seat limit."
  | .seatLabels code label => s!"Row {code}-{label} contains duplicate seat labels."
  | .seatOrders code label => s!"Row {code}-{label} contains duplicate seat order values."
  | .companions code label =>
      s!"Row {code}-{label} needs at least one accessible seat for each companion seat."
  | .outsideCanvas code label seatLabel =>
      s!"Seat {code}-{label}-{seatLabel} is outside the canvas."

def issueIf (wrong : Bool) (issue : SeatMapIssue) : List SeatMapIssue :=
  if wrong then [issue] else []

/-- The seat lies outside the canvas. -/
def PublicationSeat.isOutside (seat : PublicationSeat) : Bool :=
  seat.x < SEAT_MAP_LIMITS.minimumCoordinate || SEAT_MAP_LIMITS.maximumCoordinate < seat.x ||
    seat.y < SEAT_MAP_LIMITS.minimumCoordinate || SEAT_MAP_LIMITS.maximumCoordinate < seat.y

def PublicationRow.countOf (row : PublicationRow) (type : SeatType) : Nat :=
  (row.seats.filter fun seat => seat.type == type).length

/-- The pairs of coordinates of a section's seats; the source compares them as texts `x:y`. -/
def PublicationSection.coordinates (section_ : PublicationSection) : List (Int × Int) :=
  section_.rows.flatMap fun row => row.seats.map fun seat => (seat.x, seat.y)

def PublicationGraph.totalSeats (graph : PublicationGraph) : Nat :=
  (graph.sections.map fun section_ => (section_.rows.map (·.seats.length)).sum).sum

section Validation

variable [Casing]

def rowIssues (code : String) (row : PublicationRow) : List SeatMapIssue :=
  issueIf (row.seats.length == 0) (.emptyRow code row.label) ++
  issueIf (row.seats.length > SEAT_MAP_LIMITS.maximumSeatsPerRow) (.rowSeatLimit code row.label) ++
  issueIf (hasDuplicates (row.seats.map fun seat => toUpperCase seat.label))
    (.seatLabels code row.label) ++
  issueIf (hasDuplicates (row.seats.map (·.displayOrder))) (.seatOrders code row.label) ++
  issueIf (row.countOf .COMPANION > row.countOf .ACCESSIBLE) (.companions code row.label) ++
  row.seats.flatMap fun seat => issueIf seat.isOutside (.outsideCanvas code row.label seat.label)

def sectionIssues (section_ : PublicationSection) : List SeatMapIssue :=
  issueIf (section_.rows.length == 0) (.noRows section_.code) ++
  issueIf (section_.rows.length > SEAT_MAP_LIMITS.maximumRowsPerSection)
    (.rowLimit section_.code) ++
  issueIf (hasDuplicates (section_.rows.map fun row => toUpperCase row.label))
    (.rowLabels section_.code) ++
  issueIf (hasDuplicates (section_.rows.map (·.displayOrder))) (.rowOrders section_.code) ++
  issueIf (hasDuplicates section_.coordinates) (.coordinates section_.code) ++
  section_.rows.flatMap (rowIssues section_.code)

def publicationIssues (graph : PublicationGraph) : List SeatMapIssue :=
  issueIf (graph.sections.length == 0) .noSections ++
  issueIf (graph.sections.length > SEAT_MAP_LIMITS.maximumSections) .sectionLimit ++
  issueIf (graph.totalSeats == 0) .noSeats ++
  issueIf (graph.totalSeats > SEAT_MAP_LIMITS.maximumSeatsPerMap) .seatLimit ++
  issueIf (hasDuplicates (graph.sections.map fun section_ => toUpperCase section_.code))
    .sectionCodes ++
  issueIf (hasDuplicates (graph.sections.map (·.displayOrder))) .sectionOrders ++
  graph.sections.flatMap sectionIssues

def validateSeatMapForPublication (graph : PublicationGraph) : List String :=
  ((publicationIssues graph).map (·.message)).eraseDups

end Validation

/-! ## §2 Unfinished and malformed -/

/-- The issue is about a missing part or a companion seat too many. -/
def SeatMapIssue.Unfinished : SeatMapIssue → Prop
  | .noSections | .noSeats | .noRows _ | .emptyRow _ _ | .companions _ _ => True
  | _ => False

structure PublicationRow.WellFormed [Casing] (row : PublicationRow) : Prop where
  limit : row.seats.length ≤ SEAT_MAP_LIMITS.maximumSeatsPerRow
  labels : (row.seats.map fun seat => toUpperCase seat.label).Nodup
  orders : (row.seats.map (·.displayOrder)).Nodup
  canvas : ∀ seat ∈ row.seats, seat.isOutside = false

structure PublicationSection.WellFormed [Casing] (section_ : PublicationSection) : Prop where
  limit : section_.rows.length ≤ SEAT_MAP_LIMITS.maximumRowsPerSection
  labels : (section_.rows.map fun row => toUpperCase row.label).Nodup
  orders : (section_.rows.map (·.displayOrder)).Nodup
  coordinates : section_.coordinates.Nodup
  rows : ∀ row ∈ section_.rows, row.WellFormed

/-- The structure that every seat map should have: limits, canvas bounds, unique codes, labels
and orders, and seats apart. -/
structure PublicationGraph.WellFormed [Casing] (graph : PublicationGraph) : Prop where
  sectionLimit : graph.sections.length ≤ SEAT_MAP_LIMITS.maximumSections
  seatLimit : graph.totalSeats ≤ SEAT_MAP_LIMITS.maximumSeatsPerMap
  codes : (graph.sections.map fun section_ => toUpperCase section_.code).Nodup
  orders : (graph.sections.map (·.displayOrder)).Nodup
  sections : ∀ section_ ∈ graph.sections, section_.WellFormed

theorem issueIf_unfinished {wrong : Bool} {issue : SeatMapIssue} :
    (∀ i ∈ issueIf wrong issue, i.Unfinished) ↔ (wrong = true → issue.Unfinished) := by
  unfold issueIf
  cases wrong <;> simp

section Issues

variable [Casing]

/-- Only unfinished work is reported of a row exactly when it is well formed. -/
theorem rowIssues_unfinished {code : String} {row : PublicationRow} :
    (∀ i ∈ rowIssues code row, i.Unfinished) ↔ row.WellFormed := by
  simp only [rowIssues, List.forall_mem_append, issueIf_unfinished, List.forall_mem_flatMap]
  simp only [SeatMapIssue.Unfinished, implies_true, imp_false, Bool.not_eq_true,
    hasDuplicates_eq_false, gt_iff_lt, decide_eq_false_iff_not, Nat.not_lt, true_and, and_true]
  constructor
  · rintro ⟨⟨⟨hlimit, hlabels⟩, horders⟩, hcanvas⟩
    exact ⟨hlimit, hlabels, horders, hcanvas⟩
  · rintro ⟨hlimit, hlabels, horders, hcanvas⟩
    exact ⟨⟨⟨hlimit, hlabels⟩, horders⟩, hcanvas⟩

theorem sectionIssues_unfinished {section_ : PublicationSection} :
    (∀ i ∈ sectionIssues section_, i.Unfinished) ↔ section_.WellFormed := by
  simp only [sectionIssues, List.forall_mem_append, issueIf_unfinished, List.forall_mem_flatMap,
    rowIssues_unfinished]
  simp only [SeatMapIssue.Unfinished, implies_true, imp_false, Bool.not_eq_true,
    hasDuplicates_eq_false, gt_iff_lt, decide_eq_false_iff_not, Nat.not_lt, true_and]
  constructor
  · rintro ⟨⟨⟨⟨hlimit, hlabels⟩, horders⟩, hcoordinates⟩, hrows⟩
    exact ⟨hlimit, hlabels, horders, hcoordinates, hrows⟩
  · rintro ⟨hlimit, hlabels, horders, hcoordinates, hrows⟩
    exact ⟨⟨⟨⟨hlimit, hlabels⟩, horders⟩, hcoordinates⟩, hrows⟩

/-- **Malformed maps.** Only unfinished work is reported of a map exactly when it is well
formed. -/
theorem publicationIssues_unfinished {graph : PublicationGraph} :
    (∀ i ∈ publicationIssues graph, i.Unfinished) ↔ graph.WellFormed := by
  simp only [publicationIssues, List.forall_mem_append, issueIf_unfinished, List.forall_mem_flatMap,
    sectionIssues_unfinished]
  simp only [SeatMapIssue.Unfinished, implies_true, imp_false, Bool.not_eq_true,
    hasDuplicates_eq_false, gt_iff_lt, decide_eq_false_iff_not, Nat.not_lt, true_and, and_true]
  constructor
  · rintro ⟨⟨⟨⟨hsections, hseats⟩, hcodes⟩, horders⟩, hall⟩
    exact ⟨hsections, hseats, hcodes, horders, hall⟩
  · rintro ⟨hsections, hseats, hcodes, horders, hall⟩
    exact ⟨⟨⟨⟨hsections, hseats⟩, hcodes⟩, horders⟩, hall⟩

/-- A map that passes is well formed. -/
theorem wellFormed_of_passed {graph : PublicationGraph}
    (h : validateSeatMapForPublication graph = []) : graph.WellFormed := by
  refine publicationIssues_unfinished.mp fun i hi => ?_
  have hmessage : i.message ∈ validateSeatMapForPublication graph :=
    List.mem_eraseDups.mpr (List.mem_map_of_mem hi)
  rw [h] at hmessage
  cases hmessage

end Issues

end SeatFlow
