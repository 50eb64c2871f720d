import SeatFlow.SeatMaps.RowLabels
import SeatFlow.Text.CodeUnits

/-!
# Seat-map inputs

The limits of a seat map, the schemas that the editor's inputs pass through, and when a map may
be edited, published or cloned. What a schema lets through is in the form in which it is
stored: trimmed, and codes and labels in upper case.
-/

namespace SeatFlow

open Text

/-! ## §1 Types and limits -/

abbrev VenueId := Nat
abbrev SpaceId := Nat
abbrev SeatMapId := Nat
abbrev RowId := Nat

inductive VenueStatus
  | DRAFT | ACTIVE | ARCHIVED
  deriving DecidableEq

inductive SpaceStatus
  | DRAFT | ACTIVE | ARCHIVED
  deriving DecidableEq

inductive SeatMapStatus
  | DRAFT | PUBLISHED | ARCHIVED
  deriving DecidableEq

inductive SeatType
  | STANDARD | ACCESSIBLE | COMPANION | PREMIUM
  deriving DecidableEq

inductive SeatState
  | ACTIVE | BLOCKED
  deriving DecidableEq

namespace SEAT_MAP_LIMITS

def maximumSections : Nat := 20
def maximumRowsPerSection : Nat := 60
def maximumSeatsPerRow : Nat := 80
def maximumSeatsPerMap : Nat := 3000
def maximumBulkRows : Nat := 30
def minimumCoordinate : Int := 0
def maximumCoordinate : Int := 10000
def maximumSpacing : Nat := 200

end SEAT_MAP_LIMITS

/-! ## §2 Lifecycle -/

structure SeatMapLifecycleContext where
  seatMapStatus : SeatMapStatus
  spaceStatus : SpaceStatus
  venueStatus : VenueStatus

def hasOperationalParents (context : SeatMapLifecycleContext) : Bool :=
  context.spaceStatus != .ARCHIVED && context.venueStatus != .ARCHIVED

def canEditSeatMap (context : SeatMapLifecycleContext) : Bool :=
  context.seatMapStatus == .DRAFT && hasOperationalParents context

def canPublishSeatMap (context : SeatMapLifecycleContext) : Bool :=
  canEditSeatMap context

def canCloneSeatMap (context : SeatMapLifecycleContext) : Bool :=
  context.seatMapStatus == .PUBLISHED && hasOperationalParents context

/-! ## §3 Schemas -/

/-- One issue of a rejected input: where it is, its kind, and its message where the schema has
one of its own. -/
structure SchemaIssue where
  path : String
  code : String
  message : Option String := none
  deriving DecidableEq

/-- `value.replace(/\s+/g, " ")`. -/
def collapseBlanks : List Char → List Char
  | [] => []
  | [c] => [if isBlank c then ' ' else c]
  | c :: d :: rest =>
      if isBlank c && isBlank d then collapseBlanks (d :: rest)
      else (if isBlank c then ' ' else c) :: collapseBlanks (d :: rest)

def lengthIssues (path value : String) (minimum maximum : Nat) : List SchemaIssue :=
  (if utf16Length value < minimum then [{ path := path, code := "too_small" }] else []) ++
    if maximum < utf16Length value then [{ path := path, code := "too_big" }] else []

def rangeIssues (path : String) (value minimum maximum : Int) : List SchemaIssue :=
  (if value < minimum then [{ path := path, code := "too_small" }] else []) ++
    if maximum < value then [{ path := path, code := "too_big" }] else []

def compactText (value : String) : String :=
  String.ofList (collapseBlanks (trim value).toList)

/-- `[A-Z0-9]`. -/
def isCodeCharacter (c : Char) : Bool :=
  c.isUpper || c.isDigit

/-- `/^[A-Z0-9]+(?:[-_][A-Z0-9]+)*$/`: separators stand between other characters. -/
def isSectionCode (code : String) : Bool :=
  let characters := code.toList
  characters.all (fun c => isCodeCharacter c || c == '-' || c == '_') &&
    characters.head?.any isCodeCharacter && characters.getLast?.any isCodeCharacter &&
    (characters.zip characters.tail).all fun e => isCodeCharacter e.1 || isCodeCharacter e.2

structure SeatMapInput where
  name : String

def seatMapInputSchema (raw : SeatMapInput) : Except (List SchemaIssue) SeatMapInput :=
  let name := compactText raw.name
  match lengthIssues "name" name 2 120 with
  | [] => .ok { name := name }
  | issues => .error issues

structure SectionInput where
  name : String
  code : String

def sectionInputSchema [Casing] (raw : SectionInput) : Except (List SchemaIssue) SectionInput :=
  let name := compactText raw.name
  let code := toUpperCase (trim raw.code)
  match lengthIssues "name" name 1 80 ++ lengthIssues "code" code 1 20 ++
      (if isSectionCode code then []
        else [{ path := "code", code := "invalid_format"
                message := some "Use letters, numbers, hyphens, or underscores." }]) with
  | [] => .ok { name := name, code := code }
  | issues => .error issues

structure RowInput where
  label : String

def rowInputSchema [Casing] (raw : RowInput) : Except (List SchemaIssue) RowInput :=
  let label := toUpperCase (trim raw.label)
  match lengthIssues "label" label 1 12 with
  | [] => .ok { label := label }
  | issues => .error issues

structure SeatInput where
  label : String
  x : Int
  y : Int
  type : SeatType
  state : SeatState

def seatInputSchema [Casing] (raw : SeatInput) : Except (List SchemaIssue) SeatInput :=
  let label := toUpperCase (trim raw.label)
  match lengthIssues "label" label 1 12 ++
      rangeIssues "x" raw.x SEAT_MAP_LIMITS.minimumCoordinate SEAT_MAP_LIMITS.maximumCoordinate ++
      rangeIssues "y" raw.y SEAT_MAP_LIMITS.minimumCoordinate SEAT_MAP_LIMITS.maximumCoordinate with
  | [] => .ok { raw with label := label }
  | issues => .error issues

structure BulkSeatGenerationInput where
  startRowLabel : String
  rowCount : Int
  seatsPerRow : Int
  startSeatNumber : Int
  horizontalSpacing : Int
  verticalSpacing : Int

/-- The checks of each field. -/
def bulkFieldIssues (raw : BulkSeatGenerationInput) (startRowLabel : String) : List SchemaIssue :=
  (if isRowLabel startRowLabel then []
    else [{ path := "startRowLabel", code := "invalid_format"
            message := some "Use a letter label such as A or AA." }]) ++
  rangeIssues "rowCount" raw.rowCount 1 SEAT_MAP_LIMITS.maximumBulkRows ++
  rangeIssues "seatsPerRow" raw.seatsPerRow 1 SEAT_MAP_LIMITS.maximumSeatsPerRow ++
  rangeIssues "startSeatNumber" raw.startSeatNumber 1 9999 ++
  rangeIssues "horizontalSpacing" raw.horizontalSpacing 1 SEAT_MAP_LIMITS.maximumSpacing ++
  rangeIssues "verticalSpacing" raw.verticalSpacing 1 SEAT_MAP_LIMITS.maximumSpacing

/-- `superRefine`, for a label of this number. -/
def bulkRefinementIssues (raw : BulkSeatGenerationInput) (start : Nat) : List SchemaIssue :=
  (if start + raw.rowCount - 1 > 18278 then
    [{ path := "rowCount", code := "custom"
       message := some "The generated row labels must not extend beyond ZZZ." }] else []) ++
  (if raw.startSeatNumber + raw.seatsPerRow - 1 > 9999 then
    [{ path := "startSeatNumber", code := "custom"
       message := some "The generated seat labels must not exceed 9999." }] else []) ++
  if (raw.seatsPerRow - 1) * raw.horizontalSpacing > SEAT_MAP_LIMITS.maximumCoordinate then
    [{ path := "horizontalSpacing", code := "custom"
       message := some "Horizontal spacing places seats outside the editor canvas." }] else []

/-- A bulk generation within the limits. -/
structure BulkSeatGeneration where
  startRowLabel : String
  rowCount : Nat
  seatsPerRow : Nat
  startSeatNumber : Nat
  horizontalSpacing : Nat
  verticalSpacing : Nat
  seats_le : seatsPerRow ≤ SEAT_MAP_LIMITS.maximumSeatsPerRow
  horizontal_pos : 0 < horizontalSpacing
  vertical_pos : 0 < verticalSpacing
  width_le : ((seatsPerRow : Int) - 1) * horizontalSpacing ≤ SEAT_MAP_LIMITS.maximumCoordinate

theorem rangeIssues_eq_nil {path : String} {value minimum maximum : Int} :
    rangeIssues path value minimum maximum = [] ↔ minimum ≤ value ∧ value ≤ maximum := by
  unfold rangeIssues
  split <;> split <;> simp <;> omega

theorem bulkFieldIssues_eq_nil {raw : BulkSeatGenerationInput} {startRowLabel : String} :
    bulkFieldIssues raw startRowLabel = [] ↔ isRowLabel startRowLabel = true ∧
      (1 ≤ raw.rowCount ∧ raw.rowCount ≤ SEAT_MAP_LIMITS.maximumBulkRows) ∧
      (1 ≤ raw.seatsPerRow ∧ raw.seatsPerRow ≤ SEAT_MAP_LIMITS.maximumSeatsPerRow) ∧
      (1 ≤ raw.startSeatNumber ∧ raw.startSeatNumber ≤ 9999) ∧
      (1 ≤ raw.horizontalSpacing ∧ raw.horizontalSpacing ≤ SEAT_MAP_LIMITS.maximumSpacing) ∧
      (1 ≤ raw.verticalSpacing ∧ raw.verticalSpacing ≤ SEAT_MAP_LIMITS.maximumSpacing) := by
  unfold bulkFieldIssues
  simp only [List.append_eq_nil_iff, rangeIssues_eq_nil]
  by_cases hlabel : isRowLabel startRowLabel = true <;> simp [hlabel, and_assoc]

theorem bulkRefinementIssues_width {raw : BulkSeatGenerationInput} {start : Nat}
    (h : bulkRefinementIssues raw start = []) :
    (raw.seatsPerRow - 1) * raw.horizontalSpacing ≤ SEAT_MAP_LIMITS.maximumCoordinate := by
  unfold bulkRefinementIssues at h
  simp only [List.append_eq_nil_iff] at h
  by_contra hwide
  have hlast := h.2
  rw [if_pos (by omega)] at hlast
  cases hlast

/-- The refinement is looked at once the fields are in order. -/
def bulkSeatGenerationSchema [Casing] (raw : BulkSeatGenerationInput) :
    Except (List SchemaIssue) BulkSeatGeneration :=
  let startRowLabel := toUpperCase (trim raw.startRowLabel)
  if hfields : bulkFieldIssues raw startRowLabel = [] then
    match rowLabelToNumber startRowLabel with
    | .error message =>
        .error [{ path := "startRowLabel", code := "custom", message := some message }]
    | .ok start =>
        if hrefined : bulkRefinementIssues raw start = [] then
          .ok
            { startRowLabel := startRowLabel
              rowCount := raw.rowCount.toNat
              seatsPerRow := raw.seatsPerRow.toNat
              startSeatNumber := raw.startSeatNumber.toNat
              horizontalSpacing := raw.horizontalSpacing.toNat
              verticalSpacing := raw.verticalSpacing.toNat
              seats_le := by
                have hseats := (bulkFieldIssues_eq_nil.mp hfields).2.2.1
                omega
              horizontal_pos := by
                have hspacing := (bulkFieldIssues_eq_nil.mp hfields).2.2.2.2.1
                omega
              vertical_pos := by
                have hspacing := (bulkFieldIssues_eq_nil.mp hfields).2.2.2.2.2
                omega
              width_le := by
                obtain ⟨-, -, hseats, -, hspacing, -⟩ := bulkFieldIssues_eq_nil.mp hfields
                rw [Int.toNat_of_nonneg (by omega), Int.toNat_of_nonneg (by omega)]
                exact bulkRefinementIssues_width hrefined }
        else .error (bulkRefinementIssues raw start)
  else .error (bulkFieldIssues raw startRowLabel)

inductive MoveDirection
  | up | down
  deriving DecidableEq

/-! ## §4 Stored forms -/

section Stored

variable [Casing]

/-- A code or label is stored in upper case. -/
theorem upper_sectionInputSchema {raw input : SectionInput}
    (h : sectionInputSchema raw = .ok input) : toUpperCase input.code = input.code := by
  unfold sectionInputSchema at h
  dsimp only at h
  split at h
  · rw [← Except.ok.inj h]
    exact toUpperCase_toUpperCase _
  · exact absurd h (by simp)

theorem upper_rowInputSchema {raw input : RowInput} (h : rowInputSchema raw = .ok input) :
    toUpperCase input.label = input.label := by
  unfold rowInputSchema at h
  dsimp only at h
  split at h
  · rw [← Except.ok.inj h]
    exact toUpperCase_toUpperCase _
  · exact absurd h (by simp)

/-- A seat is stored in upper case and within the canvas. -/
theorem seatInputSchema_spec {raw input : SeatInput} (h : seatInputSchema raw = .ok input) :
    toUpperCase input.label = input.label ∧
      (SEAT_MAP_LIMITS.minimumCoordinate ≤ input.x ∧ input.x ≤ SEAT_MAP_LIMITS.maximumCoordinate) ∧
      SEAT_MAP_LIMITS.minimumCoordinate ≤ input.y ∧
      input.y ≤ SEAT_MAP_LIMITS.maximumCoordinate := by
  unfold seatInputSchema at h
  dsimp only at h
  split at h
  · rename_i hissues
    simp only [List.append_eq_nil_iff, rangeIssues_eq_nil] at hissues
    rw [← Except.ok.inj h]
    exact ⟨toUpperCase_toUpperCase _, hissues.1.2, hissues.2⟩
  · exact absurd h (by simp)

end Stored

end SeatFlow
