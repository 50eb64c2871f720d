import SeatFlow.Events.Pricing

/-!
# The seat picker

What one customer sees of a session: every seat of its map, with the state that this customer
may act on. Rows held by others are shown like rows that are missing, so two inventories that
differ only in them cannot be told apart.
-/

namespace SeatFlow

/-! ## §1 The view -/

inductive SeatSelectionState
  | AVAILABLE | HELD_BY_YOU | UNAVAILABLE | BLOCKED
  deriving DecidableEq

structure SelectionSeatView where
  seatId : SeatId
  label : String
  x : Int
  y : Int
  type : SeatType
  state : SeatSelectionState
  priceMinor : Option Money
  currency : Option Currency
  deriving DecidableEq

structure SelectionRowView where
  id : RowId
  label : String
  seats : List SelectionSeatView
  deriving DecidableEq

structure SelectionSectionView where
  id : SectionId
  name : String
  code : String
  rows : List SelectionRowView
  deriving DecidableEq

structure SeatMapSeat where
  id : SeatId
  label : String
  x : Int
  y : Int
  type : SeatType
  state : SeatState
  deriving DecidableEq

structure SeatMapRow where
  id : RowId
  label : String
  seats : List SeatMapSeat
  deriving DecidableEq

structure SeatMapSection where
  id : SectionId
  name : String
  code : String
  rows : List SeatMapRow
  deriving DecidableEq

structure InventorySnapshot where
  seatId : SeatId
  state : SeatInventoryState
  currentHoldId : Option HoldId
  priceMinor : Money
  currency : Currency
  deriving DecidableEq

/-- `viewerHoldId && snapshot.currentHoldId === viewerHoldId`. -/
def InventorySnapshot.heldBy (snapshot : InventorySnapshot) (viewerHoldId : Option HoldId) : Bool :=
  viewerHoldId.any fun hold => snapshot.currentHoldId == some hold

/-- The view of a seat without a price. -/
def SeatMapSeat.unpriced (seat : SeatMapSeat) (state : SeatSelectionState) : SelectionSeatView :=
  { seatId := seat.id, label := seat.label, x := seat.x, y := seat.y, type := seat.type
    state := state, priceMinor := none, currency := none }

def mapSeat (seat : SeatMapSeat) (snapshot : Option InventorySnapshot)
    (viewerHoldId : Option HoldId) : SelectionSeatView :=
  if seat.state = .BLOCKED then seat.unpriced .BLOCKED
  else
    match snapshot with
    | none => seat.unpriced .UNAVAILABLE
    | some snapshot =>
        let state : SeatSelectionState :=
          if snapshot.state = .AVAILABLE then .AVAILABLE
          else if snapshot.heldBy viewerHoldId then .HELD_BY_YOU
          else .UNAVAILABLE
        let selectable := state == .AVAILABLE || state == .HELD_BY_YOU
        { seat.unpriced state with
          priceMinor := if selectable then some snapshot.priceMinor else none
          currency := if selectable then some snapshot.currency else none }

/-- `inventoryBySeatId.get(seatId)`. -/
def snapshotOf (inventory : List InventorySnapshot) (seatId : SeatId) : Option InventorySnapshot :=
  inventory.findRev? fun entry => entry.seatId == seatId

def mapSeatSelectionSections (sections : List SeatMapSection) (inventory : List InventorySnapshot)
    (viewerHoldId : Option HoldId) : List SelectionSectionView :=
  sections.map fun section_ =>
    { id := section_.id
      name := section_.name
      code := section_.code
      rows := section_.rows.map fun row =>
        { id := row.id
          label := row.label
          seats := row.seats.map fun seat =>
            mapSeat seat (snapshotOf inventory seat.id) viewerHoldId } }

structure SelectionAvailabilityCounts where
  total : Nat := 0
  available : Nat := 0
  heldByYou : Nat := 0
  unavailable : Nat := 0
  blocked : Nat := 0
  deriving DecidableEq

/-- One turn of the loop. -/
def SelectionAvailabilityCounts.count (counts : SelectionAvailabilityCounts)
    (seat : SelectionSeatView) : SelectionAvailabilityCounts :=
  let counts := { counts with total := counts.total + 1 }
  match seat.state with
  | .AVAILABLE => { counts with available := counts.available + 1 }
  | .HELD_BY_YOU => { counts with heldByYou := counts.heldByYou + 1 }
  | .BLOCKED => { counts with blocked := counts.blocked + 1 }
  | .UNAVAILABLE => { counts with unavailable := counts.unavailable + 1 }

def SelectionSectionView.seats (section_ : SelectionSectionView) : List SelectionSeatView :=
  section_.rows.flatMap (·.seats)

def countSelectionStates (sections : List SelectionSectionView) : SelectionAvailabilityCounts :=
  (sections.flatMap (·.seats)).foldl .count {}

/-! ## §2 What a viewer may know -/

def SeatMapSection.seats (section_ : SeatMapSection) : List SeatMapSeat :=
  section_.rows.flatMap (·.seats)

structure SelectionMap where
  sections : List SeatMapSection
  seats_nodup : ((sections.flatMap (·.seats)).map (·.id)).Nodup

def SelectionMap.seats (seatMap : SelectionMap) : List SeatMapSeat :=
  seatMap.sections.flatMap (·.seats)

/-- The inventory of one session. -/
structure SessionInventory where
  rows : List InventorySnapshot
  seats_nodup : (rows.map (·.seatId)).Nodup
  holds : ∀ row ∈ rows, row.currentHoldId.isSome ↔ row.state = .HELD

/-- The row is the viewer's to act on. -/
def InventorySnapshot.Open (viewerHoldId : Option HoldId) (row : InventorySnapshot) : Prop :=
  row.state = .AVAILABLE ∨ row.heldBy viewerHoldId = true

/-- The inventories agree on the available rows and on those that the viewer holds. -/
def SessionInventory.AgreesFor (viewerHoldId : Option HoldId)
    (inventory inventory' : SessionInventory) : Prop :=
  ∀ row : InventorySnapshot, row.Open viewerHoldId →
    (row ∈ inventory.rows ↔ row ∈ inventory'.rows)

abbrev SeatPlace := SeatId × String × Int × Int × SeatType

abbrev SectionPlace := SectionId × String × String × List (RowId × String × List SeatPlace)

/-- Where a section, its rows and their seats are, and what they are called. -/
def SeatMapSection.place (section_ : SeatMapSection) : SectionPlace :=
  (section_.id, section_.name, section_.code, section_.rows.map fun row =>
    (row.id, row.label, row.seats.map fun seat => (seat.id, seat.label, seat.x, seat.y, seat.type)))

def SelectionSectionView.place (section_ : SelectionSectionView) : SectionPlace :=
  (section_.id, section_.name, section_.code, section_.rows.map fun row =>
    (row.id, row.label, row.seats.map fun seat =>
      (seat.seatId, seat.label, seat.x, seat.y, seat.type)))

variable {viewerHoldId : Option HoldId}

theorem SessionInventory.snapshotOf_eq_some (inventory : SessionInventory) {seatId : SeatId}
    {row : InventorySnapshot} :
    snapshotOf inventory.rows seatId = some row ↔ row ∈ inventory.rows ∧ row.seatId = seatId := by
  unfold snapshotOf
  rw [findRev?_eq_some_iff]
  simp only [beq_iff_eq]
  constructor
  · intro hlast
    obtain ⟨_, _, -, hseat, -⟩ := id hlast
    exact ⟨hlast.mem, hseat⟩
  · rintro ⟨hmem, hseat⟩
    obtain ⟨before, after, hsplit⟩ := List.append_of_mem hmem
    refine ⟨before, after, hsplit, hseat, fun other hother heq => ?_⟩
    have hnodup := inventory.seats_nodup
    rw [hsplit, List.map_append, List.map_cons] at hnodup
    have htail := (List.nodup_append.mp hnodup).2.1
    refine (List.nodup_cons.mp htail).1 ?_
    rw [hseat, ← heq]
    exact List.mem_map_of_mem hother

/-- A row that is not the viewer's is shown like a row that is missing. -/
theorem mapSeat_of_not_open {seat : SeatMapSeat} {row : InventorySnapshot}
    (h : ¬row.Open viewerHoldId) : mapSeat seat (some row) viewerHoldId =
      mapSeat seat none viewerHoldId := by
  have havailable : row.state ≠ .AVAILABLE := fun heq => h (.inl heq)
  have hheld : row.heldBy viewerHoldId = false := Bool.eq_false_iff.mpr fun heq => h (.inr heq)
  unfold mapSeat
  by_cases hblocked : seat.state = .BLOCKED
  · rw [if_pos hblocked, if_pos hblocked]
  · rw [if_neg hblocked, if_neg hblocked]
    simp only [if_neg havailable, hheld, Bool.false_eq_true, if_false]
    rfl

/-- A seat is shown by its row if that is the viewer's, and else as if it had none. -/
theorem mapSeat_eq (inventory : SessionInventory) (seat : SeatMapSeat) :
    (∃ row ∈ inventory.rows, row.seatId = seat.id ∧ row.Open viewerHoldId ∧
      mapSeat seat (snapshotOf inventory.rows seat.id) viewerHoldId =
        mapSeat seat (some row) viewerHoldId) ∨
    ((∀ row ∈ inventory.rows, row.seatId = seat.id → ¬row.Open viewerHoldId) ∧
      mapSeat seat (snapshotOf inventory.rows seat.id) viewerHoldId =
        mapSeat seat none viewerHoldId) := by
  cases hrow : snapshotOf inventory.rows seat.id with
  | none =>
      refine .inr ⟨fun row hmem hseat => ?_, rfl⟩
      rw [inventory.snapshotOf_eq_some.mpr ⟨hmem, hseat⟩] at hrow
      cases hrow
  | some row =>
      obtain ⟨hmem, hseat⟩ := inventory.snapshotOf_eq_some.mp hrow
      by_cases hopen : row.Open viewerHoldId
      · exact .inl ⟨row, hmem, hseat, hopen, rfl⟩
      · refine .inr ⟨fun other hother hsame => ?_, mapSeat_of_not_open hopen⟩
        have hfound := inventory.snapshotOf_eq_some.mpr ⟨hother, hsame⟩
        rw [hrow] at hfound
        cases hfound
        exact hopen

/-- Two inventories that agree for the viewer show every seat alike. -/
theorem mapSeat_congr {inventory inventory' : SessionInventory}
    (h : inventory.AgreesFor viewerHoldId inventory') (seat : SeatMapSeat) :
    mapSeat seat (snapshotOf inventory.rows seat.id) viewerHoldId =
      mapSeat seat (snapshotOf inventory'.rows seat.id) viewerHoldId := by
  rcases mapSeat_eq inventory seat with ⟨row, hmem, hseat, hopen, hview⟩ | ⟨hnone, hview⟩
  · have hfound := inventory'.snapshotOf_eq_some.mpr ⟨(h row hopen).mp hmem, hseat⟩
    rw [hview, hfound]
  · rcases mapSeat_eq inventory' seat with ⟨row, hmem, hseat, hopen, -⟩ | ⟨-, hview'⟩
    · exact absurd hopen (hnone row ((h row hopen).mpr hmem) hseat)
    · rw [hview, hview']

/-! ## §3 Places and counts -/

theorem mapSeat_place (seat : SeatMapSeat) (snapshot : Option InventorySnapshot) :
    let view := mapSeat seat snapshot viewerHoldId
    (view.seatId, view.label, view.x, view.y, view.type) =
      (seat.id, seat.label, seat.x, seat.y, seat.type) := by
  unfold mapSeat
  split
  · rfl
  · split <;> rfl

theorem place_mapSeatSelectionSections (sections : List SeatMapSection)
    (inventory : List InventorySnapshot) :
    (mapSeatSelectionSections sections inventory viewerHoldId).map (·.place) =
      sections.map (·.place) := by
  unfold mapSeatSelectionSections
  rw [List.map_map]
  refine List.map_congr_left fun section_ _ => ?_
  simp only [Function.comp_apply, SelectionSectionView.place, SeatMapSection.place, List.map_map]
  simp only [Function.comp_def, List.map_map, mapSeat_place]

/-- The seats of the view are the views of the seats. -/
theorem seats_mapSeatSelectionSections (sections : List SeatMapSection)
    (inventory : List InventorySnapshot) :
    (mapSeatSelectionSections sections inventory viewerHoldId).flatMap (·.seats) =
      (sections.flatMap (·.seats)).map fun seat =>
        mapSeat seat (snapshotOf inventory seat.id) viewerHoldId := by
  unfold mapSeatSelectionSections SelectionSectionView.seats SeatMapSection.seats
  simp only [List.flatMap_map, List.map_flatMap]

/-- The counters after a list of seats. -/
theorem foldl_count (seats : List SelectionSeatView) (counts : SelectionAvailabilityCounts) :
    seats.foldl .count counts =
      { total := counts.total + seats.length
        available := counts.available + seats.countP fun seat => seat.state == .AVAILABLE
        heldByYou := counts.heldByYou + seats.countP fun seat => seat.state == .HELD_BY_YOU
        unavailable := counts.unavailable + seats.countP fun seat => seat.state == .UNAVAILABLE
        blocked := counts.blocked + seats.countP fun seat => seat.state == .BLOCKED } := by
  induction seats generalizing counts with
  | nil => simp
  | cons seat seats ih =>
      rw [List.foldl_cons, ih]
      unfold SelectionAvailabilityCounts.count
      simp only [List.length_cons, List.countP_cons]
      cases seat.state <;> simp <;> omega

theorem length_eq_countP (seats : List SelectionSeatView) :
    seats.length =
      (seats.countP fun seat => seat.state == .AVAILABLE) +
        (seats.countP fun seat => seat.state == .HELD_BY_YOU) +
        (seats.countP fun seat => seat.state == .UNAVAILABLE) +
        seats.countP fun seat => seat.state == .BLOCKED := by
  induction seats with
  | nil => rfl
  | cons seat seats ih =>
      simp only [List.length_cons, List.countP_cons]
      cases seat.state <;> simp <;> omega

theorem state_mapSeat_eq_available {seat : SeatMapSeat} {snapshot : Option InventorySnapshot} :
    (mapSeat seat snapshot viewerHoldId).state = .AVAILABLE ↔
      seat.state = .ACTIVE ∧ ∃ row ∈ snapshot, row.state = .AVAILABLE := by
  unfold mapSeat
  cases hstate : seat.state with
  | BLOCKED => simp [SeatMapSeat.unpriced]
  | ACTIVE =>
      cases snapshot with
      | none => simp [SeatMapSeat.unpriced]
      | some row =>
          by_cases havailable : row.state = .AVAILABLE
          · simp [SeatMapSeat.unpriced, havailable]
          · by_cases hheld : row.heldBy viewerHoldId = true <;>
              simp [SeatMapSeat.unpriced, havailable, hheld]

/-- The seats shown as available are those of the available rows of active seats. -/
theorem countP_available (seatMap : SelectionMap) (inventory : SessionInventory) :
    (((seatMap.sections.flatMap (·.seats)).map fun seat =>
        mapSeat seat (snapshotOf inventory.rows seat.id) viewerHoldId).countP
          fun view => view.state == .AVAILABLE) =
      (inventory.rows.filter fun row => row.state == .AVAILABLE &&
        seatMap.seats.any fun seat => seat.id == row.seatId && seat.state == .ACTIVE).length := by
  rw [List.countP_map, List.countP_eq_length_filter]
  have hids : ((seatMap.seats.filter fun seat =>
      (mapSeat seat (snapshotOf inventory.rows seat.id) viewerHoldId).state == .AVAILABLE).map
        (·.id)).Perm
      ((inventory.rows.filter fun row => row.state == .AVAILABLE &&
        seatMap.seats.any fun seat => seat.id == row.seatId && seat.state == .ACTIVE).map
          (·.seatId)) := by
    refine (List.perm_ext_iff_of_nodup (seatMap.seats_nodup.sublist (List.filter_sublist.map _))
      (inventory.seats_nodup.sublist (List.filter_sublist.map _))).mpr fun id => ?_
    simp only [List.mem_map, List.mem_filter, Bool.and_eq_true, beq_iff_eq, List.any_eq_true,
      state_mapSeat_eq_available]
    constructor
    · rintro ⟨seat, ⟨hseat, hactive, row, hrow, havailable⟩, rfl⟩
      obtain ⟨hmem, hsame⟩ := inventory.snapshotOf_eq_some.mp hrow
      exact ⟨row, ⟨hmem, havailable, seat, hseat, hsame.symm, hactive⟩, hsame⟩
    · rintro ⟨row, ⟨hmem, havailable, seat, hseat, hsame, hactive⟩, rfl⟩
      exact ⟨seat, ⟨hseat, hactive, row,
        inventory.snapshotOf_eq_some.mpr ⟨hmem, hsame.symm⟩, havailable⟩, hsame⟩
  have hlength := hids.length_eq
  rw [List.length_map, List.length_map] at hlength
  exact hlength

/-- **The seat picker tells nothing about others.** Inventories that agree on the available rows
and on the viewer's own give the same view. In every view each seat of the map stands once in its
place, and the counts are those of the seats shown. -/
theorem seatPicker_private (seatMap : SelectionMap) (viewerHoldId : Option HoldId) :
    (∀ inventory inventory' : SessionInventory, inventory.AgreesFor viewerHoldId inventory' →
      mapSeatSelectionSections seatMap.sections inventory.rows viewerHoldId =
        mapSeatSelectionSections seatMap.sections inventory'.rows viewerHoldId) ∧
    ∀ inventory : SessionInventory,
      let view := mapSeatSelectionSections seatMap.sections inventory.rows viewerHoldId
      let counts := countSelectionStates view
      view.map (·.place) = seatMap.sections.map (·.place) ∧
      (∀ seat ∈ seatMap.seats,
        ((view.flatMap (·.seats)).map (·.seatId)).count seat.id = 1) ∧
      counts.total = seatMap.seats.length ∧
      counts.total = counts.available + counts.heldByYou + counts.unavailable + counts.blocked ∧
      counts.available = (inventory.rows.filter fun row => row.state == .AVAILABLE &&
        seatMap.seats.any fun seat => seat.id == row.seatId && seat.state == .ACTIVE).length := by
  refine ⟨fun inventory inventory' hagree => ?_, fun inventory => ?_⟩
  · unfold mapSeatSelectionSections
    simp only [mapSeat_congr hagree]
  · have hseats := @seats_mapSeatSelectionSections viewerHoldId seatMap.sections inventory.rows
    refine ⟨place_mapSeatSelectionSections _ _, fun seat hseat => ?_, ?_, ?_, ?_⟩
    · have hids : (((mapSeatSelectionSections seatMap.sections inventory.rows viewerHoldId).flatMap
          (·.seats)).map (·.seatId)) = (seatMap.seats.map (·.id)) := by
        rw [hseats, List.map_map]
        refine List.map_congr_left fun seat _ => ?_
        exact congrArg Prod.fst (mapSeat_place seat _)
      rw [hids]
      exact List.count_eq_one_of_mem seatMap.seats_nodup (List.mem_map_of_mem hseat)
    · unfold countSelectionStates
      rw [foldl_count, hseats]
      show 0 + _ = _
      rw [Nat.zero_add, List.length_map]
      rfl
    · unfold countSelectionStates
      rw [foldl_count]
      show 0 + _ = 0 + _ + (0 + _) + (0 + _) + (0 + _)
      simp only [Nat.zero_add]
      exact length_eq_countP _
    · unfold countSelectionStates
      rw [foldl_count, hseats]
      show 0 + _ = _
      rw [Nat.zero_add]
      exact countP_available seatMap inventory

/-- Two seats; the second is held by the hold 7 in one inventory and sold in the other. -/
def twoSeats : SelectionMap where
  sections :=
    [{ id := 1, name := "Main", code := "MAIN"
       rows := [{ id := 1, label := "A", seats :=
        [{ id := 1, label := "1", x := 0, y := 0, type := .STANDARD, state := .ACTIVE },
         { id := 2, label := "2", x := 20, y := 0, type := .STANDARD, state := .ACTIVE }] }] }]
  seats_nodup := by decide

def freeSeat : InventorySnapshot :=
  { seatId := 1, state := .AVAILABLE, currentHoldId := none, priceMinor := 600, currency := .USD }

def heldSeat : InventorySnapshot :=
  { seatId := 2, state := .HELD, currentHoldId := some 7, priceMinor := 400, currency := .USD }

def soldSeat : InventorySnapshot :=
  { seatId := 2, state := .BOOKED, currentHoldId := none, priceMinor := 450, currency := .USD }

theorem seatPicker_private_twoSeats :
    mapSeatSelectionSections twoSeats.sections [freeSeat, heldSeat] (some 5) =
      mapSeatSelectionSections twoSeats.sections [freeSeat, soldSeat] (some 5) := by
  refine (seatPicker_private twoSeats (some 5)).1
    ⟨[freeSeat, heldSeat], by decide, by decide⟩ ⟨[freeSeat, soldSeat], by decide, by decide⟩ ?_
  intro row hopen
  have hheld : row ≠ heldSeat := by
    rintro rfl
    exact absurd hopen (by simp [InventorySnapshot.Open, InventorySnapshot.heldBy, heldSeat])
  have hsold : row ≠ soldSeat := by
    rintro rfl
    exact absurd hopen (by simp [InventorySnapshot.Open, InventorySnapshot.heldBy, soldSeat])
  simp [hheld, hsold]

end SeatFlow
