import SeatFlow.Database.Types
import SeatFlow.SeatMaps.Schema

/-!
# Pricing coverage and session inventory

What a session shows of its prices before it is published, and the inventory rows that its
publication creates. The two are counted in different places: `calculatePricingCoverage` adds up
the active seats of each section, `computeSessionInventoryRows` walks over the seats.
-/

namespace SeatFlow

/-! ## §1 The last entry under a key -/

section LastEntry

variable {α : Type}

/-- The last element with `p`; it is what `new Map(entries)` keeps under a key. -/
def IsLast (p : α → Prop) (l : List α) (x : α) : Prop :=
  ∃ before after, l = before ++ x :: after ∧ p x ∧ ∀ y ∈ after, ¬p y

theorem findRev?_eq_some_iff {p : α → Bool} {l : List α} {x : α} :
    l.findRev? p = some x ↔ IsLast (fun y => p y = true) l x := by
  rw [List.findRev?_eq_find?_reverse, List.find?_eq_some_iff_append]
  constructor
  · rintro ⟨hx, after, before, hsplit, hnot⟩
    refine ⟨before.reverse, after.reverse, ?_, hx, fun y hy => ?_⟩
    · rw [← List.reverse_reverse l, hsplit]
      simp
    · have hy' := hnot y (List.mem_reverse.mp hy)
      simpa using hy'
  · rintro ⟨before, after, rfl, hx, hnot⟩
    refine ⟨hx, after.reverse, before.reverse, by simp, fun y hy => ?_⟩
    have hy' := hnot y (List.mem_reverse.mp hy)
    simpa using hy'

theorem IsLast.mem {p : α → Prop} {l : List α} {x : α} (h : IsLast p l x) : x ∈ l := by
  obtain ⟨before, after, rfl, -, -⟩ := h
  simp

end LastEntry

/-! ## §2 Coverage -/

structure PricingSeat where
  id : SeatId
  state : SeatState
  deriving DecidableEq

structure PricingRow where
  seats : List PricingSeat
  deriving DecidableEq

structure PricingSection where
  id : SectionId
  name : String
  code : String
  rows : List PricingRow
  deriving DecidableEq

structure PricingTier where
  id : PriceTierId
  name : String
  code : String
  priceMinor : Money
  currency : Currency
  deriving DecidableEq

structure SectionAssignment where
  sectionId : SectionId
  priceTierId : PriceTierId
  deriving DecidableEq

def PricingRow.countOf (row : PricingRow) (state : SeatState) : Nat :=
  (row.seats.filter fun seat => seat.state == state).length

def PricingSection.countOf (section_ : PricingSection) (state : SeatState) : Nat :=
  (section_.rows.map (·.countOf state)).sum

structure SectionCapacity where
  sectionId : SectionId
  sectionName : String
  sectionCode : String
  sellable : Nat
  blocked : Nat
  priceTierId : Option PriceTierId
  deriving DecidableEq

structure TierCapacity extends PricingTier where
  sellableCapacity : Nat
  deriving DecidableEq

structure PricingCoverage where
  sections : List SectionCapacity
  tiers : List TierCapacity
  totalSellable : Nat
  pricedSellable : Nat
  unpricedSellable : Int
  minimumPriceMinor : Option Money
  currency : Option Currency
  issues : List String
  deriving DecidableEq

/-- `assignmentBySection.get(sectionId)`. -/
def assignmentOf (assignments : List SectionAssignment) (sectionId : SectionId) :
    Option SectionAssignment :=
  assignments.findRev? fun assignment => assignment.sectionId == sectionId

/-- `tierById.get(tierId)`. -/
def tierOf (tiers : List PricingTier) (tierId : PriceTierId) : Option PricingTier :=
  tiers.findRev? fun tier => tier.id == tierId

/-- The loop over the assignments, after those of `seen`. -/
def assignmentIssues (sections : List PricingSection) (tiers : List PricingTier) :
    List SectionAssignment → List SectionAssignment → List String
  | _, [] => []
  | seen, assignment :: rest =>
      (if (assignmentOf seen assignment.sectionId).isSome then
        ["A section can have at most one price tier for a session."] else []) ++
      (if sections.all (fun section_ => section_.id != assignment.sectionId) then
        ["A pricing assignment references a section from another seat map."] else []) ++
      (if (tierOf tiers assignment.priceTierId).isNone then
        ["A pricing assignment references a tier from another session."] else []) ++
      assignmentIssues sections tiers (seen ++ [assignment]) rest

def sectionCapacity (assignments : List SectionAssignment) (section_ : PricingSection) :
    SectionCapacity :=
  { sectionId := section_.id
    sectionName := section_.name
    sectionCode := section_.code
    sellable := section_.countOf .ACTIVE
    blocked := section_.countOf .BLOCKED
    priceTierId := (assignmentOf assignments section_.id).map (·.priceTierId) }

/-- A section with active seats that no assignment names. -/
def unpricedIssue (assignments : List SectionAssignment) (section_ : PricingSection) :
    List String :=
  if section_.countOf .ACTIVE > 0 ∧ (assignmentOf assignments section_.id).isNone then
    [s!"Section {section_.code} has sellable seats without a price tier."] else []

def calculatePricingCoverage (sections : List PricingSection) (tiers : List PricingTier)
    (assignments : List SectionAssignment) : PricingCoverage :=
  let capacities := sections.map (sectionCapacity assignments)
  let tierCapacities := tiers.map fun tier =>
    { tier with
      sellableCapacity :=
        ((capacities.filter fun c => c.priceTierId == some tier.id).map (·.sellable)).sum }
  let currencies := (tiers.map (·.currency)).eraseDups
  let totalSellable := (capacities.map (·.sellable)).sum
  let pricedSellable :=
    ((capacities.filter fun c => c.priceTierId.any fun id => (tierOf tiers id).isSome).map
      (·.sellable)).sum
  { sections := capacities
    tiers := tierCapacities
    totalSellable := totalSellable
    pricedSellable := pricedSellable
    unpricedSellable := (totalSellable : Int) - pricedSellable
    minimumPriceMinor := (tiers.map (·.priceMinor)).min?
    currency := if currencies.length == 1 then tiers.head?.map (·.currency) else none
    issues :=
      (assignmentIssues sections tiers [] assignments ++
        sections.flatMap (unpricedIssue assignments) ++
        (if tiers.any (fun tier => tier.priceMinor < 0) then ["Ticket prices cannot be negative."]
          else []) ++
        if currencies.length > 1 then
          ["All price tiers in a session must use the same currency."] else []).eraseDups }

/-! ## §3 Inventory -/

structure MaterializedInventoryRow where
  seatId : SeatId
  sectionId : SectionId
  priceTierId : PriceTierId
  priceMinor : Money
  currency : Currency
  deriving DecidableEq

/-- The tier that a section is sold at. -/
def sectionTier (tiers : List PricingTier) (assignments : List SectionAssignment)
    (sectionId : SectionId) : Option PricingTier :=
  (assignmentOf assignments sectionId).bind fun assignment => tierOf tiers assignment.priceTierId

def inventoryRow (section_ : PricingSection) (tier : PricingTier) (seat : PricingSeat) :
    MaterializedInventoryRow :=
  { seatId := seat.id
    sectionId := section_.id
    priceTierId := tier.id
    priceMinor := tier.priceMinor
    currency := tier.currency }

def computeSessionInventoryRows (sections : List PricingSection) (tiers : List PricingTier)
    (assignments : List SectionAssignment) : List MaterializedInventoryRow :=
  sections.flatMap fun section_ =>
    match sectionTier tiers assignments section_.id with
    | none => []
    | some tier => section_.rows.flatMap fun row =>
        (row.seats.filter fun seat => seat.state == .ACTIVE).map (inventoryRow section_ tier)

/-! ## §4 Rows and capacities -/

def PricingSection.seats (section_ : PricingSection) : List PricingSeat :=
  section_.rows.flatMap (·.seats)

/-- The sections of a seat map. -/
structure SessionSeatMap where
  sections : List PricingSection
  seats_nodup : ((sections.flatMap (·.seats)).map (·.id)).Nodup

/-- The section is assigned to the tier: the last assignment of the section names it. -/
def Prices (tiers : List PricingTier) (assignments : List SectionAssignment)
    (section_ : PricingSection) (tier : PricingTier) : Prop :=
  ∃ assignment, IsLast (fun a => a.sectionId = section_.id) assignments assignment ∧
    IsLast (fun t => t.id = assignment.priceTierId) tiers tier

variable {sections : List PricingSection} {tiers : List PricingTier}
  {assignments : List SectionAssignment}

theorem assignmentOf_eq_some {sectionId : SectionId} {assignment : SectionAssignment} :
    assignmentOf assignments sectionId = some assignment ↔
      IsLast (fun a => a.sectionId = sectionId) assignments assignment := by
  unfold assignmentOf
  rw [findRev?_eq_some_iff]
  simp only [beq_iff_eq]

theorem tierOf_eq_some {tierId : PriceTierId} {tier : PricingTier} :
    tierOf tiers tierId = some tier ↔ IsLast (fun t => t.id = tierId) tiers tier := by
  unfold tierOf
  rw [findRev?_eq_some_iff]
  simp only [beq_iff_eq]

theorem id_of_tierOf {tierId : PriceTierId} {tier : PricingTier}
    (h : tierOf tiers tierId = some tier) : tier.id = tierId := by
  obtain ⟨_, _, -, hid, -⟩ := tierOf_eq_some.mp h
  exact hid

theorem sectionTier_eq_some {section_ : PricingSection} {tier : PricingTier} :
    sectionTier tiers assignments section_.id = some tier ↔
      Prices tiers assignments section_ tier := by
  unfold sectionTier Prices
  rw [Option.bind_eq_some_iff]
  constructor
  · rintro ⟨assignment, hassignment, htier⟩
    exact ⟨assignment, assignmentOf_eq_some.mp hassignment, tierOf_eq_some.mp htier⟩
  · rintro ⟨assignment, hassignment, htier⟩
    exact ⟨assignment, assignmentOf_eq_some.mpr hassignment, tierOf_eq_some.mpr htier⟩

/-- The rows of one section. -/
theorem sectionRows_eq (section_ : PricingSection) (tier : PricingTier) :
    (section_.rows.flatMap fun row =>
      (row.seats.filter fun seat => seat.state == .ACTIVE).map (inventoryRow section_ tier)) =
    (section_.seats.filter fun seat => seat.state == .ACTIVE).map (inventoryRow section_ tier) := by
  unfold PricingSection.seats
  rw [List.filter_flatMap, List.map_flatMap]

theorem countOf_eq (section_ : PricingSection) (state : SeatState) :
    section_.countOf state = (section_.seats.filter fun seat => seat.state == state).length := by
  unfold PricingSection.countOf PricingRow.countOf PricingSection.seats
  rw [List.filter_flatMap, List.length_flatMap]

theorem mem_computeSessionInventoryRows {row : MaterializedInventoryRow} :
    row ∈ computeSessionInventoryRows sections tiers assignments ↔
      ∃ section_ ∈ sections, ∃ tier, Prices tiers assignments section_ tier ∧
        ∃ seat ∈ section_.seats, seat.state = .ACTIVE ∧ row = inventoryRow section_ tier seat := by
  unfold computeSessionInventoryRows
  rw [List.mem_flatMap]
  refine exists_congr fun section_ => and_congr_right fun _ => ?_
  constructor
  · intro h
    split at h
    · cases h
    · rename_i tier htier
      rw [sectionRows_eq] at h
      obtain ⟨seat, hseat, rfl⟩ := List.mem_map.mp h
      obtain ⟨hmem, hactive⟩ := List.mem_filter.mp hseat
      exact ⟨tier, sectionTier_eq_some.mp htier, seat, hmem, beq_iff_eq.mp hactive, rfl⟩
  · rintro ⟨tier, htier, seat, hmem, hactive, rfl⟩
    rw [sectionTier_eq_some.mpr htier]
    simp only [sectionRows_eq]
    exact List.mem_map_of_mem (List.mem_filter.mpr ⟨hmem, beq_iff_eq.mpr hactive⟩)

/-- The seats of the rows are seats of the map, in its order. -/
theorem seatIds_sublist :
    ((computeSessionInventoryRows sections tiers assignments).map (·.seatId)).Sublist
      ((sections.flatMap (·.seats)).map (·.id)) := by
  unfold computeSessionInventoryRows
  rw [List.map_flatMap, List.map_flatMap]
  induction sections with
  | nil => exact List.Sublist.refl _
  | cons section_ sections ih =>
      rw [List.flatMap_cons, List.flatMap_cons]
      refine List.Sublist.append ?_ ih
      split
      · exact List.nil_sublist _
      · rw [sectionRows_eq, List.map_map]
        exact List.filter_sublist.map _

/-- How many rows a selection of the rows by tier has, section by section. -/
theorem length_filter_rows (p : PriceTierId → Bool) :
    ((computeSessionInventoryRows sections tiers assignments).filter
        fun row => p row.priceTierId).length =
      ((sections.filter fun section_ =>
        (sectionTier tiers assignments section_.id).any fun tier => p tier.id).map
          (·.countOf .ACTIVE)).sum := by
  unfold computeSessionInventoryRows
  induction sections with
  | nil => rfl
  | cons section_ sections ih =>
      rw [List.flatMap_cons, List.filter_append, List.length_append, ih, List.filter_cons]
      cases htier : sectionTier tiers assignments section_.id with
      | none => simp
      | some tier =>
          simp only [sectionRows_eq, Option.any_some, List.filter_map]
          by_cases hp : p tier.id = true
          · have hall : ((fun row : MaterializedInventoryRow => p row.priceTierId) ∘
                inventoryRow section_ tier) = fun _ => true := by
              funext seat
              exact hp
            rw [hall, List.filter_true, if_pos hp, List.map_cons, List.sum_cons, List.length_map,
              countOf_eq]
          · have hnone : ((fun row : MaterializedInventoryRow => p row.priceTierId) ∘
                inventoryRow section_ tier) = fun _ => false := by
              funext seat
              exact Bool.eq_false_iff.mpr hp
            rw [hnone, if_neg hp]
            simp

/-- Where a section's assignment names a tier that there is. -/
theorem sectionTier_any (section_ : PricingSection) (p : PriceTierId → Bool) :
    ((sectionTier tiers assignments section_.id).any fun tier => p tier.id) =
      ((sectionCapacity assignments section_).priceTierId.any fun id =>
        p id && (tierOf tiers id).isSome) := by
  unfold sectionTier sectionCapacity
  cases assignmentOf assignments section_.id with
  | none => rfl
  | some assignment =>
      simp only [Option.bind_some, Option.map_some, Option.any_some]
      cases htier : tierOf tiers assignment.priceTierId with
      | none => simp
      | some tier => simp [id_of_tierOf htier]

theorem priced_iff (section_ : PricingSection) :
    ((sectionTier tiers assignments section_.id).any fun _ => true) =
      ((sectionCapacity assignments section_).priceTierId.any fun id =>
        (tierOf tiers id).isSome) := by
  have hany := @sectionTier_any tiers assignments section_ fun _ => true
  simpa only [Bool.true_and] using hany

theorem sum_sellable (q : SectionCapacity → Bool) :
    (((sections.map (sectionCapacity assignments)).filter q).map (·.sellable)).sum =
      ((sections.filter fun section_ => q (sectionCapacity assignments section_)).map
        (·.countOf .ACTIVE)).sum := by
  rw [List.filter_map, List.map_map]
  rfl

/-- No issue: every assignment names a tier, and every section with active seats is assigned. -/
theorem tierOf_of_assignmentIssues {seen : List SectionAssignment}
    (h : assignmentIssues sections tiers seen assignments = []) {assignment : SectionAssignment}
    (hmem : assignment ∈ assignments) : (tierOf tiers assignment.priceTierId).isSome := by
  induction assignments generalizing seen with
  | nil => cases hmem
  | cons first rest ih =>
      simp only [assignmentIssues, List.append_eq_nil_iff] at h
      obtain ⟨⟨⟨-, -⟩, htier⟩, hrest⟩ := h
      rcases List.mem_cons.mp hmem with rfl | hmem
      · split at htier
        · cases htier
        · rename_i hsome
          exact Option.isSome_iff_ne_none.mpr (by simpa using hsome)
      · exact ih hrest hmem

theorem sectionTier_of_issues
    (h : (calculatePricingCoverage sections tiers assignments).issues = [])
    {section_ : PricingSection} (hmem : section_ ∈ sections)
    (hsellable : 0 < section_.countOf .ACTIVE) :
    (sectionTier tiers assignments section_.id).isSome := by
  have hissues : assignmentIssues sections tiers [] assignments ++
      sections.flatMap (unpricedIssue assignments) = [] := by
    refine List.eq_nil_iff_forall_not_mem.mpr fun issue hissue => ?_
    have hreported : issue ∈ (calculatePricingCoverage sections tiers assignments).issues := by
      unfold calculatePricingCoverage
      exact List.mem_eraseDups.mpr (List.mem_append_left _ (List.mem_append_left _ hissue))
    rw [h] at hreported
    cases hreported
  obtain ⟨hassignments, hsections⟩ := List.append_eq_nil_iff.mp hissues
  have hsection := List.flatMap_eq_nil_iff.mp hsections section_ hmem
  unfold unpricedIssue at hsection
  unfold sectionTier
  cases hassignment : assignmentOf assignments section_.id with
  | none => simp [hassignment, hsellable] at hsection
  | some assignment =>
      rw [Option.bind_some]
      exact tierOf_of_assignmentIssues hassignments (assignmentOf_eq_some.mp hassignment).mem

theorem length_computeSessionInventoryRows :
    (computeSessionInventoryRows sections tiers assignments).length =
      (calculatePricingCoverage sections tiers assignments).pricedSellable := by
  have hlength := @length_filter_rows sections tiers assignments fun _ => true
  rw [List.filter_true] at hlength
  rw [hlength]
  unfold calculatePricingCoverage
  dsimp only
  rw [sum_sellable]
  simp only [priced_iff]

/-- The rows of a tier. -/
theorem length_filter_tier {tier : PricingTier} (hmem : tier ∈ tiers) :
    ((computeSessionInventoryRows sections tiers assignments).filter
        fun row => row.priceTierId == tier.id).length =
      (((sections.map (sectionCapacity assignments)).filter
        fun c => c.priceTierId == some tier.id).map (·.sellable)).sum := by
  have hknown : (tierOf tiers tier.id).isSome := by
    unfold tierOf
    rw [List.findRev?_eq_find?_reverse, List.find?_isSome]
    exact ⟨tier, List.mem_reverse.mpr hmem, beq_self_eq_true _⟩
  rw [length_filter_rows (fun id => id == tier.id), sum_sellable]
  refine congrArg List.sum (congrArg _ (List.filter_congr fun section_ _ => ?_))
  rw [sectionTier_any section_ fun id => id == tier.id]
  cases (sectionCapacity assignments section_).priceTierId with
  | none => rfl
  | some id =>
      by_cases hid : id = tier.id
      · simp [hid, hknown]
      · simp [hid]

/-- Without issues every sellable seat is priced. -/
theorem pricedSellable_of_issues
    (h : (calculatePricingCoverage sections tiers assignments).issues = []) :
    (calculatePricingCoverage sections tiers assignments).pricedSellable =
      (calculatePricingCoverage sections tiers assignments).totalSellable := by
  have hpriced : ∀ section_ ∈ sections, 0 < section_.countOf .ACTIVE →
      (sectionTier tiers assignments section_.id).isSome :=
    fun section_ hmem hsellable => sectionTier_of_issues h hmem hsellable
  unfold calculatePricingCoverage
  dsimp only
  rw [sum_sellable, List.map_map]
  simp only [← priced_iff]
  clear h
  induction sections with
  | nil => rfl
  | cons section_ rest ih =>
      have hrest := ih fun other hmem => hpriced other (List.mem_cons_of_mem section_ hmem)
      rw [List.filter_cons, List.map_cons, List.sum_cons]
      cases htier : sectionTier tiers assignments section_.id with
      | none =>
          have hzero : section_.countOf .ACTIVE = 0 := by
            by_contra hpos
            have hsome := hpriced section_ List.mem_cons_self (by omega)
            rw [htier] at hsome
            cases hsome
          simp only [Option.any_none, Bool.false_eq_true, if_false, hrest]
          show _ = section_.countOf .ACTIVE + _
          omega
      | some tier =>
          simp only [Option.any_some, if_true, List.map_cons, List.sum_cons, hrest]
          rfl

/-! ## §5 Inventory and coverage -/

/-- **Inventory and coverage.** There is one row for each active seat of an assigned section and
no other, no seat has two, and the rows are as many as the coverage counts: in all, under each
tier, and where it reports no issue as many as there are seats to sell. -/
theorem inventory_matches_coverage (seatMap : SessionSeatMap) (tiers : List PricingTier)
    (assignments : List SectionAssignment) :
    (∀ row, row ∈ computeSessionInventoryRows seatMap.sections tiers assignments ↔
      ∃ section_ ∈ seatMap.sections, ∃ tier, Prices tiers assignments section_ tier ∧
        ∃ seat ∈ section_.seats, seat.state = .ACTIVE ∧ row = inventoryRow section_ tier seat) ∧
    ((computeSessionInventoryRows seatMap.sections tiers assignments).map (·.seatId)).Nodup ∧
    (computeSessionInventoryRows seatMap.sections tiers assignments).length =
      (calculatePricingCoverage seatMap.sections tiers assignments).pricedSellable ∧
    (∀ tier ∈ (calculatePricingCoverage seatMap.sections tiers assignments).tiers,
      ((computeSessionInventoryRows seatMap.sections tiers assignments).filter
        fun row => row.priceTierId == tier.id).length = tier.sellableCapacity) ∧
    ((calculatePricingCoverage seatMap.sections tiers assignments).issues = [] →
      (computeSessionInventoryRows seatMap.sections tiers assignments).length =
        (calculatePricingCoverage seatMap.sections tiers assignments).totalSellable) := by
  refine ⟨fun row => mem_computeSessionInventoryRows, seatMap.seats_nodup.sublist seatIds_sublist,
    length_computeSessionInventoryRows, ?_, fun hissues => ?_⟩
  · intro capacity hcapacity
    obtain ⟨tier, hmem, rfl⟩ := List.mem_map.mp hcapacity
    exact length_filter_tier hmem
  · rw [length_computeSessionInventoryRows, pricedSellable_of_issues hissues]

/-- One seat to sell at 10.00. -/
def oneSeatSection : PricingSection :=
  { id := 1, name := "Main", code := "MAIN",
    rows := [{ seats := [{ id := 1, state := .ACTIVE }] }] }

def standardTier : PricingTier :=
  { id := 1, name := "Standard", code := "STD", priceMinor := 1000, currency := .AZN }

/-- A tier that no section is assigned to. -/
def studentTier : PricingTier :=
  { id := 2, name := "Student", code := "STUDENT", priceMinor := 500, currency := .AZN }

def balconyTier : PricingTier :=
  { id := 3, name := "Balcony", code := "BALCONY", priceMinor := 1500, currency := .AZN }

/-- Two seats to sell, and one that is blocked. -/
def balconySection : PricingSection :=
  { id := 2, name := "Balcony", code := "BALC"
    rows := [{ seats := [{ id := 2, state := .ACTIVE }, { id := 3, state := .BLOCKED }] },
      { seats := [{ id := 4, state := .ACTIVE }] }] }

/-- Three of the four seats of two sections are on sale, and nobody sells to students. -/
theorem inventory_matches_coverage_twoSections :
    (computeSessionInventoryRows [oneSeatSection, balconySection]
      [standardTier, studentTier, balconyTier] [⟨1, 1⟩, ⟨2, 3⟩]).length =
        (calculatePricingCoverage [oneSeatSection, balconySection]
          [standardTier, studentTier, balconyTier] [⟨1, 1⟩, ⟨2, 3⟩]).totalSellable ∧
      (calculatePricingCoverage [oneSeatSection, balconySection]
        [standardTier, studentTier, balconyTier] [⟨1, 1⟩, ⟨2, 3⟩]).totalSellable = 3 := by
  refine ⟨?_, by decide⟩
  exact (inventory_matches_coverage ⟨[oneSeatSection, balconySection], by decide⟩
    [standardTier, studentTier, balconyTier] [⟨1, 1⟩, ⟨2, 3⟩]).2.2.2.2 (by decide)

/-! ## §6 The lowest price -/

/-- The lowest price is that of the configured tiers. -/
theorem minimumPriceMinor_eq_some {price : Money} :
    (calculatePricingCoverage sections tiers assignments).minimumPriceMinor = some price ↔
      (∃ tier ∈ tiers, tier.priceMinor = price) ∧ ∀ tier ∈ tiers, price ≤ tier.priceMinor := by
  unfold calculatePricingCoverage
  rw [List.min?_eq_some_iff, List.mem_map, List.forall_mem_map]

/-- **The lowest price of a session.** It is the lowest of the configured tiers, whether a seat is
sold at it or not. No row costs less, and some row costs as little exactly when a tier of the
lowest price is assigned to a section with an active seat. -/
theorem minimumPrice_configured (sections : List PricingSection) (tiers : List PricingTier)
    (assignments : List SectionAssignment) :
    (∀ price, (calculatePricingCoverage sections tiers assignments).minimumPriceMinor =
        some price ↔
      (∃ tier ∈ tiers, tier.priceMinor = price) ∧ ∀ tier ∈ tiers, price ≤ tier.priceMinor) ∧
    (∀ row ∈ computeSessionInventoryRows sections tiers assignments, ∃ price ≤ row.priceMinor,
      (calculatePricingCoverage sections tiers assignments).minimumPriceMinor = some price) ∧
    ((calculatePricingCoverage sections tiers assignments).minimumPriceMinor =
        ((computeSessionInventoryRows sections tiers assignments).map (·.priceMinor)).min? ↔
      tiers = [] ∨ ∃ section_ ∈ sections, ∃ tier, Prices tiers assignments section_ tier ∧
        (∃ seat ∈ section_.seats, seat.state = .ACTIVE) ∧
        ∀ other ∈ tiers, tier.priceMinor ≤ other.priceMinor) := by
  have hrow : ∀ row ∈ computeSessionInventoryRows sections tiers assignments,
      ∃ tier ∈ tiers, tier.priceMinor = row.priceMinor := by
    intro row hmem
    obtain ⟨section_, -, tier, ⟨_, -, htier⟩, seat, -, -, rfl⟩ :=
      mem_computeSessionInventoryRows.mp hmem
    exact ⟨tier, htier.mem, rfl⟩
  refine ⟨fun price => minimumPriceMinor_eq_some, ?_, ?_⟩
  · intro row hmem
    obtain ⟨tier, htier, hprice⟩ := hrow row hmem
    cases hmin : (calculatePricingCoverage sections tiers assignments).minimumPriceMinor with
    | none =>
        have hempty := List.map_eq_nil_iff.mp (List.min?_eq_none_iff.mp hmin)
        rw [hempty] at htier
        cases htier
    | some price =>
        refine ⟨price, ?_, rfl⟩
        rw [← hprice]
        exact (minimumPriceMinor_eq_some.mp hmin).2 tier htier
  · constructor
    · intro hsame
      cases hmin : (calculatePricingCoverage sections tiers assignments).minimumPriceMinor with
      | none => exact .inl (List.map_eq_nil_iff.mp (List.min?_eq_none_iff.mp hmin))
      | some price =>
          right
          rw [hmin] at hsame
          obtain ⟨hprice, -⟩ := List.min?_eq_some_iff.mp hsame.symm
          obtain ⟨row, hmem, hprice⟩ := List.mem_map.mp hprice
          obtain ⟨section_, hsection, tier, htier, seat, hseat, hactive, rfl⟩ :=
            mem_computeSessionInventoryRows.mp hmem
          refine ⟨section_, hsection, tier, htier, ⟨seat, hseat, hactive⟩, fun other hother => ?_⟩
          have hlowest := (minimumPriceMinor_eq_some.mp hmin).2 other hother
          rw [← hprice] at hlowest
          exact hlowest
    · rintro (rfl | ⟨section_, hsection, tier, htier, ⟨seat, hseat, hactive⟩, hlowest⟩)
      · have hnone : computeSessionInventoryRows sections [] assignments = [] := by
          refine List.eq_nil_iff_forall_not_mem.mpr fun row hmem => ?_
          obtain ⟨tier, htier, -⟩ := hrow row hmem
          cases htier
        rw [hnone]
        rfl
      · obtain ⟨assignment, hassignment, hlast⟩ := htier
        rw [minimumPriceMinor_eq_some.mpr ⟨⟨tier, hlast.mem, rfl⟩, hlowest⟩]
        refine (List.min?_eq_some_iff.mpr ⟨?_, ?_⟩).symm
        · exact List.mem_map.mpr ⟨inventoryRow section_ tier seat,
            mem_computeSessionInventoryRows.mpr
              ⟨section_, hsection, tier, ⟨assignment, hassignment, hlast⟩, seat, hseat,
                hactive, rfl⟩,
            rfl⟩
        · intro price hprice
          obtain ⟨row, hmem, rfl⟩ := List.mem_map.mp hprice
          obtain ⟨other, hother, hprice⟩ := hrow row hmem
          rw [← hprice]
          exact hlowest other hother

/-- Nothing is wrong with this session, but nothing in it is sold at the price it shows. -/
theorem minimumPrice_unobtainable :
    ¬∀ (sections : List PricingSection) (tiers : List PricingTier)
        (assignments : List SectionAssignment),
      (calculatePricingCoverage sections tiers assignments).issues = [] →
      (calculatePricingCoverage sections tiers assignments).minimumPriceMinor =
        ((computeSessionInventoryRows sections tiers assignments).map (·.priceMinor)).min? := by
  intro h
  exact absurd (h [oneSeatSection] [standardTier, studentTier] [⟨1, 1⟩] (by decide)) (by decide)

end SeatFlow
