import Mathlib.Data.List.Sigma
import SeatFlow.Relational.Runs
import SeatFlow.SeatMaps.DraftRemoval

/-!
# The draft editor

Every operation of the editor, and of the version life cycle around it, leaves tidy maps behind.
The operations run one at a time here; what each of them does at its commit is checked against the
single writes of tidy maps. A nested creation inserts row after row, and what is still to be
inserted has to fit what is there.
-/

namespace SeatFlow

open Relational

/-! ## §1 Access and inputs -/

section Access

variable {db : SeatMapDb} {α : Type}

theorem ensures_findAuthorizedSeatMap {scope : SeatMapScope} {Q : SeatMapAccess → SeatMapDb → Prop}
    (h : ∀ access, db.access scope.seatMapId = some access → Q access db) :
    Program.Ensures (findAuthorizedSeatMap scope) db Q := by
  unfold findAuthorizedSeatMap
  refine Program.ensures_bind.mpr (Program.ensures_read.mpr ?_)
  refine Program.ensures_orThrow.mpr fun access haccess => h access ?_
  split at haccess
  · exact haccess
  · cases haccess

theorem ensures_findAuthorizedSection {scope : SeatMapScope} {sectionId : SectionId}
    {Q : SeatMapAccess → SeatMapDb → Prop}
    (h : ∀ access, db.mapOfSection sectionId = some scope.seatMapId → Q access db) :
    Program.Ensures (findAuthorizedSection scope sectionId) db Q := by
  unfold findAuthorizedSection
  refine Program.ensures_bind.mpr (ensures_findAuthorizedSeatMap fun access _ => ?_)
  refine Program.ensures_bind.mpr (Entity.ensures_find.mpr ?_)
  refine Program.ensures_bind.mpr (Program.ensures_require.mpr fun hfound => ?_)
  obtain ⟨section_, hsection, hmap⟩ := hfound
  refine Program.ensures_pure.mpr (h access ?_)
  rw [SeatMapDb.mapOfSection, show db.sections.lookup sectionId = some section_ from hsection,
    Option.map_some, hmap]

theorem ensures_findAuthorizedRow {scope : SeatMapScope} {sectionId : SectionId} {rowId : RowId}
    {Q : SeatMapAccess → SeatMapDb → Prop}
    (h : ∀ access row, db.mapOfSection sectionId = some scope.seatMapId →
      db.rows.lookup rowId = some row → row.sectionId = sectionId → Q access db) :
    Program.Ensures (findAuthorizedRow scope sectionId rowId) db Q := by
  unfold findAuthorizedRow
  refine Program.ensures_bind.mpr (ensures_findAuthorizedSection fun access hmap => ?_)
  refine Program.ensures_bind.mpr (Entity.ensures_find.mpr ?_)
  refine Program.ensures_bind.mpr (Program.ensures_require.mpr fun hfound => ?_)
  obtain ⟨row, hrow, hsection⟩ := hfound
  exact Program.ensures_pure.mpr (h access row hmap hrow hsection)

theorem ensures_findAuthorizedSeat {scope : SeatMapScope} {sectionId : SectionId} {rowId : RowId}
    {seatId : SeatId} {Q : SeatMapAccess → SeatMapDb → Prop}
    (h : ∀ access row seat, db.rows.lookup rowId = some row → row.sectionId = sectionId →
      db.seats.lookup seatId = some seat → seat.rowId = rowId → Q access db) :
    Program.Ensures (findAuthorizedSeat scope sectionId rowId seatId) db Q := by
  unfold findAuthorizedSeat
  refine Program.ensures_bind.mpr (ensures_findAuthorizedRow fun access row _ hrow hsection => ?_)
  refine Program.ensures_bind.mpr (Entity.ensures_find.mpr ?_)
  refine Program.ensures_bind.mpr (Program.ensures_require.mpr fun hfound => ?_)
  obtain ⟨seat, hseat, hparent⟩ := hfound
  exact Program.ensures_pure.mpr (h access row seat hrow hsection hseat hparent)

theorem ensures_assertEditableMap {access : SeatMapAccess} {Q : Unit → SeatMapDb → Prop}
    (h : Q () db) : Program.Ensures (assertEditableMap access) db Q := by
  unfold assertEditableMap
  refine Program.ensures_bind.mpr (Program.ensures_require.mpr fun _ => ?_)
  exact Program.ensures_require.mpr fun _ => h

theorem ensures_assertMapStillEditable {seatMapId : SeatMapId} {Q : Unit → SeatMapDb → Prop}
    (h : Q () db) : Program.Ensures (assertMapStillEditable seatMapId) db Q := by
  unfold assertMapStillEditable
  refine Program.ensures_bind.mpr (Program.ensures_read.mpr ?_)
  refine Program.ensures_bind.mpr (Program.ensures_orThrow.mpr fun access _ => ?_)
  exact ensures_assertEditableMap h

theorem ensures_parsed {result : Except (List SchemaIssue) α} {Q : α → SeatMapDb → Prop}
    (h : ∀ input, result = .ok input → Q input db) : Program.Ensures (parsed result) db Q := by
  cases result with
  | ok input => exact Program.ensures_pure.mpr (h input rfl)
  | error issues => exact Program.ensures_abort.mpr trivial

theorem ensures_thrown {result : Except String α} {Q : α → SeatMapDb → Prop}
    (h : ∀ a, result = .ok a → Q a db) : Program.Ensures (thrown result) db Q := by
  cases result with
  | ok a => exact Program.ensures_pure.mpr (h a rfl)
  | error message => exact Program.ensures_abort.mpr trivial

end Access

/-! ## §2 The next place -/

/-- A new row comes after all others. -/
theorem lt_nextDisplayOrder {orders : List Int} {order : Int} (h : order ∈ orders) :
    order < nextDisplayOrder orders := by
  unfold nextDisplayOrder
  have hsorted := List.pairwise_insertionSort (· ≥ · : Int → Int → Prop) orders
  have hmem : order ∈ orders.insertionSort (· ≥ ·) := (List.mem_insertionSort _).mpr h
  cases hlist : orders.insertionSort (· ≥ ·) with
  | nil =>
    rw [hlist] at hmem
    cases hmem
  | cons first rest =>
    rw [hlist] at hmem hsorted
    have hfirst : order ≤ first := by
      rcases List.mem_cons.mp hmem with rfl | hrest
      · exact Int.le_refl _
      · exact (List.pairwise_cons.mp hsorted).1 order hrest
    rw [List.head?_cons, Option.getD_some]
    omega

theorem lt_nextRowOrder {rows : List (RowId × SeatRow)} {e : RowId × SeatRow} (h : e ∈ rows) :
    e.2.displayOrder < nextRowOrder rows := by
  unfold nextRowOrder
  have hsorted := List.pairwise_insertionSort (· ≤ · : Int → Int → Prop)
    (rows.map (·.2.displayOrder))
  have hmem : e.2.displayOrder ∈ (rows.map (·.2.displayOrder)).insertionSort (· ≤ ·) :=
    (List.mem_insertionSort _).mpr (List.mem_map_of_mem h)
  rcases List.eq_nil_or_concat ((rows.map (·.2.displayOrder)).insertionSort (· ≤ ·)) with
    hlist | ⟨rest, last, hlist⟩
  · rw [hlist] at hmem
    cases hmem
  · rw [hlist] at hmem hsorted ⊢
    have hlast : e.2.displayOrder ≤ last := by
      rw [List.concat_eq_append, List.mem_append, List.mem_singleton] at hmem
      rcases hmem with hrest | heq
      · rw [List.concat_eq_append, List.pairwise_append] at hsorted
        exact hsorted.2.2 _ hrest last (List.mem_singleton_self last)
      · exact heq.le
    rw [List.concat_eq_append, List.getLast?_append, List.getLast?_singleton, Option.some_or,
      Option.getD_some]
    omega

/-! ## §3 Creations, updates and deletions -/

section Single

variable [Casing] {db : SeatMapDb}

theorem ensures_createSectionInTransaction (h : db.Tidy) {seatMapId : SeatMapId}
    {input : SectionInput} (hupper : toUpperCase input.code = input.code) (fresh : SectionId) :
    Program.Ensures (createSectionInTransaction seatMapId input fresh) db fun _ db' =>
      db'.Tidy := by
  unfold createSectionInTransaction
  refine Program.ensures_bind.mpr (ensures_assertMapStillEditable ?_)
  refine Program.ensures_bind.mpr (Entity.ensures_findMany.mpr ?_)
  refine Program.ensures_bind.mpr (Program.ensures_require.mpr fun hroom => ?_)
  refine Entity.ensures_insert.mpr fun habsent hvalid => ?_
  obtain ⟨hdraft, hlabel⟩ := SeatSection.of_validate hvalid
  obtain ⟨m, ⟨⟩, row, hrow, -⟩ := SeatMapDb.exists_of_isDraft hdraft
  refine h.insertSection habsent ⟨row, hrow⟩ hupper hlabel (fun k s hs _ hparent hplace => ?_) ?_
  · have hmem : s.displayOrder ∈ ((db.sections.select fun _ s => s.seatMapId == seatMapId).map
        (·.2.displayOrder)) :=
      List.mem_map_of_mem (f := fun e : SectionId × SeatSection => e.2.displayOrder)
        (Table.mem_select.mpr ⟨hs, beq_iff_eq.mpr hparent⟩)
    exact (lt_nextDisplayOrder hmem).ne hplace
  · exact (Table.length_select _ _).symm.trans_lt hroom

theorem ensures_createRowInTransaction (h : db.Tidy) {seatMapId : SeatMapId} {sectionId : SectionId}
    {input : RowInput} (hupper : toUpperCase input.label = input.label) (fresh : RowId) :
    Program.Ensures (createRowInTransaction seatMapId sectionId input fresh) db
      fun _ db' => db'.Tidy := by
  unfold createRowInTransaction
  refine Program.ensures_bind.mpr (ensures_assertMapStillEditable ?_)
  refine Program.ensures_bind.mpr (Entity.ensures_findMany.mpr ?_)
  refine Program.ensures_bind.mpr (Program.ensures_require.mpr fun hroom => ?_)
  refine Entity.ensures_insert.mpr fun habsent hvalid => ?_
  obtain ⟨hdraft, hlabel⟩ := SeatRow.of_validate hvalid
  obtain ⟨m, hmap, -⟩ := SeatMapDb.exists_of_isDraft hdraft
  obtain ⟨section_, hsection, -⟩ := Option.map_eq_some_iff.mp hmap
  refine h.insertRow habsent ⟨section_, hsection⟩ hupper hlabel
    (fun k r hr _ hparent hplace => ?_) ?_
  · have hmem : r.displayOrder ∈ ((db.rows.select fun _ r => r.sectionId == sectionId).map
        (·.2.displayOrder)) :=
      List.mem_map_of_mem (f := fun e : RowId × SeatRow => e.2.displayOrder)
        (Table.mem_select.mpr ⟨hr, beq_iff_eq.mpr hparent⟩)
    exact (lt_nextDisplayOrder hmem).ne hplace
  · exact (Table.length_select _ _).symm.trans_lt hroom

omit [Casing] in
/-- A seat within the limits of the schema lies on the canvas. -/
theorem isOutside_eq_false {seat : PublicationSeat}
    (h : (SEAT_MAP_LIMITS.minimumCoordinate ≤ seat.x ∧ seat.x ≤ SEAT_MAP_LIMITS.maximumCoordinate) ∧
      SEAT_MAP_LIMITS.minimumCoordinate ≤ seat.y ∧ seat.y ≤ SEAT_MAP_LIMITS.maximumCoordinate) :
    seat.isOutside = false := by
  obtain ⟨⟨hx₀, hx⟩, hy₀, hy⟩ := h
  simp only [PublicationSeat.isOutside, Bool.or_eq_false_iff, decide_eq_false_iff_not, not_lt]
  exact ⟨⟨⟨hx₀, hx⟩, hy₀⟩, hy⟩

theorem ensures_createSeatInTransaction (h : db.Tidy) {seatMapId : SeatMapId}
    {sectionId : SectionId}
    {rowId : RowId} {row : SeatRow} {raw input : SeatInput}
    (hinput : seatInputSchema raw = .ok input)
    (hmap : db.mapOfSection sectionId = some seatMapId) (hrow : db.rows.lookup rowId = some row)
    (hsection : row.sectionId = sectionId) (fresh : SeatId) :
    Program.Ensures (createSeatInTransaction seatMapId sectionId rowId input fresh) db
      fun _ db' => db'.Tidy := by
  obtain ⟨hupper, hcanvas⟩ := seatInputSchema_spec hinput
  unfold createSeatInTransaction
  refine Program.ensures_bind.mpr (ensures_assertMapStillEditable ?_)
  refine Program.ensures_bind.mpr (Entity.ensures_findMany.mpr ?_)
  refine Program.ensures_bind.mpr (Program.ensures_read.mpr ?_)
  refine Program.ensures_bind.mpr (Program.ensures_read.mpr ?_)
  refine Program.ensures_bind.mpr (Program.ensures_require.mpr fun hroom => ?_)
  refine Program.ensures_bind.mpr (Program.ensures_require.mpr fun hlimit => ?_)
  refine Program.ensures_bind.mpr (Program.ensures_require.mpr fun hfree => ?_)
  refine Entity.ensures_insert.mpr fun habsent hvalid => ?_
  obtain ⟨-, hlabel⟩ := Seat.of_validate hvalid
  refine h.insertSeat habsent ⟨row, hrow⟩ hupper (isOutside_eq_false hcanvas) ?_ hlabel
    (fun k s hs _ hparent hplace => ?_) ?_ ?_
  · intro k s hs _ hsame hx hy
    have hat := Table.select_eq_nil.mp (List.length_eq_zero_iff.mp hfree) k s hs
    have hnew : db.sectionOf s = some sectionId := by
      rw [hsame, SeatMapDb.sectionOf, hrow, Option.map_some, hsection]
    simp [show s.x = input.x from hx, show s.y = input.y from hy, hnew] at hat
  · have hmem : s.displayOrder ∈ ((db.seats.select fun _ s => s.rowId == rowId).map
        (·.2.displayOrder)) :=
      List.mem_map_of_mem (f := fun e : SeatId × Seat => e.2.displayOrder)
        (Table.mem_select.mpr ⟨hs, beq_iff_eq.mpr hparent⟩)
    exact (lt_nextDisplayOrder hmem).ne hplace
  · exact (Table.length_select _ _).symm.trans_lt hroom
  · intro m hm
    have hsame : db.mapOfRow rowId = some seatMapId := by
      rw [SeatMapDb.mapOfRow, hrow, Option.bind_some, hsection, hmap]
    cases hsame.symm.trans hm
    exact hlimit

theorem ensures_updateSeatInTransaction (h : db.Tidy) {seatMapId : SeatMapId}
    {sectionId : SectionId} {seatId : SeatId} {seat : Seat} {raw input : SeatInput}
    (hinput : seatInputSchema raw = .ok input) (hseat : db.seats.lookup seatId = some seat)
    (hsection : db.sectionOf seat = some sectionId) :
    Program.Ensures (updateSeatInTransaction seatMapId sectionId seatId input) db
      fun _ db' => db'.Tidy := by
  obtain ⟨hupper, hcanvas⟩ := seatInputSchema_spec hinput
  unfold updateSeatInTransaction
  refine Program.ensures_bind.mpr (ensures_assertMapStillEditable ?_)
  refine Program.ensures_bind.mpr (Program.ensures_read.mpr ?_)
  refine Program.ensures_bind.mpr (Program.ensures_require.mpr fun hfree => ?_)
  refine Program.ensures_bind.mpr (Entity.ensures_update.mpr fun seat₀ hseat₀ hvalid => ?_)
  cases hseat.symm.trans hseat₀
  obtain ⟨-, hlabel⟩ := Seat.of_validate hvalid
  refine Program.ensures_pure.mpr ?_
  refine h.updateSeat hseat rfl rfl hupper (isOutside_eq_false hcanvas) ?_ hlabel
  intro k s hs hne hsame hx hy
  have hother := List.eq_nil_iff_forall_not_mem.mp (List.length_eq_zero_iff.mp hfree) (k, s)
  refine hother (List.mem_filter.mpr ⟨Table.mem_select.mpr ⟨hs, ?_⟩, bne_iff_ne.mpr hne⟩)
  have hnew : db.sectionOf s = some sectionId := hsame.trans hsection
  simp [show s.x = input.x from hx, show s.y = input.y from hy, hnew]

theorem ensures_updateSection (h : db.Tidy) (scope : SeatMapScope) (sectionId : SectionId)
    (rawInput : SectionInput) :
    Program.Ensures (updateSection scope sectionId rawInput) db fun _ db' => db'.Tidy := by
  unfold updateSection
  refine Program.ensures_bind.mpr (ensures_findAuthorizedSection fun access _ => ?_)
  refine Program.ensures_bind.mpr (ensures_assertEditableMap ?_)
  refine Program.ensures_bind.mpr (ensures_parsed fun input hinput => ?_)
  refine Program.ensures_bind.mpr (Entity.ensures_update.mpr fun s₀ hs₀ hvalid => ?_)
  obtain ⟨-, hlabel⟩ := SeatSection.of_validate hvalid
  refine Program.ensures_pure.mpr (h.updateSections (fun id => ?_) (fun id s hs => ?_) ?_)
  · rw [Table.lookup_insert_ite]
    split
    · rename_i hid
      rw [hid, show db.sections.lookup sectionId = some s₀ from hs₀]
      rfl
    · rfl
  · rcases Table.wrote_insert.cases hs with ⟨rfl, rfl⟩ | ⟨-, hs⟩
    · exact upper_sectionInputSchema hinput
    · exact h.stored.codes id s hs
  · exact h.sections.update hs₀ rfl hlabel (h.sections.unplaced hs₀ rfl rfl)

theorem ensures_updateRow (h : db.Tidy) (scope : SeatMapScope) (sectionId : SectionId)
    (rowId : RowId) (rawInput : RowInput) :
    Program.Ensures (updateRow scope sectionId rowId rawInput) db fun _ db' => db'.Tidy := by
  unfold updateRow
  refine Program.ensures_bind.mpr (ensures_findAuthorizedRow fun access _ _ _ _ => ?_)
  refine Program.ensures_bind.mpr (ensures_assertEditableMap ?_)
  refine Program.ensures_bind.mpr (ensures_parsed fun input hinput => ?_)
  refine Program.ensures_bind.mpr (Entity.ensures_update.mpr fun r₀ hr₀ hvalid => ?_)
  obtain ⟨-, hlabel⟩ := SeatRow.of_validate hvalid
  refine Program.ensures_pure.mpr (h.updateRows (fun id => ?_) (fun id r hr => ?_) ?_)
  · rw [Table.lookup_insert_ite]
    split
    · rename_i hid
      rw [hid, show db.rows.lookup rowId = some r₀ from hr₀]
      rfl
    · rfl
  · rcases Table.wrote_insert.cases hr with ⟨rfl, rfl⟩ | ⟨-, hr⟩
    · exact upper_rowInputSchema hinput
    · exact h.stored.rowLabels id r hr
  · exact h.rows.update hr₀ rfl hlabel (h.rows.unplaced hr₀ rfl rfl)

theorem ensures_deleteSectionRow (h : db.Tidy) (id : SectionId) :
    Program.Ensures (deleteSectionRow id) db fun _ db' => db'.Tidy := by
  intro a db' hrun
  obtain ⟨_, -, -, hbare, hdb'⟩ := commits_deleteSectionRow.mp
    (⟨a, db', hrun, rfl⟩ : Program.Commits _ db fun _ d => d = db')
  rw [← hdb']
  exact h.eraseSection hbare

theorem ensures_deleteRowRow (h : db.Tidy) (id : RowId) :
    Program.Ensures (deleteRowRow id) db fun _ db' => db'.Tidy := by
  intro a db' hrun
  obtain ⟨_, -, -, hseatless, hdb'⟩ := commits_deleteRowRow.mp
    (⟨a, db', hrun, rfl⟩ : Program.Commits _ db fun _ d => d = db')
  rw [← hdb']
  exact h.eraseRow hseatless

theorem ensures_deleteSeatRow (h : db.Tidy) (id : SeatId) :
    Program.Ensures (deleteSeatRow id) db fun _ db' => db'.Tidy := by
  unfold deleteSeatRow
  refine Program.ensures_perform.mpr fun eff heff => ?_
  beta_reduce at heff
  split at heff
  · cases heff
  · obtain ⟨-, heff⟩ := Except.bind_unit_eq_ok.mp heff
    rw [← Except.ok.inj heff]
    exact h.eraseSeat id

end Single

/-! ## §4 Moves -/

theorem withNeighbour_eq_some {ρ : Type} {entries : List (Nat × ρ)} {id : Nat}
    {direction : MoveDirection} {current target : Nat × ρ} (hkeys : (entries.map Prod.fst).Nodup)
    (h : withNeighbour entries id direction = some (current, target)) :
    current ∈ entries ∧ current.1 = id ∧ target ∈ entries ∧ target.1 ≠ id := by
  unfold withNeighbour at h
  obtain ⟨index, hindex, h⟩ := Option.bind_eq_some_iff.mp h
  obtain ⟨current', hcurrent, h⟩ := Option.bind_eq_some_iff.mp h
  -- the neighbour stands at another index
  have hother : current' = current ∧ ∃ other, entries[other]? = some target ∧ other ≠ index := by
    cases direction with
    | up =>
      dsimp only at h
      split at h
      · cases h
      · obtain ⟨target', htarget, h⟩ := Option.bind_eq_some_iff.mp h
        obtain ⟨rfl, rfl⟩ := Prod.mk.inj (Option.some.inj h)
        exact ⟨rfl, index - 1, htarget, by omega⟩
    | down =>
      obtain ⟨target', htarget, h⟩ := Option.bind_eq_some_iff.mp h
      obtain ⟨rfl, rfl⟩ := Prod.mk.inj (Option.some.inj h)
      exact ⟨rfl, index + 1, htarget, by omega⟩
  obtain ⟨rfl, other, hother, hne⟩ := hother
  obtain ⟨hlt, hfound, -⟩ := List.findIdx?_eq_some_iff_getElem.mp hindex
  have hkey : current'.1 = id := by
    obtain ⟨_, hget⟩ := List.getElem?_eq_some_iff.mp hcurrent
    rw [hget] at hfound
    exact beq_iff_eq.mp hfound
  refine ⟨List.mem_of_getElem? hcurrent, hkey, List.mem_of_getElem? hother, fun hsame => hne ?_⟩
  have hlength : other < (entries.map Prod.fst).length := by
    rw [List.length_map]
    exact (List.getElem?_eq_some_iff.mp hother).1
  refine (List.getElem?_inj hlength hkeys).mp ?_
  rw [List.getElem?_map, List.getElem?_map, hother, hcurrent, Option.map_some, Option.map_some,
    hsame, hkey]

section Moves

variable [Casing] {db : SeatMapDb}

theorem ensures_moveSectionInTransaction (h : db.Tidy) (seatMapId : SeatMapId)
    (sectionId : SectionId) (direction : MoveDirection) :
    Program.Ensures (moveSectionInTransaction seatMapId sectionId direction) db
      fun _ db' => db'.Tidy := by
  unfold moveSectionInTransaction
  refine Program.ensures_bind.mpr (Entity.ensures_findMany.mpr ?_)
  split
  · exact Program.ensures_pure.mpr h
  · rename_i current target hneighbour
    obtain ⟨hcurrent, hkey, htarget, hne⟩ := withNeighbour_eq_some
      (((List.perm_insertionSort _ _).map Prod.fst).nodup_iff.mpr (Table.nodup_select_fst _ _))
      hneighbour
    obtain ⟨hlook₁, hmap₁⟩ := Table.mem_select.mp ((List.mem_insertionSort _).mp hcurrent)
    obtain ⟨hlook₂, hmap₂⟩ := Table.mem_select.mp ((List.mem_insertionSort _).mp htarget)
    rw [hkey] at hlook₁
    refine Program.ensures_bind.mpr (Entity.ensures_update.mpr fun s₁ hs₁ _ => ?_)
    cases hlook₁.symm.trans hs₁
    refine Program.ensures_bind.mpr (Entity.ensures_update.mpr fun s₂ hs₂ _ => ?_)
    replace hs₂ : (db.sections.insert sectionId _).lookup target.1 = some s₂ := hs₂
    rw [AList.lookup_insert_ne hne] at hs₂
    cases hlook₂.symm.trans hs₂
    replace hlook₁ : db.sections.lookup sectionId = some current.2 := hlook₁
    replace hlook₂ : db.sections.lookup target.1 = some target.2 := hlook₂
    refine Program.ensures_pure.mpr (h.updateSections (fun id => ?_) (fun id s hs => ?_) ?_)
    · exact Table.map_lookup_exchange hlook₁ hlook₂ (by rfl) (by rfl) id
    · have hold : (some s).map (fun s : SeatSection => s.code) =
          (db.sections.lookup id).map fun s => s.code := by
        rw [← hs]
        exact Table.map_lookup_exchange hlook₁ hlook₂ (by rfl) (by rfl) id
      obtain ⟨s₀, hs₀, hsame⟩ := Option.map_eq_some_iff.mp hold.symm
      rw [← show s₀.code = s.code from hsame]
      exact h.stored.codes id s₀ hs₀
    · exact h.sections.exchange (Ne.symm hne) hlook₁ hlook₂
        ((beq_iff_eq.mp hmap₁).trans (beq_iff_eq.mp hmap₂).symm) rfl rfl rfl rfl rfl rfl

theorem ensures_moveRowInTransaction (h : db.Tidy) (sectionId : SectionId) (rowId : RowId)
    (direction : MoveDirection) :
    Program.Ensures (moveRowInTransaction sectionId rowId direction) db fun _ db' => db'.Tidy := by
  unfold moveRowInTransaction
  refine Program.ensures_bind.mpr (Entity.ensures_findMany.mpr ?_)
  split
  · exact Program.ensures_pure.mpr h
  · rename_i current target hneighbour
    obtain ⟨hcurrent, hkey, htarget, hne⟩ := withNeighbour_eq_some
      (((List.perm_insertionSort _ _).map Prod.fst).nodup_iff.mpr (Table.nodup_select_fst _ _))
      hneighbour
    obtain ⟨hlook₁, hsection₁⟩ := Table.mem_select.mp ((List.mem_insertionSort _).mp hcurrent)
    obtain ⟨hlook₂, hsection₂⟩ := Table.mem_select.mp ((List.mem_insertionSort _).mp htarget)
    rw [hkey] at hlook₁
    refine Program.ensures_bind.mpr (Entity.ensures_update.mpr fun r₁ hr₁ _ => ?_)
    cases hlook₁.symm.trans hr₁
    refine Program.ensures_bind.mpr (Entity.ensures_update.mpr fun r₂ hr₂ _ => ?_)
    replace hr₂ : (db.rows.insert rowId _).lookup target.1 = some r₂ := hr₂
    rw [AList.lookup_insert_ne hne] at hr₂
    cases hlook₂.symm.trans hr₂
    replace hlook₁ : db.rows.lookup rowId = some current.2 := hlook₁
    replace hlook₂ : db.rows.lookup target.1 = some target.2 := hlook₂
    refine Program.ensures_pure.mpr (h.updateRows (fun id => ?_) (fun id r hr => ?_) ?_)
    · exact Table.map_lookup_exchange hlook₁ hlook₂ (by rfl) (by rfl) id
    · have hold : (some r).map (fun r : SeatRow => r.label) =
          (db.rows.lookup id).map fun r => r.label := by
        rw [← hr]
        exact Table.map_lookup_exchange hlook₁ hlook₂ (by rfl) (by rfl) id
      obtain ⟨r₀, hr₀, hsame⟩ := Option.map_eq_some_iff.mp hold.symm
      rw [← show r₀.label = r.label from hsame]
      exact h.stored.rowLabels id r₀ hr₀
    · exact h.rows.exchange (Ne.symm hne) hlook₁ hlook₂
        ((beq_iff_eq.mp hsection₁).trans (beq_iff_eq.mp hsection₂).symm) rfl rfl rfl rfl rfl rfl

end Moves

/-! ## §5 Nested creations -/

/-- A row that may be stored with its seats. -/
structure PublicationRow.Stored [Casing] (row : PublicationRow) : Prop where
  wellFormed : row.WellFormed
  label : toUpperCase row.label = row.label
  seats : ∀ seat ∈ row.seats, toUpperCase seat.label = seat.label

/-- A section that may be stored with its rows. -/
structure PublicationSection.Stored [Casing] (section_ : PublicationSection) : Prop where
  wellFormed : section_.WellFormed
  code : toUpperCase section_.code = section_.code
  rows : ∀ row ∈ section_.rows, row.Stored

/-- The seats fit the row, their section and their map. -/
structure SeatsFit [Casing] (db : SeatMapDb) (rowId : RowId) (seats : List PublicationSeat) :
    Prop where
  stored : ∀ seat ∈ seats, toUpperCase seat.label = seat.label
  canvas : ∀ seat ∈ seats, seat.isOutside = false
  orders : (seats.map (·.displayOrder)).Nodup
  places : ∀ k s, db.seats.lookup k = some s → s.rowId = rowId →
    ∀ seat ∈ seats, s.displayOrder ≠ seat.displayOrder
  apart : (seats.map fun seat => (seat.x, seat.y)).Nodup
  free : ∀ k s, db.seats.lookup k = some s →
    db.sectionOf s = (db.rows.lookup rowId).map (·.sectionId) →
    ∀ seat ∈ seats, (s.x, s.y) ≠ (seat.x, seat.y)
  room : db.seats.childCount seatFiling rowId + seats.length ≤ SEAT_MAP_LIMITS.maximumSeatsPerRow
  limit : ∀ m, db.mapOfRow rowId = some m →
    db.seatCount m + seats.length ≤ SEAT_MAP_LIMITS.maximumSeatsPerMap

/-- What the insertion of seats under a row changes. -/
structure SeatsAdded (db : SeatMapDb) (rowId : RowId) (seats : List PublicationSeat)
    (db' : SeatMapDb) : Prop where
  seatMaps : db'.seatMaps = db.seatMaps
  sections : db'.sections = db.sections
  rows : db'.rows = db.rows
  added : ∀ k s, db'.seats.lookup k = some s → db.seats.lookup k = some s ∨
    s.rowId = rowId ∧ (s.x, s.y) ∈ seats.map fun seat => (seat.x, seat.y)
  count : ∀ m, db'.seatCount m ≤ db.seatCount m + seats.length

/-- The rows fit the section and its map. -/
structure RowsFit [Casing] (db : SeatMapDb) (sectionId : SectionId) (rows : List PublicationRow) :
    Prop where
  stored : ∀ row ∈ rows, row.Stored
  orders : (rows.map (·.displayOrder)).Nodup
  places : ∀ k r, db.rows.lookup k = some r → r.sectionId = sectionId →
    ∀ row ∈ rows, r.displayOrder ≠ row.displayOrder
  apart : (rows.flatMap fun row => row.seats.map fun seat => (seat.x, seat.y)).Nodup
  free : ∀ k s, db.seats.lookup k = some s → db.sectionOf s = some sectionId →
    (s.x, s.y) ∉ rows.flatMap fun row => row.seats.map fun seat => (seat.x, seat.y)
  room : db.rows.childCount rowFiling sectionId + rows.length ≤
    SEAT_MAP_LIMITS.maximumRowsPerSection
  limit : ∀ m, db.mapOfSection sectionId = some m →
    db.seatCount m + (rows.map (·.seats.length)).sum ≤ SEAT_MAP_LIMITS.maximumSeatsPerMap

/-- What the insertion of rows under a section changes. -/
structure RowsAdded (db : SeatMapDb) (rows : List PublicationRow) (db' : SeatMapDb) : Prop where
  seatMaps : db'.seatMaps = db.seatMaps
  sections : db'.sections = db.sections
  count : ∀ m, db'.seatCount m ≤ db.seatCount m + (rows.map (·.seats.length)).sum

/-- The sections fit the map. -/
structure SectionsFit [Casing] (db : SeatMapDb) (seatMapId : SeatMapId)
    (sections : List PublicationSection) : Prop where
  stored : ∀ section_ ∈ sections, section_.Stored
  orders : (sections.map (·.displayOrder)).Nodup
  places : ∀ k s, db.sections.lookup k = some s → s.seatMapId = seatMapId →
    ∀ section_ ∈ sections, s.displayOrder ≠ section_.displayOrder
  room : db.sections.childCount sectionFiling seatMapId + sections.length ≤
    SEAT_MAP_LIMITS.maximumSections
  limit : db.seatCount seatMapId +
    (sections.map fun section_ => (section_.rows.map (·.seats.length)).sum).sum ≤
      SEAT_MAP_LIMITS.maximumSeatsPerMap

/-- A new row, with nothing else changed. -/
structure SeatMapDb.NewRow (db : SeatMapDb) (id : RowId) (new : SeatRow)
    (db' : SeatMapDb) : Prop where
  absent : db.rows.lookup id = none
  stored : db' = { db with rows := db.rows.insert id new }

namespace SeatMapDb.NewRow

variable {db db₁ : SeatMapDb} {id : RowId} {new : SeatRow}

theorem rows_eq (hnew : db.NewRow id new db₁) : db₁.rows = db.rows.insert id new := by
  rw [hnew.stored]

theorem seats_eq (hnew : db.NewRow id new db₁) : db₁.seats = db.seats := by
  rw [hnew.stored]

theorem sections_eq (hnew : db.NewRow id new db₁) : db₁.sections = db.sections := by
  rw [hnew.stored]

theorem lookup (hnew : db.NewRow id new db₁) : db₁.rows.lookup id = some new := by
  rw [hnew.rows_eq]
  exact AList.lookup_insert _

/-- No seat stands in it. -/
theorem empty (hnew : db.NewRow id new db₁) (hplaced : db.Placed) {k : SeatId} {s : Seat}
    (hs : db.seats.lookup k = some s) : s.rowId ≠ id := by
  intro hkey
  obtain ⟨r, hr⟩ := hplaced.seats k s hs
  rw [hkey, hnew.absent] at hr
  cases hr

/-- The seats stand where they did. -/
theorem lookup_rowOf (hnew : db.NewRow id new db₁) (hplaced : db.Placed) {k : SeatId} {s : Seat}
    (hs : db.seats.lookup k = some s) : db₁.rows.lookup s.rowId = db.rows.lookup s.rowId := by
  rw [hnew.rows_eq]
  exact AList.lookup_insert_ne (hnew.empty hplaced hs)

theorem seatCount_eq (hnew : db.NewRow id new db₁) (hplaced : db.Placed) (m : SeatMapId) :
    db₁.seatCount m = db.seatCount m := by
  refine seatCount_congr hnew.seats_eq (fun k s hs => ?_) m
  rw [SeatMapDb.mapOfRow, SeatMapDb.mapOfRow, hnew.lookup_rowOf hplaced hs]
  unfold SeatMapDb.mapOfSection
  rw [hnew.sections_eq]

end SeatMapDb.NewRow

section Nested

variable [Casing] {db : SeatMapDb}

/-- **Seats of a new row.** What fits is inserted and leaves tidy maps. -/
theorem ensures_insertSeats (h : db.Tidy) {rowId : RowId} {seats : List PublicationSeat}
    (hfit : SeatsFit db rowId seats) (fresh : Nat → SeatId) (index : Nat) :
    Program.Ensures (insertSeats rowId fresh index seats) db fun _ db' =>
      db'.Tidy ∧ SeatsAdded db rowId seats db' := by
  induction seats generalizing db index with
  | nil =>
    refine Program.ensures_pure.mpr ⟨h, rfl, rfl, rfl, fun k s hs => .inl hs, fun m => ?_⟩
    exact Nat.le_refl _
  | cons seat seats ih =>
    obtain ⟨horder, horders⟩ := List.nodup_cons.mp hfit.orders
    obtain ⟨hcoordinates, hapart⟩ := List.nodup_cons.mp hfit.apart
    have hroom := hfit.room
    rw [List.length_cons] at hroom
    unfold insertSeats
    refine Program.ensures_bind.mpr (Entity.ensures_insert.mpr fun habsent hvalid => ?_)
    replace habsent : db.seats.lookup (fresh index) = none := habsent
    obtain ⟨hdraft, hlabel⟩ := Seat.of_validate hvalid
    obtain ⟨m, hmap, -⟩ := SeatMapDb.exists_of_isDraft hdraft
    obtain ⟨row, hrow, -⟩ := Option.bind_eq_some_iff.mp hmap
    have htidy := h.insertSeat habsent ⟨row, hrow⟩ (hfit.stored seat List.mem_cons_self)
      (hfit.canvas seat List.mem_cons_self)
      (fun k s hs _ hsection hx hy => hfit.free k s hs hsection seat List.mem_cons_self
        (Prod.ext hx hy))
      hlabel (fun k s hs _ hparent => hfit.places k s hs hparent seat List.mem_cons_self)
      (by show db.seats.childCount seatFiling rowId < _; omega)
      (fun m hm => by
        have hlimit := hfit.limit m hm
        rw [List.length_cons] at hlimit
        omega)
    refine (ih htidy ⟨?_, ?_, horders, ?_, hapart, ?_, ?_, ?_⟩ (index + 1)).mono ?_
    · exact fun s hs => hfit.stored s (List.mem_cons_of_mem _ hs)
    · exact fun s hs => hfit.canvas s (List.mem_cons_of_mem _ hs)
    · intro k s hs hparent other hother hsame
      rcases Table.wrote_insert.cases hs with ⟨rfl, rfl⟩ | ⟨-, hs⟩
      · exact horder (List.mem_map.mpr ⟨other, hother, hsame.symm⟩)
      · exact hfit.places k s hs hparent other (List.mem_cons_of_mem _ hother) hsame
    · intro k s hs hsection other hother hsame
      rcases Table.wrote_insert.cases hs with ⟨rfl, rfl⟩ | ⟨-, hs⟩
      · exact hcoordinates (List.mem_map.mpr ⟨other, hother, hsame.symm⟩)
      · exact hfit.free k s hs hsection other (List.mem_cons_of_mem _ hother) hsame
    · exact le_trans (Nat.add_le_add_right (Table.childCount_insert_le habsent) _) (by omega)
    · intro m hm
      have hlimit := hfit.limit m hm
      rw [List.length_cons] at hlimit
      exact le_trans (Nat.add_le_add_right (seatCount_insertSeat_le habsent m) _) (by omega)
    · rintro _ db' ⟨htidy', hadded⟩
      refine ⟨htidy', hadded.seatMaps, hadded.sections, hadded.rows, fun k s hs => ?_, fun m => ?_⟩
      · rcases hadded.added k s hs with hold | ⟨hparent, hmem⟩
        · rcases Table.wrote_insert.cases hold with ⟨rfl, rfl⟩ | ⟨-, hold⟩
          · exact .inr ⟨rfl, List.mem_cons_self⟩
          · exact .inl hold
        · exact .inr ⟨hparent, List.mem_cons_of_mem _ hmem⟩
      · refine (hadded.count m).trans ?_
        refine le_trans (Nat.add_le_add_right (seatCount_insertSeat_le habsent m) _) ?_
        rw [List.length_cons]
        omega

namespace SeatMapDb.NewRow

variable {db₁ db₂ : SeatMapDb} {id : RowId} {new : SeatRow} {row : PublicationRow}
  {rows : List PublicationRow}

/-- The seats of the first row fit the new row. -/
theorem seatsFit (hnew : db.NewRow id new db₁) (hplaced : db.Placed)
    (hfit : RowsFit db new.sectionId (row :: rows)) : SeatsFit db₁ id row.seats := by
  have hstored := hfit.stored row List.mem_cons_self
  have hapart := hfit.apart
  have hfree := hfit.free
  have hlimit := hfit.limit
  rw [List.flatMap_cons] at hapart hfree
  rw [List.map_cons, List.sum_cons] at hlimit
  refine ⟨hstored.seats, hstored.wellFormed.canvas, hstored.wellFormed.orders,
    fun k s hs hkey => ?_, (List.nodup_append.mp hapart).1, fun k s hs hsame seat hseat hxy => ?_,
    ?_, fun m hm => ?_⟩
  · rw [hnew.seats_eq] at hs
    exact absurd hkey (hnew.empty hplaced hs)
  · rw [hnew.seats_eq] at hs
    rw [SeatMapDb.sectionOf, hnew.lookup_rowOf hplaced hs, hnew.lookup, Option.map_some] at hsame
    exact hfree k s hs hsame (List.mem_append_left _ (List.mem_map.mpr ⟨seat, hseat, hxy.symm⟩))
  · have hempty : db₁.seats.childCount seatFiling id = 0 := by
      rw [hnew.seats_eq]
      exact Table.count_eq_zero fun k s hs => beq_eq_false_iff_ne.mpr (hnew.empty hplaced hs)
    rw [hempty, Nat.zero_add]
    exact hstored.wellFormed.limit
  · rw [SeatMapDb.mapOfRow, hnew.lookup, Option.bind_some, SeatMapDb.mapOfSection,
      hnew.sections_eq] at hm
    have hroom := hlimit m hm
    rw [hnew.seatCount_eq hplaced m]
    omega

/-- The other rows still fit when the first row and its seats are in place. -/
theorem rowsFit (hnew : db.NewRow id new db₁) (hplaced : db.Placed)
    (hfit : RowsFit db new.sectionId (row :: rows)) (horder : new.displayOrder = row.displayOrder)
    (hadded : SeatsAdded db₁ id row.seats db₂) : RowsFit db₂ new.sectionId rows := by
  obtain ⟨hfirst, horders⟩ := List.nodup_cons.mp hfit.orders
  have hapart := hfit.apart
  have hfree := hfit.free
  have hroom := hfit.room
  have hlimit := hfit.limit
  rw [List.flatMap_cons] at hapart hfree
  rw [List.length_cons] at hroom
  rw [List.map_cons, List.sum_cons] at hlimit
  refine ⟨fun r hr => hfit.stored r (List.mem_cons_of_mem _ hr), horders,
    fun k r hr hparent other hmem hsame => ?_, (List.nodup_append.mp hapart).2.1,
    fun k s hs hsame hmem => ?_, ?_, fun m hm => ?_⟩
  · rw [hadded.rows, hnew.rows_eq] at hr
    rcases Table.wrote_insert.cases hr with ⟨rfl, rfl⟩ | ⟨-, hr⟩
    · exact hfirst (List.mem_map.mpr ⟨other, hmem, (horder.symm.trans hsame).symm⟩)
    · exact hfit.places k r hr hparent other (List.mem_cons_of_mem _ hmem) hsame
  · rw [SeatMapDb.sectionOf, hadded.rows] at hsame
    rcases hadded.added k s hs with hold | ⟨-, hxy⟩
    · rw [hnew.seats_eq] at hold
      rw [hnew.lookup_rowOf hplaced hold] at hsame
      exact hfree k s hold hsame (List.mem_append_right _ hmem)
    · exact (List.nodup_append.mp hapart).2.2 _ hxy _ hmem rfl
  · rw [hadded.rows, hnew.rows_eq]
    have hmore := Table.childCount_insert_le (F := rowFiling) (p := new.sectionId) (r := new)
      hnew.absent
    omega
  · rw [SeatMapDb.mapOfSection, hadded.sections, hnew.sections_eq] at hm
    have hspace := hlimit m hm
    have hmore := hadded.count m
    rw [hnew.seatCount_eq hplaced m] at hmore
    omega

end SeatMapDb.NewRow

/-- **Rows of a section.** -/
theorem ensures_insertRows (h : db.Tidy) {sectionId : SectionId} {rows : List PublicationRow}
    (hfit : RowsFit db sectionId rows) (fresh : FreshRows) (index : Nat) :
    Program.Ensures (insertRows sectionId fresh index rows) db fun _ db' =>
      db'.Tidy ∧ RowsAdded db rows db' := by
  induction rows generalizing db index with
  | nil => exact Program.ensures_pure.mpr ⟨h, rfl, rfl, fun m => Nat.le_refl _⟩
  | cons row rows ih =>
    have hroom := hfit.room
    rw [List.length_cons] at hroom
    let new : SeatRow :=
      { sectionId := sectionId, label := row.label, displayOrder := row.displayOrder }
    unfold insertRows
    refine Program.ensures_bind.mpr (Entity.ensures_insert.mpr fun habsent hvalid => ?_)
    replace habsent : db.rows.lookup (fresh.rowId index) = none := habsent
    obtain ⟨hdraft, hlabel⟩ := SeatRow.of_validate hvalid
    obtain ⟨m, hmap, -⟩ := SeatMapDb.exists_of_isDraft hdraft
    obtain ⟨section_, hsection, -⟩ := Option.map_eq_some_iff.mp hmap
    have htidy := h.insertRow habsent ⟨section_, hsection⟩
      (hfit.stored row List.mem_cons_self).label hlabel
      (fun k r hr _ hparent => hfit.places k r hr hparent row List.mem_cons_self)
      (by show db.rows.childCount rowFiling sectionId < _; omega)
    obtain ⟨db₁, hdb₁⟩ : ∃ db₁, db₁ = { db with rows := db.rows.insert (fresh.rowId index) new } :=
      ⟨_, rfl⟩
    have hnew : db.NewRow (fresh.rowId index) new db₁ := ⟨habsent, hdb₁⟩
    show Program.Ensures _ { db with rows := db.rows.insert (fresh.rowId index) new } _
    rw [← hdb₁] at htidy ⊢
    refine Program.ensures_bind.mpr
      ((ensures_insertSeats htidy (hnew.seatsFit h.placed hfit) _ 0).mono ?_)
    rintro _ db₂ ⟨htidy₂, hadded⟩
    refine (ih htidy₂ (hnew.rowsFit h.placed hfit rfl hadded) (index + 1)).mono ?_
    rintro _ db' ⟨htidy', hafter⟩
    refine ⟨htidy', hafter.seatMaps.trans (hadded.seatMaps.trans (by rw [hdb₁])),
      hafter.sections.trans (hadded.sections.trans hnew.sections_eq), fun m => ?_⟩
    have hmore := hadded.count m
    have hlast := hafter.count m
    rw [hnew.seatCount_eq h.placed m] at hmore
    rw [List.map_cons, List.sum_cons]
    omega

/-- **Sections of a map.** -/
theorem ensures_insertSections (h : db.Tidy) {seatMapId : SeatMapId}
    {sections : List PublicationSection} (hfit : SectionsFit db seatMapId sections)
    (fresh : FreshSeatMap) (index : Nat) :
    Program.Ensures (insertSections seatMapId fresh index sections) db fun _ db' => db'.Tidy := by
  induction sections generalizing db index with
  | nil => exact Program.ensures_pure.mpr h
  | cons section_ sections ih =>
    obtain ⟨horder, horders⟩ := List.nodup_cons.mp hfit.orders
    have hroom := hfit.room
    have hlimit := hfit.limit
    rw [List.length_cons] at hroom
    rw [List.map_cons, List.sum_cons] at hlimit
    have hstored := hfit.stored section_ List.mem_cons_self
    unfold insertSections
    refine Program.ensures_bind.mpr (Entity.ensures_insert.mpr fun habsent hvalid => ?_)
    replace habsent : db.sections.lookup (fresh.sectionId index) = none := habsent
    obtain ⟨hdraft, hlabel⟩ := SeatSection.of_validate hvalid
    obtain ⟨m, ⟨⟩, row, hrow, -⟩ := SeatMapDb.exists_of_isDraft hdraft
    have htidy := h.insertSection habsent ⟨row, hrow⟩ hstored.code hlabel
      (fun k s hs _ hparent => hfit.places k s hs hparent section_ List.mem_cons_self)
      (by show db.sections.childCount sectionFiling seatMapId < _; omega)
    have hother : ∀ k r, db.rows.lookup k = some r → r.sectionId ≠ fresh.sectionId index := by
      intro k r hr hkey
      obtain ⟨s, hs⟩ := h.placed.rows k r hr
      rw [hkey, habsent] at hs
      cases hs
    generalize hdb₁ : SeatMapDb.mk db.venues db.spaces db.seatMaps
      (db.sections.insert (fresh.sectionId index)
        { seatMapId := seatMapId, name := section_.name, code := section_.code
          displayOrder := section_.displayOrder })
      db.rows db.seats = db₁ at htidy
    have hset : Prisma.seatSection.set ((Prisma.seatSection.get db).insert (fresh.sectionId index)
        { seatMapId := seatMapId, name := section_.name, code := section_.code
          displayOrder := section_.displayOrder }) db = db₁ := hdb₁
    have hrows : db₁.rows = db.rows := by rw [← hdb₁]
    have hseats : db₁.seats = db.seats := by rw [← hdb₁]
    have hcount : ∀ m, db₁.seatCount m = db.seatCount m := by
      refine seatCount_congr hseats fun k s hs => ?_
      obtain ⟨r, hr⟩ := h.placed.seats k s hs
      rw [SeatMapDb.mapOfRow, SeatMapDb.mapOfRow, hrows, hr, Option.bind_some, Option.bind_some,
        SeatMapDb.mapOfSection, SeatMapDb.mapOfSection, ← hdb₁]
      exact congrArg _ (AList.lookup_insert_ne (hother _ r hr))
    have hmap : db₁.mapOfSection (fresh.sectionId index) = some seatMapId := by
      rw [SeatMapDb.mapOfSection, ← hdb₁]
      exact congrArg _ (AList.lookup_insert _)
    have hrowsFit : RowsFit db₁ (fresh.sectionId index) section_.rows := by
      refine ⟨hstored.rows, hstored.wellFormed.orders, fun k r hr hkey => ?_,
        hstored.wellFormed.coordinates, fun k s hs hsame => ?_, ?_, fun m hm => ?_⟩
      · rw [hrows] at hr
        exact absurd hkey (hother k r hr)
      · rw [SeatMapDb.sectionOf, hrows] at hsame
        obtain ⟨r, hr, hkey⟩ := Option.map_eq_some_iff.mp hsame
        exact absurd hkey (hother _ r hr)
      · have hempty : db₁.rows.childCount rowFiling (fresh.sectionId index) = 0 := by
          rw [hrows]
          exact Table.count_eq_zero fun k r hr => beq_eq_false_iff_ne.mpr (hother k r hr)
        rw [hempty, Nat.zero_add]
        exact hstored.wellFormed.limit
      · cases hmap.symm.trans hm
        rw [hcount]
        omega
    rw [hset]
    refine Program.ensures_bind.mpr ((ensures_insertRows htidy hrowsFit _ 0).mono ?_)
    rintro _ db₂ ⟨htidy₂, hadded⟩
    refine ih htidy₂ ⟨fun s hs => hfit.stored s (List.mem_cons_of_mem _ hs), horders,
      fun k s hs hparent other hmem hsame => ?_, ?_, ?_⟩ (index + 1)
    · rw [hadded.sections, ← hdb₁] at hs
      rcases Table.wrote_insert.cases hs with ⟨rfl, rfl⟩ | ⟨-, hs⟩
      · exact horder (List.mem_map.mpr ⟨other, hmem, hsame.symm⟩)
      · exact hfit.places k s hs hparent other (List.mem_cons_of_mem _ hmem) hsame
    · rw [hadded.sections, ← hdb₁]
      exact le_trans (Nat.add_le_add_right (Table.childCount_insert_le habsent) _) (by omega)
    · have hmore := hadded.count seatMapId
      rw [hcount] at hmore
      omega

end Nested

/-! ## §6 Bulk generation and clones -/

section Generation

variable [Casing] {db : SeatMapDb}

omit [Casing] in
/-- Generated rows come below the seats that are there. -/
theorem firstGeneratedY_spec (input : BulkSeatGeneration) (ys : List Int) :
    0 ≤ firstGeneratedY input ys ∧ ∀ y ∈ ys, y < firstGeneratedY input ys := by
  have hmax : ∀ (l : List Int) (start : Int), start ≤ l.foldl max start ∧
      ∀ y ∈ l, y ≤ l.foldl max start := by
    intro l
    induction l with
    | nil => exact fun start => ⟨Int.le_refl _, fun y hy => by cases hy⟩
    | cons z l ih =>
      intro start
      obtain ⟨hstart, hrest⟩ := ih (max start z)
      rw [List.foldl_cons]
      refine ⟨le_trans (le_max_left _ _) hstart, fun y hy => ?_⟩
      rcases List.mem_cons.mp hy with rfl | hy
      · exact le_trans (le_max_right _ _) hstart
      · exact hrest y hy
  have hvertical := input.vertical_pos
  obtain ⟨hstart, hys⟩ := hmax ys (-(input.verticalSpacing : Int))
  unfold firstGeneratedY
  refine ⟨by omega, fun y hy => ?_⟩
  have hle := hys y hy
  omega

omit [Casing] in
/-- The members of a list, told apart by where they stand. -/
theorem nodup_map_zipIdx {α β : Type} (l : List α) {f : α × Nat → β}
    (hf : ∀ e e', f e = f e' → e.2 = e'.2) : (l.zipIdx.map f).Nodup := by
  refine List.pairwise_map.mpr ?_
  refine (List.pairwise_map.mp (List.nodup_zipIdx_map_snd l)).imp fun hne hsame => ?_
  exact hne (hf _ _ hsame)

section Rows

variable {input : BulkSeatGeneration} {labels seatLabels : List String} {nextOrder firstY : Int}

/-- A generated row is well formed and in stored form. -/
theorem stored_of_mem_generatedRows (hlabels : Labels labels input.rowCount)
    (hseatLabels : Labels seatLabels input.seatsPerRow) (hfirst : 0 ≤ firstY)
    (hlast : firstY + ((input.rowCount : Int) - 1) * input.verticalSpacing ≤
      SEAT_MAP_LIMITS.maximumCoordinate) {row : PublicationRow}
    (h : row ∈ generatedRows input labels seatLabels nextOrder firstY) : row.Stored := by
  obtain ⟨entry, hentry, rfl⟩ := List.mem_map.mp h
  have hindex := List.snd_lt_of_mem_zipIdx hentry
  rw [hlabels.length] at hindex
  have hupper : ∀ seat ∈ seatLabels.zipIdx.map fun seat : String × Nat => PublicationSeat.mk seat.1
      seat.2 (seat.2 * input.horizontalSpacing) (firstY + entry.2 * input.verticalSpacing) .STANDARD
      .ACTIVE, toUpperCase seat.label = seat.label := by
    intro seat hseat
    obtain ⟨column, hcolumn, rfl⟩ := List.mem_map.mp hseat
    exact hseatLabels.upper column.1 (List.fst_mem_of_mem_zipIdx hcolumn)
  refine ⟨⟨?_, ?_, ?_, ?_⟩, hlabels.upper entry.1 (List.fst_mem_of_mem_zipIdx hentry), hupper⟩
  · show (seatLabels.zipIdx.map _).length ≤ _
    rw [List.length_map, List.length_zipIdx, hseatLabels.length]
    exact input.seats_le
  · show ((seatLabels.zipIdx.map _).map _).Nodup
    rw [List.map_congr_left hupper, List.map_map]
    show (seatLabels.zipIdx.map Prod.fst).Nodup
    rw [List.zipIdx_map_fst]
    exact hseatLabels.nodup
  · show ((seatLabels.zipIdx.map _).map _).Nodup
    rw [List.map_map]
    exact nodup_map_zipIdx seatLabels fun e e' hsame => Int.ofNat_inj.mp hsame
  · intro seat hseat
    obtain ⟨column, hcolumn, rfl⟩ := List.mem_map.mp hseat
    have hx := List.snd_lt_of_mem_zipIdx hcolumn
    rw [hseatLabels.length] at hx
    have hwidth : (column.2 : Int) * input.horizontalSpacing ≤
        ((input.seatsPerRow : Int) - 1) * input.horizontalSpacing :=
      Int.mul_le_mul_of_nonneg_right (by omega) (by omega)
    have hheight : (entry.2 : Int) * input.verticalSpacing ≤
        ((input.rowCount : Int) - 1) * input.verticalSpacing :=
      Int.mul_le_mul_of_nonneg_right (by omega) (by omega)
    have hheight₀ : 0 ≤ (entry.2 : Int) * input.verticalSpacing :=
      Int.mul_nonneg (by omega) (by omega)
    have hlow : 0 ≤ firstY + entry.2 * input.verticalSpacing := by omega
    have hhigh : firstY + entry.2 * input.verticalSpacing ≤ SEAT_MAP_LIMITS.maximumCoordinate := by
      omega
    exact isOutside_eq_false
      ⟨⟨Int.mul_nonneg (by omega) (by omega), hwidth.trans input.width_le⟩, hlow, hhigh⟩

omit [Casing] in
/-- The generated seats stand on a grid. -/
theorem nodup_generatedCoordinates :
    ((generatedRows input labels seatLabels nextOrder firstY).flatMap fun row =>
      row.seats.map fun seat => (seat.x, seat.y)).Nodup := by
  have hhorizontal : (input.horizontalSpacing : Int) ≠ 0 := by
    have hpos := input.horizontal_pos
    omega
  have hvertical : (input.verticalSpacing : Int) ≠ 0 := by
    have hpos := input.vertical_pos
    omega
  unfold generatedRows
  rw [List.flatMap_map, List.nodup_flatMap]
  refine ⟨fun row _ => ?_, ?_⟩
  · rw [List.map_map]
    refine nodup_map_zipIdx seatLabels fun e e' hsame => ?_
    have hx := Int.eq_of_mul_eq_mul_right hhorizontal (congrArg Prod.fst hsame)
    exact Int.ofNat_inj.mp hx
  · refine (List.pairwise_map.mp (List.nodup_zipIdx_map_snd labels)).imp fun {e e'} hne => ?_
    intro xy hxy hxy'
    obtain ⟨seat, hseat, rfl⟩ := List.mem_map.mp hxy
    obtain ⟨seat', hseat', hsame⟩ := List.mem_map.mp hxy'
    obtain ⟨column, -, rfl⟩ := List.mem_map.mp hseat
    obtain ⟨column', -, rfl⟩ := List.mem_map.mp hseat'
    have hy : (e'.2 : Int) * input.verticalSpacing = e.2 * input.verticalSpacing :=
      Int.add_left_cancel (congrArg Prod.snd hsame)
    exact hne (Int.ofNat_inj.mp (Int.eq_of_mul_eq_mul_right hvertical hy)).symm

theorem length_generatedSeats (hlabels : Labels labels input.rowCount)
    (hseatLabels : Labels seatLabels input.seatsPerRow) :
    ((generatedRows input labels seatLabels nextOrder firstY).map (·.seats.length)).sum =
      input.rowCount * input.seatsPerRow := by
  have hconst : (generatedRows input labels seatLabels nextOrder firstY).map (·.seats.length) =
      List.replicate input.rowCount input.seatsPerRow := by
    refine List.eq_replicate_iff.mpr ⟨?_, fun n hn => ?_⟩
    · unfold generatedRows
      rw [List.length_map, List.length_map, List.length_zipIdx, hlabels.length]
    · obtain ⟨row, hrow, rfl⟩ := List.mem_map.mp hn
      obtain ⟨entry, -, rfl⟩ := List.mem_map.mp hrow
      show (seatLabels.zipIdx.map _).length = _
      rw [List.length_map, List.length_zipIdx, hseatLabels.length]
  rw [hconst, List.sum_replicate_nat]

end Rows

theorem ensures_bulkGenerateRowsInTransaction (h : db.Tidy) {seatMapId : SeatMapId}
    {sectionId : SectionId} {input : BulkSeatGeneration} {labels seatLabels : List String}
    (hlabels : Labels labels input.rowCount) (hseatLabels : Labels seatLabels input.seatsPerRow)
    (hmap : db.mapOfSection sectionId = some seatMapId) (fresh : FreshRows) :
    Program.Ensures
      (bulkGenerateRowsInTransaction seatMapId sectionId input labels seatLabels fresh) db
      fun _ db' => db'.Tidy := by
  unfold bulkGenerateRowsInTransaction
  refine Program.ensures_bind.mpr (ensures_assertMapStillEditable ?_)
  refine Program.ensures_bind.mpr (Entity.ensures_findMany.mpr ?_)
  have hlength : ((Prisma.seatRow.get db).select fun _ r => r.sectionId == sectionId).length =
      db.rows.childCount rowFiling sectionId := Table.length_select _ _
  have hmem : ∀ k r, db.rows.lookup k = some r → r.sectionId = sectionId →
      (k, r) ∈ (Prisma.seatRow.get db).select fun _ r => r.sectionId == sectionId :=
    fun k r hr hkey => Table.mem_select.mpr ⟨hr, beq_iff_eq.mpr hkey⟩
  generalize ((Prisma.seatRow.get db).select fun _ r => r.sectionId == sectionId) = rows
    at hlength hmem ⊢
  refine Program.ensures_bind.mpr (Program.ensures_read.mpr ?_)
  have hys : ∀ k s, db.seats.lookup k = some s → db.sectionOf s = some sectionId →
      s.y ∈ (db.seatsOf (rows.map (·.1))).map (·.2.y) := by
    intro k s hs hsection
    obtain ⟨r, hr, hkey⟩ := Option.map_eq_some_iff.mp hsection
    have hrow : s.rowId ∈ rows.map (·.1) := List.mem_map.mpr ⟨(s.rowId, r), hmem _ r hr hkey, rfl⟩
    have hseat : (k, s) ∈ db.seatsOf (rows.map (·.1)) :=
      Table.mem_select.mpr ⟨hs, List.contains_iff_mem.mpr hrow⟩
    exact List.mem_map.mpr ⟨(k, s), hseat, rfl⟩
  generalize (db.seatsOf (rows.map (·.1))).map (·.2.y) = ys at hys ⊢
  obtain ⟨hfirst, hbelow⟩ := firstGeneratedY_spec input ys
  refine Program.ensures_bind.mpr (Program.ensures_read.mpr ?_)
  dsimp only
  split
  · exact Program.ensures_abort.mpr trivial
  · refine Program.ensures_bind.mpr (Program.ensures_require.mpr fun hroom => ?_)
    refine Program.ensures_bind.mpr (Program.ensures_require.mpr fun hlimit => ?_)
    refine Program.ensures_bind.mpr (Program.ensures_require.mpr fun hheight => ?_)
    refine (ensures_insertRows h ⟨fun row hrow => ?_, ?_, fun k r hr hparent row hrow hsame => ?_,
      nodup_generatedCoordinates, fun k s hs hsection hxy => ?_, ?_, fun m hm => ?_⟩ fresh 0).mono
      fun _ _ hpost => hpost.1
    · exact stored_of_mem_generatedRows hlabels hseatLabels hfirst hheight hrow
    · unfold generatedRows
      rw [List.map_map]
      exact nodup_map_zipIdx labels fun e e' hsame => Int.ofNat_inj.mp (Int.add_left_cancel hsame)
    · obtain ⟨entry, -, rfl⟩ := List.mem_map.mp hrow
      have hlt : r.displayOrder < nextRowOrder rows := lt_nextRowOrder (hmem k r hr hparent)
      have hplace : r.displayOrder = nextRowOrder rows + (entry.2 : Int) := hsame
      omega
    · obtain ⟨row, hrow, hxy⟩ := List.mem_flatMap.mp hxy
      obtain ⟨seat, hseat, hsame⟩ := List.mem_map.mp hxy
      obtain ⟨entry, -, rfl⟩ := List.mem_map.mp hrow
      obtain ⟨column, -, rfl⟩ := List.mem_map.mp hseat
      have hlt := hbelow s.y (hys k s hs hsection)
      have hy : firstGeneratedY input ys + (entry.2 : Int) * input.verticalSpacing = s.y :=
        congrArg Prod.snd hsame
      have hnonneg : 0 ≤ (entry.2 : Int) * input.verticalSpacing :=
        Int.mul_nonneg (by omega) (by omega)
      omega
    · unfold generatedRows
      rw [List.length_map, List.length_zipIdx, hlabels.length, ← hlength]
      exact hroom
    · cases hmap.symm.trans hm
      rw [length_generatedSeats hlabels hseatLabels]
      exact hlimit

/-- The graph of a tidy map may be stored again. -/
theorem SeatMapDb.Tidy.storedGraph (h : db.Tidy) (id : SeatMapId) :
    ∀ section_ ∈ (db.graph id).sections, section_.Stored := by
  intro section_ hsection
  obtain ⟨e, he, rfl⟩ := List.mem_map.mp hsection
  refine ⟨h.section_ e, h.stored.codes e.1 e.2 (mem_orderedSections.mp he).1, fun row hrow => ?_⟩
  obtain ⟨e', he', rfl⟩ := List.mem_map.mp hrow
  refine ⟨h.row e', h.stored.rowLabels e'.1 e'.2 (mem_orderedRows.mp he').1, fun seat hseat => ?_⟩
  obtain ⟨e'', he'', rfl⟩ := List.mem_map.mp hseat
  exact h.stored.seatLabels e''.1 e''.2 (mem_orderedSeats.mp he'').1

theorem ensures_clonePublishedSeatMap (h : db.Tidy) (scope : SeatMapScope) (fresh : FreshSeatMap) :
    Program.Ensures (clonePublishedSeatMap scope fresh) db fun _ db' => db'.Tidy := by
  unfold clonePublishedSeatMap
  refine Program.ensures_bind.mpr (ensures_findAuthorizedSeatMap fun access _ => ?_)
  refine Program.ensures_bind.mpr (Program.ensures_require.mpr fun _ => ?_)
  refine Program.ensures_bind.mpr (Program.ensures_require.mpr fun _ => ?_)
  refine Program.ensures_bind.mpr (Program.ensures_read.mpr ?_)
  refine Program.ensures_bind.mpr (Program.ensures_orThrow.mpr fun source _ => ?_)
  refine Program.ensures_bind.mpr (Program.ensures_require.mpr fun _ => ?_)
  refine Program.ensures_bind.mpr (Program.ensures_read.mpr ?_)
  refine Program.ensures_bind.mpr (Program.ensures_read.mpr ?_)
  refine Program.ensures_bind.mpr (Entity.ensures_insert.mpr fun habsent _ => ?_)
  replace habsent : db.seatMaps.lookup fresh.seatMapId = none := habsent
  have hsections : ∀ k s, db.sections.lookup k = some s → s.seatMapId ≠ fresh.seatMapId := by
    intro k s hs hkey
    obtain ⟨m, hm⟩ := h.placed.sections k s hs
    rw [hkey, habsent] at hm
    cases hm
  have hwell := h.wellFormed scope.seatMapId
  refine ensures_insertSections (h.insertSeatMap fresh.seatMapId _)
    ⟨h.storedGraph scope.seatMapId, hwell.orders, fun k s hs hkey => absurd hkey (hsections k s hs),
      ?_, ?_⟩ fresh 0
  · refine le_trans
      (Nat.add_le_add_right (Nat.le_of_eq (Table.count_eq_zero fun k s hs => ?_)) _) ?_
    · exact beq_eq_false_iff_ne.mpr (hsections k s hs)
    · rw [Nat.zero_add]
      exact hwell.sectionLimit
  · have hnone : ∀ t, ({ db with seatMaps := t } : SeatMapDb).seatCount fresh.seatMapId = 0 := by
      intro t
      refine List.length_eq_zero_iff.mpr (Table.select_eq_nil.mpr fun k s hs => ?_)
      refine beq_eq_false_iff_ne.mpr fun hmap => ?_
      obtain ⟨r, hr, hmap⟩ := Option.bind_eq_some_iff.mp hmap
      obtain ⟨section_, hsection, hmap⟩ := Option.map_eq_some_iff.mp hmap
      exact hsections _ section_ hsection hmap
    rw [hnone, Nat.zero_add]
    exact hwell.seatLimit

end Generation

/-! ## §7 Runs of the editor -/

inductive EditorAction
  | createDraftSeatMap (authorized : Bool) (spaceId : SpaceId) (input : SeatMapInput)
      (fresh : SeatMapId)
  | publishSeatMap (scope : SeatMapScope) (now : Time)
  | clonePublishedSeatMap (scope : SeatMapScope) (fresh : FreshSeatMap)
  | createSection (scope : SeatMapScope) (input : SectionInput) (fresh : SectionId)
  | updateSection (scope : SeatMapScope) (sectionId : SectionId) (input : SectionInput)
  | deleteSection (scope : SeatMapScope) (sectionId : SectionId)
  | createRow (scope : SeatMapScope) (sectionId : SectionId) (input : RowInput) (fresh : RowId)
  | updateRow (scope : SeatMapScope) (sectionId : SectionId) (rowId : RowId) (input : RowInput)
  | deleteRow (scope : SeatMapScope) (sectionId : SectionId) (rowId : RowId)
  | createSeat (scope : SeatMapScope) (sectionId : SectionId) (rowId : RowId) (input : SeatInput)
      (fresh : SeatId)
  | updateSeat (scope : SeatMapScope) (sectionId : SectionId) (rowId : RowId) (seatId : SeatId)
      (input : SeatInput)
  | deleteSeat (scope : SeatMapScope) (sectionId : SectionId) (rowId : RowId) (seatId : SeatId)
  | bulkGenerateRows (scope : SeatMapScope) (sectionId : SectionId)
      (input : BulkSeatGenerationInput) (fresh : FreshRows)
  | moveSection (scope : SeatMapScope) (sectionId : SectionId) (direction : MoveDirection)
  | moveRow (scope : SeatMapScope) (sectionId : SectionId) (rowId : RowId)
      (direction : MoveDirection)

section Runs

variable [Casing] {db db' : SeatMapDb}

/-- One operation after another; a rejected one changes nothing. -/
def editorStep (db : SeatMapDb) : EditorAction → Option SeatMapDb
  | .createDraftSeatMap authorized spaceId input fresh =>
      some ((SeatFlow.createDraftSeatMap authorized spaceId input fresh).commit db)
  | .publishSeatMap scope now => some ((SeatFlow.publishSeatMap scope now).commit db)
  | .clonePublishedSeatMap scope fresh =>
      some ((SeatFlow.clonePublishedSeatMap scope fresh).commit db)
  | .createSection scope input fresh => some ((SeatFlow.createSection scope input fresh).commit db)
  | .updateSection scope sectionId input =>
      some ((SeatFlow.updateSection scope sectionId input).commit db)
  | .deleteSection scope sectionId => some ((SeatFlow.deleteSection scope sectionId).commit db)
  | .createRow scope sectionId input fresh =>
      some ((SeatFlow.createRow scope sectionId input fresh).commit db)
  | .updateRow scope sectionId rowId input =>
      some ((SeatFlow.updateRow scope sectionId rowId input).commit db)
  | .deleteRow scope sectionId rowId => some ((SeatFlow.deleteRow scope sectionId rowId).commit db)
  | .createSeat scope sectionId rowId input fresh =>
      some ((SeatFlow.createSeat scope sectionId rowId input fresh).commit db)
  | .updateSeat scope sectionId rowId seatId input =>
      some ((SeatFlow.updateSeat scope sectionId rowId seatId input).commit db)
  | .deleteSeat scope sectionId rowId seatId =>
      some ((SeatFlow.deleteSeat scope sectionId rowId seatId).commit db)
  | .bulkGenerateRows scope sectionId input fresh =>
      some ((SeatFlow.bulkGenerateRows scope sectionId input fresh).commit db)
  | .moveSection scope sectionId direction =>
      some ((SeatFlow.moveSection scope sectionId direction).commit db)
  | .moveRow scope sectionId rowId direction =>
      some ((SeatFlow.moveRow scope sectionId rowId direction).commit db)

theorem ensures_createDraftSeatMap (h : db.Tidy) (authorized : Bool) (spaceId : SpaceId)
    (input : SeatMapInput) (fresh : SeatMapId) :
    Program.Ensures (createDraftSeatMap authorized spaceId input fresh) db
      fun _ db' => db'.Tidy := by
  unfold createDraftSeatMap
  refine Program.ensures_bind.mpr (Program.ensures_read.mpr ?_)
  refine Program.ensures_bind.mpr (Program.ensures_orThrow.mpr fun space _ => ?_)
  refine Program.ensures_bind.mpr (Program.ensures_read.mpr ?_)
  refine Program.ensures_bind.mpr (Program.ensures_orThrow.mpr fun venue _ => ?_)
  refine Program.ensures_bind.mpr (Program.ensures_require.mpr fun _ => ?_)
  refine Program.ensures_bind.mpr (ensures_parsed fun input _ => ?_)
  refine Program.ensures_bind.mpr (Program.ensures_read.mpr ?_)
  exact Entity.ensures_insert.mpr fun _ _ => h.insertSeatMap fresh _

theorem ensures_publishSeatMap (h : db.Tidy) (scope : SeatMapScope) (now : Time) :
    Program.Ensures (publishSeatMap scope now) db fun _ db' => db'.Tidy := by
  unfold publishSeatMap
  refine Program.ensures_bind.mpr (ensures_findAuthorizedSeatMap fun access _ => ?_)
  refine Program.ensures_ite.mpr ⟨fun _ => Program.ensures_read.mpr h, fun _ => ?_⟩
  refine Program.ensures_bind.mpr (Program.ensures_require.mpr fun _ => ?_)
  refine Program.ensures_bind.mpr (Program.ensures_require.mpr fun _ => ?_)
  unfold publishSeatMapInTransaction
  refine Program.ensures_bind.mpr (Program.ensures_read.mpr ?_)
  refine Program.ensures_bind.mpr (Program.ensures_orThrow.mpr fun draft _ => ?_)
  refine Program.ensures_bind.mpr (Program.ensures_read.mpr ?_)
  refine Program.ensures_ite.mpr ⟨fun _ => Program.ensures_pure.mpr h, fun _ => ?_⟩
  refine Program.ensures_bind.mpr (Program.ensures_require.mpr fun _ => ?_)
  refine Program.ensures_bind.mpr (Program.ensures_require.mpr fun _ => ?_)
  refine Program.ensures_bind.mpr (Entity.ensures_updateMany.mpr fun _ => ?_)
  refine Program.ensures_bind.mpr (Entity.ensures_update.mpr fun m _ _ => ?_)
  refine Program.ensures_read.mpr ?_
  refine h.writeSeatMaps fun id row hrow => ?_
  rw [Table.lookup_insert_ite]
  split
  · exact ⟨_, rfl⟩
  · rw [Prisma.seatMap.get_set, Table.lookup_putAll_updates,
      show (Prisma.seatMap.get db).lookup id = some row from hrow]
    exact ⟨_, rfl⟩

theorem ensures_createSection (h : db.Tidy) (scope : SeatMapScope) (rawInput : SectionInput)
    (fresh : SectionId) :
    Program.Ensures (createSection scope rawInput fresh) db fun _ db' => db'.Tidy := by
  refine Program.ensures_bind.mpr (ensures_findAuthorizedSeatMap fun access _ => ?_)
  refine Program.ensures_bind.mpr (ensures_assertEditableMap ?_)
  refine Program.ensures_bind.mpr (ensures_parsed fun input hinput => ?_)
  exact ensures_createSectionInTransaction h (upper_sectionInputSchema hinput) fresh

theorem ensures_createRow (h : db.Tidy) (scope : SeatMapScope) (sectionId : SectionId)
    (rawInput : RowInput) (fresh : RowId) :
    Program.Ensures (createRow scope sectionId rawInput fresh) db fun _ db' => db'.Tidy := by
  refine Program.ensures_bind.mpr (ensures_findAuthorizedSection fun access _ => ?_)
  refine Program.ensures_bind.mpr (ensures_assertEditableMap ?_)
  refine Program.ensures_bind.mpr (ensures_parsed fun input hinput => ?_)
  exact ensures_createRowInTransaction h (upper_rowInputSchema hinput) fresh

theorem ensures_createSeat (h : db.Tidy) (scope : SeatMapScope) (sectionId : SectionId)
    (rowId : RowId) (rawInput : SeatInput) (fresh : SeatId) :
    Program.Ensures (createSeat scope sectionId rowId rawInput fresh) db
      fun _ db' => db'.Tidy := by
  refine Program.ensures_bind.mpr
    (ensures_findAuthorizedRow fun access row hmap hrow hsection => ?_)
  refine Program.ensures_bind.mpr (ensures_assertEditableMap ?_)
  refine Program.ensures_bind.mpr (ensures_parsed fun input hinput => ?_)
  exact ensures_createSeatInTransaction h hinput hmap hrow hsection fresh

theorem ensures_updateSeat (h : db.Tidy) (scope : SeatMapScope) (sectionId : SectionId)
    (rowId : RowId) (seatId : SeatId) (rawInput : SeatInput) :
    Program.Ensures (updateSeat scope sectionId rowId seatId rawInput) db
      fun _ db' => db'.Tidy := by
  refine Program.ensures_bind.mpr
    (ensures_findAuthorizedSeat fun access row seat hrow hsection hseat hparent => ?_)
  refine Program.ensures_bind.mpr (ensures_assertEditableMap ?_)
  refine Program.ensures_bind.mpr (ensures_parsed fun input hinput => ?_)
  refine ensures_updateSeatInTransaction h hinput hseat ?_
  rw [SeatMapDb.sectionOf, hparent, hrow, Option.map_some, hsection]

theorem ensures_bulkGenerateRows (h : db.Tidy) (scope : SeatMapScope) (sectionId : SectionId)
    (rawInput : BulkSeatGenerationInput) (fresh : FreshRows) :
    Program.Ensures (bulkGenerateRows scope sectionId rawInput fresh) db
      fun _ db' => db'.Tidy := by
  refine Program.ensures_bind.mpr (ensures_findAuthorizedSection fun access hmap => ?_)
  refine Program.ensures_bind.mpr (ensures_assertEditableMap ?_)
  refine Program.ensures_bind.mpr (ensures_parsed fun input _ => ?_)
  refine Program.ensures_bind.mpr (ensures_thrown fun labels hlabels => ?_)
  refine Program.ensures_bind.mpr (ensures_thrown fun seatLabels hseatLabels => ?_)
  exact ensures_bulkGenerateRowsInTransaction h (labels_generateRowLabels hlabels)
    (labels_generateSeatLabels hseatLabels) hmap fresh

/-- **Step lemma.** Every operation leaves tidy maps. -/
theorem tidy_of_editorStep (h : db.Tidy) {action : EditorAction}
    (hstep : editorStep db action = some db') : db'.Tidy := by
  cases action with
  | createDraftSeatMap authorized spaceId input fresh =>
    rw [← Option.some.inj hstep]
    exact (ensures_createDraftSeatMap h authorized spaceId input fresh).commit h
  | publishSeatMap scope now =>
    rw [← Option.some.inj hstep]
    exact Program.Ensures.commit (ensures_publishSeatMap h scope now) h
  | clonePublishedSeatMap scope fresh =>
    rw [← Option.some.inj hstep]
    exact (ensures_clonePublishedSeatMap h scope fresh).commit h
  | createSection scope input fresh =>
    rw [← Option.some.inj hstep]
    exact (ensures_createSection h scope input fresh).commit h
  | updateSection scope sectionId input =>
    rw [← Option.some.inj hstep]
    exact (ensures_updateSection h scope sectionId input).commit h
  | deleteSection scope sectionId =>
    rw [← Option.some.inj hstep]
    refine Program.Ensures.commit ?_ h
    refine Program.ensures_bind.mpr (ensures_findAuthorizedSection fun access _ => ?_)
    refine Program.ensures_bind.mpr (ensures_assertEditableMap ?_)
    exact ensures_deleteSectionRow h sectionId
  | createRow scope sectionId input fresh =>
    rw [← Option.some.inj hstep]
    exact (ensures_createRow h scope sectionId input fresh).commit h
  | updateRow scope sectionId rowId input =>
    rw [← Option.some.inj hstep]
    exact (ensures_updateRow h scope sectionId rowId input).commit h
  | deleteRow scope sectionId rowId =>
    rw [← Option.some.inj hstep]
    refine Program.Ensures.commit ?_ h
    refine Program.ensures_bind.mpr (ensures_findAuthorizedRow fun access row _ _ _ => ?_)
    refine Program.ensures_bind.mpr (ensures_assertEditableMap ?_)
    exact ensures_deleteRowRow h rowId
  | createSeat scope sectionId rowId input fresh =>
    rw [← Option.some.inj hstep]
    exact (ensures_createSeat h scope sectionId rowId input fresh).commit h
  | updateSeat scope sectionId rowId seatId input =>
    rw [← Option.some.inj hstep]
    exact (ensures_updateSeat h scope sectionId rowId seatId input).commit h
  | deleteSeat scope sectionId rowId seatId =>
    rw [← Option.some.inj hstep]
    refine Program.Ensures.commit ?_ h
    refine Program.ensures_bind.mpr (ensures_findAuthorizedSeat fun access row seat _ _ _ _ => ?_)
    refine Program.ensures_bind.mpr (ensures_assertEditableMap ?_)
    exact ensures_deleteSeatRow h seatId
  | bulkGenerateRows scope sectionId input fresh =>
    rw [← Option.some.inj hstep]
    exact (ensures_bulkGenerateRows h scope sectionId input fresh).commit h
  | moveSection scope sectionId direction =>
    rw [← Option.some.inj hstep]
    refine Program.Ensures.commit ?_ h
    refine Program.ensures_bind.mpr (ensures_findAuthorizedSection fun access _ => ?_)
    refine Program.ensures_bind.mpr (ensures_assertEditableMap ?_)
    exact ensures_moveSectionInTransaction h scope.seatMapId sectionId direction
  | moveRow scope sectionId rowId direction =>
    rw [← Option.some.inj hstep]
    refine Program.Ensures.commit ?_ h
    refine Program.ensures_bind.mpr (ensures_findAuthorizedRow fun access row _ _ _ => ?_)
    refine Program.ensures_bind.mpr (ensures_assertEditableMap ?_)
    exact ensures_moveRowInTransaction h sectionId rowId direction

/-- The editor starts on maps that are empty or have passed validation. -/
structure SeatMapDb.Start (db : SeatMapDb) : Prop where
  placed : db.Placed
  stored : db.Stored
  maps : ∀ id, db.orderedSections id = [] ∨ validateSeatMapForPublication (db.graph id) = []

theorem SeatMapDb.Start.tidy (h : db.Start) : db.Tidy := by
  refine tidy_of_wellFormed h.placed h.stored fun id => ?_
  rcases h.maps id with hempty | hpassed
  · have hgraph : db.graph id = ⟨[]⟩ := by
      rw [SeatMapDb.graph, hempty, List.map_nil]
    rw [hgraph]
    exact ⟨Nat.zero_le _, Nat.zero_le _, List.nodup_nil, List.nodup_nil, fun _ hs => by cases hs⟩
  · exact wellFormed_of_passed hpassed

/-- **Run lemma.** -/
theorem tidy_of_reaches (h : db.Tidy) (hreach : Reaches editorStep (fun _ _ => True) db db') :
    db'.Tidy :=
  hreach.invariant h fun _ _ _ _ hstep hI => tidy_of_editorStep hI hstep

/-- **Drafts are only ever unfinished.** Whatever is done in the editor, one operation after
another, every issue that validation reports of a map is about a missing section, row or seat or
about companion seats. So the map is well formed: its limits, the canvas, the uniqueness of codes
and labels regardless of case, the display orders and the coordinates of each section are in
order. -/
theorem drafts_unfinished (hstart : db.Start)
    (hreach : Reaches editorStep (fun _ _ => True) db db') (id : SeatMapId) :
    (∀ text ∈ validateSeatMapForPublication (db'.graph id),
      ∃ issue ∈ publicationIssues (db'.graph id), issue.Unfinished ∧ text = issue.message) ∧
    (∀ issue ∈ publicationIssues (db'.graph id), issue.Unfinished) ∧ (db'.graph id).WellFormed := by
  have hwell : (db'.graph id).WellFormed := (tidy_of_reaches hstart.tidy hreach).wellFormed id
  have hissues := publicationIssues_unfinished.mpr hwell
  refine ⟨fun text htext => ?_, hissues, hwell⟩
  obtain ⟨issue, hissue, rfl⟩ := List.mem_map.mp (List.mem_eraseDups.mp htext)
  exact ⟨issue, hissue, hissues issue hissue, rfl⟩

end Runs

/-! ## §8 A run -/

section MainHall

theorem isLower_letter : ∀ i < 26, (Char.ofNat (65 + i)).isLower = false := by decide

/-- The upper case of plain letters. -/
@[reducible]
def asciiCasing : Casing where
  upper c := [if c.isLower then Char.ofNat (c.toNat - 32) else c]
  upper_upper := by
    intro c d hd
    rw [List.mem_singleton.mp hd]
    by_cases hlower : c.isLower = true
    · have hrange : 97 ≤ c.toNat ∧ c.toNat ≤ 122 := by
        unfold Char.isLower at hlower
        simp only [Bool.and_eq_true, decide_eq_true_eq] at hlower
        exact ⟨UInt32.le_iff_toNat_le.mp hlower.1, UInt32.le_iff_toNat_le.mp hlower.2⟩
      have hletter := isLower_letter (c.toNat - 97) (by omega)
      rw [show 65 + (c.toNat - 97) = c.toNat - 32 by omega] at hletter
      rw [if_pos hlower, if_neg (by rw [hletter]; exact Bool.false_ne_true)]
    · rw [if_neg hlower, if_neg hlower]
  upper_plain := by
    intro c hc
    refine congrArg (fun d => [d]) (if_neg fun hlower => ?_)
    unfold Char.isLower at hlower
    simp only [Bool.and_eq_true, decide_eq_true_eq] at hlower
    have hlow : 97 ≤ c.val.toNat := UInt32.le_iff_toNat_le.mp hlower.1
    rcases hc with hdigit | hupper
    · unfold Char.isDigit at hdigit
      simp only [Bool.and_eq_true, decide_eq_true_eq] at hdigit
      have hhigh : c.val.toNat ≤ 57 := UInt32.le_iff_toNat_le.mp hdigit.2
      omega
    · unfold Char.isUpper at hupper
      simp only [decide_eq_true_eq] at hupper
      have hhigh : c.val.toNat ≤ 90 := UInt32.le_iff_toNat_le.mp hupper.2
      omega

attribute [local instance] asciiCasing

/-- A venue with one space and no maps. -/
def mainHall : SeatMapDb :=
  { venues := (∅ : Table VenueId Venue).insert 1 {}
    spaces := (∅ : Table SpaceId Space).insert 1 { venueId := 1 } }

theorem mainHall_start : mainHall.Start where
  placed :=
    { sections := fun _ _ h => absurd h (by simp [mainHall])
      rows := fun _ _ h => absurd h (by simp [mainHall])
      seats := fun _ _ h => absurd h (by simp [mainHall]) }
  stored :=
    { codes := fun _ _ h => absurd h (by simp [mainHall])
      rowLabels := fun _ _ h => absurd h (by simp [mainHall])
      seatLabels := fun _ _ h => absurd h (by simp [mainHall]) }
  maps := fun _ => .inl rfl

/-- A section of three generated rows, one more section that is moved before it, and two
operations that are rejected: a code in use, and a section with rows. -/
def mainHallEdits : List EditorAction :=
  let scope : SeatMapScope := { authorized := true, seatMapId := 1 }
  [ .createDraftSeatMap true 1 { name := "Main hall" } 1,
    .createSection scope { name := "Stalls", code := "a" } 1,
    .bulkGenerateRows scope 1
      { startRowLabel := "y", rowCount := 3, seatsPerRow := 2, startSeatNumber := 9
        horizontalSpacing := 40, verticalSpacing := 50 }
      { rowId := fun i => i, seatId := fun i j => 10 * i + j },
    .createSection scope { name := "Box", code := "A" } 2,
    .createSection scope { name := "Box", code := "b" } 2,
    .moveSection scope 2 .up,
    .deleteSection scope 1 ]

theorem drafts_unfinished_mainHall :
    ∃ db, Reaches editorStep (fun _ _ => True) mainHall db ∧
      validateSeatMapForPublication (db.graph 1) = ["Section B has no rows."] ∧
      (∀ text ∈ validateSeatMapForPublication (db.graph 1),
        ∃ issue ∈ publicationIssues (db.graph 1), issue.Unfinished ∧ text = issue.message) ∧
      (db.graph 1).WellFormed := by
  have hrun : (execute editorStep mainHallEdits mainHall).any (fun db =>
      validateSeatMapForPublication (db.graph 1) = ["Section B has no rows."]) = true := by
    decide +kernel
  obtain ⟨db, hdb, hissues⟩ := (Option.any_eq_true _ _).mp hrun
  have hreach : Reaches editorStep (fun _ _ => True) mainHall db :=
    reaches_of_execute hdb fun _ _ _ => trivial
  obtain ⟨htexts, -, hwell⟩ := drafts_unfinished mainHall_start hreach 1
  exact ⟨db, hreach, of_decide_eq_true hissues, htexts, hwell⟩

end MainHall

end SeatFlow
