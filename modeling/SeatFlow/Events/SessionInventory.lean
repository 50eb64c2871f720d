import SeatFlow.Events.PlanningServices
import SeatFlow.SeatMaps.PublishedMaps

/-!
# The inventory of a session

The rows that a publication creates: one for each seat to sell, none twice, whatever the order in
which the price tiers are read. They are written one after another, and a seat that has a row
keeps it.
-/

namespace SeatFlow.Planning

open Relational

/-! ## §1 The seats of a map -/

theorem pricingSections_congr {layout layout' : SeatMapDb} {id : SeatMapId}
    (h : layout.SameLayout layout' id) :
    pricingSections layout' id = pricingSections layout id := by
  unfold pricingSections
  rw [h.sections]
  refine List.map_congr_left fun e he => ?_
  unfold pricingSection
  rw [h.rows e he]
  congr 1
  refine List.map_congr_left fun e' he' => ?_
  unfold pricingRow
  rw [h.seats e he e' he']

section Seats

variable (layout : SeatMapDb)

theorem pricingSeats_map_id (e : SectionId × SeatSection) :
    (pricingSection layout e).seats.map (·.id) =
      (layout.orderedRows e.1).flatMap fun e' => (layout.orderedSeats e'.1).map (·.1) := by
  unfold PricingSection.seats pricingSection pricingRow
  rw [List.map_flatMap, List.flatMap_map]
  refine List.flatMap_congr fun e' _ => ?_
  rw [List.map_map]
  rfl

/-- A seat of a section, with its row. -/
theorem mem_pricingSeats {e : SectionId × SeatSection} {seatId : SeatId}
    (h : seatId ∈ (pricingSection layout e).seats.map (·.id)) :
    ∃ seat row, layout.seats.lookup seatId = some seat ∧ layout.rows.lookup seat.rowId = some row ∧
      row.sectionId = e.1 := by
  rw [pricingSeats_map_id] at h
  obtain ⟨e', he', hseat⟩ := List.mem_flatMap.mp h
  obtain ⟨e'', he'', rfl⟩ := List.mem_map.mp hseat
  obtain ⟨hrow, hsection⟩ := mem_orderedRows.mp he'
  obtain ⟨hlook, hparent⟩ := mem_orderedSeats.mp he''
  exact ⟨e''.2, e'.2, hlook, by rwa [hparent], hsection⟩

theorem nodup_pricingSection (e : SectionId × SeatSection) :
    ((pricingSection layout e).seats.map (·.id)).Nodup := by
  rw [pricingSeats_map_id, List.nodup_flatMap]
  refine ⟨fun e' _ => ?_, nodup_orderedRows.pairwise_of_forall_ne fun e' he' e'' he'' hne => ?_⟩
  · refine nodup_orderedSeats.map_on fun s hs s' hs' hsame => ?_
    have hlook := (mem_orderedSeats.mp hs).1
    rw [hsame, (mem_orderedSeats.mp hs').1] at hlook
    exact Prod.ext hsame (Option.some.inj hlook).symm
  · refine fun seatId hmem hmem' => hne ?_
    obtain ⟨s, hs, rfl⟩ := List.mem_map.mp hmem
    obtain ⟨s', hs', hsame⟩ := List.mem_map.mp hmem'
    obtain ⟨hlook, hrow⟩ := mem_orderedSeats.mp hs
    obtain ⟨hlook', hrow'⟩ := mem_orderedSeats.mp hs'
    rw [hsame, hlook] at hlook'
    have hkey : e'.1 = e''.1 := by rw [← hrow, ← hrow', Option.some.inj hlook']
    have hfound := (mem_orderedRows.mp he').1
    rw [hkey, (mem_orderedRows.mp he'').1] at hfound
    exact Prod.ext hkey (Option.some.inj hfound).symm

/-- No seat is in a map twice. -/
theorem nodup_pricingSections (id : SeatMapId) :
    (((pricingSections layout id).flatMap (·.seats)).map (·.id)).Nodup := by
  unfold pricingSections
  rw [List.map_flatMap, List.flatMap_map, List.nodup_flatMap]
  refine ⟨fun e _ => nodup_pricingSection layout e,
    nodup_orderedSections.pairwise_of_forall_ne fun e he e' he' hne => ?_⟩
  refine fun seatId hmem hmem' => hne ?_
  obtain ⟨seat, row, hseat, hrow, hsection⟩ := mem_pricingSeats layout hmem
  obtain ⟨seat', row', hseat', hrow', hsection'⟩ := mem_pricingSeats layout hmem'
  cases hseat.symm.trans hseat'
  cases hrow.symm.trans hrow'
  have hkey : e.1 = e'.1 := hsection.symm.trans hsection'
  have hfound := (mem_orderedSections.mp he).1
  rw [hkey, (mem_orderedSections.mp he').1] at hfound
  exact Prod.ext hkey (Option.some.inj hfound).symm

end Seats

/-! ## §2 The tiers in any order -/

section Tiers

variable {tiers tiers' : List PricingTier} (hnodup : (tiers.map (·.id)).Nodup)

include hnodup

theorem tierOf_eq_some_iff_mem {tierId : PriceTierId} {tier : PricingTier} :
    tierOf tiers tierId = some tier ↔ tier ∈ tiers ∧ tier.id = tierId := by
  rw [tierOf_eq_some]
  constructor
  · intro hlast
    obtain ⟨_, _, -, hid, -⟩ := id hlast
    exact ⟨hlast.mem, hid⟩
  · rintro ⟨hmem, hid⟩
    obtain ⟨before, after, rfl⟩ := List.append_of_mem hmem
    refine ⟨before, after, rfl, hid, fun other hother hsame => ?_⟩
    rw [List.map_append, List.map_cons] at hnodup
    have htail := (List.nodup_append.mp hnodup).2.1
    refine (List.nodup_cons.mp htail).1 (List.mem_map.mpr ⟨other, hother, ?_⟩)
    exact hsame.trans hid.symm

theorem tierOf_perm (hperm : tiers.Perm tiers') (tierId : PriceTierId) :
    tierOf tiers' tierId = tierOf tiers tierId := by
  have hnodup' : (tiers'.map (·.id)).Nodup := (hperm.map _).nodup_iff.mp hnodup
  ext tier
  rw [tierOf_eq_some_iff_mem hnodup', tierOf_eq_some_iff_mem hnodup, hperm.mem_iff]

theorem computeSessionInventoryRows_perm (hperm : tiers.Perm tiers')
    (sections : List PricingSection) (assignments : List SectionAssignment) :
    computeSessionInventoryRows sections tiers' assignments =
      computeSessionInventoryRows sections tiers assignments := by
  unfold computeSessionInventoryRows sectionTier
  simp only [tierOf_perm hnodup hperm]

end Tiers

theorem nodup_pricingTiers (db : PlanningDb) (sessionId : SessionId) :
    ((db.pricingTiers sessionId).map (·.id)).Nodup := by
  unfold PlanningDb.pricingTiers
  rw [List.map_map]
  exact Table.nodup_select_fst _ _

theorem perm_orderedTiers (db : PlanningDb) (sessionId : SessionId) :
    (db.pricingTiers sessionId).Perm (db.orderedTiers sessionId) :=
  ((List.perm_insertionSort _ _).symm.map _)

/-- The rows of a session are those of the tiers that its coverage is calculated from. -/
theorem inventoryRows_eq (db : PlanningDb) (sessionId : SessionId) (session : EventSession) :
    db.inventoryRows sessionId session =
      computeSessionInventoryRows (pricingSections db.layout session.seatMapId)
        (db.orderedTiers sessionId) (db.assignments sessionId) :=
  (computeSessionInventoryRows_perm (nodup_pricingTiers db sessionId)
    (perm_orderedTiers db sessionId) _ _).symm

theorem nodup_inventoryRows (db : PlanningDb) (sessionId : SessionId) (session : EventSession) :
    ((db.inventoryRows sessionId session).map (·.seatId)).Nodup :=
  (nodup_pricingSections db.layout session.seatMapId).sublist seatIds_sublist

theorem length_inventoryRows {db : PlanningDb} {sessionId : SessionId} {session : EventSession}
    (h : (getSessionPricingCoverage db sessionId session).issues = []) :
    (db.inventoryRows sessionId session).length =
      (getSessionPricingCoverage db sessionId session).totalSellable := by
  rw [inventoryRows_eq, length_computeSessionInventoryRows]
  exact pricedSellable_of_issues h

/-! ## §3 Writing the rows -/

/-- The seats of the session that had no row have one of these rows now. -/
structure Filled (t : Table (SessionId × SeatId) MaterializedInventoryRow) (sessionId : SessionId)
    (rows : List MaterializedInventoryRow)
    (t' : Table (SessionId × SeatId) MaterializedInventoryRow) : Prop where
  others : ∀ key, key.1 ≠ sessionId → t'.lookup key = t.lookup key
  found : ∀ seatId row, t.lookup (sessionId, seatId) = some row →
    t'.lookup (sessionId, seatId) = some row
  absent : ∀ seatId row, t.lookup (sessionId, seatId) = none →
    (t'.lookup (sessionId, seatId) = some row ↔ row ∈ rows ∧ row.seatId = seatId)

theorem ensures_createInventory {db : PlanningDb} {sessionId : SessionId}
    {rows : List MaterializedInventoryRow} (hnodup : (rows.map (·.seatId)).Nodup) :
    (createInventory sessionId rows).Ensures db fun _ db' =>
      ∃ t, db' = { db with inventory := t } ∧ Filled db.inventory sessionId rows t := by
  induction rows generalizing db with
  | nil =>
    refine Program.ensures_pure.mpr ⟨db.inventory, rfl, fun _ _ => rfl, fun _ _ h => h, ?_⟩
    intro seatId row habsent
    rw [habsent]
    simp
  | cons row rows ih =>
    obtain ⟨hnew, hrest⟩ := List.nodup_cons.mp hnodup
    have hne : ∀ other ∈ rows, other.seatId ≠ row.seatId := fun other hmem hsame =>
      hnew (List.mem_map.mpr ⟨other, hmem, hsame⟩)
    unfold createInventory
    rw [Program.ensures_bind, Entity.ensures_insertNew]
    refine ⟨fun hfound => ?_, fun habsent hvalid => ?_⟩
    · refine Program.ensures_bind.mpr ((ih hrest).mono fun count db' => ?_)
      rintro ⟨t, rfl, hfilled⟩
      refine Program.ensures_pure.mpr ⟨t, rfl, hfilled.others, hfilled.found, ?_⟩
      intro seatId other habsent
      rw [hfilled.absent seatId other habsent, List.mem_cons]
      refine and_congr_left fun hseat => (or_iff_right ?_).symm
      rintro rfl
      rw [hseat] at hfound
      rw [show (Prisma.sessionSeatInventory.get db).lookup (sessionId, seatId) = none from habsent]
        at hfound
      cases hfound
    · refine Program.ensures_bind.mpr ((ih hrest).mono fun count db' => ?_)
      rintro ⟨t, rfl, hfilled⟩
      replace habsent : db.inventory.lookup (sessionId, row.seatId) = none := habsent
      have hself : t.lookup (sessionId, row.seatId) = some row :=
        hfilled.found row.seatId row (AList.lookup_insert _)
      have hbefore : ∀ key, key ≠ (sessionId, row.seatId) →
          (db.inventory.insert (sessionId, row.seatId) row).lookup key =
            db.inventory.lookup key := fun key hkey => AList.lookup_insert_ne hkey
      refine Program.ensures_pure.mpr ⟨t, rfl, fun key hkey => ?_, fun seatId other hfound => ?_,
        fun seatId other hnone => ?_⟩
      · rw [hfilled.others key hkey]
        exact hbefore key fun hsame => hkey (congrArg Prod.fst hsame)
      · refine hfilled.found seatId other ((hbefore _ fun hsame => ?_).trans hfound)
        rw [hsame, habsent] at hfound
        cases hfound
      · by_cases hseat : seatId = row.seatId
        · subst hseat
          rw [hself, Option.some.injEq, List.mem_cons]
          constructor
          · rintro rfl
            exact ⟨.inl rfl, rfl⟩
          · rintro ⟨rfl | hmem, hsame⟩
            · rfl
            · exact absurd hsame (hne other hmem)
        · have hkey : (sessionId, seatId) ≠ (sessionId, row.seatId) := fun hsame =>
            hseat (congrArg Prod.snd hsame)
          rw [hfilled.absent seatId other ((hbefore _ hkey).trans hnone), List.mem_cons]
          refine and_congr_left fun hsame => (or_iff_right ?_).symm
          rintro rfl
          exact hseat hsame.symm

theorem ensures_ensureSessionInventory {db : PlanningDb} {sessionId : SessionId}
    {session : EventSession} (hsession : db.sessions.lookup sessionId = some session) :
    (ensureSessionInventory sessionId).Ensures db fun _ db' => ∃ t,
      db' = { db with inventory := t } ∧
        Filled db.inventory sessionId (db.inventoryRows sessionId session) t := by
  unfold ensureSessionInventory materializeSessionInventory
  simp only [Program.ensures_bind, Entity.ensures_find, Program.ensures_orThrow,
    Program.ensures_read, Program.ensures_pure, Program.ensures_require]
  intro found hfound
  cases hsession.symm.trans hfound
  refine (ensures_createInventory (nodup_inventoryRows db sessionId session)).mono ?_
  exact fun _ _ hfilled _ => hfilled

/-! ## §4 Counting the rows -/

/-- The session has these rows and no others. -/
def Stocks (t : Table (SessionId × SeatId) MaterializedInventoryRow) (sessionId : SessionId)
    (rows : List MaterializedInventoryRow) : Prop :=
  ∀ seatId row, t.lookup (sessionId, seatId) = some row ↔ row ∈ rows ∧ row.seatId = seatId

theorem Filled.stocks {t t' : Table (SessionId × SeatId) MaterializedInventoryRow}
    {sessionId : SessionId} {rows : List MaterializedInventoryRow}
    (h : Filled t sessionId rows t') (habsent : ∀ seatId, t.lookup (sessionId, seatId) = none) :
    Stocks t' sessionId rows :=
  fun seatId row => h.absent seatId row (habsent seatId)

theorem Stocks.length_eq {db : PlanningDb} {sessionId : SessionId}
    {rows : List MaterializedInventoryRow} (h : Stocks db.inventory sessionId rows)
    (hnodup : (rows.map (·.seatId)).Nodup) : (db.inventoryOf sessionId).length = rows.length := by
  have hentry : ∀ e ∈ db.inventoryOf sessionId,
      e.1 = (sessionId, e.2.seatId) ∧ e.2 ∈ rows := by
    rintro ⟨⟨id, seatId⟩, row⟩ he
    obtain ⟨hlook, hid⟩ := Table.mem_select.mp he
    obtain rfl : id = sessionId := beq_iff_eq.mp hid
    obtain ⟨hmem, rfl⟩ := (h seatId row).mp hlook
    exact ⟨rfl, hmem⟩
  have hperm : ((db.inventoryOf sessionId).map (·.2)).Perm rows := by
    refine (List.perm_ext_iff_of_nodup ?_ (List.Nodup.of_map _ hnodup)).mpr fun row => ?_
    · refine List.Nodup.map_on (fun e he e' he' hsame => ?_)
        (List.Nodup.of_map Prod.fst (Table.nodup_select_fst _ _))
      refine Prod.ext ?_ hsame
      rw [(hentry e he).1, (hentry e' he').1, hsame]
    · constructor
      · intro hmem
        obtain ⟨e, he, rfl⟩ := List.mem_map.mp hmem
        exact (hentry e he).2
      · intro hmem
        have hlook := (h row.seatId row).mpr ⟨hmem, rfl⟩
        exact List.mem_map.mpr ⟨((sessionId, row.seatId), row),
          Table.mem_select.mpr ⟨hlook, beq_self_eq_true sessionId⟩, rfl⟩
  rw [← hperm.length_eq, List.length_map]

end SeatFlow.Planning
