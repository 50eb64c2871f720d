import Mathlib.Data.Nat.Pairing
import SeatFlow.SeatMaps.SpaceCatalogue

/-!
# Cloned seat maps

The clone of a published map is a draft with the very same graph. The nested creation inserts
section after section, each with its rows and their seats, and is never rejected when the
identifiers are new; what is read back comes in the order of the places.
-/

namespace SeatFlow

open Relational

/-! ## §1 Reading back in order -/

section Sorting

variable {α β : Type} {r : α → α → Prop} [DecidableRel r]

theorem orderedInsert_last {a : α} {l : List α} (h : ∀ b ∈ l, ¬r a b) :
    l.orderedInsert r a = l ++ [a] := by
  induction l with
  | nil => rfl
  | cons b l ih =>
    rw [List.orderedInsert_of_not_le _ _ (h b List.mem_cons_self),
      ih fun c hc => h c (List.mem_cons_of_mem _ hc), List.cons_append]

/-- What was put in front one after another comes back in the order it was put in. -/
theorem insertionSort_of_descending {l : List α} (h : l.Pairwise fun a b => ¬r a b) :
    l.insertionSort r = l.reverse := by
  induction l with
  | nil => rfl
  | cons a l ih =>
    obtain ⟨hlast, hrest⟩ := List.pairwise_cons.mp h
    rw [List.insertionSort_cons, ih hrest, List.reverse_cons]
    exact orderedInsert_last fun b hb => hlast b (List.mem_reverse.mp hb)

/-- Rows in strict order, inserted one after another and read back. -/
theorem map_insertionSort {f : α → β} {order : β → Int} {l : List α} {rows : List β}
    (hstored : l.map f = rows.reverse) (hrows : rows.Pairwise fun a b => order a < order b)
    (hr : ∀ a b, r a b → order (f a) ≤ order (f b)) : (l.insertionSort r).map f = rows := by
  have hdescending : (l.map f).Pairwise fun a b => order b < order a := by
    rw [hstored]
    exact List.pairwise_reverse.mpr hrows
  rw [insertionSort_of_descending, List.map_reverse, hstored, List.reverse_reverse]
  refine (List.pairwise_map.mp hdescending).imp fun {a b} hlt hbefore => ?_
  have hle := hr a b hbefore
  omega

theorem PlacedBefore.order_le {τ ρ : Type} {order : ρ → Int} {text : ρ → String} {e e' : τ × ρ}
    (h : PlacedBefore order text e e') : order e.2 ≤ order e'.2 := by
  rcases h with hlt | ⟨heq, -⟩
  · exact hlt.le
  · exact heq.le

instance {τ ρ : Type} (order : ρ → Int) (text : ρ → String) :
    Std.Total (PlacedBefore (τ := τ) order text) where
  total e e' := by
    unfold PlacedBefore
    rcases lt_trichotomy (order e.2) (order e'.2) with hlt | heq | hlt
    · exact .inl (.inl hlt)
    · rcases String.le_total (text e.2) (text e'.2) with hle | hle
      · exact .inl (.inr ⟨heq, hle⟩)
      · exact .inr (.inr ⟨heq.symm, hle⟩)
    · exact .inr (.inl hlt)

instance {τ ρ : Type} (order : ρ → Int) (text : ρ → String) :
    IsTrans (τ × ρ) (PlacedBefore order text) where
  trans e e' e'' := by
    rintro (hlt | ⟨heq, hle⟩) (hlt' | ⟨heq', hle'⟩)
    · exact .inl (hlt.trans hlt')
    · exact .inl (hlt.trans_eq heq')
    · exact .inl (heq.trans_lt hlt')
    · exact .inr ⟨heq.trans heq', String.le_trans hle hle'⟩

/-- What is read in order and differs in place comes in strict order. -/
theorem pairwise_lt_insertionSort {τ ρ : Type} {text : ρ → String} {l : List (τ × ρ)}
    (order : ρ → Int)
    (h : ((l.insertionSort (PlacedBefore order text)).map fun e => order e.2).Nodup) :
    (l.insertionSort (PlacedBefore order text)).Pairwise fun e e' => order e.2 < order e'.2 := by
  have hsorted := List.pairwise_insertionSort (PlacedBefore order text) l
  refine (hsorted.and (List.pairwise_map.mp h)).imp fun hboth => ?_
  exact lt_of_le_of_ne hboth.1.order_le hboth.2

end Sorting

/-- Sections, rows and seats in strict order. -/
structure PublicationGraph.Ordered (graph : PublicationGraph) : Prop where
  sections : graph.sections.Pairwise fun s s' => s.displayOrder < s'.displayOrder
  rows : ∀ section_ ∈ graph.sections,
    section_.rows.Pairwise fun r r' => r.displayOrder < r'.displayOrder
  seats : ∀ section_ ∈ graph.sections, ∀ row ∈ section_.rows,
    row.seats.Pairwise fun s s' => s.displayOrder < s'.displayOrder

section Ordered

variable [Casing] {db : SeatMapDb}

/-- The graph of tidy maps is read in strict order. -/
theorem SeatMapDb.Tidy.ordered (h : db.Tidy) (id : SeatMapId) : (db.graph id).Ordered where
  sections := by
    refine List.pairwise_map.mpr (pairwise_lt_insertionSort SeatSection.displayOrder ?_)
    exact (nodup_sections (fun s => s.displayOrder) id).mpr fun k s k' s' hs hs' hmap hmap' =>
      h.sections.orders k s k' s' hs hs' (hmap.trans hmap'.symm)
  rows section_ hsection := by
    obtain ⟨e, -, rfl⟩ := List.mem_map.mp hsection
    refine List.pairwise_map.mpr (pairwise_lt_insertionSort SeatRow.displayOrder ?_)
    exact (nodup_rows (fun r => r.displayOrder) e.1).mpr fun k r k' r' hr hr' hsame hsame' =>
      h.rows.orders k r k' r' hr hr' (hsame.trans hsame'.symm)
  seats section_ hsection row hrow := by
    obtain ⟨e, -, rfl⟩ := List.mem_map.mp hsection
    obtain ⟨e', -, rfl⟩ := List.mem_map.mp hrow
    refine List.pairwise_map.mpr (pairwise_lt_insertionSort Seat.displayOrder ?_)
    exact (nodup_seats (fun s => s.displayOrder) e'.1).mpr fun k s k' s' hs hs' hsame hsame' =>
      h.seats.orders k s k' s' hs hs' (hsame.trans hsame'.symm)

end Ordered

/-! ## §2 The checks of the tables -/

/-- What the `CHECK` constraints say of the stored rows. -/
structure SeatMapDb.Checked (db : SeatMapDb) : Prop where
  sections : ∀ id s, db.sections.lookup id = some s → s.displayOrder ≥ 0
  rows : ∀ id r, db.rows.lookup id = some r → r.displayOrder ≥ 0
  seats : ∀ id s, db.seats.lookup id = some s → s.displayOrder ≥ 0

section Checked

variable {db db' : SeatMapDb}

theorem SeatSection.order_of_validate {id : SectionId} {old : Option SeatSection}
    {new : SeatSection} (h : Prisma.seatSection.validate db id old new = .ok ()) :
    new.displayOrder ≥ 0 := by
  replace h : SeatSection.validate db id old new = .ok () := h
  cases old <;> simp only [SeatSection.validate, Except.bind_unit_eq_ok, checkRow_eq_ok] at h
  · exact h.2.1
  · exact h.2.2.1

theorem SeatRow.order_of_validate {id : RowId} {old : Option SeatRow} {new : SeatRow}
    (h : Prisma.seatRow.validate db id old new = .ok ()) : new.displayOrder ≥ 0 := by
  replace h : SeatRow.validate db id old new = .ok () := h
  cases old <;> simp only [SeatRow.validate, Except.bind_unit_eq_ok, checkRow_eq_ok] at h
  · exact h.2.1
  · exact h.2.2.1

theorem Seat.order_of_validate {id : SeatId} {old : Option Seat} {new : Seat}
    (h : Prisma.seat.validate db id old new = .ok ()) : new.displayOrder ≥ 0 := by
  replace h : Seat.validate db id old new = .ok () := h
  cases old <;> simp only [Seat.validate, Except.bind_unit_eq_ok, checkRow_eq_ok] at h
  · exact h.2.1
  · exact h.2.2.1

theorem SeatMapDb.Checked.sameMaps (h : db.Checked) (hsame : db.SameMaps db') : db'.Checked := by
  refine ⟨?_, ?_, ?_⟩
  · rw [hsame.sections]
    exact h.sections
  · rw [hsame.rows]
    exact h.rows
  · rw [hsame.seats]
    exact h.seats

theorem checked_deleteSectionRow (id : SectionId) :
    (deleteSectionRow id).Steps (Program.Keeping SeatMapDb.Checked) := by
  refine Program.steps_keeping.mpr fun db h a db' hrun => ?_
  obtain ⟨_, -, -, -, rfl⟩ := commits_deleteSectionRow.mp
    (⟨a, db', hrun, rfl⟩ : Program.Commits _ db fun _ d => db' = d)
  exact ⟨fun k s hs => h.sections k s (Table.lookup_of_erase hs).2, h.rows, h.seats⟩

theorem checked_deleteRowRow (id : RowId) :
    (deleteRowRow id).Steps (Program.Keeping SeatMapDb.Checked) := by
  refine Program.steps_keeping.mpr fun db h a db' hrun => ?_
  obtain ⟨_, -, -, -, rfl⟩ := commits_deleteRowRow.mp
    (⟨a, db', hrun, rfl⟩ : Program.Commits _ db fun _ d => db' = d)
  exact ⟨h.sections, fun k r hr => h.rows k r (Table.lookup_of_erase hr).2, h.seats⟩

theorem checked_deleteSeatRow (id : SeatId) :
    (deleteSeatRow id).Steps (Program.Keeping SeatMapDb.Checked) := by
  refine Program.steps_keeping.mpr fun db h => ?_
  unfold deleteSeatRow
  refine Program.ensures_perform.mpr fun eff heff => ?_
  beta_reduce at heff
  split at heff
  · cases heff
  · obtain ⟨-, heff⟩ := Except.bind_unit_eq_ok.mp heff
    rw [← Except.ok.inj heff]
    exact ⟨h.sections, h.rows, fun k s hs => h.seats k s (Table.lookup_of_erase hs).2⟩

/-- A map's own row is no row of a layout. -/
theorem free_seatMap : Prisma.seatMap.Free (Program.Keeping SeatMapDb.Checked) :=
  fun _ _ h => ⟨h.sections, h.rows, h.seats⟩

theorem venueSteps_checked : VenueSteps (Program.Keeping SeatMapDb.Checked) where
  seatSection db id row hvalid h := by
    refine ⟨fun k s hs => ?_, h.rows, h.seats⟩
    rcases Table.wrote_insert.cases hs with ⟨-, rfl⟩ | ⟨-, hs⟩
    · exact SeatSection.order_of_validate hvalid
    · exact h.sections k s hs
  seatRow db id row hvalid h := by
    refine ⟨h.sections, fun k r hr => ?_, h.seats⟩
    rcases Table.wrote_insert.cases hr with ⟨-, rfl⟩ | ⟨-, hr⟩
    · exact SeatRow.order_of_validate hvalid
    · exact h.rows k r hr
  seat db id row hvalid h := by
    refine ⟨h.sections, h.rows, fun k s hs => ?_⟩
    rcases Table.wrote_insert.cases hs with ⟨-, rfl⟩ | ⟨-, hs⟩
    · exact Seat.order_of_validate hvalid
    · exact h.seats k s hs
  deleteSection := checked_deleteSectionRow
  deleteRow := checked_deleteRowRow
  deleteSeat := checked_deleteSeatRow
  seatMap := free_seatMap.row
  seatMaps := free_seatMap.batch
  outside _ _ hsame h := h.sameMaps hsame

end Checked

/-! ## §3 Nested creations -/

/-- What the `CHECK` constraints ask of a seat. -/
def PublicationSeat.Admissible (seat : PublicationSeat) : Prop :=
  seat.displayOrder ≥ 0 ∧ (0 ≤ seat.x ∧ seat.x ≤ 10000) ∧ 0 ≤ seat.y ∧ seat.y ≤ 10000

/-- What the constraints ask of a new row with its seats. -/
structure PublicationRow.Admissible (row : PublicationRow) : Prop where
  order : row.displayOrder ≥ 0
  labels : (row.seats.map (·.label)).Nodup
  seats : ∀ seat ∈ row.seats, seat.Admissible

structure PublicationSection.Admissible (section_ : PublicationSection) : Prop where
  order : section_.displayOrder ≥ 0
  labels : (section_.rows.map (·.label)).Nodup
  rows : ∀ row ∈ section_.rows, row.Admissible

/-- What the insertion of seats under a row does to their table: they stand before the others of
the row, the last one first. -/
structure SeatsInserted (t : Table SeatId Seat) (rowId : RowId) (seats : List PublicationSeat)
    (fresh : Nat → SeatId) (index : Nat) (t' : Table SeatId Seat) : Prop where
  stored : (t'.children seatFiling rowId).map (·.2.publication) =
    seats.reverse ++ (t.children seatFiling rowId).map (·.2.publication)
  others : ∀ id, id ≠ rowId → t'.children seatFiling id = t.children seatFiling id
  keys : ∀ k, (∀ i, index ≤ i → k ≠ fresh i) → t'.lookup k = t.lookup k

section Insertion

theorem validate_newSeat {db : SeatMapDb} {id : SeatId} {seat : Seat}
    (hdraft : db.IsDraft (db.mapOfRow seat.rowId)) (hadmissible : seat.publication.Admissible)
    (hlabel : ∀ e ∈ db.seats.children seatFiling seat.rowId, e.2.label ≠ seat.label) :
    Prisma.seat.validate db id none seat = .ok () := by
  show Seat.validate db id none seat = .ok ()
  simp only [Seat.validate, Seat.requireDraftMap, Except.bind_unit_eq_ok, checkRow_eq_ok,
    checkIndex_eq_ok]
  refine ⟨hdraft, hadmissible.1, hadmissible.2.1, hadmissible.2.2,
    Table.any_eq_false.mpr fun k s hs => Bool.eq_false_iff.mpr fun hother => ?_⟩
  simp only [Bool.and_eq_true, bne_iff_ne, beq_iff_eq] at hother
  exact hlabel (k, s) (Table.mem_children.mpr ⟨hs, hother.1.2⟩) hother.2

/-- **Seats of a new row** are inserted in full. -/
theorem commits_insertSeats {rowId : RowId} {fresh : Nat → SeatId}
    (hinjective : Function.Injective fresh) {seats : List PublicationSeat} (db : SeatMapDb)
    (index : Nat) {Q : Unit → SeatMapDb → Prop} (hdraft : db.IsDraft (db.mapOfRow rowId))
    (hlabels : (seats.map (·.label)).Nodup) (hadmissible : ∀ seat ∈ seats, seat.Admissible)
    (hfree : ∀ e ∈ db.seats.children seatFiling rowId, ∀ seat ∈ seats, e.2.label ≠ seat.label)
    (hfresh : ∀ i, index ≤ i → db.seats.lookup (fresh i) = none)
    (hQ : ∀ t, SeatsInserted db.seats rowId seats fresh index t → Q () { db with seats := t }) :
    Program.Commits (insertSeats rowId fresh index seats) db Q := by
  induction seats generalizing db index with
  | nil => exact Program.commits_pure.mpr (hQ db.seats ⟨rfl, fun _ _ => rfl, fun _ _ => rfl⟩)
  | cons seat seats ih =>
    obtain ⟨hlabel, hlabels⟩ := List.nodup_cons.mp hlabels
    have habsent := hfresh index (Nat.le_refl _)
    let row : Seat :=
      { rowId := rowId, label := seat.label, displayOrder := seat.displayOrder, x := seat.x
        y := seat.y, type := seat.type, state := seat.state }
    have hchildren : Table.children seatFiling rowId (db.seats.insert (fresh index) row) =
        (fresh index, row) :: db.seats.children seatFiling rowId :=
      Table.children_insert_of_absent habsent rfl
    have hvalid : Prisma.seat.validate db (fresh index) none row = .ok () :=
      validate_newSeat hdraft (hadmissible seat List.mem_cons_self) fun e he =>
        hfree e he seat List.mem_cons_self
    unfold insertSeats
    refine Program.commits_bind.mpr (Entity.commits_insert.mpr ⟨habsent, hvalid, ?_⟩)
    refine ih { db with seats := db.seats.insert (fresh index) row } (index + 1) hdraft hlabels
      (fun s hs => hadmissible s (List.mem_cons_of_mem _ hs)) (fun e he s hs => ?_) (fun i hi => ?_)
      fun t ht => hQ t ⟨?_, fun id hid => ?_, fun k hk => ?_⟩
    · rw [hchildren] at he
      rcases List.mem_cons.mp he with rfl | he
      · exact fun hsame => hlabel (List.mem_map.mpr ⟨s, hs, hsame.symm⟩)
      · exact hfree e he s (List.mem_cons_of_mem _ hs)
    · have hne : fresh i ≠ fresh index := fun hsame => by
        have := hinjective hsame
        omega
      exact (AList.lookup_insert_ne hne).trans (hfresh i (by omega))
    · rw [ht.stored, hchildren, List.map_cons, List.reverse_cons, List.append_assoc]
      rfl
    · rw [ht.others id hid]
      exact Table.children_insert_elsewhere habsent hid
    · rw [ht.keys k fun i hi => hk i (by omega)]
      exact AList.lookup_insert_ne (hk index (Nat.le_refl _))

/-- Identifiers for rows and seats that are all different. -/
structure FreshRows.Distinct (fresh : FreshRows) : Prop where
  rows : Function.Injective fresh.rowId
  seats : ∀ i j i' j', fresh.seatId i j = fresh.seatId i' j' → i = i' ∧ j = j'

/-- From an index on, the identifiers are not in use. -/
structure FreshRows.Unused (fresh : FreshRows) (index : Nat) (db : SeatMapDb) : Prop where
  rows : ∀ i, index ≤ i → db.rows.lookup (fresh.rowId i) = none
  children : ∀ i, index ≤ i → db.seats.children seatFiling (fresh.rowId i) = []
  seats : ∀ i j, index ≤ i → db.seats.lookup (fresh.seatId i j) = none

/-- What the insertion of rows under a section does. -/
structure RowsInserted (db : SeatMapDb) (sectionId : SectionId) (rows : List PublicationRow)
    (fresh : FreshRows) (index : Nat) (db' : SeatMapDb) : Prop where
  stored : (db'.rows.children rowFiling sectionId).map db'.publicationRow =
    rows.reverse ++ (db.rows.children rowFiling sectionId).map db.publicationRow
  otherRows : ∀ id, id ≠ sectionId →
    db'.rows.children rowFiling id = db.rows.children rowFiling id
  otherSeats : ∀ k, (∀ i, index ≤ i → k ≠ fresh.rowId i) →
    db'.seats.children seatFiling k = db.seats.children seatFiling k
  rowKeys : ∀ k, (∀ i, index ≤ i → k ≠ fresh.rowId i) → db'.rows.lookup k = db.rows.lookup k
  seatKeys : ∀ k, (∀ i j, index ≤ i → k ≠ fresh.seatId i j) →
    db'.seats.lookup k = db.seats.lookup k

theorem orderedSeats_congr {db db' : SeatMapDb} {id : RowId}
    (h : db'.seats.children seatFiling id = db.seats.children seatFiling id) :
    db'.orderedSeats id = db.orderedSeats id :=
  congrArg (List.insertionSort _) h

theorem publicationRow_congr {db db' : SeatMapDb} {e : RowId × SeatRow}
    (h : db'.seats.children seatFiling e.1 = db.seats.children seatFiling e.1) :
    db'.publicationRow e = db.publicationRow e := by
  unfold SeatMapDb.publicationRow
  rw [orderedSeats_congr h]

theorem validate_newRow {db : SeatMapDb} {id : RowId} {row : SeatRow}
    (hdraft : db.IsDraft (db.mapOfSection row.sectionId)) (horder : row.displayOrder ≥ 0)
    (hlabel : ∀ e ∈ db.rows.children rowFiling row.sectionId, e.2.label ≠ row.label) :
    Prisma.seatRow.validate db id none row = .ok () := by
  show SeatRow.validate db id none row = .ok ()
  simp only [SeatRow.validate, SeatRow.requireDraftMap, Except.bind_unit_eq_ok, checkRow_eq_ok,
    checkIndex_eq_ok]
  refine ⟨hdraft, horder, Table.any_eq_false.mpr fun k s hs =>
    Bool.eq_false_iff.mpr fun hother => ?_⟩
  simp only [Bool.and_eq_true, bne_iff_ne, beq_iff_eq] at hother
  exact hlabel (k, s) (Table.mem_children.mpr ⟨hs, hother.1.2⟩) hother.2

section NewRow

variable {db db' : SeatMapDb} {sectionId : SectionId} {row : PublicationRow}
  {rows : List PublicationRow} {fresh : FreshRows} {index : Nat} {new : SeatRow}
  {seatTable : Table SeatId Seat}

/-- A new row reads as it was written. -/
theorem publicationRow_of_inserted {id : RowId} {seats : Nat → SeatId}
    (hempty : db.seats.children seatFiling id = [])
    (hseats : SeatsInserted db.seats id row.seats seats index seatTable)
    (hordered : row.seats.Pairwise fun s s' => s.displayOrder < s'.displayOrder)
    (hlabel : new.label = row.label) (horder : new.displayOrder = row.displayOrder) :
    SeatMapDb.publicationRow { db with rows := db.rows.insert id new, seats := seatTable }
      (id, new) = row := by
  have hstored := hseats.stored
  rw [hempty, List.map_nil, List.append_nil] at hstored
  have hread := map_insertionSort hstored hordered
    (r := PlacedBefore (·.displayOrder) (·.label)) fun _ _ hbefore => hbefore.order_le
  unfold SeatMapDb.publicationRow SeatMapDb.orderedSeats
  rw [hread, hlabel, horder]

/-- Behind the row and its seats, the identifiers that follow are unused. -/
theorem FreshRows.Unused.next (h : fresh.Unused index db) (hdistinct : fresh.Distinct)
    (hseats : SeatsInserted db.seats (fresh.rowId index) row.seats (fresh.seatId index) 0
      seatTable) :
    fresh.Unused (index + 1)
      { db with rows := db.rows.insert (fresh.rowId index) new, seats := seatTable } := by
  have hnext : ∀ i, index + 1 ≤ i → fresh.rowId i ≠ fresh.rowId index := by
    intro i hi hsame
    have := hdistinct.rows hsame
    omega
  constructor
  · intro i hi
    exact (AList.lookup_insert_ne (hnext i hi)).trans (h.rows i (by omega))
  · intro i hi
    exact (hseats.others _ (hnext i hi)).trans (h.children i (by omega))
  · intro i j hi
    refine (hseats.keys _ fun j' _ hsame => ?_).trans (h.seats i j (by omega))
    have := (hdistinct.seats i j index j' hsame).1
    omega

/-- The row and its seats, and then the rows that follow. -/
theorem RowsInserted.cons (hunused : fresh.Unused index db) (hparent : new.sectionId = sectionId)
    (hseats : SeatsInserted db.seats (fresh.rowId index) row.seats (fresh.seatId index) 0
      seatTable)
    (hread : SeatMapDb.publicationRow
      { db with rows := db.rows.insert (fresh.rowId index) new, seats := seatTable }
      (fresh.rowId index, new) = row)
    (hrest : RowsInserted
      { db with rows := db.rows.insert (fresh.rowId index) new, seats := seatTable } sectionId rows
      fresh (index + 1) db') :
    RowsInserted db sectionId (row :: rows) fresh index db' := by
  subst hparent
  have habsent := hunused.rows index (Nat.le_refl _)
  have hchildren :
      Table.children rowFiling new.sectionId (db.rows.insert (fresh.rowId index) new) =
        (fresh.rowId index, new) :: db.rows.children rowFiling new.sectionId :=
    Table.children_insert_of_absent habsent rfl
  constructor
  · rw [hrest.stored, hchildren, List.map_cons, hread, List.reverse_cons, List.append_assoc]
    refine congrArg (rows.reverse ++ row :: ·) (List.map_congr_left fun e he => ?_)
    refine publicationRow_congr (hseats.others e.1 fun hsame => ?_)
    have hlook := (Table.mem_children.mp he).1
    rw [hsame, habsent] at hlook
    cases hlook
  · intro id hid
    rw [hrest.otherRows id hid]
    exact Table.children_insert_elsewhere habsent hid
  · intro k hk
    refine (hrest.otherSeats k fun i hi => hk i (by omega)).trans (hseats.others k ?_)
    exact hk index (Nat.le_refl _)
  · intro k hk
    refine (hrest.rowKeys k fun i hi => hk i (by omega)).trans (AList.lookup_insert_ne ?_)
    exact hk index (Nat.le_refl _)
  · intro k hk
    refine (hrest.seatKeys k fun i j hi => hk i j (by omega)).trans (hseats.keys k ?_)
    exact fun j _ => hk index j (Nat.le_refl _)

end NewRow

/-- **Rows of a section**, each with its seats in order. -/
theorem commits_insertRows {sectionId : SectionId} {fresh : FreshRows} (hdistinct : fresh.Distinct)
    {rows : List PublicationRow} (db : SeatMapDb) (index : Nat) {Q : Unit → SeatMapDb → Prop}
    (hdraft : db.IsDraft (db.mapOfSection sectionId))
    (hlabels : (rows.map (·.label)).Nodup) (hadmissible : ∀ row ∈ rows, row.Admissible)
    (hordered : ∀ row ∈ rows, row.seats.Pairwise fun s s' => s.displayOrder < s'.displayOrder)
    (hfree : ∀ e ∈ db.rows.children rowFiling sectionId, ∀ row ∈ rows, e.2.label ≠ row.label)
    (hunused : fresh.Unused index db)
    (hQ : ∀ rowTable seatTable, RowsInserted db sectionId rows fresh index
        { db with rows := rowTable, seats := seatTable } →
      Q () { db with rows := rowTable, seats := seatTable }) :
    Program.Commits (insertRows sectionId fresh index rows) db Q := by
  induction rows generalizing db index with
  | nil =>
    exact Program.commits_pure.mpr (hQ db.rows db.seats
      ⟨rfl, fun _ _ => rfl, fun _ _ => rfl, fun _ _ => rfl, fun _ _ => rfl⟩)
  | cons row rows ih =>
    obtain ⟨hlabel, hlabels⟩ := List.nodup_cons.mp hlabels
    have hrow := hadmissible row List.mem_cons_self
    have habsent := hunused.rows index (Nat.le_refl _)
    have hempty := hunused.children index (Nat.le_refl _)
    let new : SeatRow :=
      { sectionId := sectionId, label := row.label, displayOrder := row.displayOrder }
    have hchildren : Table.children rowFiling sectionId (db.rows.insert (fresh.rowId index) new) =
        (fresh.rowId index, new) :: db.rows.children rowFiling sectionId :=
      Table.children_insert_of_absent habsent rfl
    have hvalid : Prisma.seatRow.validate db (fresh.rowId index) none new = .ok () :=
      validate_newRow hdraft hrow.order fun e he => hfree e he row List.mem_cons_self
    unfold insertRows
    refine Program.commits_bind.mpr (Entity.commits_insert.mpr ⟨habsent, hvalid, ?_⟩)
    have hmap : ({ db with rows := db.rows.insert (fresh.rowId index) new } : SeatMapDb).mapOfRow
        (fresh.rowId index) = db.mapOfSection sectionId := by
      rw [SeatMapDb.mapOfRow]
      show ((db.rows.insert (fresh.rowId index) new).lookup (fresh.rowId index)).bind _ = _
      rw [AList.lookup_insert]
      rfl
    refine Program.commits_bind.mpr (commits_insertSeats
      (fun j j' hsame => (hdistinct.seats index j index j' hsame).2)
      { db with rows := db.rows.insert (fresh.rowId index) new } 0 (hmap ▸ hdraft) hrow.labels
      hrow.seats (fun e he => ?_) (fun j _ => hunused.seats index j (Nat.le_refl _))
      fun seatTable hseats => ?_)
    · rw [show (_ : SeatMapDb).seats = db.seats from rfl, hempty] at he
      cases he
    have hread := publicationRow_of_inserted hempty hseats (hordered row List.mem_cons_self)
      (show new.label = row.label from rfl) rfl
    refine ih { db with rows := db.rows.insert (fresh.rowId index) new, seats := seatTable }
      (index + 1) hdraft hlabels (fun r hr => hadmissible r (List.mem_cons_of_mem _ hr))
      (fun r hr => hordered r (List.mem_cons_of_mem _ hr)) (fun e he r hr => ?_)
      (hunused.next hdistinct hseats) fun rowTable' seatTable' hrest =>
        hQ rowTable' seatTable' (.cons hunused rfl hseats hread hrest)
    rw [hchildren] at he
    rcases List.mem_cons.mp he with rfl | he
    · exact fun hsame => hlabel (List.mem_map.mpr ⟨r, hr, hsame.symm⟩)
    · exact hfree e he r (List.mem_cons_of_mem _ hr)

structure FreshSeatMap.Distinct (fresh : FreshSeatMap) : Prop where
  sections : Function.Injective fresh.sectionId
  rows : ∀ i j i' j', (fresh.rows i).rowId j = (fresh.rows i').rowId j' → i = i' ∧ j = j'
  seats : ∀ i j k i' j' k', (fresh.rows i).seatId j k = (fresh.rows i').seatId j' k' →
    i = i' ∧ j = j' ∧ k = k'

structure FreshSeatMap.Unused (fresh : FreshSeatMap) (index : Nat) (db : SeatMapDb) : Prop where
  sections : ∀ i, index ≤ i → db.sections.lookup (fresh.sectionId i) = none
  children : ∀ i, index ≤ i → db.rows.children rowFiling (fresh.sectionId i) = []
  rows : ∀ i, index ≤ i → (fresh.rows i).Unused 0 db

theorem FreshSeatMap.Distinct.freshRows {fresh : FreshSeatMap} (h : fresh.Distinct) (i : Nat) :
    (fresh.rows i).Distinct where
  rows j j' hsame := (h.rows i j i j' hsame).2
  seats j k j' k' hsame := (h.seats i j k i j' k' hsame).2

/-- What the insertion of sections under a map does. -/
structure SectionsInserted (db : SeatMapDb) (seatMapId : SeatMapId)
    (sections : List PublicationSection) (fresh : FreshSeatMap) (index : Nat) (db' : SeatMapDb) :
    Prop where
  stored : (db'.sections.children sectionFiling seatMapId).map db'.publicationSection =
    sections.reverse ++ (db.sections.children sectionFiling seatMapId).map db.publicationSection
  otherSections : ∀ id, id ≠ seatMapId →
    db'.sections.children sectionFiling id = db.sections.children sectionFiling id
  otherRows : ∀ k, (∀ i, index ≤ i → k ≠ fresh.sectionId i) →
    db'.rows.children rowFiling k = db.rows.children rowFiling k
  otherSeats : ∀ k, (∀ i j, index ≤ i → k ≠ (fresh.rows i).rowId j) →
    db'.seats.children seatFiling k = db.seats.children seatFiling k

theorem publicationSection_congr {db db' : SeatMapDb} {e : SectionId × SeatSection}
    (hrows : db'.rows.children rowFiling e.1 = db.rows.children rowFiling e.1)
    (hseats : ∀ e' ∈ db.rows.children rowFiling e.1,
      db'.seats.children seatFiling e'.1 = db.seats.children seatFiling e'.1) :
    db'.publicationSection e = db.publicationSection e := by
  have hordered : db'.orderedRows e.1 = db.orderedRows e.1 := congrArg (List.insertionSort _) hrows
  unfold SeatMapDb.publicationSection
  rw [hordered]
  congr 1
  exact List.map_congr_left fun e' he' =>
    publicationRow_congr (hseats e' ((List.mem_insertionSort _).mp he'))

theorem validate_newSection {db : SeatMapDb} {id : SectionId} {section_ : SeatSection}
    (hdraft : db.IsDraft (some section_.seatMapId)) (horder : section_.displayOrder ≥ 0)
    (hcode : ∀ e ∈ db.sections.children sectionFiling section_.seatMapId,
      e.2.code ≠ section_.code) :
    Prisma.seatSection.validate db id none section_ = .ok () := by
  show SeatSection.validate db id none section_ = .ok ()
  simp only [SeatSection.validate, SeatSection.requireDraftMap, Except.bind_unit_eq_ok,
    checkRow_eq_ok, checkIndex_eq_ok]
  refine ⟨hdraft, horder, Table.any_eq_false.mpr fun k s hs =>
    Bool.eq_false_iff.mpr fun hother => ?_⟩
  simp only [Bool.and_eq_true, bne_iff_ne, beq_iff_eq] at hother
  exact hcode (k, s) (Table.mem_children.mpr ⟨hs, hother.1.2⟩) hother.2

section NewSection

variable {db db' : SeatMapDb} {seatMapId : SeatMapId} {section_ : PublicationSection}
  {sections : List PublicationSection} {fresh : FreshSeatMap} {index : Nat} {new : SeatSection}
  {rowTable : Table RowId SeatRow} {seatTable : Table SeatId Seat}

/-- A new section reads as it was written. -/
theorem publicationSection_of_inserted {id : SectionId} {rows : FreshRows}
    {sectionTable : Table SectionId SeatSection} (hempty : db.rows.children rowFiling id = [])
    (hrows : RowsInserted { db with sections := sectionTable } id section_.rows rows index
      { db with sections := sectionTable, rows := rowTable, seats := seatTable })
    (hordered : section_.rows.Pairwise fun r r' => r.displayOrder < r'.displayOrder)
    (hname : new.name = section_.name) (hcode : new.code = section_.code)
    (horder : new.displayOrder = section_.displayOrder) :
    SeatMapDb.publicationSection
      { db with sections := sectionTable, rows := rowTable, seats := seatTable } (id, new) =
        section_ := by
  have hstored := hrows.stored
  rw [hempty, List.map_nil, List.append_nil] at hstored
  have hread := map_insertionSort hstored hordered
    (r := PlacedBefore (·.displayOrder) (·.label)) fun _ _ hbefore => hbefore.order_le
  unfold SeatMapDb.publicationSection
  rw [hname, hcode, horder]
  exact congrArg (fun rows => { section_ with rows := rows }) hread

/-- Behind the section and its rows, the identifiers that follow are unused. -/
theorem FreshSeatMap.Unused.next (h : fresh.Unused index db) (hdistinct : fresh.Distinct)
    (hrows : RowsInserted { db with sections := db.sections.insert (fresh.sectionId index) new }
      (fresh.sectionId index) section_.rows (fresh.rows index) 0
      { db with sections := db.sections.insert (fresh.sectionId index) new
                rows := rowTable, seats := seatTable }) :
    fresh.Unused (index + 1) { db with
      sections := db.sections.insert (fresh.sectionId index) new
      rows := rowTable, seats := seatTable } := by
  have hnext : ∀ i, index + 1 ≤ i → fresh.sectionId i ≠ fresh.sectionId index := by
    intro i hi hsame
    have := hdistinct.sections hsame
    omega
  have hnextRow : ∀ i j j', index + 1 ≤ i →
      (fresh.rows i).rowId j ≠ (fresh.rows index).rowId j' := by
    intro i j j' hi hsame
    have := (hdistinct.rows i j index j' hsame).1
    omega
  refine ⟨fun i hi => ?_, fun i hi => ?_, fun i hi =>
    ⟨fun j _ => ?_, fun j _ => ?_, fun j k _ => ?_⟩⟩
  · exact (AList.lookup_insert_ne (hnext i hi)).trans (h.sections i (by omega))
  · exact (hrows.otherRows _ (hnext i hi)).trans (h.children i (by omega))
  · exact (hrows.rowKeys _ fun j' _ => hnextRow i j j' hi).trans
      ((h.rows i (by omega)).rows j (Nat.zero_le _))
  · exact (hrows.otherSeats _ fun j' _ => hnextRow i j j' hi).trans
      ((h.rows i (by omega)).children j (Nat.zero_le _))
  · refine (hrows.seatKeys _ fun j' k' _ hsame => ?_).trans
      ((h.rows i (by omega)).seats j k (Nat.zero_le _))
    have := (hdistinct.seats i j k index j' k' hsame).1
    omega

/-- The section and its rows, and then the sections that follow. -/
theorem SectionsInserted.cons (hunused : fresh.Unused index db)
    (hparent : new.seatMapId = seatMapId)
    (hrows : RowsInserted { db with sections := db.sections.insert (fresh.sectionId index) new }
      (fresh.sectionId index) section_.rows (fresh.rows index) 0
      { db with sections := db.sections.insert (fresh.sectionId index) new
                rows := rowTable, seats := seatTable })
    (hread : SeatMapDb.publicationSection
      { db with sections := db.sections.insert (fresh.sectionId index) new
                rows := rowTable, seats := seatTable } (fresh.sectionId index, new) = section_)
    (hrest : SectionsInserted
      { db with sections := db.sections.insert (fresh.sectionId index) new
                rows := rowTable, seats := seatTable } seatMapId sections fresh (index + 1) db') :
    SectionsInserted db seatMapId (section_ :: sections) fresh index db' := by
  subst hparent
  have habsent := hunused.sections index (Nat.le_refl _)
  have hrowsUnused := hunused.rows index (Nat.le_refl _)
  have hchildren :
      Table.children sectionFiling new.seatMapId (db.sections.insert (fresh.sectionId index) new) =
        (fresh.sectionId index, new) :: db.sections.children sectionFiling new.seatMapId :=
    Table.children_insert_of_absent habsent rfl
  constructor
  · rw [hrest.stored, hchildren, List.map_cons, hread, List.reverse_cons, List.append_assoc]
    refine congrArg (sections.reverse ++ section_ :: ·) (List.map_congr_left fun e he => ?_)
    refine publicationSection_congr (hrows.otherRows e.1 fun hsame => ?_) fun e' he' =>
      hrows.otherSeats e'.1 fun j _ hsame => ?_
    · have hlook := (Table.mem_children.mp he).1
      rw [hsame, habsent] at hlook
      cases hlook
    · have hlook := (Table.mem_children.mp he').1
      rw [hsame, hrowsUnused.rows j (Nat.zero_le _)] at hlook
      cases hlook
  · intro id hid
    rw [hrest.otherSections id hid]
    exact Table.children_insert_elsewhere habsent hid
  · intro k hk
    refine (hrest.otherRows k fun i hi => hk i (by omega)).trans (hrows.otherRows k ?_)
    exact hk index (Nat.le_refl _)
  · intro k hk
    refine (hrest.otherSeats k fun i j hi => hk i j (by omega)).trans (hrows.otherSeats k ?_)
    exact fun j _ => hk index j (Nat.le_refl _)

end NewSection

/-- **Sections of a map**, each with its rows in order. -/
theorem commits_insertSections {seatMapId : SeatMapId} {fresh : FreshSeatMap}
    (hdistinct : fresh.Distinct) {sections : List PublicationSection} (db : SeatMapDb) (index : Nat)
    {Q : Unit → SeatMapDb → Prop} (hdraft : db.IsDraft (some seatMapId))
    (hcodes : (sections.map (·.code)).Nodup)
    (hadmissible : ∀ section_ ∈ sections, section_.Admissible)
    (hordered : ∀ section_ ∈ sections,
      section_.rows.Pairwise fun r r' => r.displayOrder < r'.displayOrder)
    (hseatsOrdered : ∀ section_ ∈ sections, ∀ row ∈ section_.rows,
      row.seats.Pairwise fun s s' => s.displayOrder < s'.displayOrder)
    (hfree : ∀ e ∈ db.sections.children sectionFiling seatMapId, ∀ section_ ∈ sections,
      e.2.code ≠ section_.code)
    (hunused : fresh.Unused index db)
    (hQ : ∀ sectionTable rowTable seatTable,
      SectionsInserted db seatMapId sections fresh index
        { db with sections := sectionTable, rows := rowTable, seats := seatTable } →
      Q () { db with sections := sectionTable, rows := rowTable, seats := seatTable }) :
    Program.Commits (insertSections seatMapId fresh index sections) db Q := by
  induction sections generalizing db index with
  | nil =>
    exact Program.commits_pure.mpr (hQ db.sections db.rows db.seats
      ⟨rfl, fun _ _ => rfl, fun _ _ => rfl, fun _ _ => rfl⟩)
  | cons section_ sections ih =>
    obtain ⟨hcode, hcodes⟩ := List.nodup_cons.mp hcodes
    have hsection := hadmissible section_ List.mem_cons_self
    have habsent := hunused.sections index (Nat.le_refl _)
    have hempty := hunused.children index (Nat.le_refl _)
    have hrowsUnused := hunused.rows index (Nat.le_refl _)
    let new : SeatSection :=
      { seatMapId := seatMapId, name := section_.name, code := section_.code
        displayOrder := section_.displayOrder }
    have hchildren :
        Table.children sectionFiling seatMapId (db.sections.insert (fresh.sectionId index) new) =
          (fresh.sectionId index, new) :: db.sections.children sectionFiling seatMapId :=
      Table.children_insert_of_absent habsent rfl
    have hvalid : Prisma.seatSection.validate db (fresh.sectionId index) none new = .ok () :=
      validate_newSection hdraft hsection.order fun e he => hfree e he section_ List.mem_cons_self
    unfold insertSections
    refine Program.commits_bind.mpr (Entity.commits_insert.mpr ⟨habsent, hvalid, ?_⟩)
    have hmap : (SeatMapDb.mapOfSection { db with
        sections := db.sections.insert (fresh.sectionId index) new }) (fresh.sectionId index) =
          some seatMapId := by
      rw [SeatMapDb.mapOfSection]
      show ((db.sections.insert (fresh.sectionId index) new).lookup _).map _ = _
      rw [AList.lookup_insert]
      rfl
    refine Program.commits_bind.mpr (commits_insertRows (hdistinct.freshRows index)
      { db with sections := db.sections.insert (fresh.sectionId index) new } 0 (hmap ▸ hdraft)
      hsection.labels hsection.rows (hseatsOrdered section_ List.mem_cons_self) (fun e he => ?_)
      ⟨hrowsUnused.rows, hrowsUnused.children, hrowsUnused.seats⟩
        fun rowTable seatTable hrows => ?_)
    · rw [show (SeatMapDb.rows { db with sections := _ }) = db.rows from rfl, hempty] at he
      cases he
    have hread := publicationSection_of_inserted hempty hrows (hordered section_ List.mem_cons_self)
      (show new.name = section_.name from rfl) rfl rfl
    refine ih { db with sections := db.sections.insert (fresh.sectionId index) new
                        rows := rowTable, seats := seatTable } (index + 1) hdraft hcodes
      (fun s hs => hadmissible s (List.mem_cons_of_mem _ hs))
      (fun s hs => hordered s (List.mem_cons_of_mem _ hs))
      (fun s hs => hseatsOrdered s (List.mem_cons_of_mem _ hs)) (fun e he s hs => ?_)
      (hunused.next hdistinct hrows) fun sectionTable' rowTable' seatTable' hrest =>
        hQ sectionTable' rowTable' seatTable' (.cons hunused rfl hrows hread hrest)
    rw [hchildren] at he
    rcases List.mem_cons.mp he with rfl | he
    · exact fun hsame => hcode (List.mem_map.mpr ⟨s, hs, hsame.symm⟩)
    · exact hfree e he s (List.mem_cons_of_mem _ hs)

end Insertion

/-! ## §4 Clones -/

section Runs

variable [Casing] {db db' : SeatMapDb}

theorem SeatMapDb.Tidy.sameMaps (h : db.Tidy) (hsame : db.SameMaps db') : db'.Tidy := by
  have hrow : ∀ id, db'.mapOfRow id = db.mapOfRow id := fun id => by
    rw [SeatMapDb.mapOfRow, hsame.rows, SeatMapDb.mapOfRow]
    unfold SeatMapDb.mapOfSection
    rw [hsame.sections]
  refine ⟨⟨?_, ?_, ?_⟩, ⟨?_, ?_, ?_⟩, ?_, ?_, ?_, ?_, ?_, fun id => ?_⟩
  · rw [hsame.sections, hsame.seatMaps]
    exact h.placed.sections
  · rw [hsame.rows, hsame.sections]
    exact h.placed.rows
  · rw [hsame.seats, hsame.rows]
    exact h.placed.seats
  · rw [hsame.sections]
    exact h.stored.codes
  · rw [hsame.rows]
    exact h.stored.rowLabels
  · rw [hsame.seats]
    exact h.stored.seatLabels
  · rw [hsame.sections]
    exact h.sections
  · rw [hsame.rows]
    exact h.rows
  · rw [hsame.seats]
    exact h.seats
  · rw [hsame.seats]
    exact h.canvas
  · unfold SeatMapDb.Apart SeatMapDb.sectionOf
    rw [hsame.seats, hsame.rows]
    exact h.apart
  · rw [seatCount_congr hsame.seats fun _ s _ => hrow s.rowId]
    exact h.seatLimit id

theorem tidy_of_venueStep (h : db.Tidy) {action : VenueAction}
    (hstep : venueStep db action = some db') : db'.Tidy := by
  rcases venueStep_cases hstep with hsame | ⟨scope, input, rfl⟩ | ⟨edit, hedit⟩
  · exact h.sameMaps hsame
  · refine Program.Ensures.commit ?_ h
    refine Program.ensures_bind.mpr (ensures_findAuthorizedSeatMap fun access _ => ?_)
    refine Program.ensures_bind.mpr (ensures_assertEditableMap ?_)
    refine Program.ensures_bind.mpr (ensures_parsed fun input _ => ?_)
    refine Program.ensures_bind.mpr (Entity.ensures_update.mpr fun m _ _ => ?_)
    exact Program.ensures_pure.mpr (h.insertSeatMap scope.seatMapId _)
  · exact tidy_of_editorStep h hedit

theorem checked_of_venueStep (h : db.Checked) {action : VenueAction}
    (hstep : venueStep db action = some db') : db'.Checked :=
  Program.Keeping.steps (steps_of_venueStep venueSteps_checked hstep) h

/-- What holds of the maps whatever a venue operator does. -/
structure SeatMapDb.Sound (db : SeatMapDb) : Prop where
  tidy : db.Tidy
  checked : db.Checked
  catalogued : db.Catalogued

theorem sound_of_reaches (h : db.Sound) (hreach : Reaches venueStep (fun _ _ => True) db db') :
    db'.Sound :=
  hreach.invariant h fun _ _ _ _ hstep hI =>
    ⟨tidy_of_venueStep hI.tidy hstep, checked_of_venueStep hI.checked hstep,
      catalogued_of_venueStep hI.catalogued hstep⟩

/-- The graph of a sound map may be stored again. -/
theorem SeatMapDb.Sound.admissible (h : db.Sound) (id : SeatMapId) :
    ∀ section_ ∈ (db.graph id).sections, section_.Admissible := by
  intro section_ hsection
  have hwell := (h.tidy.wellFormed id).sections section_ hsection
  obtain ⟨e, he, rfl⟩ := List.mem_map.mp hsection
  refine ⟨h.checked.sections e.1 e.2 (mem_orderedSections.mp he).1, ?_, fun row hrow => ?_⟩
  · have hlabels := hwell.labels
    rw [← Function.comp_def toUpperCase, ← List.map_map] at hlabels
    exact List.Nodup.of_map _ hlabels
  · have hwell := hwell.rows row hrow
    obtain ⟨e', he', rfl⟩ := List.mem_map.mp hrow
    refine ⟨h.checked.rows e'.1 e'.2 (mem_orderedRows.mp he').1, ?_, fun seat hseat => ?_⟩
    · have hlabels := hwell.labels
      rw [← Function.comp_def toUpperCase, ← List.map_map] at hlabels
      exact List.Nodup.of_map _ hlabels
    · have hcanvas := hwell.canvas seat hseat
      obtain ⟨e'', he'', rfl⟩ := List.mem_map.mp hseat
      simp only [PublicationSeat.isOutside, Bool.or_eq_false_iff, decide_eq_false_iff_not,
        Int.not_lt] at hcanvas
      obtain ⟨⟨⟨hx₀, hx⟩, hy₀⟩, hy⟩ := hcanvas
      exact ⟨h.checked.seats e''.1 e''.2 (mem_orderedSeats.mp he'').1, ⟨hx₀, hx⟩, hy₀, hy⟩

/-- The identifiers of a clone are new. -/
structure FreshSeatMap.Absent (fresh : FreshSeatMap) (db : SeatMapDb) : Prop where
  seatMap : db.seatMaps.lookup fresh.seatMapId = none
  sections : ∀ i, db.sections.lookup (fresh.sectionId i) = none
  rows : ∀ i j, db.rows.lookup ((fresh.rows i).rowId j) = none
  seats : ∀ i j k, db.seats.lookup ((fresh.rows i).seatId j k) = none

omit [Casing] in
theorem FreshSeatMap.Absent.unused {fresh : FreshSeatMap} (h : fresh.Absent db)
    (hplaced : db.Placed) : fresh.Unused 0 db where
  sections i _ := h.sections i
  children i _ := by
    refine Table.select_eq_nil.mpr fun k r hr => beq_eq_false_iff_ne.mpr fun hparent => ?_
    obtain ⟨s, hs⟩ := hplaced.rows k r hr
    rw [show r.sectionId = fresh.sectionId i from hparent, h.sections i] at hs
    cases hs
  rows i _ :=
    { rows := fun j _ => h.rows i j
      children := fun j _ => by
        refine Table.select_eq_nil.mpr fun k s hs => beq_eq_false_iff_ne.mpr fun hparent => ?_
        obtain ⟨r, hr⟩ := hplaced.seats k s hs
        rw [show s.rowId = (fresh.rows i).rowId j from hparent, h.rows i j] at hr
        cases hr
      seats := fun j k _ => h.seats i j k }

/-- The row of a clone. -/
def SeatMapDb.cloneRow (db : SeatMapDb) (id : SeatMapId) (source : SeatMap) : SeatMap :=
  { spaceId := source.spaceId, sourceSeatMapId := some id, name := source.name
    version := db.nextVersion source.spaceId }

omit [Casing] in
theorem SeatMapDb.isDraft_of_lookup {id : SeatMapId} {m : SeatMap}
    (hm : db.seatMaps.lookup id = some m) (hstatus : m.status = .DRAFT) : db.IsDraft (some id) := by
  unfold SeatMapDb.IsDraft
  rw [Option.bind_some, hm, Option.map_some, hstatus]

omit [Casing] in
theorem validate_cloneRow {id fresh : SeatMapId} {source : SeatMap}
    (hsource : db.seatMaps.lookup id = some source) :
    Prisma.seatMap.validate db fresh none (db.cloneRow id source) = .ok () := by
  show SeatMap.validate db fresh none (db.cloneRow id source) = .ok ()
  simp only [SeatMap.validate, SeatMap.requireSameSpaceSource, Except.bind_unit_eq_ok,
    checkRow_eq_ok, checkIndex_eq_ok]
  refine ⟨fun k hk => ?_, Nat.succ_le_succ (Nat.zero_le _), rfl,
    Table.any_eq_false.mpr fun k m hm => Bool.eq_false_iff.mpr fun hother => ?_,
    SeatMapStatus.noConfusion⟩
  · cases hk
    rw [hsource, Option.map_some]
    rfl
  · simp only [Bool.and_eq_true, bne_iff_ne, beq_iff_eq] at hother
    have hlt := lt_nextVersion hm
    rw [hother.1.2] at hlt
    exact absurd hother.2 hlt.ne

/-- **A clone is an exact copy.** Whatever has been done before, the published map of an operational
venue and space can be cloned under new identifiers: the clone is the next version of its space, a
draft with the sections, rows and seats of the published map in the same order, so that it passes
validation as it is, and no other map changes. -/
theorem clonePublishedSeatMap_exact (hstart : db.Sound)
    (hreach : Reaches venueStep (fun _ _ => True) db db') {scope : SeatMapScope}
    {access : SeatMapAccess} (hauthorized : scope.authorized = true)
    (haccess : db'.access scope.seatMapId = some access)
    (hcloneable : canCloneSeatMap access.lifecycleContext = true) {fresh : FreshSeatMap}
    (hdistinct : fresh.Distinct) (habsent : fresh.Absent db') :
    Program.Commits (clonePublishedSeatMap scope fresh) db' fun _ db'' =>
      db''.graph fresh.seatMapId = db'.graph scope.seatMapId ∧
      validateSeatMapForPublication (db''.graph fresh.seatMapId) = [] ∧
      db''.seatMaps.lookup fresh.seatMapId = some
        { spaceId := access.seatMap.spaceId, sourceSeatMapId := some scope.seatMapId
          name := access.seatMap.name, version := db'.nextVersion access.seatMap.spaceId } ∧
      ∀ id, id ≠ fresh.seatMapId →
        db''.seatMaps.lookup id = db'.seatMaps.lookup id ∧ db''.graph id = db'.graph id := by
  have hsound := sound_of_reaches hstart hreach
  have hm := SeatMapDb.access_seatMap haccess
  have hpublished : access.seatMap.status = .PUBLISHED := by
    unfold canCloneSeatMap SeatMapAccess.lifecycleContext at hcloneable
    simp only [Bool.and_eq_true, beq_iff_eq] at hcloneable
    exact hcloneable.1
  have hpassed := hsound.catalogued.passed scope.seatMapId access.seatMap hm (by
    rw [hpublished]
    exact SeatMapStatus.noConfusion)
  have hunused := habsent.unused hsound.tidy.placed
  have hordered := hsound.tidy.ordered scope.seatMapId
  have hsections : db'.sections.children sectionFiling fresh.seatMapId = [] := by
    refine Table.select_eq_nil.mpr fun k s hs => beq_eq_false_iff_ne.mpr fun hparent => ?_
    obtain ⟨m, hm⟩ := hsound.tidy.placed.sections k s hs
    rw [show s.seatMapId = fresh.seatMapId from hparent, habsent.seatMap] at hm
    cases hm
  unfold clonePublishedSeatMap findAuthorizedSeatMap
  simp only [Program.commits_bind, Program.commits_read, Program.commits_orThrow,
    Program.commits_require, Entity.commits_insert, hauthorized, if_true, haccess,
    Option.some.injEq, exists_eq_left', hcloneable, hpublished, true_and, beq_self_eq_true,
    Option.filter_some]
  refine ⟨habsent.seatMap, validate_cloneRow hm, ?_⟩
  have hrow : (db'.seatMaps.insert fresh.seatMapId
      (db'.cloneRow scope.seatMapId access.seatMap)).lookup fresh.seatMapId =
        some (db'.cloneRow scope.seatMapId access.seatMap) := AList.lookup_insert _
  have hcodes := (hsound.tidy.wellFormed scope.seatMapId).codes
  rw [← Function.comp_def toUpperCase, ← List.map_map] at hcodes
  refine commits_insertSections hdistinct
    { db' with seatMaps := db'.seatMaps.insert fresh.seatMapId
                 (db'.cloneRow scope.seatMapId access.seatMap) }
    0 (SeatMapDb.isDraft_of_lookup hrow rfl) (List.Nodup.of_map _ hcodes)
    (hsound.admissible scope.seatMapId) hordered.rows hordered.seats (fun e he => ?_)
    ⟨hunused.sections, hunused.children, fun i hi => ⟨(hunused.rows i hi).rows,
      (hunused.rows i hi).children, (hunused.rows i hi).seats⟩⟩
    fun sectionTable rowTable seatTable hinserted => ?_
  · replace he : e ∈ db'.sections.children sectionFiling fresh.seatMapId := he
    rw [hsections] at he
    cases he
  · have hgraph : ∀ seatMaps, SeatMapDb.graph { db' with
        seatMaps := seatMaps, sections := sectionTable, rows := rowTable, seats := seatTable }
          fresh.seatMapId = db'.graph scope.seatMapId := by
      intro seatMaps
      have hstored := hinserted.stored
      rw [show (SeatMapDb.sections { db' with seatMaps := _ }) = db'.sections from rfl, hsections,
        List.map_nil, List.append_nil] at hstored
      have hread := map_insertionSort hstored hordered.sections
        (r := PlacedBefore (·.displayOrder) (·.code)) fun _ _ hbefore => hbefore.order_le
      exact congrArg PublicationGraph.mk hread
    refine ⟨hgraph _, (congrArg validateSeatMapForPublication (hgraph _)).trans hpassed,
      hrow, fun id hid => ⟨AList.lookup_insert_ne hid, ?_⟩⟩
    refine SeatMapDb.SameLayout.graph
      ⟨congrArg (List.insertionSort _) (hinserted.otherSections id hid),
        fun e he => congrArg (List.insertionSort _) (hinserted.otherRows e.1 fun i _ hsame => ?_),
        fun e he e' he' => orderedSeats_congr (hinserted.otherSeats e'.1 fun i j _ hsame => ?_)⟩
    · have hlook := (mem_orderedSections.mp he).1
      rw [hsame, habsent.sections i] at hlook
      cases hlook
    · have hlook := (mem_orderedRows.mp he').1
      rw [hsame, habsent.rows i j] at hlook
      cases hlook

end Runs

section MainHall

attribute [local instance] asciiCasing

theorem mainHall_sound : mainHall.Sound where
  tidy := mainHall_start.tidy
  checked :=
    { sections := fun _ _ h => absurd h (by simp [mainHall])
      rows := fun _ _ h => absurd h (by simp [mainHall])
      seats := fun _ _ h => absurd h (by simp [mainHall]) }
  catalogued := mainHall_catalogued

/-- Identifiers from a hundred upwards. -/
def mainHallClone : FreshSeatMap :=
  { seatMapId := 100
    sectionId := fun i => 100 + i
    rows := fun i =>
      { rowId := fun j => 100 + Nat.pair i j
        seatId := fun j k => 100 + Nat.pair i (Nat.pair j k) } }

theorem mainHallClone_distinct : mainHallClone.Distinct where
  sections i i' hsame := Nat.add_left_cancel hsame
  rows i j i' j' hsame := Nat.pair_eq_pair.mp (Nat.add_left_cancel hsame)
  seats i j k i' j' k' hsame := by
    obtain ⟨hi, hjk⟩ := Nat.pair_eq_pair.mp (Nat.add_left_cancel hsame)
    exact ⟨hi, Nat.pair_eq_pair.mp hjk⟩

theorem lookup_of_keys_lt {ρ : Type} {t : Table Nat ρ} (h : ∀ k ∈ t.keys, k < 100) (i : Nat) :
    t.lookup (100 + i) = none := by
  refine AList.lookup_eq_none.mpr fun hmem => ?_
  have hlt := h (100 + i) hmem
  omega

/-- The published map of the main hall is cloned. -/
theorem clonePublishedSeatMap_exact_mainHall :
    ∃ db, Program.Commits (clonePublishedSeatMap { authorized := true, seatMapId := 1 }
      mainHallClone) db fun _ db' =>
        db'.graph 100 = db.graph 1 ∧ validateSeatMapForPublication (db'.graph 100) = [] := by
  have hrun : (execute venueStep
      (mainHallDraft ++ [.edit (.publishSeatMap { authorized := true, seatMapId := 1 } 100)])
      mainHall).any (fun db =>
        ((db.access 1).any fun access => canCloneSeatMap access.lifecycleContext) &&
          decide ((∀ k ∈ db.seatMaps.keys, k < 100) ∧ (∀ k ∈ db.sections.keys, k < 100) ∧
            (∀ k ∈ db.rows.keys, k < 100) ∧ ∀ k ∈ db.seats.keys, k < 100)) = true := by
    decide +kernel
  obtain ⟨db, hdb, hchecks⟩ := (Option.any_eq_true _ _).mp hrun
  obtain ⟨haccess, hkeys⟩ := Bool.and_eq_true_iff.mp hchecks
  obtain ⟨access, haccess, hcloneable⟩ := (Option.any_eq_true _ _).mp haccess
  obtain ⟨hmaps, hsections, hrows, hseats⟩ := of_decide_eq_true hkeys
  have hreach : Reaches venueStep (fun _ _ => True) mainHall db :=
    reaches_of_execute hdb fun _ _ _ => trivial
  refine ⟨db, (clonePublishedSeatMap_exact mainHall_sound hreach rfl haccess hcloneable
    mainHallClone_distinct ⟨lookup_of_keys_lt hmaps 0, lookup_of_keys_lt hsections,
      fun i j => lookup_of_keys_lt hrows _, fun i j k => lookup_of_keys_lt hseats _⟩).mono ?_⟩
  rintro _ db' ⟨hgraph, hpassed, -, -⟩
  exact ⟨hgraph, hpassed⟩

end MainHall

end SeatFlow
