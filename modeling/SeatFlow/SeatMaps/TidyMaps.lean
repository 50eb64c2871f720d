import SeatFlow.SeatMaps.SeatMapService

/-!
# Tidy seat maps

What a layout has to be, said of the tables: sections, rows and seats are siblings under their
parents, every code and label is in its stored form, and seats lie on the canvas and apart from
the others of their section. With the parents in place this says the same as that the graph of
every map is well formed; it is what the single writes of the editor are checked against.
-/

namespace SeatFlow

open Relational

/-! ## §1 Tidy tables -/

/-- Every layout row has its parent. -/
structure SeatMapDb.Placed (db : SeatMapDb) : Prop where
  sections : ∀ id s, db.sections.lookup id = some s → ∃ m, db.seatMaps.lookup s.seatMapId = some m
  rows : ∀ id r, db.rows.lookup id = some r → ∃ s, db.sections.lookup r.sectionId = some s
  seats : ∀ id s, db.seats.lookup id = some s → ∃ r, db.rows.lookup s.rowId = some r

/-- Codes and labels are stored in upper case, which is what the schemas turn them into. -/
structure SeatMapDb.Stored [Casing] (db : SeatMapDb) : Prop where
  codes : ∀ id s, db.sections.lookup id = some s → toUpperCase s.code = s.code
  rowLabels : ∀ id r, db.rows.lookup id = some r → toUpperCase r.label = r.label
  seatLabels : ∀ id s, db.seats.lookup id = some s → toUpperCase s.label = s.label

/-- Seats of one section do not share their coordinates. -/
def SeatMapDb.Apart (db : SeatMapDb) : Prop :=
  ∀ k s k' s', db.seats.lookup k = some s → db.seats.lookup k' = some s' →
    db.sectionOf s = db.sectionOf s' → s.x = s'.x → s.y = s'.y → k = k'

structure SeatMapDb.Tidy [Casing] (db : SeatMapDb) : Prop where
  placed : db.Placed
  stored : db.Stored
  sections : Table.Siblings sectionFiling SEAT_MAP_LIMITS.maximumSections db.sections
  rows : Table.Siblings rowFiling SEAT_MAP_LIMITS.maximumRowsPerSection db.rows
  seats : Table.Siblings seatFiling SEAT_MAP_LIMITS.maximumSeatsPerRow db.seats
  canvas : ∀ id s, db.seats.lookup id = some s → s.publication.isOutside = false
  apart : db.Apart
  seatLimit : ∀ id, db.seatCount id ≤ SEAT_MAP_LIMITS.maximumSeatsPerMap

/-! ## §2 The lists of the graph -/

section Graph

variable {db : SeatMapDb}

theorem mem_orderedSections {id : SeatMapId} {e : SectionId × SeatSection} :
    e ∈ db.orderedSections id ↔ db.sections.lookup e.1 = some e.2 ∧ e.2.seatMapId = id := by
  unfold SeatMapDb.orderedSections
  rw [List.mem_insertionSort]
  exact Table.mem_children

theorem mem_orderedRows {id : SectionId} {e : RowId × SeatRow} :
    e ∈ db.orderedRows id ↔ db.rows.lookup e.1 = some e.2 ∧ e.2.sectionId = id := by
  unfold SeatMapDb.orderedRows
  rw [List.mem_insertionSort]
  exact Table.mem_children

theorem mem_orderedSeats {id : RowId} {e : SeatId × Seat} :
    e ∈ db.orderedSeats id ↔ db.seats.lookup e.1 = some e.2 ∧ e.2.rowId = id := by
  unfold SeatMapDb.orderedSeats
  rw [List.mem_insertionSort]
  exact Table.mem_children

theorem nodup_orderedSections {id : SeatMapId} : (db.orderedSections id).Nodup :=
  (List.perm_insertionSort _ _).nodup_iff.mpr (Table.nodup_children id db.sections)

theorem nodup_orderedRows {id : SectionId} : (db.orderedRows id).Nodup :=
  (List.perm_insertionSort _ _).nodup_iff.mpr (Table.nodup_children id db.rows)

theorem nodup_orderedSeats {id : RowId} : (db.orderedSeats id).Nodup :=
  (List.perm_insertionSort _ _).nodup_iff.mpr (Table.nodup_children id db.seats)

theorem length_orderedSections {id : SeatMapId} :
    (db.orderedSections id).length = db.sections.childCount sectionFiling id :=
  (List.length_insertionSort _ _).trans Table.length_children

theorem length_orderedRows {id : SectionId} :
    (db.orderedRows id).length = db.rows.childCount rowFiling id :=
  (List.length_insertionSort _ _).trans Table.length_children

theorem length_orderedSeats {id : RowId} :
    (db.orderedSeats id).length = db.seats.childCount seatFiling id :=
  (List.length_insertionSort _ _).trans Table.length_children

/-- The seats of a section, row by row. -/
def SeatMapDb.seatsOfSection (db : SeatMapDb) (id : SectionId) : List (SeatId × Seat) :=
  (db.orderedRows id).flatMap fun e => db.orderedSeats e.1

/-- The seats of a map, section by section. -/
def SeatMapDb.seatsOfMap (db : SeatMapDb) (id : SeatMapId) : List (SeatId × Seat) :=
  (db.orderedSections id).flatMap fun e => db.seatsOfSection e.1

theorem mem_seatsOfSection {id : SectionId} {e : SeatId × Seat} :
    e ∈ db.seatsOfSection id ↔
      db.seats.lookup e.1 = some e.2 ∧ db.sectionOf e.2 = some id := by
  unfold SeatMapDb.seatsOfSection SeatMapDb.sectionOf
  rw [List.mem_flatMap]
  constructor
  · rintro ⟨row, hrow, hseat⟩
    obtain ⟨hrow, hsection⟩ := mem_orderedRows.mp hrow
    obtain ⟨hseat, hparent⟩ := mem_orderedSeats.mp hseat
    refine ⟨hseat, ?_⟩
    rw [hparent, hrow, Option.map_some, hsection]
  · rintro ⟨hseat, hsection⟩
    obtain ⟨row, hrow, hsection⟩ := Option.map_eq_some_iff.mp hsection
    exact ⟨(e.2.rowId, row), mem_orderedRows.mpr ⟨hrow, hsection⟩,
      mem_orderedSeats.mpr ⟨hseat, rfl⟩⟩

theorem nodup_seatsOfSection {id : SectionId} : (db.seatsOfSection id).Nodup := by
  unfold SeatMapDb.seatsOfSection
  rw [List.nodup_flatMap]
  refine ⟨fun row _ => nodup_orderedSeats, ?_⟩
  -- two rows of the list have different keys, and a seat has one row
  refine nodup_orderedRows.imp_of_mem fun {row row'} hrow hrow' hne => ?_
  intro seat hseat hseat'
  have hkey := (mem_orderedSeats.mp hseat).2.symm.trans (mem_orderedSeats.mp hseat').2
  have hlook := (mem_orderedRows.mp hrow).1
  rw [hkey, (mem_orderedRows.mp hrow').1] at hlook
  exact hne (Prod.ext hkey (Option.some.inj hlook).symm)

theorem mem_seatsOfMap {id : SeatMapId} {e : SeatId × Seat} :
    e ∈ db.seatsOfMap id ↔
      db.seats.lookup e.1 = some e.2 ∧ db.mapOfRow e.2.rowId = some id := by
  unfold SeatMapDb.seatsOfMap SeatMapDb.mapOfRow SeatMapDb.mapOfSection
  rw [List.mem_flatMap]
  constructor
  · rintro ⟨section_, hsection, hseat⟩
    obtain ⟨hsection, hmap⟩ := mem_orderedSections.mp hsection
    obtain ⟨hseat, hparent⟩ := mem_seatsOfSection.mp hseat
    obtain ⟨row, hrow, hkey⟩ := Option.map_eq_some_iff.mp hparent
    refine ⟨hseat, ?_⟩
    rw [hrow, Option.bind_some, hkey, hsection, Option.map_some, hmap]
  · rintro ⟨hseat, hmap⟩
    obtain ⟨row, hrow, hmap⟩ := Option.bind_eq_some_iff.mp hmap
    obtain ⟨section_, hsection, hmap⟩ := Option.map_eq_some_iff.mp hmap
    refine ⟨(row.sectionId, section_), mem_orderedSections.mpr ⟨hsection, hmap⟩,
      mem_seatsOfSection.mpr ⟨hseat, ?_⟩⟩
    rw [SeatMapDb.sectionOf, hrow, Option.map_some]

theorem nodup_seatsOfMap {id : SeatMapId} : (db.seatsOfMap id).Nodup := by
  unfold SeatMapDb.seatsOfMap
  rw [List.nodup_flatMap]
  refine ⟨fun section_ _ => nodup_seatsOfSection, ?_⟩
  refine nodup_orderedSections.imp_of_mem fun {section_ section'} hsection hsection' hne => ?_
  intro seat hseat hseat'
  have hkey := Option.some.inj
    ((mem_seatsOfSection.mp hseat).2.symm.trans (mem_seatsOfSection.mp hseat').2)
  have hlook := (mem_orderedSections.mp hsection).1
  rw [hkey, (mem_orderedSections.mp hsection').1] at hlook
  exact hne (Prod.ext hkey (Option.some.inj hlook).symm)

/-- The graph of a map holds the seats that the service counts. -/
theorem totalSeats_graph (db : SeatMapDb) (id : SeatMapId) :
    (db.graph id).totalSeats = db.seatCount id := by
  have hperm : (db.seatsOfMap id).Perm
      (db.seats.select fun _ seat => db.mapOfRow seat.rowId == some id) := by
    refine (List.perm_ext_iff_of_nodup nodup_seatsOfMap
      (List.Nodup.of_map Prod.fst (Table.nodup_select_fst _ _))).mpr fun e => ?_
    rw [mem_seatsOfMap]
    constructor
    · rintro ⟨hseat, hmap⟩
      exact Table.mem_select.mpr ⟨hseat, beq_iff_eq.mpr hmap⟩
    · intro hselected
      obtain ⟨hseat, hmap⟩ := Table.mem_select.mp hselected
      exact ⟨hseat, beq_iff_eq.mp hmap⟩
  unfold SeatMapDb.seatCount
  rw [← hperm.length_eq]
  unfold PublicationGraph.totalSeats SeatMapDb.graph SeatMapDb.seatsOfMap SeatMapDb.seatsOfSection
  simp only [List.length_flatMap, List.map_map]
  refine congrArg List.sum (List.map_congr_left fun section_ _ => ?_)
  simp only [Function.comp_apply, SeatMapDb.publicationSection, List.map_map]
  refine congrArg List.sum (List.map_congr_left fun row _ => ?_)
  simp only [Function.comp_apply, SeatMapDb.publicationRow, List.length_map]

theorem coordinates_publicationSection (e : SectionId × SeatSection) :
    (db.publicationSection e).coordinates =
      (db.seatsOfSection e.1).map fun seat => (seat.2.x, seat.2.y) := by
  unfold PublicationSection.coordinates SeatMapDb.publicationSection SeatMapDb.seatsOfSection
  rw [List.flatMap_map, List.map_flatMap]
  refine List.flatMap_congr fun row _ => ?_
  simp only [SeatMapDb.publicationRow, List.map_map]
  rfl

end Graph

/-! ## §3 Tidy tables and well-formed graphs -/

section WellFormed

variable {db : SeatMapDb}

theorem nodup_sections {α : Type} (f : SeatSection → α) (id : SeatMapId) :
    ((db.orderedSections id).map fun e => f e.2).Nodup ↔
      ∀ k s k' s', db.sections.lookup k = some s → db.sections.lookup k' = some s' →
        s.seatMapId = id → s'.seatMapId = id → f s = f s' → k = k' := by
  rw [Table.nodup_column (t := db.sections) nodup_orderedSections
    fun e he => (mem_orderedSections.mp he).1]
  constructor
  · intro h k s k' s' hs hs' hmap hmap'
    exact h k s k' s' (mem_orderedSections.mpr ⟨hs, hmap⟩) (mem_orderedSections.mpr ⟨hs', hmap'⟩)
  · intro h k s k' s' hs hs'
    obtain ⟨hs, hmap⟩ := mem_orderedSections.mp hs
    obtain ⟨hs', hmap'⟩ := mem_orderedSections.mp hs'
    exact h k s k' s' hs hs' hmap hmap'

theorem nodup_rows {α : Type} (f : SeatRow → α) (id : SectionId) :
    ((db.orderedRows id).map fun e => f e.2).Nodup ↔
      ∀ k r k' r', db.rows.lookup k = some r → db.rows.lookup k' = some r' →
        r.sectionId = id → r'.sectionId = id → f r = f r' → k = k' := by
  rw [Table.nodup_column (t := db.rows) nodup_orderedRows fun e he => (mem_orderedRows.mp he).1]
  constructor
  · intro h k r k' r' hr hr' hsection hsection'
    exact h k r k' r' (mem_orderedRows.mpr ⟨hr, hsection⟩) (mem_orderedRows.mpr ⟨hr', hsection'⟩)
  · intro h k r k' r' hr hr'
    obtain ⟨hr, hsection⟩ := mem_orderedRows.mp hr
    obtain ⟨hr', hsection'⟩ := mem_orderedRows.mp hr'
    exact h k r k' r' hr hr' hsection hsection'

theorem nodup_seats {α : Type} (f : Seat → α) (id : RowId) :
    ((db.orderedSeats id).map fun e => f e.2).Nodup ↔
      ∀ k s k' s', db.seats.lookup k = some s → db.seats.lookup k' = some s' →
        s.rowId = id → s'.rowId = id → f s = f s' → k = k' := by
  rw [Table.nodup_column (t := db.seats) nodup_orderedSeats fun e he => (mem_orderedSeats.mp he).1]
  constructor
  · intro h k s k' s' hs hs' hrow hrow'
    exact h k s k' s' (mem_orderedSeats.mpr ⟨hs, hrow⟩) (mem_orderedSeats.mpr ⟨hs', hrow'⟩)
  · intro h k s k' s' hs hs'
    obtain ⟨hs, hrow⟩ := mem_orderedSeats.mp hs
    obtain ⟨hs', hrow'⟩ := mem_orderedSeats.mp hs'
    exact h k s k' s' hs hs' hrow hrow'

/-- The coordinates of a section's seats. -/
theorem nodup_coordinates (id : SectionId) :
    ((db.seatsOfSection id).map fun e => (e.2.x, e.2.y)).Nodup ↔
      ∀ k s k' s', db.seats.lookup k = some s → db.seats.lookup k' = some s' →
        db.sectionOf s = some id → db.sectionOf s' = some id → s.x = s'.x → s.y = s'.y →
        k = k' := by
  rw [Table.nodup_column (t := db.seats) (f := fun s : Seat => (s.x, s.y)) nodup_seatsOfSection
    fun e he => (mem_seatsOfSection.mp he).1]
  constructor
  · intro h k s k' s' hs hs' hsection hsection' hx hy
    exact h k s k' s' (mem_seatsOfSection.mpr ⟨hs, hsection⟩)
      (mem_seatsOfSection.mpr ⟨hs', hsection'⟩) (Prod.ext hx hy)
  · intro h k s k' s' hs hs' hsame
    obtain ⟨hs, hsection⟩ := mem_seatsOfSection.mp hs
    obtain ⟨hs', hsection'⟩ := mem_seatsOfSection.mp hs'
    exact h k s k' s' hs hs' hsection hsection' (congrArg Prod.fst hsame) (congrArg Prod.snd hsame)

variable [Casing]

theorem SeatMapDb.Tidy.row (h : db.Tidy) (e : RowId × SeatRow) :
    (db.publicationRow e).WellFormed where
  limit := by
    show ((db.orderedSeats e.1).map _).length ≤ _
    rw [List.length_map, length_orderedSeats]
    exact h.seats.limited e.1
  labels := by
    show (((db.orderedSeats e.1).map _).map _).Nodup
    rw [List.map_map]
    refine (nodup_seats (fun s : Seat => toUpperCase s.label) e.1).mpr ?_
    intro k s k' s' hs hs' hrow hrow' hsame
    rw [h.stored.seatLabels k s hs, h.stored.seatLabels k' s' hs'] at hsame
    exact h.seats.labels k s k' s' hs hs' (hrow.trans hrow'.symm) hsame
  orders := by
    show (((db.orderedSeats e.1).map _).map _).Nodup
    rw [List.map_map]
    refine (nodup_seats (fun s : Seat => s.displayOrder) e.1).mpr ?_
    intro k s k' s' hs hs' hrow hrow' hsame
    exact h.seats.orders k s k' s' hs hs' (hrow.trans hrow'.symm) hsame
  canvas := by
    intro seat hseat
    obtain ⟨entry, hentry, rfl⟩ := List.mem_map.mp hseat
    exact h.canvas entry.1 entry.2 (mem_orderedSeats.mp hentry).1

theorem SeatMapDb.Tidy.section_ (h : db.Tidy) (e : SectionId × SeatSection) :
    (db.publicationSection e).WellFormed where
  limit := by
    show ((db.orderedRows e.1).map _).length ≤ _
    rw [List.length_map, length_orderedRows]
    exact h.rows.limited e.1
  labels := by
    show (((db.orderedRows e.1).map _).map _).Nodup
    rw [List.map_map]
    refine (nodup_rows (fun r : SeatRow => toUpperCase r.label) e.1).mpr ?_
    intro k r k' r' hr hr' hsection hsection' hsame
    rw [h.stored.rowLabels k r hr, h.stored.rowLabels k' r' hr'] at hsame
    exact h.rows.labels k r k' r' hr hr' (hsection.trans hsection'.symm) hsame
  orders := by
    show (((db.orderedRows e.1).map _).map _).Nodup
    rw [List.map_map]
    refine (nodup_rows (fun r : SeatRow => r.displayOrder) e.1).mpr ?_
    intro k r k' r' hr hr' hsection hsection' hsame
    exact h.rows.orders k r k' r' hr hr' (hsection.trans hsection'.symm) hsame
  coordinates := by
    rw [coordinates_publicationSection, nodup_coordinates]
    intro k s k' s' hs hs' hsection hsection' hx hy
    exact h.apart k s k' s' hs hs' (hsection.trans hsection'.symm) hx hy
  rows := by
    intro row hrow
    obtain ⟨entry, -, rfl⟩ := List.mem_map.mp hrow
    exact h.row entry

/-- **Tidy maps are well formed.** -/
theorem SeatMapDb.Tidy.wellFormed (h : db.Tidy) (id : SeatMapId) : (db.graph id).WellFormed where
  sectionLimit := by
    show ((db.orderedSections id).map _).length ≤ _
    rw [List.length_map, length_orderedSections]
    exact h.sections.limited id
  seatLimit := by
    rw [totalSeats_graph]
    exact h.seatLimit id
  codes := by
    show (((db.orderedSections id).map _).map _).Nodup
    rw [List.map_map]
    refine (nodup_sections (fun s : SeatSection => toUpperCase s.code) id).mpr ?_
    intro k s k' s' hs hs' hmap hmap' hsame
    rw [h.stored.codes k s hs, h.stored.codes k' s' hs'] at hsame
    exact h.sections.labels k s k' s' hs hs' (hmap.trans hmap'.symm) hsame
  orders := by
    show (((db.orderedSections id).map _).map _).Nodup
    rw [List.map_map]
    refine (nodup_sections (fun s : SeatSection => s.displayOrder) id).mpr ?_
    intro k s k' s' hs hs' hmap hmap' hsame
    exact h.sections.orders k s k' s' hs hs' (hmap.trans hmap'.symm) hsame
  sections := by
    intro section_ hsection
    obtain ⟨entry, -, rfl⟩ := List.mem_map.mp hsection
    exact h.section_ entry

theorem wellFormed_section (h : ∀ id, (db.graph id).WellFormed) {id : SectionId} {s : SeatSection}
    (hs : db.sections.lookup id = some s) : (db.publicationSection (id, s)).WellFormed :=
  (h s.seatMapId).sections _ (List.mem_map_of_mem (mem_orderedSections.mpr ⟨hs, rfl⟩))

theorem wellFormed_row (hplaced : db.Placed) (h : ∀ id, (db.graph id).WellFormed) {id : RowId}
    {r : SeatRow} (hr : db.rows.lookup id = some r) : (db.publicationRow (id, r)).WellFormed := by
  obtain ⟨s, hs⟩ := hplaced.rows id r hr
  exact (wellFormed_section h hs).rows _ (List.mem_map_of_mem (mem_orderedRows.mpr ⟨hr, rfl⟩))

theorem siblings_sections (h : ∀ id, (db.graph id).WellFormed) :
    Table.Siblings sectionFiling SEAT_MAP_LIMITS.maximumSections db.sections where
  labels := by
    intro k s k' s' hs hs' hparent hlabel
    have hcodes := (h s.seatMapId).codes
    rw [SeatMapDb.graph, List.map_map] at hcodes
    exact (nodup_sections (fun s : SeatSection => toUpperCase s.code) s.seatMapId).mp hcodes
      k s k' s' hs hs' rfl hparent.symm (congrArg toUpperCase hlabel)
  orders := by
    intro k s k' s' hs hs' hparent horder
    have horders := (h s.seatMapId).orders
    rw [SeatMapDb.graph, List.map_map] at horders
    exact (nodup_sections (fun s : SeatSection => s.displayOrder) s.seatMapId).mp horders
      k s k' s' hs hs' rfl hparent.symm horder
  limited := by
    intro id
    have hlimit := (h id).sectionLimit
    rwa [SeatMapDb.graph, List.length_map, length_orderedSections] at hlimit

theorem siblings_rows (hplaced : db.Placed) (h : ∀ id, (db.graph id).WellFormed) :
    Table.Siblings rowFiling SEAT_MAP_LIMITS.maximumRowsPerSection db.rows where
  labels := by
    intro k r k' r' hr hr' hparent hlabel
    obtain ⟨s, hs⟩ := hplaced.rows k r hr
    have hlabels := (wellFormed_section h hs).labels
    rw [SeatMapDb.publicationSection, List.map_map] at hlabels
    exact (nodup_rows (fun r : SeatRow => toUpperCase r.label) r.sectionId).mp hlabels
      k r k' r' hr hr' rfl hparent.symm (congrArg toUpperCase hlabel)
  orders := by
    intro k r k' r' hr hr' hparent horder
    obtain ⟨s, hs⟩ := hplaced.rows k r hr
    have horders := (wellFormed_section h hs).orders
    rw [SeatMapDb.publicationSection, List.map_map] at horders
    exact (nodup_rows (fun r : SeatRow => r.displayOrder) r.sectionId).mp horders
      k r k' r' hr hr' rfl hparent.symm horder
  limited := by
    intro id
    cases hs : db.sections.lookup id with
    | none =>
      refine (Table.count_eq_zero fun k r hr => ?_).trans_le (Nat.zero_le _)
      obtain ⟨s, hs'⟩ := hplaced.rows k r hr
      refine beq_eq_false_iff_ne.mpr fun hid => ?_
      rw [show r.sectionId = id from hid, hs] at hs'
      cases hs'
    | some s =>
      have hlimit := (wellFormed_section h hs).limit
      rwa [SeatMapDb.publicationSection, List.length_map, length_orderedRows] at hlimit

theorem siblings_seats (hplaced : db.Placed) (h : ∀ id, (db.graph id).WellFormed) :
    Table.Siblings seatFiling SEAT_MAP_LIMITS.maximumSeatsPerRow db.seats where
  labels := by
    intro k s k' s' hs hs' hparent hlabel
    obtain ⟨r, hr⟩ := hplaced.seats k s hs
    have hlabels := (wellFormed_row hplaced h hr).labels
    rw [SeatMapDb.publicationRow, List.map_map] at hlabels
    exact (nodup_seats (fun s : Seat => toUpperCase s.label) s.rowId).mp hlabels
      k s k' s' hs hs' rfl hparent.symm (congrArg toUpperCase hlabel)
  orders := by
    intro k s k' s' hs hs' hparent horder
    obtain ⟨r, hr⟩ := hplaced.seats k s hs
    have horders := (wellFormed_row hplaced h hr).orders
    rw [SeatMapDb.publicationRow, List.map_map] at horders
    exact (nodup_seats (fun s : Seat => s.displayOrder) s.rowId).mp horders
      k s k' s' hs hs' rfl hparent.symm horder
  limited := by
    intro id
    cases hr : db.rows.lookup id with
    | none =>
      refine (Table.count_eq_zero fun k s hs => ?_).trans_le (Nat.zero_le _)
      obtain ⟨r, hr'⟩ := hplaced.seats k s hs
      refine beq_eq_false_iff_ne.mpr fun hid => ?_
      rw [show s.rowId = id from hid, hr] at hr'
      cases hr'
    | some r =>
      have hlimit := (wellFormed_row hplaced h hr).limit
      rwa [SeatMapDb.publicationRow, List.length_map, length_orderedSeats] at hlimit

/-- Conversely, where every graph is well formed the tables are tidy. -/
theorem tidy_of_wellFormed (hplaced : db.Placed) (hstored : db.Stored)
    (h : ∀ id, (db.graph id).WellFormed) : db.Tidy where
  placed := hplaced
  stored := hstored
  sections := siblings_sections h
  rows := siblings_rows hplaced h
  seats := siblings_seats hplaced h
  canvas := by
    intro id s hs
    obtain ⟨r, hr⟩ := hplaced.seats id s hs
    have hmem : (id, s) ∈ db.orderedSeats s.rowId := mem_orderedSeats.mpr ⟨hs, rfl⟩
    exact (wellFormed_row hplaced h hr).canvas s.publication
      (List.mem_map_of_mem (f := fun e : SeatId × Seat => e.2.publication) hmem)
  apart := by
    intro k s k' s' hs hs' hsame hx hy
    obtain ⟨r, hr⟩ := hplaced.seats k s hs
    obtain ⟨section_, hsection⟩ := hplaced.rows s.rowId r hr
    have hcoordinates := (wellFormed_section h hsection).coordinates
    rw [coordinates_publicationSection, nodup_coordinates] at hcoordinates
    have hsectionOf : db.sectionOf s = some r.sectionId := by
      rw [SeatMapDb.sectionOf, hr, Option.map_some]
    exact hcoordinates k s k' s' hs hs' hsectionOf (hsame.symm.trans hsectionOf) hx hy
  seatLimit := by
    intro id
    rw [← totalSeats_graph]
    exact (h id).seatLimit

end WellFormed

/-! ## §4 What the constraints check -/

section Constraints

variable {db : SeatMapDb}

theorem SeatMapDb.exists_of_isDraft {id : Option SeatMapId} (h : db.IsDraft id) :
    ∃ m, id = some m ∧ ∃ row, db.seatMaps.lookup m = some row ∧ row.status = .DRAFT := by
  unfold SeatMapDb.IsDraft at h
  obtain ⟨row, hrow, hstatus⟩ := Option.map_eq_some_iff.mp h
  obtain ⟨m, hid, hrow⟩ := Option.bind_eq_some_iff.mp hrow
  exact ⟨m, hid, row, hrow, hstatus⟩

theorem SeatSection.of_validate {id : SectionId} {old : Option SeatSection} {new : SeatSection}
    (h : Prisma.seatSection.validate db id old new = .ok ()) :
    db.IsDraft (some new.seatMapId) ∧ Table.Unlabelled sectionFiling id new db.sections := by
  have hchecks : new.requireDraftMap db = .ok () ∧ db.sections.any (fun k s =>
      k != id && s.seatMapId == new.seatMapId && s.code == new.code) = false := by
    replace h : SeatSection.validate db id old new = .ok () := h
    cases old <;> simp only [SeatSection.validate, Except.bind_unit_eq_ok, checkRow_eq_ok,
      checkIndex_eq_ok] at h
    · obtain ⟨hdraft, -, hunique⟩ := h
      exact ⟨hdraft, hunique⟩
    · obtain ⟨-, hdraft, -, hunique⟩ := h
      exact ⟨hdraft, hunique⟩
  refine ⟨checkRow_eq_ok.mp hchecks.1, fun k s hs hne hparent hlabel => ?_⟩
  have hother := Table.any_eq_false.mp hchecks.2 k s hs
  simp [hne, show s.seatMapId = new.seatMapId from hparent,
    show s.code = new.code from hlabel] at hother

theorem SeatRow.of_validate {id : RowId} {old : Option SeatRow} {new : SeatRow}
    (h : Prisma.seatRow.validate db id old new = .ok ()) :
    db.IsDraft (db.mapOfSection new.sectionId) ∧ Table.Unlabelled rowFiling id new db.rows := by
  have hchecks : new.requireDraftMap db = .ok () ∧ db.rows.any (fun k r =>
      k != id && r.sectionId == new.sectionId && r.label == new.label) = false := by
    replace h : SeatRow.validate db id old new = .ok () := h
    cases old <;> simp only [SeatRow.validate, Except.bind_unit_eq_ok, checkRow_eq_ok,
      checkIndex_eq_ok] at h
    · obtain ⟨hdraft, -, hunique⟩ := h
      exact ⟨hdraft, hunique⟩
    · obtain ⟨-, hdraft, -, hunique⟩ := h
      exact ⟨hdraft, hunique⟩
  refine ⟨checkRow_eq_ok.mp hchecks.1, fun k r hr hne hparent hlabel => ?_⟩
  have hother := Table.any_eq_false.mp hchecks.2 k r hr
  simp [hne, show r.sectionId = new.sectionId from hparent,
    show r.label = new.label from hlabel] at hother

theorem Seat.of_validate {id : SeatId} {old : Option Seat} {new : Seat}
    (h : Prisma.seat.validate db id old new = .ok ()) :
    db.IsDraft (db.mapOfRow new.rowId) ∧ Table.Unlabelled seatFiling id new db.seats := by
  have hchecks : new.requireDraftMap db = .ok () ∧ db.seats.any (fun k s =>
      k != id && s.rowId == new.rowId && s.label == new.label) = false := by
    replace h : Seat.validate db id old new = .ok () := h
    cases old <;> simp only [Seat.validate, Except.bind_unit_eq_ok, checkRow_eq_ok,
      checkIndex_eq_ok] at h
    · obtain ⟨hdraft, -, -, -, hunique⟩ := h
      exact ⟨hdraft, hunique⟩
    · obtain ⟨-, hdraft, -, -, -, hunique⟩ := h
      exact ⟨hdraft, hunique⟩
  refine ⟨checkRow_eq_ok.mp hchecks.1, fun k s hs hne hparent hlabel => ?_⟩
  have hother := Table.any_eq_false.mp hchecks.2 k s hs
  simp [hne, show s.rowId = new.rowId from hparent,
    show s.label = new.label from hlabel] at hother

end Constraints

/-! ## §5 Single writes -/

section Writes

variable [Casing] {db : SeatMapDb}

omit [Casing] in
theorem seatCount_congr {db' : SeatMapDb} (hseats : db'.seats = db.seats)
    (hmap : ∀ k s, db.seats.lookup k = some s → db'.mapOfRow s.rowId = db.mapOfRow s.rowId)
    (id : SeatMapId) : db'.seatCount id = db.seatCount id := by
  unfold SeatMapDb.seatCount
  rw [Table.length_select, Table.length_select, hseats]
  exact Table.count_congr fun k s hs => by rw [hmap k s hs]

/-- A write that leaves the seats and their maps alone keeps to the limit. -/
theorem SeatMapDb.Tidy.seatLimit_of (h : db.Tidy) {db' : SeatMapDb} (hseats : db'.seats = db.seats)
    (hmap : ∀ k s, db.seats.lookup k = some s → db'.mapOfRow s.rowId = db.mapOfRow s.rowId)
    (id : SeatMapId) : db'.seatCount id ≤ SEAT_MAP_LIMITS.maximumSeatsPerMap := by
  rw [seatCount_congr hseats hmap]
  exact h.seatLimit id

/-- New versions of the maps: none of them is gone. -/
theorem SeatMapDb.Tidy.writeSeatMaps (h : db.Tidy) {t : Table SeatMapId SeatMap}
    (hkeep : ∀ id m, db.seatMaps.lookup id = some m → ∃ m', t.lookup id = some m') :
    ({ db with seatMaps := t } : SeatMapDb).Tidy :=
  { h with
    placed :=
      { h.placed with
        sections := fun k s hs => by
          obtain ⟨m, hm⟩ := h.placed.sections k s hs
          exact hkeep s.seatMapId m hm }
    stored := ⟨h.stored.codes, h.stored.rowLabels, h.stored.seatLabels⟩ }

theorem SeatMapDb.Tidy.insertSeatMap (h : db.Tidy) (id : SeatMapId) (row : SeatMap) :
    ({ db with seatMaps := db.seatMaps.insert id row } : SeatMapDb).Tidy := by
  refine h.writeSeatMaps fun k m hm => ?_
  rw [Table.lookup_insert_ite]
  split
  · exact ⟨row, rfl⟩
  · exact ⟨m, hm⟩

/-- New versions of the sections: those with rows stay in their maps. -/
theorem SeatMapDb.Tidy.writeSections (h : db.Tidy) {t : Table SectionId SeatSection}
    (hmaps : ∀ k r, db.rows.lookup k = some r →
      (t.lookup r.sectionId).map (·.seatMapId) =
        (db.sections.lookup r.sectionId).map (·.seatMapId))
    (hplaced : ∀ id s, t.lookup id = some s → ∃ m, db.seatMaps.lookup s.seatMapId = some m)
    (hupper : ∀ id s, t.lookup id = some s → toUpperCase s.code = s.code)
    (hsiblings : Table.Siblings sectionFiling SEAT_MAP_LIMITS.maximumSections t) :
    ({ db with sections := t } : SeatMapDb).Tidy :=
  { h with
    placed :=
      { h.placed with
        sections := hplaced
        rows := fun id r hr => by
          obtain ⟨s, hs⟩ := h.placed.rows id r hr
          have hnew := hmaps id r hr
          rw [hs] at hnew
          obtain ⟨s', hs', -⟩ := Option.map_eq_some_iff.mp hnew
          exact ⟨s', hs'⟩ }
    stored := { h.stored with codes := hupper }
    sections := hsiblings
    seatLimit := fun m => by
      refine h.seatLimit_of (by rfl) (fun k seat hseat => ?_) m
      obtain ⟨r, hr⟩ := h.placed.seats k seat hseat
      show (db.rows.lookup seat.rowId).bind _ = (db.rows.lookup seat.rowId).bind _
      rw [hr]
      exact hmaps _ r hr }

theorem SeatMapDb.Tidy.insertSection (h : db.Tidy) {id : SectionId} {s : SeatSection}
    (habsent : db.sections.lookup id = none) (hmap : ∃ m, db.seatMaps.lookup s.seatMapId = some m)
    (hupper : toUpperCase s.code = s.code)
    (hlabel : Table.Unlabelled sectionFiling id s db.sections)
    (hplace : Table.Unplaced sectionFiling id s db.sections)
    (hroom : db.sections.childCount sectionFiling s.seatMapId < SEAT_MAP_LIMITS.maximumSections) :
    ({ db with sections := db.sections.insert id s } : SeatMapDb).Tidy := by
  refine h.writeSections (fun k r hr => ?_) (fun k s' hs' => ?_) (fun k s' hs' => ?_)
    (h.sections.insert habsent hlabel hplace hroom)
  · obtain ⟨s', hs'⟩ := h.placed.rows k r hr
    refine congrArg _ (AList.lookup_insert_ne fun hid => ?_)
    rw [hid, habsent] at hs'
    cases hs'
  · rcases Table.wrote_insert.cases hs' with ⟨rfl, rfl⟩ | ⟨-, hs'⟩
    · exact hmap
    · exact h.placed.sections k s' hs'
  · rcases Table.wrote_insert.cases hs' with ⟨rfl, rfl⟩ | ⟨-, hs'⟩
    · exact hupper
    · exact h.stored.codes k s' hs'

/-- Sections that all stay where they are. -/
theorem SeatMapDb.Tidy.updateSections (h : db.Tidy) {t : Table SectionId SeatSection}
    (hmaps : ∀ id, (t.lookup id).map (·.seatMapId) = (db.sections.lookup id).map (·.seatMapId))
    (hupper : ∀ id s, t.lookup id = some s → toUpperCase s.code = s.code)
    (hsiblings : Table.Siblings sectionFiling SEAT_MAP_LIMITS.maximumSections t) :
    ({ db with sections := t } : SeatMapDb).Tidy := by
  refine h.writeSections (fun k r _ => hmaps r.sectionId) (fun id s hs => ?_) hupper hsiblings
  have hold := hmaps id
  rw [hs] at hold
  obtain ⟨s₀, hs₀, hsame⟩ := Option.map_eq_some_iff.mp hold.symm
  obtain ⟨m, hm⟩ := h.placed.sections id s₀ hs₀
  rw [show s₀.seatMapId = s.seatMapId from hsame] at hm
  exact ⟨m, hm⟩

theorem SeatMapDb.Tidy.eraseSection (h : db.Tidy) {id : SectionId}
    (hempty : ∀ k r, db.rows.lookup k = some r → r.sectionId ≠ id) :
    ({ db with sections := db.sections.erase id } : SeatMapDb).Tidy := by
  refine h.writeSections (fun k r hr => ?_) (fun k s hs => ?_) (fun k s hs => ?_)
    (h.sections.erase id)
  · rw [AList.lookup_erase_ne (hempty k r hr)]
  · exact h.placed.sections k s (Table.lookup_of_erase hs).2
  · exact h.stored.codes k s (Table.lookup_of_erase hs).2

/-- New versions of the rows: those with seats stay in their sections. -/
theorem SeatMapDb.Tidy.writeRows (h : db.Tidy) {t : Table RowId SeatRow}
    (hsections : ∀ k s, db.seats.lookup k = some s →
      (t.lookup s.rowId).map (·.sectionId) = db.sectionOf s)
    (hplaced : ∀ id r, t.lookup id = some r → ∃ s, db.sections.lookup r.sectionId = some s)
    (hupper : ∀ id r, t.lookup id = some r → toUpperCase r.label = r.label)
    (hsiblings : Table.Siblings rowFiling SEAT_MAP_LIMITS.maximumRowsPerSection t) :
    ({ db with rows := t } : SeatMapDb).Tidy :=
  { h with
    placed :=
      { h.placed with
        rows := hplaced
        seats := fun id s hs => by
          obtain ⟨r, hr⟩ := h.placed.seats id s hs
          have hnew := hsections id s hs
          rw [SeatMapDb.sectionOf, hr] at hnew
          obtain ⟨r', hr', -⟩ := Option.map_eq_some_iff.mp hnew
          exact ⟨r', hr'⟩ }
    stored := { h.stored with rowLabels := hupper }
    rows := hsiblings
    apart := fun k s k' s' hs hs' hsame => by
      refine h.apart k s k' s' hs hs' ?_
      rw [← hsections k s hs, ← hsections k' s' hs']
      exact hsame
    seatLimit := fun m => by
      refine h.seatLimit_of (by rfl) (fun k seat hseat => ?_) m
      have hsame := congrArg (Option.bind · db.mapOfSection) (hsections k seat hseat)
      rw [SeatMapDb.sectionOf, Option.bind_map, Option.bind_map] at hsame
      exact hsame }

theorem SeatMapDb.Tidy.insertRow (h : db.Tidy) {id : RowId} {r : SeatRow}
    (habsent : db.rows.lookup id = none)
    (hsection : ∃ s, db.sections.lookup r.sectionId = some s)
    (hupper : toUpperCase r.label = r.label) (hlabel : Table.Unlabelled rowFiling id r db.rows)
    (hplace : Table.Unplaced rowFiling id r db.rows)
    (hroom : db.rows.childCount rowFiling r.sectionId < SEAT_MAP_LIMITS.maximumRowsPerSection) :
    ({ db with rows := db.rows.insert id r } : SeatMapDb).Tidy := by
  refine h.writeRows (fun k s hs => ?_) (fun k r' hr' => ?_) (fun k r' hr' => ?_)
    (h.rows.insert habsent hlabel hplace hroom)
  · obtain ⟨r', hr'⟩ := h.placed.seats k s hs
    refine congrArg _ (AList.lookup_insert_ne fun hid => ?_)
    rw [hid, habsent] at hr'
    cases hr'
  · rcases Table.wrote_insert.cases hr' with ⟨rfl, rfl⟩ | ⟨-, hr'⟩
    · exact hsection
    · exact h.placed.rows k r' hr'
  · rcases Table.wrote_insert.cases hr' with ⟨rfl, rfl⟩ | ⟨-, hr'⟩
    · exact hupper
    · exact h.stored.rowLabels k r' hr'

theorem SeatMapDb.Tidy.updateRows (h : db.Tidy) {t : Table RowId SeatRow}
    (hsections : ∀ id, (t.lookup id).map (·.sectionId) = (db.rows.lookup id).map (·.sectionId))
    (hupper : ∀ id r, t.lookup id = some r → toUpperCase r.label = r.label)
    (hsiblings : Table.Siblings rowFiling SEAT_MAP_LIMITS.maximumRowsPerSection t) :
    ({ db with rows := t } : SeatMapDb).Tidy := by
  refine h.writeRows (fun k s _ => hsections s.rowId) (fun id r hr => ?_) hupper hsiblings
  have hold := hsections id
  rw [hr] at hold
  obtain ⟨r₀, hr₀, hsame⟩ := Option.map_eq_some_iff.mp hold.symm
  obtain ⟨s, hs⟩ := h.placed.rows id r₀ hr₀
  rw [show r₀.sectionId = r.sectionId from hsame] at hs
  exact ⟨s, hs⟩

theorem SeatMapDb.Tidy.eraseRow (h : db.Tidy) {id : RowId}
    (hempty : ∀ k s, db.seats.lookup k = some s → s.rowId ≠ id) :
    ({ db with rows := db.rows.erase id } : SeatMapDb).Tidy := by
  refine h.writeRows (fun k s hs => ?_) (fun k r hr => ?_) (fun k r hr => ?_) (h.rows.erase id)
  · rw [AList.lookup_erase_ne (hempty k s hs), SeatMapDb.sectionOf]
  · exact h.placed.rows k r (Table.lookup_of_erase hr).2
  · exact h.stored.rowLabels k r (Table.lookup_of_erase hr).2

/-- No other seat of the section of `s` is at its coordinates. -/
def SeatMapDb.Free (db : SeatMapDb) (id : SeatId) (s : Seat) : Prop :=
  ∀ k s', db.seats.lookup k = some s' → k ≠ id → db.sectionOf s' = db.sectionOf s →
    s'.x = s.x → s'.y ≠ s.y

/-- A seat that is written where it is free. -/
theorem SeatMapDb.Tidy.writeSeat (h : db.Tidy) {id : SeatId} {s : Seat}
    (hrow : ∃ r, db.rows.lookup s.rowId = some r) (hupper : toUpperCase s.label = s.label)
    (hcanvas : s.publication.isOutside = false) (hfree : db.Free id s)
    (hsiblings : Table.Siblings seatFiling SEAT_MAP_LIMITS.maximumSeatsPerRow
      (db.seats.insert id s))
    (hlimit : ∀ m, Table.count (fun _ seat => db.mapOfRow seat.rowId == some m)
      (db.seats.insert id s) ≤ SEAT_MAP_LIMITS.maximumSeatsPerMap) :
    ({ db with seats := db.seats.insert id s } : SeatMapDb).Tidy :=
  { h with
    placed :=
      { h.placed with
        seats := fun k s' hs' => by
          rcases Table.wrote_insert.cases hs' with ⟨rfl, rfl⟩ | ⟨-, hs'⟩
          · exact hrow
          · exact h.placed.seats k s' hs' }
    stored :=
      { h.stored with
        seatLabels := fun k s' hs' => by
          rcases Table.wrote_insert.cases hs' with ⟨rfl, rfl⟩ | ⟨-, hs'⟩
          · exact hupper
          · exact h.stored.seatLabels k s' hs' }
    seats := hsiblings
    canvas := fun k s' hs' => by
      rcases Table.wrote_insert.cases hs' with ⟨rfl, rfl⟩ | ⟨-, hs'⟩
      · exact hcanvas
      · exact h.canvas k s' hs'
    apart := by
      intro k₁ s₁ k₂ s₂ h₁ h₂ hsection hx hy
      rcases Table.wrote_insert.cases h₁ with ⟨rfl, rfl⟩ | ⟨hne₁, hold₁⟩ <;>
        rcases Table.wrote_insert.cases h₂ with ⟨rfl, rfl⟩ | ⟨hne₂, hold₂⟩
      · rfl
      · exact absurd hy.symm (hfree k₂ s₂ hold₂ hne₂ hsection.symm hx.symm)
      · exact absurd hy (hfree k₁ s₁ hold₁ hne₁ hsection hx)
      · exact h.apart k₁ s₁ k₂ s₂ hold₁ hold₂ hsection hx hy
    seatLimit := fun m => by
      unfold SeatMapDb.seatCount
      rw [Table.length_select]
      exact hlimit m }

omit [Casing] in
theorem seatCount_insertSeat_le {id : SeatId} {s : Seat} (habsent : db.seats.lookup id = none)
    (m : SeatMapId) :
    ({ db with seats := db.seats.insert id s } : SeatMapDb).seatCount m ≤ db.seatCount m + 1 := by
  unfold SeatMapDb.seatCount
  rw [Table.length_select, Table.length_select]
  have hcount := Table.count_insert_new (p := fun _ seat => db.mapOfRow seat.rowId == some m)
    (r := s) habsent
  refine hcount.trans_le ?_
  split <;> omega

theorem SeatMapDb.Tidy.insertSeat (h : db.Tidy) {id : SeatId} {s : Seat}
    (habsent : db.seats.lookup id = none) (hrow : ∃ r, db.rows.lookup s.rowId = some r)
    (hupper : toUpperCase s.label = s.label) (hcanvas : s.publication.isOutside = false)
    (hfree : db.Free id s) (hlabel : Table.Unlabelled seatFiling id s db.seats)
    (hplace : Table.Unplaced seatFiling id s db.seats)
    (hroom : db.seats.childCount seatFiling s.rowId < SEAT_MAP_LIMITS.maximumSeatsPerRow)
    (hlimit : ∀ m, db.mapOfRow s.rowId = some m →
      db.seatCount m < SEAT_MAP_LIMITS.maximumSeatsPerMap) :
    ({ db with seats := db.seats.insert id s } : SeatMapDb).Tidy := by
  refine h.writeSeat hrow hupper hcanvas hfree (h.seats.insert habsent hlabel hplace hroom)
    fun m => ?_
  rw [Table.count_insert_new habsent, ← Table.length_select]
  by_cases hm : db.mapOfRow s.rowId = some m
  · rw [if_pos (beq_iff_eq.mpr hm)]
    exact hlimit m hm
  · rw [if_neg (by simpa using hm)]
    exact h.seatLimit m

theorem SeatMapDb.Tidy.updateSeat (h : db.Tidy) {id : SeatId} {s s₀ : Seat}
    (hs : db.seats.lookup id = some s₀) (hrow : s.rowId = s₀.rowId)
    (horder : s.displayOrder = s₀.displayOrder)
    (hupper : toUpperCase s.label = s.label) (hcanvas : s.publication.isOutside = false)
    (hfree : db.Free id s) (hlabel : Table.Unlabelled seatFiling id s db.seats) :
    ({ db with seats := db.seats.insert id s } : SeatMapDb).Tidy := by
  refine h.writeSeat (by rw [hrow]; exact h.placed.seats id s₀ hs) hupper hcanvas hfree
    (h.seats.update hs hrow hlabel (h.seats.unplaced hs hrow horder)) fun m => ?_
  rw [Table.count_insert_same hs (by rw [hrow]), ← Table.length_select]
  exact h.seatLimit m

theorem SeatMapDb.Tidy.eraseSeat (h : db.Tidy) (id : SeatId) :
    ({ db with seats := db.seats.erase id } : SeatMapDb).Tidy :=
  { h with
    placed :=
      { h.placed with
        seats := fun k s hs => h.placed.seats k s (Table.lookup_of_erase hs).2 }
    stored :=
      { h.stored with
        seatLabels := fun k s hs => h.stored.seatLabels k s (Table.lookup_of_erase hs).2 }
    seats := h.seats.erase id
    canvas := fun k s hs => h.canvas k s (Table.lookup_of_erase hs).2
    apart := fun k s k' s' hs hs' =>
      h.apart k s k' s' (Table.lookup_of_erase hs).2 (Table.lookup_of_erase hs').2
    seatLimit := fun m => by
      refine le_trans ?_ (h.seatLimit m)
      unfold SeatMapDb.seatCount
      rw [Table.length_select, Table.length_select]
      exact Table.count_erase_le }

end Writes

end SeatFlow
