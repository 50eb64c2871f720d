import SeatFlow.Relational.Steps
import SeatFlow.SeatMaps.VenueServices

/-!
# Published seat maps

A map that was published once is kept as it was published: its row may only be archived, and no
write below a draft reaches its sections, rows and seats.
-/

namespace SeatFlow

open Relational

/-! ## §1 Writes below drafts -/

/-- The map has the same sections, rows and seats. -/
structure SeatMapDb.SameLayout (db db' : SeatMapDb) (id : SeatMapId) : Prop where
  sections : db'.orderedSections id = db.orderedSections id
  rows : ∀ e ∈ db.orderedSections id, db'.orderedRows e.1 = db.orderedRows e.1
  seats : ∀ e ∈ db.orderedSections id, ∀ e' ∈ db.orderedRows e.1,
    db'.orderedSeats e'.1 = db.orderedSeats e'.1

/-- A write below a draft: no map changes, and only drafts change their layout. -/
structure SeatMapDb.Drafting (db db' : SeatMapDb) : Prop where
  seatMaps : db'.seatMaps = db.seatMaps
  layout : ∀ id, ¬db.IsDraft (some id) → db.SameLayout db' id

section Drafting

variable {db db' db'' : SeatMapDb}

theorem SeatMapDb.sameLayout_refl (db : SeatMapDb) (id : SeatMapId) : db.SameLayout db id :=
  ⟨rfl, fun _ _ => rfl, fun _ _ _ _ => rfl⟩

theorem SeatMapDb.SameLayout.trans {id : SeatMapId} (h : db.SameLayout db' id)
    (h' : db'.SameLayout db'' id) : db.SameLayout db'' id where
  sections := h'.sections.trans h.sections
  rows e he := (h'.rows e (h.sections ▸ he)).trans (h.rows e he)
  seats e he e' he' := by
    have hrows : e' ∈ db'.orderedRows e.1 := by rwa [h.rows e he]
    have hsections : e ∈ db'.orderedSections id := by rwa [h.sections]
    exact (h'.seats e hsections e' hrows).trans (h.seats e he e' he')

/-- A graph is read off the sections of the map, their rows and the seats of these. -/
theorem SeatMapDb.SameLayout.graph {id : SeatMapId} (h : db.SameLayout db' id) :
    db'.graph id = db.graph id := by
  unfold SeatMapDb.graph
  rw [h.sections]
  congr 1
  refine List.map_congr_left fun e he => ?_
  unfold SeatMapDb.publicationSection
  rw [h.rows e he]
  congr 1
  refine List.map_congr_left fun e' he' => ?_
  unfold SeatMapDb.publicationRow
  rw [h.seats e he e' he']

theorem SeatMapDb.drafting_refl (db : SeatMapDb) : db.Drafting db :=
  ⟨rfl, fun id _ => db.sameLayout_refl id⟩

theorem SeatMapDb.isDraft_congr (h : db'.seatMaps = db.seatMaps) (id : Option SeatMapId) :
    db'.IsDraft id ↔ db.IsDraft id := by
  unfold SeatMapDb.IsDraft
  rw [h]

theorem SeatMapDb.Drafting.trans (h : db.Drafting db') (h' : db'.Drafting db'') :
    db.Drafting db'' where
  seatMaps := h'.seatMaps.trans h.seatMaps
  layout id hid := by
    have hkept : ¬db'.IsDraft (some id) := fun hdraft =>
      hid ((SeatMapDb.isDraft_congr h.seatMaps _).mp hdraft)
    exact (h.layout id hid).trans (h'.layout id hkept)

theorem SeatMapDb.Drafting.steps (h : Relation.ReflTransGen SeatMapDb.Drafting db db') :
    db.Drafting db' := by
  induction h with
  | refl => exact db.drafting_refl
  | tail _ hlast ih => exact ih.trans hlast

/-- The trigger on sections looks at the map of both versions of the row. -/
theorem SeatSection.drafts_of_validate {id : SectionId} {old : Option SeatSection}
    {new : SeatSection} (h : Prisma.seatSection.validate db id old new = .ok ()) :
    db.IsDraft (some new.seatMapId) ∧ ∀ s, old = some s → db.IsDraft (some s.seatMapId) := by
  refine ⟨(SeatSection.of_validate h).1, fun s hs => ?_⟩
  subst hs
  replace h : SeatSection.validate db id (some s) new = .ok () := h
  exact checkRow_eq_ok.mp (Except.bind_unit_eq_ok.mp h).1

/-- The trigger on seat rows looks at the map of both versions of the row. -/
theorem SeatRow.drafts_of_validate {id : RowId} {old : Option SeatRow} {new : SeatRow}
    (h : Prisma.seatRow.validate db id old new = .ok ()) :
    db.IsDraft (db.mapOfSection new.sectionId) ∧
      ∀ r, old = some r → db.IsDraft (db.mapOfSection r.sectionId) := by
  refine ⟨(SeatRow.of_validate h).1, fun r hr => ?_⟩
  subst hr
  replace h : SeatRow.validate db id (some r) new = .ok () := h
  exact checkRow_eq_ok.mp (Except.bind_unit_eq_ok.mp h).1

/-- The trigger on seats looks at the map of both versions of the row. -/
theorem Seat.drafts_of_validate {id : SeatId} {old : Option Seat} {new : Seat}
    (h : Prisma.seat.validate db id old new = .ok ()) :
    db.IsDraft (db.mapOfRow new.rowId) ∧ ∀ s, old = some s → db.IsDraft (db.mapOfRow s.rowId) := by
  refine ⟨(Seat.of_validate h).1, fun s hs => ?_⟩
  subst hs
  replace h : Seat.validate db id (some s) new = .ok () := h
  exact checkRow_eq_ok.mp (Except.bind_unit_eq_ok.mp h).1

/-- A section below a draft is none of a map that is no draft. -/
theorem section_ne_of_isDraft {id : SeatMapId} (hid : ¬db.IsDraft (some id)) {sectionId : SectionId}
    (hdraft : db.IsDraft (db.mapOfSection sectionId)) :
    ∀ e ∈ db.orderedSections id, sectionId ≠ e.1 := by
  rintro e he rfl
  obtain ⟨hlook, hmap⟩ := mem_orderedSections.mp he
  rw [SeatMapDb.mapOfSection, hlook, Option.map_some, hmap] at hdraft
  exact hid hdraft

/-- A row below a draft is none of a map that is no draft. -/
theorem row_ne_of_isDraft {id : SeatMapId} (hid : ¬db.IsDraft (some id)) {rowId : RowId}
    (hdraft : db.IsDraft (db.mapOfRow rowId)) :
    ∀ e ∈ db.orderedSections id, ∀ e' ∈ db.orderedRows e.1, rowId ≠ e'.1 := by
  rintro e he e' he' rfl
  obtain ⟨hlook, hsection⟩ := mem_orderedRows.mp he'
  rw [SeatMapDb.mapOfRow, hlook, Option.bind_some] at hdraft
  exact section_ne_of_isDraft hid hdraft e he hsection

theorem drafting_writeSections {t : Table SectionId SeatSection}
    (h : ∀ id, ¬db.IsDraft (some id) →
      t.children sectionFiling id = db.sections.children sectionFiling id) :
    db.Drafting { db with sections := t } where
  seatMaps := rfl
  layout id hid :=
    ⟨congrArg (List.insertionSort _) (h id hid), fun _ _ => rfl, fun _ _ _ _ => rfl⟩

theorem drafting_writeRows {t : Table RowId SeatRow}
    (h : ∀ id, ¬db.IsDraft (some id) → ∀ e ∈ db.orderedSections id,
      t.children rowFiling e.1 = db.rows.children rowFiling e.1) :
    db.Drafting { db with rows := t } where
  seatMaps := rfl
  layout id hid :=
    ⟨rfl, fun e he => congrArg (List.insertionSort _) (h id hid e he), fun _ _ _ _ => rfl⟩

theorem drafting_writeSeats {t : Table SeatId Seat}
    (h : ∀ id, ¬db.IsDraft (some id) → ∀ e ∈ db.orderedSections id, ∀ e' ∈ db.orderedRows e.1,
      t.children seatFiling e'.1 = db.seats.children seatFiling e'.1) :
    db.Drafting { db with seats := t } where
  seatMaps := rfl
  layout id hid :=
    ⟨rfl, fun _ _ => rfl, fun e he e' he' => congrArg (List.insertionSort _) (h id hid e he e' he')⟩

theorem admitsRow_seatSection : Prisma.seatSection.AdmitsRow SeatMapDb.Drafting := by
  intro db id row hvalid
  obtain ⟨hnew, hold⟩ := SeatSection.drafts_of_validate hvalid
  refine drafting_writeSections fun m hm => Table.children_insert_of_ne (fun s hs hmap => ?_) ?_
  · have hdraft := hold s hs
    rw [show s.seatMapId = m from hmap] at hdraft
    exact hm hdraft
  · intro hmap
    rw [show row.seatMapId = m from hmap] at hnew
    exact hm hnew

theorem admitsRow_seatRow : Prisma.seatRow.AdmitsRow SeatMapDb.Drafting := by
  intro db id row hvalid
  obtain ⟨hnew, hold⟩ := SeatRow.drafts_of_validate hvalid
  exact drafting_writeRows fun m hm e he => Table.children_insert_of_ne
    (fun r hr => section_ne_of_isDraft hm (hold r hr) e he) (section_ne_of_isDraft hm hnew e he)

theorem admitsRow_seat : Prisma.seat.AdmitsRow SeatMapDb.Drafting := by
  intro db id row hvalid
  obtain ⟨hnew, hold⟩ := Seat.drafts_of_validate hvalid
  exact drafting_writeSeats fun m hm e he e' he' => Table.children_insert_of_ne
    (fun s hs => row_ne_of_isDraft hm (hold s hs) e he e' he')
      (row_ne_of_isDraft hm hnew e he e' he')

theorem steps_deleteSectionRow (id : SectionId) :
    (deleteSectionRow id).Steps SeatMapDb.Drafting := by
  intro db a db' hrun
  obtain ⟨s, hs, hdraft, -, hdb'⟩ := commits_deleteSectionRow.mp
    (⟨a, db', hrun, rfl⟩ : Program.Commits _ db fun _ d => d = db')
  rw [← hdb']
  refine .single
    (drafting_writeSections fun m hm => Table.children_erase_of_ne fun s' hs' hmap => ?_)
  cases hs.symm.trans hs'
  rw [show s.seatMapId = m from hmap] at hdraft
  exact hm hdraft

theorem steps_deleteRowRow (id : RowId) : (deleteRowRow id).Steps SeatMapDb.Drafting := by
  intro db a db' hrun
  obtain ⟨r, hr, hdraft, -, hdb'⟩ := commits_deleteRowRow.mp
    (⟨a, db', hrun, rfl⟩ : Program.Commits _ db fun _ d => d = db')
  rw [← hdb']
  refine .single (drafting_writeRows fun m hm e he => Table.children_erase_of_ne fun r' hr' => ?_)
  cases hr.symm.trans hr'
  exact section_ne_of_isDraft hm hdraft e he

theorem deleteSeatRow_effect {id : SeatId} :
    Program.Ensures (deleteSeatRow id) db fun _ db' => ∃ seat, db.seats.lookup id = some seat ∧
      seat.requireDraftMap db = .ok () ∧ db' = { db with seats := db.seats.erase id } := by
  refine Program.ensures_perform.mpr fun eff heff => ?_
  beta_reduce at heff
  split at heff
  · cases heff
  · next seat hlookup =>
      obtain ⟨hdraft, heff⟩ := Except.bind_unit_eq_ok.mp heff
      obtain ⟨_, -, hlookup⟩ := Option.bind_eq_some_iff.mp hlookup
      rw [← Except.ok.inj heff]
      exact ⟨seat, hlookup, hdraft, rfl⟩

theorem steps_deleteSeatRow (id : SeatId) : (deleteSeatRow id).Steps SeatMapDb.Drafting := by
  refine Program.steps_iff_ensures.mpr fun db => deleteSeatRow_effect.mono ?_
  rintro _ _ ⟨seat, hseat, hdraft, rfl⟩
  refine .single
    (drafting_writeSeats fun m hm e he e' he' => Table.children_erase_of_ne fun s hs => ?_)
  cases hseat.symm.trans hs
  exact row_ne_of_isDraft hm (checkRow_eq_ok.mp hdraft) e he e' he'

end Drafting

/-! ## §2 The editor writes below drafts -/

section Editor

/-- What the constraints and triggers of the layout tables make of every write is a step. -/
structure EditorSteps (step : SeatMapDb → SeatMapDb → Prop) : Prop where
  seatSection : Prisma.seatSection.AdmitsRow step
  seatRow : Prisma.seatRow.AdmitsRow step
  seat : Prisma.seat.AdmitsRow step
  deleteSection : ∀ id, (deleteSectionRow id).Steps step
  deleteRow : ∀ id, (deleteRowRow id).Steps step
  deleteSeat : ∀ id, (deleteSeatRow id).Steps step

theorem editorSteps_drafting : EditorSteps SeatMapDb.Drafting :=
  ⟨admitsRow_seatSection, admitsRow_seatRow, admitsRow_seat, steps_deleteSectionRow,
    steps_deleteRowRow, steps_deleteSeatRow⟩

variable {step : SeatMapDb → SeatMapDb → Prop}

theorem steps_findAuthorizedSeatMap {scope : SeatMapScope} :
    (findAuthorizedSeatMap scope).Steps step :=
  Program.steps_read.bind fun _ => Program.steps_orThrow

theorem steps_findAuthorizedSection {scope : SeatMapScope} {sectionId : SectionId} :
    (findAuthorizedSection scope sectionId).Steps step :=
  steps_findAuthorizedSeatMap.bind fun _ => Entity.steps_find.bind fun _ =>
    Program.steps_require.bind fun _ => Program.steps_pure

theorem steps_findAuthorizedRow {scope : SeatMapScope} {sectionId : SectionId} {rowId : RowId} :
    (findAuthorizedRow scope sectionId rowId).Steps step :=
  steps_findAuthorizedSection.bind fun _ => Entity.steps_find.bind fun _ =>
    Program.steps_require.bind fun _ => Program.steps_pure

theorem steps_findAuthorizedSeat {scope : SeatMapScope} {sectionId : SectionId} {rowId : RowId}
    {seatId : SeatId} : (findAuthorizedSeat scope sectionId rowId seatId).Steps step :=
  steps_findAuthorizedRow.bind fun _ => Entity.steps_find.bind fun _ =>
    Program.steps_require.bind fun _ => Program.steps_pure

theorem steps_assertEditableMap {access : SeatMapAccess} : (assertEditableMap access).Steps step :=
  Program.steps_require.bind fun _ => Program.steps_require

theorem steps_assertMapStillEditable {seatMapId : SeatMapId} :
    (assertMapStillEditable seatMapId).Steps step :=
  Program.steps_read.bind fun _ => Program.steps_orThrow.bind fun _ => steps_assertEditableMap

theorem steps_parsed {α : Type} {result : Except (List SchemaIssue) α} :
    (parsed result).Steps step := by
  cases result with
  | ok input => exact Program.steps_pure
  | error issues => exact Program.steps_abort

theorem steps_thrown {α : Type} {result : Except String α} : (thrown result).Steps step := by
  cases result with
  | ok a => exact Program.steps_pure
  | error message => exact Program.steps_abort

variable (h : EditorSteps step)

include h

theorem steps_insertSeats {rowId : RowId} {fresh : Nat → SeatId} {index : Nat}
    {seats : List PublicationSeat} :
    (insertSeats rowId fresh index seats).Steps step := by
  induction seats generalizing index with
  | nil => exact Program.steps_pure
  | cons seat seats ih => exact h.seat.insert.bind fun _ => ih

theorem steps_insertRows {sectionId : SectionId} {fresh : FreshRows} {index : Nat}
    {rows : List PublicationRow} :
    (insertRows sectionId fresh index rows).Steps step := by
  induction rows generalizing index with
  | nil => exact Program.steps_pure
  | cons row rows ih =>
    exact h.seatRow.insert.bind fun _ => (steps_insertSeats h).bind fun _ => ih

theorem steps_insertSections {seatMapId : SeatMapId} {fresh : FreshSeatMap} {index : Nat}
    {sections : List PublicationSection} :
    (insertSections seatMapId fresh index sections).Steps step := by
  induction sections generalizing index with
  | nil => exact Program.steps_pure
  | cons section_ sections ih =>
    exact h.seatSection.insert.bind fun _ => (steps_insertRows h).bind fun _ => ih

theorem steps_deleteSection {scope : SeatMapScope} {sectionId : SectionId} :
    (deleteSection scope sectionId).Steps step :=
  steps_findAuthorizedSection.bind fun _ => steps_assertEditableMap.bind fun _ =>
    h.deleteSection sectionId

theorem steps_deleteRow {scope : SeatMapScope} {sectionId : SectionId} {rowId : RowId} :
    (deleteRow scope sectionId rowId).Steps step :=
  steps_findAuthorizedRow.bind fun _ => steps_assertEditableMap.bind fun _ => h.deleteRow rowId

theorem steps_deleteSeat {scope : SeatMapScope} {sectionId : SectionId} {rowId : RowId}
    {seatId : SeatId} : (deleteSeat scope sectionId rowId seatId).Steps step :=
  steps_findAuthorizedSeat.bind fun _ => steps_assertEditableMap.bind fun _ =>
    h.deleteSeat seatId

theorem steps_moveSection {scope : SeatMapScope} {sectionId : SectionId}
    {direction : MoveDirection} :
    (moveSection scope sectionId direction).Steps step := by
  refine steps_findAuthorizedSection.bind fun _ => steps_assertEditableMap.bind fun _ => ?_
  refine Entity.steps_findMany.bind fun _ => ?_
  split
  · exact Program.steps_pure
  · exact h.seatSection.update.bind fun _ => h.seatSection.update.bind fun _ =>
      Program.steps_pure

theorem steps_moveRow {scope : SeatMapScope} {sectionId : SectionId} {rowId : RowId}
    {direction : MoveDirection} :
    (moveRow scope sectionId rowId direction).Steps step := by
  refine steps_findAuthorizedRow.bind fun _ => steps_assertEditableMap.bind fun _ => ?_
  refine Entity.steps_findMany.bind fun _ => ?_
  split
  · exact Program.steps_pure
  · exact h.seatRow.update.bind fun _ => h.seatRow.update.bind fun _ =>
      Program.steps_pure

variable [Casing]

theorem steps_createSection {scope : SeatMapScope} {input : SectionInput} {fresh : SectionId} :
    (createSection scope input fresh).Steps step := by
  refine steps_findAuthorizedSeatMap.bind fun _ => steps_assertEditableMap.bind fun _ => ?_
  refine steps_parsed.bind fun _ => steps_assertMapStillEditable.bind fun _ => ?_
  exact Entity.steps_findMany.bind fun _ => Program.steps_require.bind fun _ =>
    h.seatSection.insert

theorem steps_updateSection {scope : SeatMapScope} {sectionId : SectionId} {input : SectionInput} :
    (updateSection scope sectionId input).Steps step := by
  refine steps_findAuthorizedSection.bind fun _ => steps_assertEditableMap.bind fun _ => ?_
  exact steps_parsed.bind fun _ => h.seatSection.update.bind fun _ => Program.steps_pure

theorem steps_createRow {scope : SeatMapScope} {sectionId : SectionId} {input : RowInput}
    {fresh : RowId} : (createRow scope sectionId input fresh).Steps step := by
  refine steps_findAuthorizedSection.bind fun _ => steps_assertEditableMap.bind fun _ => ?_
  refine steps_parsed.bind fun _ => steps_assertMapStillEditable.bind fun _ => ?_
  exact Entity.steps_findMany.bind fun _ => Program.steps_require.bind fun _ =>
    h.seatRow.insert

theorem steps_updateRow {scope : SeatMapScope} {sectionId : SectionId} {rowId : RowId}
    {input : RowInput} :
    (updateRow scope sectionId rowId input).Steps step := by
  refine steps_findAuthorizedRow.bind fun _ => steps_assertEditableMap.bind fun _ => ?_
  exact steps_parsed.bind fun _ => h.seatRow.update.bind fun _ => Program.steps_pure

theorem steps_createSeat {scope : SeatMapScope} {sectionId : SectionId} {rowId : RowId}
    {input : SeatInput} {fresh : SeatId} :
    (createSeat scope sectionId rowId input fresh).Steps step := by
  refine steps_findAuthorizedRow.bind fun _ => steps_assertEditableMap.bind fun _ => ?_
  refine steps_parsed.bind fun _ => steps_assertMapStillEditable.bind fun _ => ?_
  refine Entity.steps_findMany.bind fun _ => Program.steps_read.bind fun _ => ?_
  refine Program.steps_read.bind fun _ => Program.steps_require.bind fun _ => ?_
  exact Program.steps_require.bind fun _ => Program.steps_require.bind fun _ => h.seat.insert

theorem steps_updateSeat {scope : SeatMapScope} {sectionId : SectionId} {rowId : RowId}
    {seatId : SeatId} {input : SeatInput} :
    (updateSeat scope sectionId rowId seatId input).Steps step := by
  refine steps_findAuthorizedSeat.bind fun _ => steps_assertEditableMap.bind fun _ => ?_
  refine steps_parsed.bind fun _ => steps_assertMapStillEditable.bind fun _ => ?_
  refine Program.steps_read.bind fun _ => Program.steps_require.bind fun _ => ?_
  exact h.seat.update.bind fun _ => Program.steps_pure

theorem steps_bulkGenerateRows {scope : SeatMapScope} {sectionId : SectionId}
    {input : BulkSeatGenerationInput} {fresh : FreshRows} :
    (bulkGenerateRows scope sectionId input fresh).Steps step := by
  refine steps_findAuthorizedSection.bind fun _ => steps_assertEditableMap.bind fun _ => ?_
  refine steps_parsed.bind fun _ => steps_thrown.bind fun _ => steps_thrown.bind fun _ => ?_
  refine steps_assertMapStillEditable.bind fun _ => Entity.steps_findMany.bind fun _ => ?_
  refine Program.steps_read.bind fun _ => Program.steps_read.bind fun _ => ?_
  dsimp only
  split
  · exact Program.steps_abort
  · exact Program.steps_require.bind fun _ => Program.steps_require.bind fun _ =>
      Program.steps_require.bind fun _ => (steps_insertRows h)

end Editor

/-! ## §3 What is published is kept -/

/-- A later row of a map that is no longer a draft: the same, or archived since. -/
def SeatMap.KeptAs (m m' : SeatMap) : Prop :=
  m' = m ∨ m.status = .PUBLISHED ∧ m' = { m with status := .ARCHIVED }

theorem SeatMap.KeptAs.trans {m m' m'' : SeatMap} (h : m.KeptAs m') (h' : m'.KeptAs m'') :
    m.KeptAs m'' := by
  rcases h with rfl | ⟨hstatus, rfl⟩
  · exact h'
  · rcases h' with rfl | ⟨harchived, -⟩
    · exact .inr ⟨hstatus, rfl⟩
    · cases harchived

theorem SeatMap.KeptAs.settled {m m' : SeatMap} (h : m.KeptAs m') (hm : m.status ≠ .DRAFT) :
    m'.status ≠ .DRAFT := by
  rcases h with rfl | ⟨-, rfl⟩
  · exact hm
  · exact SeatMapStatus.noConfusion

/-- Every map that is no longer a draft is kept, with its layout. -/
def SeatMapDb.Keeping (db db' : SeatMapDb) : Prop :=
  ∀ id m, db.seatMaps.lookup id = some m → m.status ≠ .DRAFT →
    (∃ m', db'.seatMaps.lookup id = some m' ∧ m.KeptAs m') ∧ db.SameLayout db' id

section Kept

variable {db db' db'' : SeatMapDb}

theorem SeatMapDb.keeping_refl (db : SeatMapDb) : db.Keeping db :=
  fun id m hm _ => ⟨⟨m, hm, .inl rfl⟩, db.sameLayout_refl id⟩

theorem SeatMapDb.Keeping.trans (h : db.Keeping db') (h' : db'.Keeping db'') : db.Keeping db'' := by
  intro id m hm hstatus
  obtain ⟨⟨m', hm', hkept⟩, hlayout⟩ := h id m hm hstatus
  obtain ⟨⟨m'', hm'', hkept'⟩, hlayout'⟩ := h' id m' hm' (hkept.settled hstatus)
  exact ⟨⟨m'', hm'', hkept.trans hkept'⟩, hlayout.trans hlayout'⟩

theorem SeatMapDb.Keeping.steps (h : Relation.ReflTransGen SeatMapDb.Keeping db db') :
    db.Keeping db' := by
  induction h with
  | refl => exact db.keeping_refl
  | tail _ hlast ih => exact ih.trans hlast

theorem SeatMapDb.not_isDraft {id : SeatMapId} {m : SeatMap} (hm : db.seatMaps.lookup id = some m)
    (hstatus : m.status ≠ .DRAFT) : ¬db.IsDraft (some id) := by
  intro hdraft
  obtain ⟨_, ⟨⟩, m', hm', hdraft⟩ := SeatMapDb.exists_of_isDraft hdraft
  cases hm.symm.trans hm'
  exact hstatus hdraft

theorem SeatMapDb.Drafting.keeping (h : db.Drafting db') : db.Keeping db' := by
  intro id m hm hstatus
  refine ⟨⟨m, ?_, .inl rfl⟩, h.layout id (SeatMapDb.not_isDraft hm hstatus)⟩
  rw [h.seatMaps, hm]

theorem SeatMapDb.SameMaps.layout (h : db.SameMaps db') (id : SeatMapId) :
    db.SameLayout db' id where
  sections := by rw [SeatMapDb.orderedSections, h.sections, SeatMapDb.orderedSections]
  rows e _ := by rw [SeatMapDb.orderedRows, h.rows, SeatMapDb.orderedRows]
  seats e _ e' _ := by rw [SeatMapDb.orderedSeats, h.seats, SeatMapDb.orderedSeats]

theorem SeatMapDb.SameMaps.drafting (h : db.SameMaps db') : db.Drafting db' :=
  ⟨h.seatMaps, fun id _ => h.layout id⟩

/-- The trigger on published and archived maps. -/
theorem SeatMap.keptAs_of_validate {id : SeatMapId} {old new : SeatMap}
    (h : Prisma.seatMap.validate db id (some old) new = .ok ()) (hold : old.status ≠ .DRAFT) :
    old.KeptAs new := by
  replace h : SeatMap.validate db id (some old) new = .ok () := h
  have himmutable := (Except.bind_unit_eq_ok.mp h).1
  unfold SeatMap.enforceImmutableVersion at himmutable
  simp only [Except.bind_unit_eq_ok, checkRow_eq_ok] at himmutable
  obtain ⟨harchived, hpublished⟩ := himmutable
  have hstatus : old.status = .PUBLISHED := by
    cases hcase : old.status with
    | DRAFT => exact absurd hcase hold
    | PUBLISHED => rfl
    | ARCHIVED => exact absurd hcase harchived
  obtain ⟨hnew, hspace, hsource, hname, hversion, hat⟩ := hpublished hstatus
  obtain ⟨spaceId, source, name, version, status, publishedAt⟩ := new
  obtain ⟨spaceId₀, source₀, name₀, version₀, status₀, publishedAt₀⟩ := old
  dsimp only at hstatus hnew hspace hsource hname hversion hat
  subst hstatus hspace hsource hname hversion hat
  cases status with
  | DRAFT => exact absurd rfl hnew
  | PUBLISHED => exact .inl rfl
  | ARCHIVED => exact .inr ⟨rfl, rfl⟩

theorem admitsRow_seatMap : Prisma.seatMap.AdmitsRow SeatMapDb.Keeping := by
  intro db id row hvalid k m hm hstatus
  refine ⟨?_, rfl, fun _ _ => rfl, fun _ _ _ _ => rfl⟩
  show ∃ m', (db.seatMaps.insert id row).lookup k = some m' ∧ m.KeptAs m'
  rw [Table.lookup_insert_ite]
  split
  · rename_i hk
    subst hk
    rw [show (Prisma.seatMap.get db).lookup k = some m from hm] at hvalid
    exact ⟨row, rfl, SeatMap.keptAs_of_validate hvalid hstatus⟩
  · exact ⟨m, hm, .inl rfl⟩

theorem admitsBatch_seatMap : Prisma.seatMap.AdmitsBatch SeatMapDb.Keeping := by
  intro db p f hvalid k m hm hstatus
  refine ⟨⟨if p k m then f k m else m, ?_, ?_⟩, rfl, fun _ _ => rfl, fun _ _ _ _ => rfl⟩
  · show ((Prisma.seatMap.get db).putAll ((Prisma.seatMap.get db).updates p f)).lookup k = _
    rw [Table.lookup_putAll_updates, show (Prisma.seatMap.get db).lookup k = some m from hm,
      Option.map_some]
  · split
    · rename_i hp
      exact SeatMap.keptAs_of_validate (hvalid k m hm hp) hstatus
    · exact .inl rfl

variable [Casing]

/-- What the editor does below drafts, and what it does to maps. -/
inductive EditorAction.BelowDrafts : EditorAction → Prop
  | createSection {scope input fresh} : BelowDrafts (.createSection scope input fresh)
  | updateSection {scope id input} : BelowDrafts (.updateSection scope id input)
  | deleteSection {scope id} : BelowDrafts (.deleteSection scope id)
  | createRow {scope id input fresh} : BelowDrafts (.createRow scope id input fresh)
  | updateRow {scope id rowId input} : BelowDrafts (.updateRow scope id rowId input)
  | deleteRow {scope id rowId} : BelowDrafts (.deleteRow scope id rowId)
  | createSeat {scope id rowId input fresh} : BelowDrafts (.createSeat scope id rowId input fresh)
  | updateSeat {scope id rowId seatId input} :
      BelowDrafts (.updateSeat scope id rowId seatId input)
  | deleteSeat {scope id rowId seatId} : BelowDrafts (.deleteSeat scope id rowId seatId)
  | bulkGenerateRows {scope id input fresh} : BelowDrafts (.bulkGenerateRows scope id input fresh)
  | moveSection {scope id direction} : BelowDrafts (.moveSection scope id direction)
  | moveRow {scope id rowId direction} : BelowDrafts (.moveRow scope id rowId direction)

theorem steps_of_editorStep {step : SeatMapDb → SeatMapDb → Prop} (hsteps : EditorSteps step)
    {action : EditorAction} (haction : action.BelowDrafts) (h : editorStep db action = some db') :
    Relation.ReflTransGen step db db' := by
  cases haction <;> rw [← Option.some.inj h]
  case createSection => exact (steps_createSection hsteps).commit db
  case updateSection => exact (steps_updateSection hsteps).commit db
  case deleteSection => exact (steps_deleteSection hsteps).commit db
  case createRow => exact (steps_createRow hsteps).commit db
  case updateRow => exact (steps_updateRow hsteps).commit db
  case deleteRow => exact (steps_deleteRow hsteps).commit db
  case createSeat => exact (steps_createSeat hsteps).commit db
  case updateSeat => exact (steps_updateSeat hsteps).commit db
  case deleteSeat => exact (steps_deleteSeat hsteps).commit db
  case bulkGenerateRows => exact (steps_bulkGenerateRows hsteps).commit db
  case moveSection => exact (steps_moveSection hsteps).commit db
  case moveRow => exact (steps_moveRow hsteps).commit db

theorem drafting_of_editorStep {action : EditorAction} (haction : action.BelowDrafts)
    (h : editorStep db action = some db') : db.Drafting db' :=
  .steps (steps_of_editorStep editorSteps_drafting haction h)

omit [Casing] in
/-- Every action of the editor is one of these or works on a map. -/
theorem editorAction_cases (action : EditorAction) :
    action.BelowDrafts ∨
      (∃ authorized spaceId input fresh,
        action = .createDraftSeatMap authorized spaceId input fresh) ∨
      (∃ scope now, action = .publishSeatMap scope now) ∨
      ∃ scope fresh, action = .clonePublishedSeatMap scope fresh := by
  cases action with
  | createDraftSeatMap authorized spaceId input fresh =>
    exact .inr (.inl ⟨authorized, spaceId, input, fresh, rfl⟩)
  | publishSeatMap scope now => exact .inr (.inr (.inl ⟨scope, now, rfl⟩))
  | clonePublishedSeatMap scope fresh => exact .inr (.inr (.inr ⟨scope, fresh, rfl⟩))
  | createSection => exact .inl .createSection
  | updateSection => exact .inl .updateSection
  | deleteSection => exact .inl .deleteSection
  | createRow => exact .inl .createRow
  | updateRow => exact .inl .updateRow
  | deleteRow => exact .inl .deleteRow
  | createSeat => exact .inl .createSeat
  | updateSeat => exact .inl .updateSeat
  | deleteSeat => exact .inl .deleteSeat
  | bulkGenerateRows => exact .inl .bulkGenerateRows
  | moveSection => exact .inl .moveSection
  | moveRow => exact .inl .moveRow

/-- The writes of the editor, of a map's own row and of what lies around the maps are steps. -/
structure VenueSteps (step : SeatMapDb → SeatMapDb → Prop) : Prop extends EditorSteps step where
  seatMap : Prisma.seatMap.AdmitsRow step
  seatMaps : Prisma.seatMap.AdmitsBatch step
  outside : ∀ db db', db.SameMaps db' → step db db'

section Steps

variable {step : SeatMapDb → SeatMapDb → Prop} (h : VenueSteps step)

include h

omit [Casing] in
theorem steps_createDraftSeatMap {authorized : Bool} {spaceId : SpaceId} {input : SeatMapInput}
    {fresh : SeatMapId} : (createDraftSeatMap authorized spaceId input fresh).Steps step := by
  refine Program.steps_read.bind fun _ => Program.steps_orThrow.bind fun _ => ?_
  refine Program.steps_read.bind fun _ => Program.steps_orThrow.bind fun _ => ?_
  refine Program.steps_require.bind fun _ => steps_parsed.bind fun _ => ?_
  exact Program.steps_read.bind fun _ => h.seatMap.insert

omit [Casing] in
theorem steps_updateDraftSeatMap {scope : SeatMapScope} {input : SeatMapInput} :
    (updateDraftSeatMap scope input).Steps step := by
  refine steps_findAuthorizedSeatMap.bind fun _ => steps_assertEditableMap.bind fun _ => ?_
  exact steps_parsed.bind fun _ => h.seatMap.update.bind fun _ => Program.steps_pure

theorem steps_publishSeatMap {scope : SeatMapScope} {now : Time} :
    (publishSeatMap scope now).Steps step := by
  refine steps_findAuthorizedSeatMap.bind fun _ => ?_
  split
  · exact Program.steps_read
  · refine Program.steps_require.bind fun _ => Program.steps_require.bind fun _ => ?_
    refine Program.steps_read.bind fun _ => Program.steps_orThrow.bind fun _ => ?_
    refine Program.steps_read.bind fun _ => ?_
    dsimp only
    split
    · exact Program.steps_pure
    · refine Program.steps_require.bind fun _ => Program.steps_require.bind fun _ => ?_
      exact h.seatMaps.updateMany.bind fun _ => h.seatMap.update.bind fun _ => Program.steps_read

omit [Casing] in
theorem steps_clonePublishedSeatMap {scope : SeatMapScope} {fresh : FreshSeatMap} :
    (clonePublishedSeatMap scope fresh).Steps step := by
  refine steps_findAuthorizedSeatMap.bind fun _ => Program.steps_require.bind fun _ => ?_
  refine Program.steps_require.bind fun _ => Program.steps_read.bind fun _ => ?_
  refine Program.steps_orThrow.bind fun _ => Program.steps_require.bind fun _ => ?_
  refine Program.steps_read.bind fun _ => Program.steps_read.bind fun _ => ?_
  exact h.seatMap.insert.bind fun _ => steps_insertSections h.toEditorSteps

/-- **Step lemma.** Every operation of a venue is a sequence of such steps. -/
theorem steps_of_venueStep {action : VenueAction} (hstep : venueStep db action = some db') :
    Relation.ReflTransGen step db db' := by
  rcases venueStep_cases hstep with hsame | ⟨scope, input, rfl⟩ | ⟨edit, hedit⟩
  · exact .single (h.outside db db' hsame)
  · exact (steps_updateDraftSeatMap h).commit db
  · rcases editorAction_cases edit with hbelow | ⟨authorized, spaceId, input, fresh, rfl⟩ |
      ⟨scope, now, rfl⟩ | ⟨scope, fresh, rfl⟩
    · exact steps_of_editorStep h.toEditorSteps hbelow hedit
    · rw [← Option.some.inj hedit]
      exact (steps_createDraftSeatMap h).commit db
    · rw [← Option.some.inj hedit]
      exact (steps_publishSeatMap h).commit db
    · rw [← Option.some.inj hedit]
      exact (steps_clonePublishedSeatMap h).commit db

end Steps

omit [Casing] in
theorem venueSteps_keeping : VenueSteps SeatMapDb.Keeping where
  seatSection db id row hvalid := (admitsRow_seatSection db id row hvalid).keeping
  seatRow db id row hvalid := (admitsRow_seatRow db id row hvalid).keeping
  seat db id row hvalid := (admitsRow_seat db id row hvalid).keeping
  deleteSection id := (steps_deleteSectionRow id).mono fun _ _ hdrafting => hdrafting.keeping
  deleteRow id := (steps_deleteRowRow id).mono fun _ _ hdrafting => hdrafting.keeping
  deleteSeat id := (steps_deleteSeatRow id).mono fun _ _ hdrafting => hdrafting.keeping
  seatMap := admitsRow_seatMap
  seatMaps := admitsBatch_seatMap
  outside _ _ hsame := hsame.drafting.keeping

omit [Casing] in
theorem venueSteps_samePlaces : VenueSteps SeatMapDb.SamePlaces where
  seatSection := Entity.Free.row fun _ _ => samePlaces_of_eq rfl
  seatRow := Entity.Free.row fun _ _ => samePlaces_of_eq rfl
  seat := Entity.Free.row fun _ _ => samePlaces_of_eq rfl
  deleteSection id := by
    intro db a db' hrun
    obtain ⟨_, -, -, -, hdb'⟩ := commits_deleteSectionRow.mp
      (⟨a, db', hrun, rfl⟩ : Program.Commits _ db fun _ d => d = db')
    rw [← hdb']
    exact .single (samePlaces_of_eq rfl)
  deleteRow id := by
    intro db a db' hrun
    obtain ⟨_, -, -, -, hdb'⟩ := commits_deleteRowRow.mp
      (⟨a, db', hrun, rfl⟩ : Program.Commits _ db fun _ d => d = db')
    rw [← hdb']
    exact .single (samePlaces_of_eq rfl)
  deleteSeat id := by
    refine Program.steps_iff_ensures.mpr fun db => deleteSeatRow_effect.mono ?_
    rintro _ _ ⟨_, -, -, rfl⟩
    exact .single (samePlaces_of_eq rfl)
  seatMap := Entity.Free.row fun _ _ => samePlaces_of_eq rfl
  seatMaps := Entity.Free.batch fun _ _ => samePlaces_of_eq rfl
  outside _ _ hsame := hsame.places

theorem samePlaces_of_venueStep {action : VenueAction} (h : venueStep db action = some db') :
    db.SamePlaces db' := by
  have hsteps := steps_of_venueStep venueSteps_samePlaces h
  clear h
  induction hsteps with
  | refl => exact samePlaces_of_eq rfl
  | tail _ hlast ih =>
    intro id space hspace
    obtain ⟨space', hspace', hvenue⟩ := ih id space hspace
    obtain ⟨space'', hspace'', hvenue'⟩ := hlast id space' hspace'
    exact ⟨space'', hspace'', hvenue'.trans hvenue⟩

/-- **A published map never changes.** Whatever the venue operator does afterwards, its row stays
as it is but for being archived, and its sections, rows and seats stay as they are. -/
theorem publishedMaps_kept (hreach : Reaches venueStep (fun _ _ => True) db db') {id : SeatMapId}
    {m : SeatMap} (hm : db.seatMaps.lookup id = some m) (hstatus : m.status ≠ .DRAFT) :
    (∃ m', db'.seatMaps.lookup id = some m' ∧
      (m' = m ∨ m.status = .PUBLISHED ∧ m' = { m with status := .ARCHIVED })) ∧
      db'.graph id = db.graph id := by
  have hkeeping : db.Keeping db' :=
    hreach.invariant db.keeping_refl fun _ _ _ _ hstep hkept =>
      hkept.trans (.steps (steps_of_venueStep venueSteps_keeping hstep))
  obtain ⟨hrow, hlayout⟩ := hkeeping id m hm hstatus
  exact ⟨hrow, hlayout.graph⟩

end Kept

section MainHall

attribute [local instance] asciiCasing

/-- A map of one row. -/
def mainHallDraft : List VenueAction :=
  let scope : SeatMapScope := { authorized := true, seatMapId := 1 }
  [ .edit (.createDraftSeatMap true 1 { name := "Main hall" } 1),
    .edit (.createSection scope { name := "Stalls", code := "a" } 1),
    .edit (.bulkGenerateRows scope 1
      { startRowLabel := "a", rowCount := 1, seatsPerRow := 2, startSeatNumber := 1
        horizontalSpacing := 40, verticalSpacing := 50 }
      { rowId := fun i => i, seatId := fun i j => 10 * i + j }) ]

/-- The map is published and cloned, and the clone is published after its section was renamed; the
section of the first map can no longer be renamed, and the venue closes. -/
def mainHallSeasons : List VenueAction :=
  let scope : SeatMapScope := { authorized := true, seatMapId := 1 }
  let next : SeatMapScope := { authorized := true, seatMapId := 2 }
  [ .edit (.clonePublishedSeatMap scope
      { seatMapId := 2, sectionId := fun i => 2 + i
        rows := fun _ => { rowId := fun i => 5 + i, seatId := fun i j => 50 + 10 * i + j } }),
    .edit (.updateSection next 2 { name := "Parterre", code := "a" }),
    .edit (.publishSeatMap next 200),
    .edit (.updateSection scope 1 { name := "Parterre", code := "a" }),
    .archiveVenue true 1 ]

/-- The first map is archived in the end, with the seats it was published with. -/
theorem publishedMaps_kept_mainHall :
    ∃ db db' m, db.seatMaps.lookup 1 = some m ∧ m.status = .PUBLISHED ∧
      Reaches venueStep (fun _ _ => True) db db' ∧
      (∃ m', db'.seatMaps.lookup 1 = some m' ∧
        (m' = m ∨ m.status = .PUBLISHED ∧ m' = { m with status := .ARCHIVED })) ∧
      db'.graph 1 = db.graph 1 ∧ db'.seatMaps.keys = [2, 1] := by
  have hrun : (execute venueStep
      (mainHallDraft ++ [.edit (.publishSeatMap { authorized := true, seatMapId := 1 } 100)])
      mainHall).any (fun db =>
        ((db.seatMaps.lookup 1).any fun m => decide (m.status = .PUBLISHED)) &&
        (execute venueStep mainHallSeasons db).any fun db' =>
          decide (db'.seatMaps.keys = [2, 1])) = true := by
    decide +kernel
  obtain ⟨db, -, hdb⟩ := (Option.any_eq_true _ _).mp hrun
  obtain ⟨hpublished, hseasons⟩ := Bool.and_eq_true_iff.mp hdb
  obtain ⟨m, hm, hstatus⟩ := (Option.any_eq_true _ _).mp hpublished
  obtain ⟨db', hdb', hkeys⟩ := (Option.any_eq_true _ _).mp hseasons
  have hreach : Reaches venueStep (fun _ _ => True) db db' :=
    reaches_of_execute hdb' fun _ _ _ => trivial
  replace hstatus := of_decide_eq_true hstatus
  have hdraft : m.status ≠ .DRAFT := by
    rw [hstatus]
    exact SeatMapStatus.noConfusion
  obtain ⟨hrow, hgraph⟩ := publishedMaps_kept hreach hm hdraft
  exact ⟨db, db', m, hm, hstatus, hreach, hrow, hgraph, of_decide_eq_true hkeys⟩

end MainHall

end SeatFlow
