import SeatFlow.SeatMaps.SeatMapService
import SeatFlow.SeatMaps.TidyMaps

/-!
# Removing draft content

A deletion takes what is below the deleted row with it, through the cascades of the foreign keys.
The triggers of the children run when the parent is gone. They look for the status of the map
through that parent, do not find it, and reject the whole deletion, so that only a section without
rows and a row without seats can be deleted.
-/

namespace SeatFlow

open Relational

/-! ## §1 What a deletion should leave -/

/-- The section is gone with its rows and their seats, and everything else is as it was. -/
structure SeatMapDb.RemovesSection (db db' : SeatMapDb) (id : SectionId) : Prop where
  venues : db'.venues = db.venues
  spaces : db'.spaces = db.spaces
  seatMaps : db'.seatMaps = db.seatMaps
  sections : ∀ k, db'.sections.lookup k = if k = id then none else db.sections.lookup k
  rows : ∀ k, db'.rows.lookup k = (db.rows.lookup k).filter fun row => row.sectionId ≠ id
  seats : ∀ k, db'.seats.lookup k =
    (db.seats.lookup k).filter fun seat => db.sectionOf seat ≠ some id

/-- The row is gone with its seats, and everything else is as it was. -/
structure SeatMapDb.RemovesRow (db db' : SeatMapDb) (id : RowId) : Prop where
  venues : db'.venues = db.venues
  spaces : db'.spaces = db.spaces
  seatMaps : db'.seatMaps = db.seatMaps
  sections : db'.sections = db.sections
  rows : ∀ k, db'.rows.lookup k = if k = id then none else db.rows.lookup k
  seats : ∀ k, db'.seats.lookup k = (db.seats.lookup k).filter fun seat => seat.rowId ≠ id

/-- The section has no rows. -/
def SeatMapDb.Bare (db : SeatMapDb) (id : SectionId) : Prop :=
  ∀ k row, db.rows.lookup k = some row → row.sectionId ≠ id

/-- The row has no seats. -/
def SeatMapDb.Seatless (db : SeatMapDb) (id : RowId) : Prop :=
  ∀ k seat, db.seats.lookup k = some seat → seat.rowId ≠ id

variable {db : SeatMapDb}

/-- Filtering out what is not there. -/
theorem filter_of_forall {ρ : Type} {o : Option ρ} {p : ρ → Bool}
    (h : ∀ row, o = some row → p row = true) : o.filter p = o := by
  cases o with
  | none => rfl
  | some row => rw [Option.filter_some, if_pos (h row rfl)]

theorem SeatMapDb.Bare.removes {id : SectionId} (h : db.Bare id) :
    db.RemovesSection { db with sections := db.sections.erase id } id where
  venues := rfl
  spaces := rfl
  seatMaps := rfl
  sections k := Table.lookup_erase_ite db.sections id k
  rows k := (filter_of_forall fun row hrow => decide_eq_true (h k row hrow)).symm
  seats k := by
    have helsewhere : ∀ seat : Seat, db.sectionOf seat ≠ some id := by
      intro seat hsection
      obtain ⟨row, hrow, hid⟩ := Option.map_eq_some_iff.mp hsection
      exact h seat.rowId row hrow hid
    exact (filter_of_forall fun seat _ => decide_eq_true (helsewhere seat)).symm

theorem SeatMapDb.Seatless.removes {id : RowId} (h : db.Seatless id) :
    db.RemovesRow { db with rows := db.rows.erase id } id where
  venues := rfl
  spaces := rfl
  seatMaps := rfl
  sections := rfl
  rows k := Table.lookup_erase_ite db.rows id k
  seats k := (filter_of_forall fun seat hseat => decide_eq_true (h k seat hseat)).symm

/-! ## §2 Cascades -/

/-- A deletion of rows passes its triggers only when the rows have no seats: the cascade would
look for the map of a seat through a row that is gone. -/
theorem cascadeRows_eq_ok {rows : List (RowId × SeatRow)} {writes : List SeatMapWrite}
    (h : cascadeRows db rows = .ok writes) :
    (∀ e ∈ rows, db.IsDraft (db.mapOfSection e.2.sectionId)) ∧
      (∀ e ∈ rows, db.Seatless e.1) ∧
      writes = rows.map fun e => SeatMapWrite.deleteRow e.1 := by
  have hgone : ∀ (l : List (RowId × SeatRow)) (db : SeatMapDb), ∀ e ∈ l,
      (applyAll (l.map fun e => SeatMapWrite.deleteRow e.1) db).rows.lookup e.1 = none := by
    intro l db
    induction l using List.reverseRecOn with
    | nil =>
      intro e he
      cases he
    | append_singleton l last ih =>
      intro e he
      rw [List.map_append, applyAll_append]
      show (AList.erase last.1 _).lookup e.1 = none
      rw [Table.lookup_erase_ite]
      split
      · rfl
      · rcases List.mem_append.mp he with he | he
        · exact ih e he
        · rw [List.mem_singleton] at he
          exact absurd (congrArg Prod.fst he) ‹_›
  unfold cascadeRows at h
  obtain ⟨hrows, hrest⟩ := Except.bind_unit_eq_ok.mp h
  obtain ⟨hseats, hwrites⟩ := Except.bind_unit_eq_ok.mp hrest
  have hempty : db.seatsOf (rows.map (·.1)) = [] := by
    refine List.eq_nil_iff_forall_not_mem.mpr fun seat hseat => ?_
    have hdraft := checkRow_eq_ok.mp (checkAll_eq_ok.mp hseats seat hseat)
    obtain ⟨m, hmap, -⟩ := SeatMapDb.exists_of_isDraft hdraft
    obtain ⟨row, hrow, -⟩ := Option.bind_eq_some_iff.mp hmap
    obtain ⟨e, he, hkey⟩ := List.mem_map.mp
      (List.contains_iff_mem.mp (Table.mem_select.mp hseat).2)
    rw [← hkey, hgone rows db e he] at hrow
    cases hrow
  refine ⟨fun e he => checkRow_eq_ok.mp (checkAll_eq_ok.mp hrows e he), fun e he k s hs hkey => ?_,
    ?_⟩
  · refine List.eq_nil_iff_forall_not_mem.mp hempty (k, s) (Table.mem_select.mpr ⟨hs, ?_⟩)
    exact List.contains_iff_mem.mpr (List.mem_map.mpr ⟨e, he, hkey.symm⟩)
  · rw [← Except.ok.inj hwrites, hempty, List.map_nil, List.append_nil]

theorem cascadeRows_nil : cascadeRows db [] = .ok [] := by
  have hseats : db.seatsOf [] = [] :=
    List.eq_nil_iff_forall_not_mem.mpr fun e he => by simpa using (Table.mem_select.mp he).2
  simp only [cascadeRows, List.map_nil, hseats]
  rfl

theorem SeatMapDb.Bare.rowsOf {id : SectionId} (h : db.Bare id) : db.rowsOf [id] = [] :=
  List.eq_nil_iff_forall_not_mem.mpr fun e he => h e.1 e.2 (Table.mem_select.mp he).1
    (List.mem_singleton.mp (List.contains_iff_mem.mp (Table.mem_select.mp he).2))

theorem SeatMapDb.Seatless.seatsOf {id : RowId} (h : db.Seatless id) : db.seatsOf [id] = [] :=
  List.eq_nil_iff_forall_not_mem.mpr fun e he => h e.1 e.2 (Table.mem_select.mp he).1
    (List.mem_singleton.mp (List.contains_iff_mem.mp (Table.mem_select.mp he).2))

/-- The statement deletes a section of a draft map that has no rows, and nothing else. -/
theorem commits_deleteSectionRow {id : SectionId} {Q : Unit → SeatMapDb → Prop} :
    Program.Commits (deleteSectionRow id) db Q ↔
      ∃ section_, db.sections.lookup id = some section_ ∧
        db.IsDraft (some section_.seatMapId) ∧ db.Bare id ∧
        Q () { db with sections := db.sections.erase id } := by
  unfold deleteSectionRow
  rw [Program.commits_perform]
  constructor
  · rintro ⟨eff, heff, hQ⟩
    split at heff
    · cases heff
    · next section_ hlookup =>
        obtain ⟨hdraft, hrest⟩ := Except.bind_unit_eq_ok.mp heff
        obtain ⟨cascade, hcascade, heff⟩ := Except.bind_eq_ok.mp hrest
        obtain ⟨hrows, -, hwrites⟩ := cascadeRows_eq_ok hcascade
        obtain ⟨_, -, hlookup⟩ := Option.bind_eq_some_iff.mp hlookup
        -- a row of the section would look for it in vain
        have hbare : db.Bare id := by
          intro k row hrow hid
          have hmem : (k, row) ∈ db.rowsOf [id] := Table.mem_select.mpr
            ⟨hrow, List.contains_iff_mem.mpr (List.mem_singleton.mpr hid)⟩
          obtain ⟨m, hmap, -⟩ := SeatMapDb.exists_of_isDraft (hrows (k, row) hmem)
          obtain ⟨s, hs, -⟩ := Option.map_eq_some_iff.mp hmap
          exact (Table.lookup_of_erase hs).1 hid
        refine ⟨section_, hlookup, checkRow_eq_ok.mp hdraft, hbare, ?_⟩
        rw [← Except.ok.inj heff, hwrites] at hQ
        dsimp only [View.alone] at hQ
        rw [hbare.rowsOf] at hQ
        exact hQ
  · rintro ⟨section_, hlookup, hdraft, hbare, hQ⟩
    refine ⟨{ locks := [], writes := [.deleteSection id], result := () }, ?_, hQ⟩
    have hrequire : section_.requireDraftMap db = .ok () := checkRow_eq_ok.mpr hdraft
    simp only [hlookup, Option.bind_some, hrequire, hbare.rowsOf, cascadeRows_nil]
    rfl

/-- The statement deletes a row of a draft map that has no seats, and nothing else. -/
theorem commits_deleteRowRow {id : RowId} {Q : Unit → SeatMapDb → Prop} :
    Program.Commits (deleteRowRow id) db Q ↔
      ∃ row, db.rows.lookup id = some row ∧ db.IsDraft (db.mapOfSection row.sectionId) ∧
        db.Seatless id ∧ Q () { db with rows := db.rows.erase id } := by
  unfold deleteRowRow
  rw [Program.commits_perform]
  constructor
  · rintro ⟨eff, heff, hQ⟩
    split at heff
    · cases heff
    · next row hlookup =>
        obtain ⟨deletions, hcascade, heff⟩ := Except.bind_eq_ok.mp heff
        obtain ⟨hdraft, hseatless, hwrites⟩ := cascadeRows_eq_ok hcascade
        obtain ⟨_, -, hlookup⟩ := Option.bind_eq_some_iff.mp hlookup
        refine ⟨row, hlookup, hdraft (id, row) (List.mem_singleton_self _),
          hseatless (id, row) (List.mem_singleton_self _), ?_⟩
        rw [← Except.ok.inj heff, hwrites] at hQ
        exact hQ
  · rintro ⟨row, hlookup, hdraft, hseatless, hQ⟩
    refine ⟨{ locks := [], writes := [.deleteRow id], result := () }, ?_, hQ⟩
    have hrequire : row.requireDraftMap db = .ok () := checkRow_eq_ok.mpr hdraft
    simp only [hlookup, Option.bind_some, cascadeRows, checkAll, List.map_cons,
      List.map_nil, hrequire, hseatless.seatsOf]
    rfl

/-! ## §3 Removal from an editable draft -/

/-- The actor may edit the map of the scope: it is a draft in an active venue and space. -/
structure EditableDraft (db : SeatMapDb) (scope : SeatMapScope) : Prop where
  authorized : scope.authorized = true
  access : ∃ access, db.access scope.seatMapId = some access ∧ access.seatMap.status = .DRAFT ∧
    access.space.status = .ACTIVE ∧ access.venue.status = .ACTIVE

variable {scope : SeatMapScope}

theorem EditableDraft.isDraft (h : EditableDraft db scope) : db.IsDraft (some scope.seatMapId) := by
  obtain ⟨access, haccess, hdraft, -, -⟩ := h.access
  unfold SeatMapDb.access at haccess
  obtain ⟨seatMap, hmap, haccess⟩ := Option.bind_eq_some_iff.mp haccess
  obtain ⟨space, -, haccess⟩ := Option.bind_eq_some_iff.mp haccess
  obtain ⟨venue, -, haccess⟩ := Option.bind_eq_some_iff.mp haccess
  rw [← Option.some.inj haccess] at hdraft
  unfold SeatMapDb.IsDraft
  rw [Option.bind_some, hmap, Option.map_some, hdraft]

/-- The check of a map passes on an editable draft. -/
theorem commits_assertEditableMap {access : SeatMapAccess}
    (hdraft : access.seatMap.status = .DRAFT) (hspace : access.space.status = .ACTIVE)
    (hvenue : access.venue.status = .ACTIVE) {Q : Unit → SeatMapDb → Prop} :
    Program.Commits (assertEditableMap access) db Q ↔ Q () db := by
  have hedit : canEditSeatMap access.lifecycleContext = true := by
    simp [canEditSeatMap, hasOperationalParents, SeatMapAccess.lifecycleContext, hdraft, hspace,
      hvenue]
  unfold assertEditableMap
  simp only [Program.commits_bind, Program.commits_require, hdraft, hedit, true_and]

/-- A section of an accessible map is found. -/
theorem commits_findAuthorizedSection {access : SeatMapAccess} {sectionId : SectionId}
    {section_ : SeatSection} (hauthorized : scope.authorized = true)
    (haccess : db.access scope.seatMapId = some access)
    (hsection : db.sections.lookup sectionId = some section_)
    (hmap : section_.seatMapId = scope.seatMapId) {Q : SeatMapAccess → SeatMapDb → Prop} :
    Program.Commits (findAuthorizedSection scope sectionId) db Q ↔ Q access db := by
  have hfound : ∃ found ∈ (Prisma.seatSection.get db).lookup sectionId,
      found.seatMapId = scope.seatMapId := ⟨section_, hsection, hmap⟩
  unfold findAuthorizedSection findAuthorizedSeatMap
  simp only [Program.commits_bind, Program.commits_read, Program.commits_orThrow,
    Program.commits_require, Program.commits_pure, Entity.commits_find, hauthorized, if_true,
    haccess, Option.some.injEq, exists_eq_left']
  exact and_iff_right hfound

/-- A row of an accessible section is found. -/
theorem commits_findAuthorizedRow {access : SeatMapAccess} {sectionId : SectionId}
    {section_ : SeatSection} {rowId : RowId} {row : SeatRow}
    (hauthorized : scope.authorized = true) (haccess : db.access scope.seatMapId = some access)
    (hsection : db.sections.lookup sectionId = some section_)
    (hmap : section_.seatMapId = scope.seatMapId) (hrow : db.rows.lookup rowId = some row)
    (hparent : row.sectionId = sectionId) {Q : SeatMapAccess → SeatMapDb → Prop} :
    Program.Commits (findAuthorizedRow scope sectionId rowId) db Q ↔ Q access db := by
  have hfound : ∃ found ∈ (Prisma.seatRow.get db).lookup rowId, found.sectionId = sectionId :=
    ⟨row, hrow, hparent⟩
  unfold findAuthorizedRow
  rw [Program.commits_bind, commits_findAuthorizedSection hauthorized haccess hsection hmap]
  simp only [Program.commits_bind, Program.commits_require, Program.commits_pure,
    Entity.commits_find]
  exact and_iff_right hfound

/-- A section of an editable draft can be removed if and only if it has no rows. -/
theorem commits_deleteSection (h : EditableDraft db scope) {sectionId : SectionId}
    (hmap : db.mapOfSection sectionId = some scope.seatMapId) :
    Program.Commits (deleteSection scope sectionId) db
        (fun _ db' => db.RemovesSection db' sectionId) ↔ db.Bare sectionId := by
  obtain ⟨access, haccess, hdraft, hspace, hvenue⟩ := h.access
  obtain ⟨section_, hsection, hmap⟩ := Option.map_eq_some_iff.mp hmap
  unfold deleteSection
  rw [Program.commits_bind, commits_findAuthorizedSection h.authorized haccess hsection hmap,
    Program.commits_bind, commits_assertEditableMap hdraft hspace hvenue,
    commits_deleteSectionRow]
  constructor
  · rintro ⟨-, -, -, hbare, -⟩
    exact hbare
  · intro hbare
    exact ⟨section_, hsection, hmap ▸ h.isDraft, hbare, hbare.removes⟩

/-- A row of an editable draft can be removed if and only if it has no seats. -/
theorem commits_deleteRow (h : EditableDraft db scope) {sectionId : SectionId} {rowId : RowId}
    (hmap : db.mapOfSection sectionId = some scope.seatMapId)
    (hparent : (db.rows.lookup rowId).map (·.sectionId) = some sectionId) :
    Program.Commits (deleteRow scope sectionId rowId) db
        (fun _ db' => db.RemovesRow db' rowId) ↔ db.Seatless rowId := by
  obtain ⟨access, haccess, hdraft, hspace, hvenue⟩ := h.access
  obtain ⟨section_, hsection, hsectionMap⟩ := Option.map_eq_some_iff.mp hmap
  obtain ⟨row, hrow, hparent⟩ := Option.map_eq_some_iff.mp hparent
  unfold deleteRow
  rw [Program.commits_bind,
    commits_findAuthorizedRow h.authorized haccess hsection hsectionMap hrow hparent,
    Program.commits_bind, commits_assertEditableMap hdraft hspace hvenue,
    commits_deleteRowRow]
  constructor
  · rintro ⟨-, -, -, hseatless, -⟩
    exact hseatless
  · intro hseatless
    exact ⟨row, hrow, hparent ▸ hmap ▸ h.isDraft, hseatless, hseatless.removes⟩

/-- A section of an editable draft is removed, with exactly what is below it, if and only if there
is nothing below it, and so is each of its rows. -/
theorem draftContent_removable (h : EditableDraft db scope) {sectionId : SectionId}
    (hmap : db.mapOfSection sectionId = some scope.seatMapId) :
    (Program.Commits (deleteSection scope sectionId) db
        (fun _ db' => db.RemovesSection db' sectionId) ↔ db.Bare sectionId) ∧
    ∀ rowId, (db.rows.lookup rowId).map (·.sectionId) = some sectionId →
      (Program.Commits (deleteRow scope sectionId rowId) db
        (fun _ db' => db.RemovesRow db' rowId) ↔ db.Seatless rowId) :=
  ⟨commits_deleteSection h hmap, fun _ hparent => commits_deleteRow h hmap hparent⟩

section Stalls

/-- A draft with a section that has a row with a seat, and a section that has nothing. -/
def stalls : SeatMapDb :=
  { venues := (∅ : Table VenueId Venue).insert 1 { status := .ACTIVE }
    spaces := (∅ : Table SpaceId Space).insert 1 { venueId := 1, status := .ACTIVE }
    seatMaps := (∅ : Table SeatMapId SeatMap).insert 1
      { spaceId := 1, name := "Main hall", version := 1 }
    sections := ((∅ : Table SectionId SeatSection).insert 1
      { seatMapId := 1, name := "Stalls", code := "A", displayOrder := 0 }).insert 2
      { seatMapId := 1, name := "Box", code := "B", displayOrder := 1 }
    rows := (∅ : Table RowId SeatRow).insert 1 { sectionId := 1, label := "A", displayOrder := 0 }
    seats := (∅ : Table SeatId Seat).insert 1
      { rowId := 1, label := "1", displayOrder := 0, x := 0, y := 0 } }

def stallsScope : SeatMapScope := { authorized := true, seatMapId := 1 }

theorem stalls_editable : EditableDraft stalls stallsScope where
  authorized := rfl
  access := ⟨_, rfl, rfl, rfl, rfl⟩

/-- The empty section can be deleted. -/
theorem draftContent_removable_box :
    Program.Commits (deleteSection stallsScope 2) stalls
      (fun _ db' => stalls.RemovesSection db' 2) := by
  refine (draftContent_removable stalls_editable (by rfl)).1.mpr ?_
  have hrows : ∀ k row, stalls.rows.lookup k = some row → row.sectionId ≠ 2 :=
    Table.forall_lookup (t := stalls.rows) (p := fun _ row => row.sectionId ≠ 2)
      (by decide +kernel)
  exact hrows

/-- A section with a row cannot be deleted, nor a row with a seat. -/
theorem draftContent_stuck :
    ¬ Program.Commits (deleteSection stallsScope 1) stalls
        (fun _ db' => stalls.RemovesSection db' 1) ∧
      ¬ Program.Commits (deleteRow stallsScope 1 1) stalls
        (fun _ db' => stalls.RemovesRow db' 1) := by
  have hsection : (deleteSection stallsScope 1).run stalls =
      .error (.rejected "Seat-map rows can only be changed on draft maps") := by rfl
  have hrow : (deleteRow stallsScope 1 1).run stalls =
      .error (.rejected "Seats can only be changed on draft maps") := by rfl
  constructor
  · rintro ⟨_, _, hrun, -⟩
    rw [hsection] at hrun
    cases hrun
  · rintro ⟨_, _, hrun, -⟩
    rw [hrow] at hrun
    cases hrun

end Stalls

end SeatFlow
