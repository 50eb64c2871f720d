import SeatFlow.SeatMaps.PublishedMaps

/-!
# The catalogue of a space

What a space shows to its customers had passed validation, a space has one published map at a time,
and its versions are counted without gaps. A publication succeeds exactly when the draft passes, and
takes the place of the map that was shown before.
-/

namespace SeatFlow

open Relational

/-! ## §1 The catalogue -/

/-- The maps of the spaces: what is no longer a draft passed validation, the versions of a space
are counted without gaps, and one map of a space is published. -/
structure SeatMapDb.Catalogued [Casing] (db : SeatMapDb) : Prop where
  passed : ∀ id m, db.seatMaps.lookup id = some m → m.status ≠ .DRAFT →
    validateSeatMapForPublication (db.graph id) = []
  stamped : ∀ id m, db.seatMaps.lookup id = some m → m.publishStateCheck = true
  sources : ∀ id m source, db.seatMaps.lookup id = some m → m.sourceSeatMapId = some source →
    (db.seatMaps.lookup source).map (·.spaceId) = some m.spaceId
  positive : ∀ id m, db.seatMaps.lookup id = some m → 1 ≤ m.version
  versions : ∀ id m id' m', db.seatMaps.lookup id = some m → db.seatMaps.lookup id' = some m' →
    m.spaceId = m'.spaceId → m.version = m'.version → id = id'
  gapless : ∀ id m, db.seatMaps.lookup id = some m → ∀ v, 1 ≤ v → v ≤ m.version →
    ∃ id' m', db.seatMaps.lookup id' = some m' ∧ m'.spaceId = m.spaceId ∧ m'.version = v
  published : ∀ id m id' m', db.seatMaps.lookup id = some m → db.seatMaps.lookup id' = some m' →
    m.spaceId = m'.spaceId → m.status = .PUBLISHED → m'.status = .PUBLISHED → id = id'

section Catalogue

variable {db db' : SeatMapDb}

/-- The greatest of the versions, or nothing. -/
theorem foldl_max_spec (l : List Nat) (start : Nat) :
    start ≤ l.foldl max start ∧ (∀ n ∈ l, n ≤ l.foldl max start) ∧
      (l.foldl max start = start ∨ l.foldl max start ∈ l) := by
  induction l generalizing start with
  | nil => exact ⟨Nat.le_refl _, fun _ hn => absurd hn List.not_mem_nil, .inl rfl⟩
  | cons n l ih =>
    obtain ⟨hstart, hmax, hfound⟩ := ih (max start n)
    rw [List.foldl_cons]
    refine ⟨le_trans (le_max_left _ _) hstart, fun k hk => ?_, ?_⟩
    · rcases List.mem_cons.mp hk with rfl | hk
      · exact le_trans (le_max_right _ _) hstart
      · exact hmax k hk
    · rcases hfound with heq | hmem
      · rcases le_total n start with hle | hle
        · exact .inl (heq.trans (max_eq_left hle))
        · rw [heq, max_eq_right hle]
          exact .inr List.mem_cons_self
      · exact .inr (List.mem_cons_of_mem _ hmem)

theorem lt_nextVersion {id : SeatMapId} {m : SeatMap} (hm : db.seatMaps.lookup id = some m) :
    m.version < db.nextVersion m.spaceId := by
  unfold SeatMapDb.nextVersion
  refine Nat.lt_succ_of_le ((foldl_max_spec _ 0).2.1 _ (List.mem_map.mpr ⟨(id, m), ?_, rfl⟩))
  exact Table.mem_select.mpr ⟨hm, beq_self_eq_true _⟩

theorem nextVersion_cases (db : SeatMapDb) (spaceId : SpaceId) :
    db.nextVersion spaceId = 1 ∨ ∃ id m, db.seatMaps.lookup id = some m ∧ m.spaceId = spaceId ∧
      m.version + 1 = db.nextVersion spaceId := by
  unfold SeatMapDb.nextVersion
  rcases (foldl_max_spec ((db.seatMaps.select fun _ m => m.spaceId == spaceId).map (·.2.version))
    0).2.2 with hzero | hmem
  · exact .inl (by rw [hzero])
  · obtain ⟨e, he, hversion⟩ := List.mem_map.mp hmem
    obtain ⟨hm, hspace⟩ := Table.mem_select.mp he
    exact .inr ⟨e.1, e.2, hm, beq_iff_eq.mp hspace, congrArg (· + 1) hversion⟩

variable [Casing]

/-- What is said of the maps is kept by every write below a draft. -/
theorem SeatMapDb.Catalogued.drafting (h : db.Catalogued) (hwrite : db.Drafting db') :
    db'.Catalogued := by
  have hmaps := hwrite.seatMaps
  refine ⟨fun id m hm hstatus => ?_, ?_, ?_, ?_, ?_, ?_, ?_⟩
  · rw [hmaps] at hm
    rw [(hwrite.layout id (SeatMapDb.not_isDraft hm hstatus)).graph]
    exact h.passed id m hm hstatus
  all_goals rw [hmaps]
  · exact h.stamped
  · exact h.sources
  · exact h.positive
  · exact h.versions
  · exact h.gapless
  · exact h.published

/-- **A new draft** takes the next version of its space. -/
theorem SeatMapDb.Catalogued.insertDraft (h : db.Catalogued) {id : SeatMapId} {m : SeatMap}
    (habsent : db.seatMaps.lookup id = none) (hstatus : m.status = .DRAFT)
    (hversion : m.version = db.nextVersion m.spaceId)
    (hvalid : Prisma.seatMap.validate db id none m = .ok ()) :
    ({ db with seatMaps := db.seatMaps.insert id m } : SeatMapDb).Catalogued := by
  replace hvalid : SeatMap.validate db id none m = .ok () := hvalid
  obtain ⟨hsource, hvalid⟩ := Except.bind_unit_eq_ok.mp hvalid
  obtain ⟨hpositive, hvalid⟩ := Except.bind_unit_eq_ok.mp hvalid
  obtain ⟨hstamp, -⟩ := Except.bind_unit_eq_ok.mp hvalid
  replace hsource := checkRow_eq_ok.mp hsource
  have hkeeps : ∀ k m', db.seatMaps.lookup k = some m' →
      (db.seatMaps.insert id m).lookup k = some m' :=
    fun k m' hm' => Table.wrote_insert.keeps habsent hm'
  have hfresh : ∀ k m', db.seatMaps.lookup k = some m' → m'.spaceId = m.spaceId →
      m'.version < m.version := by
    intro k m' hm' hspace
    have hlt := lt_nextVersion hm'
    rw [hspace] at hlt
    rw [hversion]
    exact hlt
  refine ⟨?_, ?_, ?_, ?_, ?_, ?_, ?_⟩
  · intro k m' hm' hsettled
    rcases Table.wrote_insert.cases hm' with ⟨rfl, rfl⟩ | ⟨-, hm'⟩
    · exact absurd hstatus hsettled
    · exact h.passed k m' hm' hsettled
  · intro k m' hm'
    rcases Table.wrote_insert.cases hm' with ⟨rfl, rfl⟩ | ⟨-, hm'⟩
    · exact checkRow_eq_ok.mp hstamp
    · exact h.stamped k m' hm'
  · intro k m' source hm' hfrom
    have hold : (db.seatMaps.lookup source).map (·.spaceId) = some m'.spaceId := by
      rcases Table.wrote_insert.cases hm' with ⟨rfl, rfl⟩ | ⟨-, hm'⟩
      · exact hsource source hfrom
      · exact h.sources k m' source hm' hfrom
    obtain ⟨m'', hm'', hspace⟩ := Option.map_eq_some_iff.mp hold
    show ((db.seatMaps.insert id m).lookup source).map _ = _
    rw [hkeeps source m'' hm'', Option.map_some, hspace]
  · intro k m' hm'
    rcases Table.wrote_insert.cases hm' with ⟨rfl, rfl⟩ | ⟨-, hm'⟩
    · exact checkRow_eq_ok.mp hpositive
    · exact h.positive k m' hm'
  · intro k m' k' m'' hm' hm'' hspace hsame
    rcases Table.wrote_insert.cases hm' with ⟨hk, rfl⟩ | ⟨-, hold⟩
    · rcases Table.wrote_insert.cases hm'' with ⟨hk', -⟩ | ⟨-, hold'⟩
      · exact hk.trans hk'.symm
      · exact absurd hsame.symm (hfresh k' m'' hold' hspace.symm).ne
    · rcases Table.wrote_insert.cases hm'' with ⟨-, rfl⟩ | ⟨-, hold'⟩
      · exact absurd hsame (hfresh k m' hold hspace).ne
      · exact h.versions k m' k' m'' hold hold' hspace hsame
  · intro k m' hm' v hv hle
    rcases Table.wrote_insert.cases hm' with ⟨rfl, rfl⟩ | ⟨-, hm'⟩
    · rcases Nat.lt_or_eq_of_le hle with hlt | rfl
      · rcases nextVersion_cases db m'.spaceId with hone | ⟨k', m'', hm'', hspace, hnext⟩
        · omega
        · obtain ⟨k₀, m₀, hm₀, hspace₀, hversion₀⟩ := h.gapless k' m'' hm'' v hv (by omega)
          exact ⟨k₀, m₀, hkeeps k₀ m₀ hm₀, hspace₀.trans hspace, hversion₀⟩
      · exact ⟨k, m', hm', rfl, rfl⟩
    · obtain ⟨k₀, m₀, hm₀, hspace₀, hversion₀⟩ := h.gapless k m' hm' v hv hle
      exact ⟨k₀, m₀, hkeeps k₀ m₀ hm₀, hspace₀, hversion₀⟩
  · intro k m' k' m'' hm' hm'' hspace hpublished hpublished'
    rcases Table.wrote_insert.cases hm' with ⟨rfl, rfl⟩ | ⟨-, hm'⟩
    · rw [hstatus] at hpublished
      cases hpublished
    · rcases Table.wrote_insert.cases hm'' with ⟨rfl, rfl⟩ | ⟨-, hm''⟩
      · rw [hstatus] at hpublished'
        cases hpublished'
      · exact h.published k m' k' m'' hm' hm'' hspace hpublished hpublished'

/-- Updates that leave every map in its space and under its version. -/
theorem SeatMapDb.Catalogued.mapped (h : db.Catalogued) {t : Table SeatMapId SeatMap}
    {f : SeatMapId → SeatMap → SeatMap} (ht : Table.Mapped db.seatMaps f t)
    (hsame : ∀ id m, (f id m).spaceId = m.spaceId ∧ (f id m).version = m.version ∧
      (f id m).sourceSeatMapId = m.sourceSeatMapId)
    (hstamped : ∀ id m, db.seatMaps.lookup id = some m → (f id m).publishStateCheck = true)
    (hpassed : ∀ id m, db.seatMaps.lookup id = some m → (f id m).status ≠ .DRAFT →
      validateSeatMapForPublication (db.graph id) = [])
    (hpublished : ∀ id m id' m', db.seatMaps.lookup id = some m →
      db.seatMaps.lookup id' = some m' → m.spaceId = m'.spaceId → (f id m).status = .PUBLISHED →
      (f id' m').status = .PUBLISHED → id = id') :
    ({ db with seatMaps := t } : SeatMapDb).Catalogued := by
  refine ⟨fun id _ hm hsettled => ?_, fun id _ hm => ?_, fun id _ source hm hsource => ?_,
    fun id _ hm => ?_, fun id _ id' _ hm hm' hspace hversion => ?_, fun id _ hm v hv hle => ?_,
    fun id _ id' _ hm hm' hspace hpub hpub' => ?_⟩ <;> obtain ⟨m, hold, rfl⟩ := ht.cases hm
  · exact hpassed id m hold hsettled
  · exact hstamped id m hold
  · rw [(hsame id m).2.2] at hsource
    obtain ⟨m', hm', hspace⟩ := Option.map_eq_some_iff.mp (h.sources id m source hold hsource)
    show (t.lookup source).map _ = _
    rw [ht.lookup hm', Option.map_some, (hsame source m').1, (hsame id m).1, hspace]
  · rw [(hsame id m).2.1]
    exact h.positive id m hold
  · obtain ⟨m', hold', rfl⟩ := ht.cases hm'
    rw [(hsame id m).1, (hsame id' m').1] at hspace
    rw [(hsame id m).2.1, (hsame id' m').2.1] at hversion
    exact h.versions id m id' m' hold hold' hspace hversion
  · rw [(hsame id m).2.1] at hle
    obtain ⟨k, m', hm', hspace, hversion⟩ := h.gapless id m hold v hv hle
    refine ⟨k, f k m', ht.lookup hm', ?_, ?_⟩
    · rw [(hsame k m').1, (hsame id m).1, hspace]
    · rw [(hsame k m').2.1, hversion]
  · obtain ⟨m', hold', rfl⟩ := ht.cases hm'
    rw [(hsame id m).1, (hsame id' m').1] at hspace
    exact hpublished id m id' m' hold hold' hspace hpub hpub'

theorem SeatMapDb.Catalogued.rename (h : db.Catalogued) {id : SeatMapId} {m : SeatMap}
    (hm : db.seatMaps.lookup id = some m) (name : String) :
    SeatMapDb.Catalogued { db with seatMaps := db.seatMaps.insert id { m with name := name } } := by
  have hmapped : Table.Mapped db.seatMaps
      (fun k r => if k = id then { r with name := name } else r)
      (db.seatMaps.insert id { m with name := name }) := by
    refine (Table.mapped_insert hm _).congr fun k r hr => ?_
    by_cases hk : k = id
    · subst hk
      cases hm.symm.trans hr
      simp
    · simp [hk]
  refine h.mapped hmapped (fun k r => ?_) (fun k r hr => ?_) (fun k r hr hsettled => ?_)
    fun k r k' r' hr hr' hspace hpub hpub' => ?_
  · split <;> exact ⟨rfl, rfl, rfl⟩
  · have hstamp := h.stamped k r hr
    split
    · exact hstamp
    · exact hstamp
  · refine h.passed k r hr fun hdraft => hsettled ?_
    split
    · exact hdraft
    · exact hdraft
  · refine h.published k r k' r' hr hr' hspace ?_ ?_
    · rw [← hpub]
      split <;> rfl
    · rw [← hpub']
      split <;> rfl

/-- The rows after a publication: the published map of the space is archived. -/
def publishedRow (spaceId : SpaceId) (id : SeatMapId) (now : Time) (k : SeatMapId) (m : SeatMap) :
    SeatMap :=
  if k = id then { m with status := .PUBLISHED, publishedAt := some now }
  else if m.spaceId = spaceId ∧ m.status = .PUBLISHED then { m with status := .ARCHIVED }
  else m

/-- **A publication** replaces the published map of the space. -/
theorem SeatMapDb.Catalogued.publish (h : db.Catalogued) {t : Table SeatMapId SeatMap}
    {id : SeatMapId} {m : SeatMap} {now : Time} (hm : db.seatMaps.lookup id = some m)
    (ht : Table.Mapped db.seatMaps (publishedRow m.spaceId id now) t)
    (hpassed : validateSeatMapForPublication (db.graph id) = []) :
    ({ db with seatMaps := t } : SeatMapDb).Catalogued := by
  refine h.mapped ht (fun k r => ?_) (fun k r hr => ?_) (fun k r hr hsettled => ?_)
    fun k r k' r' hr hr' hspace hpub hpub' => ?_
  · unfold publishedRow
    split
    · exact ⟨rfl, rfl, rfl⟩
    · split <;> exact ⟨rfl, rfl, rfl⟩
  · have hstamp := h.stamped k r hr
    unfold publishedRow
    split
    · rfl
    · split
      · rename_i hold
        unfold SeatMap.publishStateCheck at hstamp
        rw [hold.2] at hstamp
        exact hstamp
      · exact hstamp
  · unfold publishedRow at hsettled
    split at hsettled
    · rename_i hk
      rw [hk]
      exact hpassed
    · refine h.passed k r hr fun hdraft => hsettled ?_
      split
      · rename_i hold
        rw [hold.2] at hdraft
        cases hdraft
      · exact hdraft
  · have hother : ∀ k r, k ≠ id → r.spaceId = m.spaceId →
        (publishedRow m.spaceId id now k r).status ≠ .PUBLISHED := by
      intro k r hk hspace hpub
      unfold publishedRow at hpub
      rw [if_neg hk] at hpub
      split at hpub
      · cases hpub
      · rename_i hnot
        exact hnot ⟨hspace, hpub⟩
    by_cases hk : k = id
    · by_cases hk' : k' = id
      · exact hk.trans hk'.symm
      · rw [hk, hm] at hr
        cases hr
        exact absurd hpub' (hother k' r' hk' hspace.symm)
    · by_cases hk' : k' = id
      · rw [hk', hm] at hr'
        cases hr'
        exact absurd hpub (hother k r hk hspace)
      · unfold publishedRow at hpub hpub'
        rw [if_neg hk] at hpub
        rw [if_neg hk'] at hpub'
        split at hpub
        · cases hpub
        · split at hpub'
          · cases hpub'
          · exact h.published k r k' r' hr hr' hspace hpub hpub'

omit [Casing] in
theorem SeatMapDb.access_seatMap {id : SeatMapId} {access : SeatMapAccess}
    (h : db.access id = some access) : db.seatMaps.lookup id = some access.seatMap := by
  unfold SeatMapDb.access at h
  obtain ⟨seatMap, hmap, h⟩ := Option.bind_eq_some_iff.mp h
  obtain ⟨space, -, h⟩ := Option.bind_eq_some_iff.mp h
  obtain ⟨venue, -, h⟩ := Option.bind_eq_some_iff.mp h
  rw [← Option.some.inj h]
  exact hmap

/-- The published map that is not the one under `id`. -/
def supersededBy (spaceId : SpaceId) (id : SeatMapId) (k : SeatMapId) (m : SeatMap) : Bool :=
  m.spaceId == spaceId && m.status == .PUBLISHED && k != id

omit [Casing] in
/-- The two updates of a publication. -/
theorem mapped_publish {id : SeatMapId} {m : SeatMap} (hm : db.seatMaps.lookup id = some m)
    (now : Time) :
    ((db.seatMaps.putAll (db.seatMaps.updates (supersededBy m.spaceId id)
      fun _ m => { m with status := .ARCHIVED })).lookup id = some m) ∧
    Table.Mapped db.seatMaps (publishedRow m.spaceId id now)
      ((db.seatMaps.putAll (db.seatMaps.updates (supersededBy m.spaceId id)
        fun _ m => { m with status := .ARCHIVED })).insert id
          { m with status := .PUBLISHED, publishedAt := some now }) := by
  have hself : supersededBy m.spaceId id id m = false := by simp [supersededBy]
  refine ⟨?_, fun k => ?_⟩
  · rw [Table.lookup_putAll_updates, hm, Option.map_some, hself, if_neg Bool.false_ne_true]
  · rw [Table.lookup_insert_ite]
    by_cases hk : k = id
    · subst hk
      rw [if_pos rfl, hm, Option.map_some, publishedRow, if_pos rfl]
    · rw [if_neg hk, Table.lookup_putAll_updates]
      refine congrArg (Option.map · _) (funext fun r => ?_)
      simp [publishedRow, supersededBy, hk]

theorem ensures_publishSeatMap_catalogued (h : db.Catalogued) (scope : SeatMapScope) (now : Time) :
    Program.Ensures (publishSeatMap scope now) db fun _ db' => db'.Catalogued := by
  unfold publishSeatMap
  refine Program.ensures_bind.mpr (ensures_findAuthorizedSeatMap fun access _ => ?_)
  refine Program.ensures_ite.mpr ⟨fun _ => Program.ensures_read.mpr h, fun _ => ?_⟩
  refine Program.ensures_bind.mpr (Program.ensures_require.mpr fun _ => ?_)
  refine Program.ensures_bind.mpr (Program.ensures_require.mpr fun _ => ?_)
  unfold publishSeatMapInTransaction
  refine Program.ensures_bind.mpr (Program.ensures_read.mpr ?_)
  refine Program.ensures_bind.mpr (Program.ensures_orThrow.mpr fun draft hdraft => ?_)
  have hm := SeatMapDb.access_seatMap hdraft
  refine Program.ensures_bind.mpr (Program.ensures_read.mpr ?_)
  refine Program.ensures_ite.mpr ⟨fun _ => Program.ensures_pure.mpr h, fun _ => ?_⟩
  refine Program.ensures_bind.mpr (Program.ensures_require.mpr fun _ => ?_)
  refine Program.ensures_bind.mpr (Program.ensures_require.mpr fun hissues => ?_)
  refine Program.ensures_bind.mpr (Entity.ensures_updateMany.mpr fun _ => ?_)
  refine Program.ensures_bind.mpr (Entity.ensures_update.mpr fun m hm₁ _ => ?_)
  refine Program.ensures_read.mpr ?_
  obtain ⟨hself, hmapped⟩ := mapped_publish hm now
  cases hself.symm.trans hm₁
  exact h.publish hm hmapped hissues

omit [Casing] in
theorem steps_insertSections_drafting {seatMapId : SeatMapId} {fresh : FreshSeatMap}
    {sections : List PublicationSection} {Q : Unit → SeatMapDb → Prop}
    (h : ∀ db', db.Drafting db' → Q () db') :
    Program.Ensures (insertSections seatMapId fresh 0 sections) db Q :=
  fun _ db' hrun => h db' (.steps (steps_insertSections editorSteps_drafting db () db' hrun))

theorem ensures_clonePublishedSeatMap_catalogued (h : db.Catalogued) (scope : SeatMapScope)
    (fresh : FreshSeatMap) :
    Program.Ensures (clonePublishedSeatMap scope fresh) db fun _ db' => db'.Catalogued := by
  unfold clonePublishedSeatMap
  refine Program.ensures_bind.mpr (ensures_findAuthorizedSeatMap fun access _ => ?_)
  refine Program.ensures_bind.mpr (Program.ensures_require.mpr fun _ => ?_)
  refine Program.ensures_bind.mpr (Program.ensures_require.mpr fun _ => ?_)
  refine Program.ensures_bind.mpr (Program.ensures_read.mpr ?_)
  refine Program.ensures_bind.mpr (Program.ensures_orThrow.mpr fun source _ => ?_)
  refine Program.ensures_bind.mpr (Program.ensures_require.mpr fun _ => ?_)
  refine Program.ensures_bind.mpr (Program.ensures_read.mpr ?_)
  refine Program.ensures_bind.mpr (Program.ensures_read.mpr ?_)
  refine Program.ensures_bind.mpr (Entity.ensures_insert.mpr fun habsent hvalid => ?_)
  refine steps_insertSections_drafting fun db' hdrafting => ?_
  exact (h.insertDraft habsent rfl rfl hvalid).drafting hdrafting

theorem ensures_createDraftSeatMap_catalogued (h : db.Catalogued) (authorized : Bool)
    (spaceId : SpaceId) (input : SeatMapInput) (fresh : SeatMapId) :
    Program.Ensures (createDraftSeatMap authorized spaceId input fresh) db
      fun _ db' => db'.Catalogued := by
  unfold createDraftSeatMap
  refine Program.ensures_bind.mpr (Program.ensures_read.mpr ?_)
  refine Program.ensures_bind.mpr (Program.ensures_orThrow.mpr fun space _ => ?_)
  refine Program.ensures_bind.mpr (Program.ensures_read.mpr ?_)
  refine Program.ensures_bind.mpr (Program.ensures_orThrow.mpr fun venue _ => ?_)
  refine Program.ensures_bind.mpr (Program.ensures_require.mpr fun _ => ?_)
  refine Program.ensures_bind.mpr (ensures_parsed fun input _ => ?_)
  refine Program.ensures_bind.mpr (Program.ensures_read.mpr ?_)
  exact Entity.ensures_insert.mpr fun habsent hvalid => h.insertDraft habsent rfl rfl hvalid

theorem ensures_updateDraftSeatMap_catalogued (h : db.Catalogued) (scope : SeatMapScope)
    (input : SeatMapInput) :
    Program.Ensures (updateDraftSeatMap scope input) db fun _ db' => db'.Catalogued := by
  unfold updateDraftSeatMap
  refine Program.ensures_bind.mpr (ensures_findAuthorizedSeatMap fun access _ => ?_)
  refine Program.ensures_bind.mpr (ensures_assertEditableMap ?_)
  refine Program.ensures_bind.mpr (ensures_parsed fun input _ => ?_)
  refine Program.ensures_bind.mpr (Entity.ensures_update.mpr fun m hm _ => ?_)
  exact Program.ensures_pure.mpr (h.rename hm input.name)

/-- **Step lemma.** Every operation of a venue keeps the catalogue. -/
theorem catalogued_of_venueStep (h : db.Catalogued) {action : VenueAction}
    (hstep : venueStep db action = some db') : db'.Catalogued := by
  rcases venueStep_cases hstep with hsame | ⟨scope, input, rfl⟩ | ⟨edit, hedit⟩
  · exact h.drafting hsame.drafting
  · exact (ensures_updateDraftSeatMap_catalogued h scope input).commit h
  · rcases editorAction_cases edit with hbelow | ⟨authorized, spaceId, input, fresh, rfl⟩ |
      ⟨scope, now, rfl⟩ | ⟨scope, fresh, rfl⟩
    · exact h.drafting (drafting_of_editorStep hbelow hedit)
    · rw [← Option.some.inj hedit]
      exact (ensures_createDraftSeatMap_catalogued h authorized spaceId input fresh).commit h
    · rw [← Option.some.inj hedit]
      exact (ensures_publishSeatMap_catalogued h scope now).commit h
    · rw [← Option.some.inj hedit]
      exact (ensures_clonePublishedSeatMap_catalogued h scope fresh).commit h

/-- **Run lemma.** -/
theorem catalogued_of_reaches (h : db.Catalogued)
    (hreach : Reaches venueStep (fun _ _ => True) db db') : db'.Catalogued :=
  hreach.invariant h fun _ _ _ _ hstep hI => catalogued_of_venueStep hI hstep

omit [Casing] in
/-- Distinct numbers from one upwards, without a gap, are the first ones. -/
theorem perm_range'_of_gapless {l : List Nat} (hnodup : l.Nodup) (hpositive : ∀ v ∈ l, 1 ≤ v)
    (hgapless : ∀ v ∈ l, ∀ w, 1 ≤ w → w ≤ v → w ∈ l) : l.Perm (List.range' 1 l.length) := by
  have hsubset : l ⊆ List.range' 1 l.length := by
    intro v hv
    have hbelow : List.range' 1 v ⊆ l := by
      intro w hw
      obtain ⟨hlow, hhigh⟩ := List.mem_range'_1.mp hw
      exact hgapless v hv w hlow (by omega)
    have hbelow_nodup : (List.range' 1 v).Nodup := List.nodup_range'
    have hlength := (hbelow_nodup.subperm hbelow).length_le
    rw [List.length_range'] at hlength
    have hone := hpositive v hv
    exact List.mem_range'_1.mpr ⟨hone, by omega⟩
  refine (hnodup.subperm hsubset).perm_of_length_le ?_
  rw [List.length_range']

/-- The versions of a space. -/
def SeatMapDb.versionsOf (db : SeatMapDb) (spaceId : SpaceId) : List Nat :=
  (db.seatMaps.select fun _ m => m.spaceId == spaceId).map (·.2.version)

theorem SeatMapDb.Catalogued.perm_versionsOf (h : db.Catalogued) (spaceId : SpaceId) :
    (db.versionsOf spaceId).Perm (List.range' 1 (db.versionsOf spaceId).length) := by
  have hmem : ∀ v, v ∈ db.versionsOf spaceId ↔
      ∃ id m, db.seatMaps.lookup id = some m ∧ m.spaceId = spaceId ∧ m.version = v := by
    intro v
    unfold SeatMapDb.versionsOf
    constructor
    · intro hv
      obtain ⟨e, he, hversion⟩ := List.mem_map.mp hv
      obtain ⟨hm, hspace⟩ := Table.mem_select.mp he
      exact ⟨e.1, e.2, hm, beq_iff_eq.mp hspace, hversion⟩
    · rintro ⟨id, m, hm, hspace, hversion⟩
      exact List.mem_map.mpr ⟨(id, m), Table.mem_select.mpr ⟨hm, beq_iff_eq.mpr hspace⟩, hversion⟩
  refine perm_range'_of_gapless ?_ (fun v hv => ?_) fun v hv w hw hle => ?_
  · have hnodup : (db.seatMaps.select fun _ m => m.spaceId == spaceId).Nodup :=
      List.Nodup.of_map Prod.fst (Table.nodup_select_fst _ _)
    refine hnodup.map_on fun e he e' he' hversion => ?_
    obtain ⟨hm, hspace⟩ := Table.mem_select.mp he
    obtain ⟨hm', hspace'⟩ := Table.mem_select.mp he'
    have hkey := h.versions e.1 e.2 e'.1 e'.2 hm hm'
      ((beq_iff_eq.mp hspace).trans (beq_iff_eq.mp hspace').symm) hversion
    rw [hkey] at hm
    exact Prod.ext hkey (Option.some.inj (hm.symm.trans hm'))
  · obtain ⟨id, m, hm, -, rfl⟩ := (hmem v).mp hv
    exact h.positive id m hm
  · obtain ⟨id, m, hm, hspace, rfl⟩ := (hmem v).mp hv
    obtain ⟨id', m', hm', hspace', hversion⟩ := h.gapless id m hm w hw hle
    exact (hmem w).mpr ⟨id', m', hm', hspace'.trans hspace, hversion⟩

/-- **What a space shows.** After any operations of a venue, every map that is no longer a draft
passes the validation for publication, no space has two published maps, and the maps of a space
are its versions from one upwards, each once. -/
theorem publishedMaps_catalogued (h : db.Catalogued)
    (hreach : Reaches venueStep (fun _ _ => True) db db') :
    (∀ id m, db'.seatMaps.lookup id = some m → m.status ≠ .DRAFT →
      validateSeatMapForPublication (db'.graph id) = [] ∧ m.publishedAt.isSome = true) ∧
    (∀ id m id' m', db'.seatMaps.lookup id = some m → db'.seatMaps.lookup id' = some m' →
      m.spaceId = m'.spaceId → m.status = .PUBLISHED → m'.status = .PUBLISHED → id = id') ∧
    ∀ spaceId,
      (db'.versionsOf spaceId).Perm (List.range' 1 (db'.versionsOf spaceId).length) := by
  have hkept := catalogued_of_reaches h hreach
  refine ⟨fun id m hm hstatus => ⟨hkept.passed id m hm hstatus, ?_⟩, hkept.published,
    hkept.perm_versionsOf⟩
  have hstamp := hkept.stamped id m hm
  unfold SeatMap.publishStateCheck at hstamp
  cases hcase : m.status with
  | DRAFT => exact absurd hcase hstatus
  | PUBLISHED =>
    rw [hcase] at hstamp
    exact hstamp
  | ARCHIVED =>
    rw [hcase] at hstamp
    exact hstamp

end Catalogue

section Shown

attribute [local instance] asciiCasing

theorem mainHall_catalogued : mainHall.Catalogued where
  passed := fun _ _ h => absurd h (by simp [mainHall])
  stamped := fun _ _ h => absurd h (by simp [mainHall])
  sources := fun _ _ _ h => absurd h (by simp [mainHall])
  positive := fun _ _ h => absurd h (by simp [mainHall])
  versions := fun _ _ _ _ h => absurd h (by simp [mainHall])
  gapless := fun _ _ h => absurd h (by simp [mainHall])
  published := fun _ _ _ _ h => absurd h (by simp [mainHall])

/-- Two versions, of which the second is shown. -/
theorem publishedMaps_catalogued_mainHall :
    ∃ db, Reaches venueStep (fun _ _ => True) mainHall db ∧ db.seatMaps.keys = [2, 1] ∧
      (∀ id m, db.seatMaps.lookup id = some m → m.status ≠ .DRAFT →
        validateSeatMapForPublication (db.graph id) = [] ∧ m.publishedAt.isSome = true) ∧
      ∀ spaceId, (db.versionsOf spaceId).Perm (List.range' 1 (db.versionsOf spaceId).length) := by
  have hrun : (execute venueStep
      (mainHallDraft ++ [.edit (.publishSeatMap { authorized := true, seatMapId := 1 } 100)] ++
        mainHallSeasons) mainHall).any (fun db => decide (db.seatMaps.keys = [2, 1])) = true := by
    decide +kernel
  obtain ⟨db, hdb, hkeys⟩ := (Option.any_eq_true _ _).mp hrun
  have hreach : Reaches venueStep (fun _ _ => True) mainHall db :=
    reaches_of_execute hdb fun _ _ _ => trivial
  obtain ⟨hpassed, -, hversions⟩ := publishedMaps_catalogued mainHall_catalogued hreach
  exact ⟨db, hreach, of_decide_eq_true hkeys, hpassed, hversions⟩

end Shown

/-! ## §2 Publication -/

section Publication

variable [Casing] {db : SeatMapDb}

/-- The constraints admit the archival of a published map. -/
theorem SeatMapDb.Catalogued.validate_archive (h : db.Catalogued) {id : SeatMapId} {m : SeatMap}
    (hm : db.seatMaps.lookup id = some m) (hstatus : m.status = .PUBLISHED) :
    Prisma.seatMap.validate db id (some m) { m with status := .ARCHIVED } = .ok () := by
  have hstamp := h.stamped id m hm
  unfold SeatMap.publishStateCheck at hstamp
  rw [hstatus] at hstamp
  show SeatMap.validate db id (some m) { m with status := .ARCHIVED } = .ok ()
  simp only [SeatMap.validate, SeatMap.enforceImmutableVersion, SeatMap.requireSameSpaceSource,
    Except.bind_unit_eq_ok, checkRow_eq_ok, checkIndex_eq_ok]
  refine ⟨⟨?_, fun _ => by simp⟩, fun source hsource =>
    h.sources id m source hm hsource, h.positive id m hm, hstamp,
    Table.any_eq_false.mpr fun k m' hm' => ?_, SeatMapStatus.noConfusion⟩
  · rw [hstatus]
    exact SeatMapStatus.noConfusion
  · refine Bool.eq_false_iff.mpr fun hother => ?_
    simp only [Bool.and_eq_true, bne_iff_ne, beq_iff_eq] at hother
    exact hother.1.1 (h.versions k m' id m hm' hm hother.1.2 hother.2)

/-- The constraints admit the publication of a draft whose space shows no other map. -/
theorem SeatMapDb.Catalogued.validate_publish (h : db.Catalogued) {id : SeatMapId} {m : SeatMap}
    (hm : db.seatMaps.lookup id = some m) (hstatus : m.status = .DRAFT)
    (hfree : ∀ k m', db.seatMaps.lookup k = some m' → m'.spaceId = m.spaceId →
      m'.status ≠ .PUBLISHED) (now : Time) :
    Prisma.seatMap.validate db id (some m)
      { m with status := .PUBLISHED, publishedAt := some now } = .ok () := by
  show SeatMap.validate db id (some m)
    { m with status := .PUBLISHED, publishedAt := some now } = .ok ()
  simp only [SeatMap.validate, SeatMap.enforceImmutableVersion, SeatMap.requireSameSpaceSource,
    Except.bind_unit_eq_ok, checkRow_eq_ok, checkIndex_eq_ok]
  refine ⟨⟨?_, fun hpublished => ?_⟩, fun source hsource => h.sources id m source hm hsource,
    h.positive id m hm, rfl, Table.any_eq_false.mpr fun k m' hm' => ?_,
    fun _ => Table.any_eq_false.mpr fun k m' hm' => ?_⟩
  · rw [hstatus]
    exact SeatMapStatus.noConfusion
  · rw [hstatus] at hpublished
    cases hpublished
  · refine Bool.eq_false_iff.mpr fun hother => ?_
    simp only [Bool.and_eq_true, bne_iff_ne, beq_iff_eq] at hother
    exact hother.1.1 (h.versions k m' id m hm' hm hother.1.2 hother.2)
  · refine Bool.eq_false_iff.mpr fun hother => ?_
    simp only [Bool.and_eq_true, bne_iff_ne, beq_iff_eq] at hother
    exact hfree k m' hm' hother.1.2 hother.2

/-- The archivals before a publication keep the catalogue. -/
theorem SeatMapDb.Catalogued.archive (h : db.Catalogued) (spaceId : SpaceId) (id : SeatMapId) :
    ({ db with seatMaps := db.seatMaps.putAll (db.seatMaps.updates (supersededBy spaceId id)
      fun _ m => { m with status := .ARCHIVED }) } : SeatMapDb).Catalogued := by
  refine h.mapped (Table.mapped_updates _ _ _) (fun k r => ?_) (fun k r hr => ?_)
    (fun k r hr hsettled => ?_) fun k r k' r' hr hr' hspace hpub hpub' => ?_
  · split <;> exact ⟨rfl, rfl, rfl⟩
  · have hstamp := h.stamped k r hr
    split
    · rename_i hold
      simp only [supersededBy, Bool.and_eq_true, beq_iff_eq] at hold
      unfold SeatMap.publishStateCheck at hstamp
      rw [hold.1.2] at hstamp
      exact hstamp
    · exact hstamp
  · refine h.passed k r hr fun hdraft => hsettled ?_
    split
    · rename_i hold
      simp only [supersededBy, Bool.and_eq_true, beq_iff_eq] at hold
      rw [hold.1.2] at hdraft
      cases hdraft
    · exact hdraft
  · split at hpub
    · cases hpub
    · split at hpub'
      · cases hpub'
      · exact h.published k r k' r' hr hr' hspace hpub hpub'

/-- **A draft is published exactly when it passes validation.** Under an operational venue and
space the publication then takes the place of the published map of the space, which is archived,
and changes nothing else. -/
theorem publishSeatMap_iff (h : db.Catalogued) {scope : SeatMapScope} {access : SeatMapAccess}
    (hauthorized : scope.authorized = true) (haccess : db.access scope.seatMapId = some access)
    (hpublishable : canPublishSeatMap access.lifecycleContext = true) (now : Time) :
    Program.Commits (publishSeatMap scope now) db
      (fun graph db' => graph = db.graph scope.seatMapId ∧
      ∃ t, db' = { db with seatMaps := t } ∧ Table.Mapped db.seatMaps
        (publishedRow access.seatMap.spaceId scope.seatMapId now) t) ↔
      validateSeatMapForPublication (db.graph scope.seatMapId) = [] := by
  have hm := SeatMapDb.access_seatMap haccess
  have hdraft : access.seatMap.status = .DRAFT := by
    unfold canPublishSeatMap canEditSeatMap SeatMapAccess.lifecycleContext at hpublishable
    simp only [Bool.and_eq_true, beq_iff_eq] at hpublishable
    exact hpublishable.1
  obtain ⟨hself, hmapped⟩ := mapped_publish hm now
  unfold publishSeatMap findAuthorizedSeatMap publishSeatMapInTransaction
  simp only [Program.commits_bind, Program.commits_read, Program.commits_orThrow,
    Program.commits_require, Program.commits_ite, Entity.commits_updateMany, Entity.commits_update,
    hauthorized, if_true, haccess, Option.some.injEq, exists_eq_left', hdraft, hpublishable,
    reduceCtorEq, ne_eq, not_false_eq_true, false_and, false_or, true_and]
  constructor
  · rintro ⟨hissues, -⟩
    exact hissues
  · intro hissues
    refine ⟨hissues, fun k r hr hold => ?_, access.seatMap, hself, ?_, rfl, _, rfl, hmapped⟩
    · simp only [Bool.and_eq_true, beq_iff_eq] at hold
      exact h.validate_archive hr hold.1.2
    · refine (h.archive access.seatMap.spaceId scope.seatMapId).validate_publish hself hdraft
        (fun k r hr hspace hpublished => ?_) now
      obtain ⟨r, hr₀, rfl⟩ := (Table.mapped_updates _ _ _).cases hr
      by_cases hsuperseded : supersededBy access.seatMap.spaceId scope.seatMapId k r = true
      · rw [if_pos hsuperseded] at hpublished
        cases hpublished
      · rw [if_neg hsuperseded] at hpublished hspace
        refine hsuperseded ?_
        have hother : k ≠ scope.seatMapId := by
          rintro rfl
          cases hm.symm.trans hr₀
          rw [hdraft] at hpublished
          cases hpublished
        simp [supersededBy, hspace, hpublished, hother]

end Publication

section Premiere

attribute [local instance] asciiCasing

/-- The draft passes and is published. -/
theorem publishSeatMap_iff_mainHall :
    ∃ db, Program.Commits (publishSeatMap { authorized := true, seatMapId := 1 } 100) db
      (fun graph db' => graph = db.graph 1 ∧ ∃ t, db' = { db with seatMaps := t } ∧
        Table.Mapped db.seatMaps (publishedRow 1 1 100) t) := by
  have hrun : (execute venueStep mainHallDraft mainHall).any (fun db =>
      decide (validateSeatMapForPublication (db.graph 1) = []) && (db.access 1).any fun access =>
        decide (canPublishSeatMap access.lifecycleContext = true) &&
          decide (access.seatMap.spaceId = 1)) = true := by
    decide +kernel
  obtain ⟨db, hdb, hchecks⟩ := (Option.any_eq_true _ _).mp hrun
  obtain ⟨hpassed, haccess⟩ := Bool.and_eq_true_iff.mp hchecks
  obtain ⟨access, haccess, hchecks⟩ := (Option.any_eq_true _ _).mp haccess
  obtain ⟨hpublishable, hspace⟩ := Bool.and_eq_true_iff.mp hchecks
  have hcatalogued : db.Catalogued := catalogued_of_reaches mainHall_catalogued
    (reaches_of_execute hdb fun _ _ _ => trivial)
  have hauthorized : (SeatMapScope.mk true 1).authorized = true := rfl
  have hcommits := (publishSeatMap_iff hcatalogued hauthorized haccess
    (of_decide_eq_true hpublishable) 100).mpr (of_decide_eq_true hpassed)
  rw [of_decide_eq_true hspace] at hcommits
  exact ⟨db, hcommits⟩

end Premiere

end SeatFlow
