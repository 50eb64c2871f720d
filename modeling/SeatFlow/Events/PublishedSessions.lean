import SeatFlow.Events.PlanningSystem
import SeatFlow.Events.SessionInventory

/-!
# Published sessions

What a session is sold from is checked once, when it is published, and its inventory is created in
the same transaction. From then on nothing that an organizer or a venue operator does reaches its
seat map, its prices or its inventory.
-/

namespace SeatFlow.Planning

open Relational

/-! ## §1 Complete sessions -/

/-- Everything that the publication of a session checked and created is there. -/
structure PlanningDb.Complete (db : PlanningDb) (id : SessionId) (session : EventSession) :
    Prop where
  seatMap : ∃ m, db.layout.seatMaps.lookup session.seatMapId = some m ∧ m.status ≠ .DRAFT
  issues : (getSessionPricingCoverage db id session).issues = []
  capacity : 0 < (getSessionPricingCoverage db id session).totalSellable
  tiers : db.orderedTiers id ≠ []
  inventory : Stocks db.inventory id (db.inventoryRows id session)

/-- Every published session is complete, and only published sessions have inventory. -/
structure PlanningDb.Stocked (db : PlanningDb) : Prop where
  lifecycle : ∀ id session, db.sessions.lookup id = some session → session.lifecycleCheck = true
  complete : ∀ id session, db.sessions.lookup id = some session → session.publishedAt.isSome →
    db.Complete id session
  published : ∀ key row, db.inventory.lookup key = some row →
    ∃ session, db.sessions.lookup key.1 = some session ∧ session.publishedAt.isSome

/-- The session is sold as before: the same configuration, seats, prices and inventory. -/
structure PlanningDb.SameOffer (db db' : PlanningDb) (id : SessionId)
    (session session' : EventSession) : Prop where
  snapshot : session'.snapshot = session.snapshot
  seatMap : ∀ m, db.layout.seatMaps.lookup session.seatMapId = some m → m.status ≠ .DRAFT →
    (∃ m', db'.layout.seatMaps.lookup session.seatMapId = some m' ∧ m'.status ≠ .DRAFT) ∧
      pricingSections db'.layout session.seatMapId = pricingSections db.layout session.seatMapId
  tiers : db'.tiersOf id = db.tiersOf id
  pricing : db'.pricingOf id = db.pricingOf id
  inventory : ∀ seatId, db'.inventory.lookup (id, seatId) = db.inventory.lookup (id, seatId)

/-- All published sessions are. -/
def PlanningDb.Kept (db db' : PlanningDb) : Prop :=
  ∀ id session, db.sessions.lookup id = some session → session.publishedAt.isSome →
    ∃ session', db'.sessions.lookup id = some session' ∧ db.SameOffer db' id session session'

/-- The step relation: complete sessions stay, and are sold as before. -/
def PlanningDb.Forward (db db' : PlanningDb) : Prop :=
  db.Stocked → db'.Stocked ∧ db.Kept db'

section Offer

variable {db db' db'' : PlanningDb} {id : SessionId} {session session' session'' : EventSession}

theorem EventSession.snapshot_eq (h : session'.snapshot = session.snapshot) :
    session'.ancestry = session.ancestry ∧
      session'.toSessionDateRange = session.toSessionDateRange ∧
      session'.publishedAt = session.publishedAt := by
  simpa only [EventSession.snapshot, Prod.mk.injEq] using h

theorem EventSession.seatMapId_eq (h : session'.snapshot = session.snapshot) :
    session'.seatMapId = session.seatMapId := by
  have hancestry := (EventSession.snapshot_eq h).1
  simp only [EventSession.ancestry, Prod.mk.injEq] at hancestry
  exact hancestry.2.2.2

/-- The data of an offer that has not changed. -/
theorem PlanningDb.SameOffer.eqs (h : db.SameOffer db' id session session')
    (hmap : ∃ m, db.layout.seatMaps.lookup session.seatMapId = some m ∧ m.status ≠ .DRAFT) :
    getSessionPricingCoverage db' id session' = getSessionPricingCoverage db id session ∧
      db'.orderedTiers id = db.orderedTiers id ∧
      db'.inventoryRows id session' = db.inventoryRows id session := by
  obtain ⟨m, hm, hstatus⟩ := hmap
  have hsections := (h.seatMap m hm hstatus).2
  have htiers : db'.orderedTiers id = db.orderedTiers id := by
    unfold PlanningDb.orderedTiers
    rw [h.tiers]
  have hassignments : db'.assignments id = db.assignments id := by
    unfold PlanningDb.assignments
    rw [h.pricing]
  refine ⟨?_, htiers, ?_⟩
  · unfold getSessionPricingCoverage
    rw [EventSession.seatMapId_eq h.snapshot, hsections, htiers, hassignments]
  · rw [inventoryRows_eq, inventoryRows_eq, EventSession.seatMapId_eq h.snapshot, hsections, htiers,
      hassignments]

theorem PlanningDb.Complete.kept (hcomplete : db.Complete id session)
    (h : db.SameOffer db' id session session') : db'.Complete id session' := by
  obtain ⟨hcoverage, htiers, hrows⟩ := h.eqs hcomplete.seatMap
  obtain ⟨m, hm, hstatus⟩ := hcomplete.seatMap
  refine ⟨?_, ?_, ?_, ?_, ?_⟩
  · rw [EventSession.seatMapId_eq h.snapshot]
    exact (h.seatMap m hm hstatus).1
  · rw [hcoverage]
    exact hcomplete.issues
  · rw [hcoverage]
    exact hcomplete.capacity
  · rw [htiers]
    exact hcomplete.tiers
  · intro seatId row
    rw [h.inventory, hrows]
    exact hcomplete.inventory seatId row

theorem PlanningDb.SameOffer.trans (h : db.SameOffer db' id session session')
    (h' : db'.SameOffer db'' id session' session'') : db.SameOffer db'' id session session'' where
  snapshot := h'.snapshot.trans h.snapshot
  seatMap m hm hstatus := by
    obtain ⟨⟨m', hm', hstatus'⟩, hsections⟩ := h.seatMap m hm hstatus
    have hnext := h'.seatMap
    rw [EventSession.seatMapId_eq h.snapshot] at hnext
    obtain ⟨hmap, hsections'⟩ := hnext m' hm' hstatus'
    exact ⟨hmap, hsections'.trans hsections⟩
  tiers := h'.tiers.trans h.tiers
  pricing := h'.pricing.trans h.pricing
  inventory seatId := (h'.inventory seatId).trans (h.inventory seatId)

theorem PlanningDb.kept_refl (db : PlanningDb) : db.Kept db :=
  fun _ session hsession _ => ⟨session, hsession, rfl, fun m hm hstatus => ⟨⟨m, hm, hstatus⟩, rfl⟩,
    rfl, rfl, fun _ => rfl⟩

theorem PlanningDb.Kept.trans (h : db.Kept db') (h' : db'.Kept db'') : db.Kept db'' := by
  intro id session hsession hpublished
  obtain ⟨session', hsession', hoffer⟩ := h id session hsession hpublished
  have hpublished' : session'.publishedAt.isSome := by
    rwa [(EventSession.snapshot_eq hoffer.snapshot).2.2]
  obtain ⟨session'', hsession'', hoffer'⟩ := h' id session' hsession' hpublished'
  exact ⟨session'', hsession'', hoffer.trans hoffer'⟩

/-- A published session is no draft. -/
theorem EventSession.ne_draft (h : session.lifecycleCheck = true)
    (hpublished : session.publishedAt.isSome) : session.status ≠ .DRAFT := by
  intro hdraft
  unfold EventSession.lifecycleCheck at h
  rw [hdraft] at h
  simp only [Bool.and_eq_true, Option.isNone_iff_eq_none] at h
  rw [h.1] at hpublished
  cases hpublished

theorem EventSession.unpublished_of_draft (h : session.lifecycleCheck = true)
    (hdraft : session.status = .DRAFT) : session.publishedAt = none := by
  cases hpublished : session.publishedAt with
  | none => rfl
  | some at_ => exact absurd hdraft (EventSession.ne_draft h (by rw [hpublished]; rfl))

/-- Nothing is published and the inventory stays. -/
theorem forward_of_quiet (hkept : db.Stocked → db.Kept db')
    (hlifecycle : db.Stocked → ∀ id session', db'.sessions.lookup id = some session' →
      session'.lifecycleCheck = true)
    (hold : ∀ id session', db'.sessions.lookup id = some session' → session'.publishedAt.isSome →
      ∃ session, db.sessions.lookup id = some session ∧ session.publishedAt.isSome)
    (hinventory : db'.inventory = db.inventory) : db.Forward db' := by
  intro hstocked
  have hkept := hkept hstocked
  refine ⟨⟨hlifecycle hstocked, fun id session' hsession' hpublished' => ?_,
    fun key row hrow => ?_⟩,
    hkept⟩
  · obtain ⟨session, hsession, hpublished⟩ := hold id session' hsession' hpublished'
    obtain ⟨_, hfound, hoffer⟩ := hkept id session hsession hpublished
    cases hfound.symm.trans hsession'
    exact (hstocked.complete id session hsession hpublished).kept hoffer
  · rw [hinventory] at hrow
    obtain ⟨session, hsession, hpublished⟩ := hstocked.published key row hrow
    obtain ⟨session', hsession', hoffer⟩ := hkept key.1 session hsession hpublished
    refine ⟨session', hsession', ?_⟩
    rwa [(EventSession.snapshot_eq hoffer.snapshot).2.2]

end Offer

/-! ## §2 Steps that publish nothing -/

section Quiet

variable {db : PlanningDb}

/-- What is not looked at may change. -/
theorem forward_aside {db' : PlanningDb} (hlayout : db'.layout = db.layout)
    (hsessions : db'.sessions = db.sessions) (htiers : db'.priceTiers = db.priceTiers)
    (hpricing : db'.sectionPricing = db.sectionPricing)
    (hinventory : db'.inventory = db.inventory) :
    db.Forward db' := by
  refine forward_of_quiet (fun _ id session hsession hpublished => ?_)
    (fun hstocked id session hs =>
    hstocked.lifecycle id session (hsessions ▸ hs)) (fun id session hs hpublished =>
    ⟨session, hsessions ▸ hs, hpublished⟩) hinventory
  refine ⟨session, hsessions ▸ hsession, rfl, fun m hm hstatus => ?_, ?_, ?_, fun _ => ?_⟩
  · rw [hlayout]
    exact ⟨⟨m, hm, hstatus⟩, rfl⟩
  · rw [PlanningDb.tiersOf, htiers, PlanningDb.tiersOf]
  · rw [PlanningDb.pricingOf, hpricing, PlanningDb.pricingOf]
  · rw [hinventory]

theorem EventSession.validate_eq_ok {id : SessionId} {old : Option EventSession}
    {new : EventSession} : EventSession.validate db id old new = .ok () ↔
      EventSession.enforceAncestry db old new = .ok () ∧
      (∀ session ∈ old, session.publishedAt.isSome → new.snapshot = session.snapshot) ∧
      new.endAt > new.startAt ∧ (new.salesStartAt < new.salesEndAt ∧ new.salesEndAt ≤ new.startAt) ∧
      new.lifecycleCheck = true ∧
      db.sessions.any (fun k session => k != id && decide (session.Clash new)) = false ∧
      (db.events.lookup new.eventId).isSome := by
  unfold EventSession.validate
  simp only [Except.bind_unit_eq_ok, checkRow_eq_ok, checkIndex_eq_ok]

theorem SessionChange.publishedAt {session session' : EventSession}
    (h : SessionChange session session') : session'.publishedAt = session.publishedAt := by
  cases h <;> rfl

/-- The sessions as they were, some of them changed. -/
theorem forward_sessions {t : Table SessionId EventSession}
    (hkeys : ∀ id session, db.sessions.lookup id = some session →
      ∃ session', t.lookup id = some session')
    (hrows : ∀ id session', t.lookup id = some session' →
      db.sessions.lookup id = some session' ∨ session'.status = .DRAFT ∧
        session'.lifecycleCheck = true ∧ db.sessions.lookup id = none ∨
      ∃ session, db.sessions.lookup id = some session ∧ SessionChange session session' ∧
        EventSession.validate db id (some session) session' = .ok ()) :
    db.Forward { db with sessions := t } := by
  refine forward_of_quiet (fun _ id session hsession hpublished => ?_)
    (fun hstocked id session' hsession' => ?_) (fun id session' hsession' hpublished => ?_) rfl
  · obtain ⟨session', hsession'⟩ := hkeys id session hsession
    refine ⟨session', hsession', ?_, fun m hm hstatus => ⟨⟨m, hm, hstatus⟩, rfl⟩, rfl, rfl,
      fun _ => rfl⟩
    rcases hrows id session' hsession' with hsame | ⟨-, -, habsent⟩ | ⟨old, hold, -, hvalid⟩
    · cases hsession.symm.trans hsame
      rfl
    · cases hsession.symm.trans habsent
    · cases hsession.symm.trans hold
      exact (EventSession.validate_eq_ok.mp hvalid).2.1 session rfl hpublished
  · rcases hrows id session' hsession' with hsame | ⟨-, hlifecycle, -⟩ | ⟨old, -, -, hvalid⟩
    · exact hstocked.lifecycle id session' hsame
    · exact hlifecycle
    · exact (EventSession.validate_eq_ok.mp hvalid).2.2.2.2.1
  · rcases hrows id session' hsession' with hsame | ⟨hdraft, hlifecycle, -⟩ |
        ⟨old, hold, hchange, -⟩
    · exact ⟨session', hsame, hpublished⟩
    · exact absurd hdraft (EventSession.ne_draft hlifecycle hpublished)
    · exact ⟨old, hold, hchange.publishedAt ▸ hpublished⟩

theorem admitsNew_session :
    Prisma.eventSession.AdmitsNew (·.status = .DRAFT) PlanningDb.Forward := by
  intro db id row hdraft habsent hvalid
  replace habsent : db.sessions.lookup id = none := habsent
  refine forward_sessions (fun k session hk => ?_) fun k session' hk => ?_
  · rw [Table.lookup_insert_ite]
    split
    · exact ⟨row, rfl⟩
    · exact ⟨session, hk⟩
  · rcases Table.wrote_insert.cases hk with ⟨rfl, rfl⟩ | ⟨-, hold⟩
    · exact .inr (.inl ⟨hdraft, (EventSession.validate_eq_ok.mp hvalid).2.2.2.2.1, habsent⟩)
    · exact .inl hold

theorem admitsChange_session :
    Prisma.eventSession.AdmitsChange SessionChange PlanningDb.Forward := by
  intro db id session new hsession hchange hvalid
  refine forward_sessions (fun k session hk => ?_) fun k session' hk => ?_
  · rw [Table.lookup_insert_ite]
    split
    · exact ⟨new, rfl⟩
    · exact ⟨session, hk⟩
  · rcases Table.wrote_insert.cases hk with ⟨rfl, rfl⟩ | ⟨-, hold⟩
    · exact .inr (.inr ⟨session, hsession, hchange, hvalid⟩)
    · exact .inl hold

theorem admitsChanges_session :
    Prisma.eventSession.AdmitsChanges SessionChange PlanningDb.Forward := by
  intro db p f hchange hvalid
  have hlookup := Table.lookup_putAll_updates p f db.sessions
  refine forward_sessions (fun k session hk => ?_) fun k session' hk => ?_
  · refine ⟨if p k session then f k session else session, ?_⟩
    rw [show (Prisma.eventSession.get db) = db.sessions from rfl, hlookup k, hk, Option.map_some]
  · replace hk : (db.sessions.putAll (db.sessions.updates p f)).lookup k = some session' := hk
    rw [hlookup k] at hk
    obtain ⟨session, hsession, rfl⟩ := Option.map_eq_some_iff.mp hk
    split
    · exact .inr (.inr ⟨session, hsession, hchange k session, hvalid k session hsession ‹_›⟩)
    · exact .inl hsession

/-- Prices that belong to drafts. -/
theorem forward_prices {db' : PlanningDb} (hlayout : db'.layout = db.layout)
    (hsessions : db'.sessions = db.sessions) (hinventory : db'.inventory = db.inventory)
    (hprices : ∀ id, ¬db.sessionIsDraft id →
      db'.tiersOf id = db.tiersOf id ∧ db'.pricingOf id = db.pricingOf id) : db.Forward db' := by
  refine forward_of_quiet (fun hstocked id session hsession hpublished => ?_)
    (fun hstocked id session hs => hstocked.lifecycle id session (hsessions ▸ hs))
    (fun id session hs hpublished => ⟨session, hsessions ▸ hs, hpublished⟩) hinventory
  have hdraft : ¬db.sessionIsDraft id := by
    intro hdraft
    unfold PlanningDb.sessionIsDraft at hdraft
    rw [hsession, Option.map_some, Option.some.injEq] at hdraft
    exact EventSession.ne_draft (hstocked.lifecycle id session hsession) hpublished hdraft
  obtain ⟨htiers, hpricing⟩ := hprices id hdraft
  refine ⟨session, hsessions ▸ hsession, rfl, fun m hm hstatus => ?_, htiers, hpricing, fun _ => ?_⟩
  · rw [hlayout]
    exact ⟨⟨m, hm, hstatus⟩, rfl⟩
  · rw [hinventory]

theorem admitsRow_priceTier : Prisma.sessionPriceTier.AdmitsRow PlanningDb.Forward := by
  intro db id row hvalid
  replace hvalid : SessionPriceTier.validate db id (db.priceTiers.lookup id) row = .ok () := hvalid
  unfold SessionPriceTier.validate SessionPriceTier.requireDraftSession at hvalid
  simp only [Except.bind_unit_eq_ok, checkRow_eq_ok] at hvalid
  obtain ⟨hmoved, hdraft, -⟩ := hvalid
  refine forward_prices rfl rfl rfl fun k hk => ⟨?_, rfl⟩
  have hne : row.sessionId ≠ k := fun hsame => hk (hsame ▸ hdraft)
  refine Table.select_insert_of_not (fun tier htier => ?_) (beq_eq_false_iff_ne.mpr hne)
  rw [hmoved tier htier] at hne
  exact beq_eq_false_iff_ne.mpr hne

theorem steps_deletePriceTierRow (id : PriceTierId) :
    (deletePriceTierRow id).Steps PlanningDb.Forward := by
  refine Program.steps_iff_ensures.mpr fun db => ensures_deletePriceTierRow.mono ?_
  rintro _ _ ⟨tier, htier, hdraft, rfl⟩
  refine .single (forward_prices rfl rfl rfl fun k hk => ⟨?_, rfl⟩)
  refine Table.select_erase_of_not fun tier' htier' => ?_
  cases htier.symm.trans htier'
  exact beq_eq_false_iff_ne.mpr fun hsame => hk (hsame ▸ hdraft)

theorem admitsRow_sectionPricing : Prisma.sessionSectionPricing.AdmitsRow PlanningDb.Forward := by
  intro db id row hvalid
  replace hvalid :
    SessionSectionPricing.validate db id (db.sectionPricing.lookup id) row = .ok () := hvalid
  unfold SessionSectionPricing.validate SessionSectionPricing.requireDraftSession at hvalid
  simp only [Except.bind_unit_eq_ok, checkRow_eq_ok] at hvalid
  obtain ⟨habsent, hdraft, -⟩ := hvalid
  refine forward_prices rfl rfl rfl fun k hk => ⟨rfl, ?_⟩
  refine Table.select_insert_of_not (fun pricing hpricing => ?_)
    (beq_eq_false_iff_ne.mpr fun hsame => hk (hsame ▸ hdraft))
  cases habsent.symm.trans hpricing

theorem steps_deletePricingOf (id : SessionId) : (deletePricingOf id).Steps PlanningDb.Forward := by
  refine Program.steps_iff_ensures.mpr fun db => ensures_deletePricingOf.mono ?_
  rintro _ _ ⟨t, rfl, hkept⟩
  exact .single (forward_prices rfl rfl rfl fun k hk => ⟨rfl, hkept k hk⟩)

/-- The venues' work. -/
theorem forward_venue [Casing] {action : VenueAction} {layout : SeatMapDb}
    (h : venueStep db.layout action = some layout) :
    db.Forward { db with layout := layout } := by
  have hkeeping : db.layout.Keeping layout :=
    SeatMapDb.Keeping.steps (steps_of_venueStep venueSteps_keeping h)
  refine forward_of_quiet (fun _ id session hsession _ => ?_)
    (fun hstocked => hstocked.lifecycle) (fun id session hs hpublished => ⟨session, hs, hpublished⟩)
    rfl
  refine ⟨session, hsession, rfl, fun m hm hstatus => ?_, rfl, rfl, fun _ => rfl⟩
  obtain ⟨⟨m', hm', hkept⟩, hlayout⟩ := hkeeping session.seatMapId m hm hstatus
  exact ⟨⟨m', hm', hkept.settled hstatus⟩, pricingSections_congr hlayout⟩

end Quiet

/-! ## §3 Publication -/

def EventSession.published (session : EventSession) (now : Time) : EventSession :=
  { session with status := publishedStatus session now, publishedAt := some now }

section Publication

variable {db : PlanningDb}

theorem ensures_parsed {α : Type} {result : Except (List SchemaIssue) α} :
    (parsed result).Ensures db fun _ db' => db' = db := by
  cases result with
  | ok input => exact Program.ensures_pure.mpr rfl
  | error issues => exact Program.ensures_abort.mpr trivial

theorem ensures_loadAuthorizedConfiguration {organizationId : OrganizationId} {venueId : VenueId}
    {spaceId : SpaceId} {seatMapId : SeatMapId} :
    (loadAuthorizedConfiguration organizationId venueId spaceId seatMapId).Ensures db
      fun _ db' => db' = db := by
  unfold loadAuthorizedConfiguration
  simp only [Program.ensures_bind, Program.ensures_read, Program.ensures_orThrow,
    Program.ensures_require]
  exact fun _ _ _ _ _ => trivial

theorem sessionOf_eq_some {access : SessionAccess} {session : EventSession} {event : Event} :
    db.sessionOf access = some (session, event) ↔
      db.sessions.lookup access.sessionId = some session ∧ session.eventId = access.eventId ∧
        db.events.lookup session.eventId = some event := by
  unfold PlanningDb.sessionOf
  simp only [Option.bind_eq_bind, Option.bind_eq_some_iff, Option.filter_eq_some_iff, beq_iff_eq,
    Option.some.injEq, Prod.mk.injEq]
  constructor
  · rintro ⟨_, ⟨hsession, hevent⟩, _, hfound, rfl, rfl⟩
    exact ⟨hsession, hevent, hfound⟩
  · rintro ⟨hsession, hevent, hfound⟩
    exact ⟨session, ⟨hsession, hevent⟩, event, hfound, rfl, rfl⟩

/-- A publication that commits found a draft without issues, filled its inventory and wrote its
row; else it changed nothing. -/
theorem ensures_publishEventSession {access : Option SessionAccess} {now : Time} :
    (publishEventSession access now).Ensures db fun _ db' => db' = db ∨ ∃ id session t,
      db.sessions.lookup id = some session ∧ session.status = .DRAFT ∧
      publicationIssues db id session now = [] ∧
      Filled db.inventory id (db.inventoryRows id session) t ∧
      EventSession.validate { db with inventory := t } id (some session) (session.published now) =
        .ok () ∧
      db' = { db with
        inventory := t, sessions := db.sessions.insert id (session.published now) } := by
  unfold publishEventSession
  simp only [Program.ensures_bind, Program.ensures_orThrow, Program.ensures_read]
  rintro access - ⟨session, event⟩ hfound
  obtain ⟨hsession, -, -⟩ := sessionOf_eq_some.mp hfound
  dsimp only
  refine Program.ensures_ite.mpr ⟨fun _ => Program.ensures_pure.mpr (.inl rfl), fun _ => ?_⟩
  simp only [Program.ensures_bind, Program.ensures_require]
  intro hdraft _
  refine ensures_loadAuthorizedConfiguration.mono ?_
  rintro _ _ rfl
  refine ensures_parsed.mono ?_
  rintro _ _ rfl
  simp only [Program.ensures_read]
  intro hissues
  refine (ensures_ensureSessionInventory hsession).mono ?_
  rintro _ _ ⟨t, rfl, hfilled⟩
  rw [Entity.ensures_update]
  intro row hrow hvalid
  cases hsession.symm.trans hrow
  exact Program.ensures_pure.mpr
    (.inr ⟨access.sessionId, session, t, hsession, hdraft, hissues, hfilled, hvalid, rfl⟩)

theorem publicationIssues_eq_nil {id : SessionId} {session : EventSession} {now : Time}
    (h : publicationIssues db id session now = []) :
    (getSessionPricingCoverage db id session).issues = [] ∧
      0 < (getSessionPricingCoverage db id session).totalSellable ∧ db.orderedTiers id ≠ [] := by
  unfold publicationIssues at h
  simp only [List.append_eq_nil_iff, ite_eq_right_iff, List.cons_ne_nil, imp_false] at h
  obtain ⟨⟨⟨⟨⟨hissues, -⟩, -⟩, hcapacity⟩, htiers⟩, -⟩ := h
  exact ⟨hissues, Nat.pos_of_ne_zero fun hzero => hcapacity (Nat.le_of_eq hzero),
    fun hnone => htiers (List.length_eq_zero_iff.mpr hnone)⟩

/-- A first publication looks at the map that it refers to. -/
theorem EventSession.published_seatMap {id : SessionId} {session : EventSession} {now : Time}
    (hunpublished : session.publishedAt = none)
    (h : EventSession.validate db id (some session) (session.published now) = .ok ()) :
    (db.layout.seatMaps.lookup session.seatMapId).map (·.status) = some .PUBLISHED := by
  have hancestry := (EventSession.validate_eq_ok.mp h).1
  unfold EventSession.enforceAncestry at hancestry
  simp only [Except.bind_unit_eq_ok, checkRow_eq_ok] at hancestry
  obtain ⟨-, -, -, hcurrent⟩ := hancestry
  rw [if_neg] at hcurrent
  · unfold EventSession.requireCurrentAccess at hcurrent
    simp only [Except.bind_unit_eq_ok, checkRow_eq_ok] at hcurrent
    exact hcurrent.2.1
  · simp [EventSession.published, hunpublished]

theorem forward_publishEventSession {access : Option SessionAccess} {now : Time} :
    (publishEventSession access now).Steps PlanningDb.Forward := by
  refine Program.steps_iff_ensures.mpr fun db => ensures_publishEventSession.mono ?_
  rintro _ _ (rfl | ⟨id, session, t, hsession, hdraft, hissues, hfilled, hvalid, rfl⟩)
  · exact .refl
  refine .single fun hstocked => ?_
  have hunpublished : session.publishedAt = none :=
    EventSession.unpublished_of_draft (hstocked.lifecycle id session hsession) hdraft
  obtain ⟨hcoverage, hcapacity, htiers⟩ := publicationIssues_eq_nil hissues
  -- the session had no inventory
  have habsent : ∀ seatId, db.inventory.lookup (id, seatId) = none := by
    intro seatId
    cases hrow : db.inventory.lookup (id, seatId) with
    | none => rfl
    | some row =>
      obtain ⟨session', hsession', hpublished⟩ := hstocked.published (id, seatId) row hrow
      cases hsession.symm.trans hsession'
      rw [hunpublished] at hpublished
      cases hpublished
  have hothers : ∀ k session', k ≠ id → db.sessions.lookup k = some session' →
      (db.sessions.insert id (session.published now)).lookup k = some session' :=
    fun k session' hk hlook => (AList.lookup_insert_ne hk).trans hlook
  have hkept : db.Kept { db with
      inventory := t, sessions := db.sessions.insert id (session.published now) } := by
    intro k session' hsession' hpublished
    have hk : k ≠ id := by
      rintro rfl
      cases hsession.symm.trans hsession'
      rw [hunpublished] at hpublished
      cases hpublished
    refine ⟨session', hothers k session' hk hsession', rfl,
      fun m hm hstatus => ⟨⟨m, hm, hstatus⟩, rfl⟩, rfl, rfl, fun seatId => ?_⟩
    exact hfilled.others (k, seatId) hk
  refine ⟨⟨fun k session' hlook => ?_, fun k session' hlook hpublished => ?_,
    fun key row hrow => ?_⟩, hkept⟩
  · rcases Table.wrote_insert.cases hlook with ⟨-, rfl⟩ | ⟨-, hold⟩
    · exact (EventSession.validate_eq_ok.mp hvalid).2.2.2.2.1
    · exact hstocked.lifecycle k session' hold
  · rcases Table.wrote_insert.cases hlook with ⟨rfl, rfl⟩ | ⟨hk, hold⟩
    · obtain ⟨m, hm, hstatus⟩ := Option.map_eq_some_iff.mp
        (EventSession.published_seatMap hunpublished hvalid)
      refine ⟨⟨m, hm, ?_⟩, hcoverage, hcapacity, htiers, hfilled.stocks habsent⟩
      rw [hstatus]
      exact SeatMapStatus.noConfusion
    · obtain ⟨session'', hfound, hoffer⟩ := hkept k session' hold hpublished
      cases hlook.symm.trans hfound
      exact (hstocked.complete k session' hold hpublished).kept hoffer
  · by_cases hk : key.1 = id
    · exact ⟨session.published now, by rw [hk]; exact AList.lookup_insert _, rfl⟩
    · rw [hfilled.others key hk] at hrow
      obtain ⟨session', hsession', hpublished⟩ := hstocked.published key row hrow
      exact ⟨session', hothers key.1 session' hk hsession', hpublished⟩

end Publication

/-! ## §4 Runs -/

/-- The backfill of a complete session. -/
theorem PlanningDb.Complete.backfillOutcome {db : PlanningDb} {id : SessionId}
    {session : EventSession} (h : db.Complete id session) :
    backfillOutcome db id session = .skipped_complete := by
  have hcount : (db.inventoryOf id).length = (db.inventoryRows id session).length :=
    h.inventory.length_eq (nodup_inventoryRows db id session)
  unfold Planning.backfillOutcome
  dsimp only
  rw [if_neg, if_pos hcount]
  rintro (hissues | hcapacity)
  · rw [h.issues] at hissues
    exact absurd hissues (Nat.lt_irrefl 0)
  · exact absurd h.capacity (Nat.not_lt.mpr hcapacity)

theorem invariant_stocked [Casing] (db₀ : PlanningDb) :
    PlanningInvariant PlanningDb.Forward fun db => db.Stocked ∧ db₀.Kept db where
  grant := Entity.Free.row fun _ _ => forward_aside rfl rfl rfl rfl rfl
  newEvent := (Entity.Free.row fun _ _ => forward_aside rfl rfl rfl rfl rfl).new
  event := (Entity.Free.row fun _ _ => forward_aside rfl rfl rfl rfl rfl).change
  deleteEvent id := by
    refine Program.steps_iff_ensures.mpr fun db => ensures_deleteEventRow.mono ?_
    rintro _ _ ⟨-, -, -, -, rfl⟩
    exact .single (forward_aside rfl rfl rfl rfl rfl)
  publishEvent access now := steps_publishEvent fun id =>
    Entity.Free.update fun _ _ => forward_aside rfl rfl rfl rfl rfl
  cancelEvent access now := steps_cancelEvent admitsChanges_session fun id =>
    Entity.Free.update fun _ _ => forward_aside rfl rfl rfl rfl rfl
  createSession access input timeZone fresh := steps_createEventSession admitsNew_session
  session := admitsChange_session
  publishSession access now := forward_publishEventSession
  priceTier := admitsRow_priceTier
  deletePriceTier := steps_deletePriceTierRow
  sectionPricing := admitsRow_sectionPricing
  deletePricing := steps_deletePricingOf
  keeps db db' hforward hdb := by
    obtain ⟨hstocked, hkept⟩ := hforward hdb.1
    exact ⟨hstocked, hdb.2.trans hkept⟩
  venue db action layout hlayout hdb := by
    obtain ⟨hstocked, hkept⟩ := forward_venue hlayout hdb.1
    exact ⟨hstocked, hdb.2.trans hkept⟩
  backfill db hdb e he := by
    obtain ⟨hsession, hcandidate⟩ := Table.mem_select.mp he
    simp only [Bool.and_eq_true] at hcandidate
    rw [(hdb.1.complete e.1 e.2 hsession hcandidate.1.1).backfillOutcome]
    exact Program.steps_pure

section Runs

variable [Casing] {forms : TextForms} {db : PlanningDb} {s t : PlanningState}

theorem stocked_of_reaches (hreach : Reaches (planningStep forms) (fun _ _ => True) { db := db } s)
    (hsessions : db.sessions = ∅) (hinventory : db.inventory = ∅) :
    s.db.Stocked ∧ s.Waiting PlanningDb.Forward := by
  have hstart : db.Stocked := by
    refine ⟨fun id session hs => ?_, fun id session hs => ?_, fun key row hrow => ?_⟩
    · rw [hsessions] at hs
      cases hs
    · rw [hsessions] at hs
      cases hs
    · rw [hinventory] at hrow
      cases hrow
  obtain ⟨⟨hstocked, -⟩, hwaiting⟩ := (invariant_stocked db).reaches hreach
    ⟨⟨hstart, db.kept_refl⟩, fun _ hmem => by cases hmem⟩
  exact ⟨hstocked, hwaiting⟩

/-- **A published session is complete.** In every state that organizers and venue operators reach,
the prices of a published session are without issues and there is something to sell, every seat on
sale has its row of inventory, at the price of its section, and no other seat has one; the backfill
has nothing to do. -/
theorem publishedSessions_complete
    (hreach : Reaches (planningStep forms) (fun _ _ => True) { db := db } s)
    (hsessions : db.sessions = ∅) (hinventory : db.inventory = ∅) {id : SessionId}
    {session : EventSession} (hsession : s.db.sessions.lookup id = some session)
    (hpublished : session.publishedAt.isSome) :
    (getSessionPricingCoverage s.db id session).issues = [] ∧
      0 < (getSessionPricingCoverage s.db id session).totalSellable ∧
      (∀ seatId row, s.db.inventory.lookup (id, seatId) = some row ↔
        row ∈ s.db.inventoryRows id session ∧ row.seatId = seatId) ∧
      (s.db.inventoryOf id).length = (getSessionPricingCoverage s.db id session).totalSellable ∧
      backfillOutcome s.db id session = .skipped_complete := by
  have hcomplete := (stocked_of_reaches hreach hsessions hinventory).1.complete id session hsession
    hpublished
  refine ⟨hcomplete.issues, hcomplete.capacity, hcomplete.inventory, ?_, hcomplete.backfillOutcome⟩
  rw [hcomplete.inventory.length_eq (nodup_inventoryRows s.db id session)]
  exact length_inventoryRows hcomplete.issues

/-- **A published session is sold as it was published.** Whatever organizers and venue operators
do afterwards, with whatever they had read before, its venue, space, seat map and times, the seats
of the map, its tiers, their assignment and its inventory stay as they are. -/
theorem publishedSession_kept
    (hbefore : Reaches (planningStep forms) (fun _ _ => True) { db := db } s)
    (hsessions : db.sessions = ∅) (hinventory : db.inventory = ∅)
    (hreach : Reaches (planningStep forms) (fun _ _ => True) s t) {id : SessionId}
    {session : EventSession} (hsession : s.db.sessions.lookup id = some session)
    (hpublished : session.publishedAt.isSome) :
    (∃ session', t.db.sessions.lookup id = some session' ∧ session'.snapshot = session.snapshot) ∧
      pricingSections t.db.layout session.seatMapId =
        pricingSections s.db.layout session.seatMapId ∧
      t.db.tiersOf id = s.db.tiersOf id ∧ t.db.pricingOf id = s.db.pricingOf id ∧
      ∀ seatId, t.db.inventory.lookup (id, seatId) = s.db.inventory.lookup (id, seatId) := by
  obtain ⟨hstocked, hwaiting⟩ := stocked_of_reaches hbefore hsessions hinventory
  obtain ⟨⟨-, hkept⟩, -⟩ := (invariant_stocked s.db).reaches hreach
    ⟨⟨hstocked, s.db.kept_refl⟩, hwaiting⟩
  obtain ⟨session', hsession', hoffer⟩ := hkept id session hsession hpublished
  obtain ⟨m, hm, hstatus⟩ := (hstocked.complete id session hsession hpublished).seatMap
  exact ⟨⟨session', hsession', hoffer.snapshot⟩, (hoffer.seatMap m hm hstatus).2, hoffer.tiers,
    hoffer.pricing, hoffer.inventory⟩

end Runs

section SummerNight

attribute [local instance] asciiCasing

/-- Over texts that normalisation leaves as they are. -/
def plainForms : TextForms :=
  { nfkd := id, lower := fun value => String.ofList (value.toList.map Char.toLower) }

/-- The main hall, and an organizer. -/
def openingDb : PlanningDb :=
  { layout := mainHall
    organizations := (∅ : Table OrganizationId Organization).insert 1
      { kind := .ORGANIZER, slug := "nova" } }

def handled (request : PlanningRequest) : List PlanningAction :=
  [.receive request, .act 0]

def novaScope : OrganizerScope := { authorized := true, organizationId := 1 }

def summerScope : EventScope := { novaScope with eventSlug := "summer" }

def nightScope : SessionScope := { summerScope with sessionId := 1 }

def nightInput : EventSessionInput :=
  { venueId := 1, spaceId := 1, seatMapId := 1
    startLocal := "1970-01-03T20:00", endLocal := "1970-01-03T22:00"
    salesStartLocal := "1970-01-01T08:00", salesEndLocal := "1970-01-03T20:00" }

def pricierInput : PriceTierInput :=
  { name := "Standard", code := "std", priceMinor := 5000, currency := .AZN }

/-- The hall opens, and an event of one session is published in it, between the read and the
transaction of a change of its price. -/
def openingSeason : List PlanningAction :=
  ([VenueAction.updateVenue true 1 .ACTIVE, .updateSpace true 1 .ACTIVE] ++ mainHallDraft ++
    [VenueAction.edit (.publishSeatMap { authorized := true, seatMapId := 1 } 100)]).map
      PlanningAction.venue ++
  ([ PlanningRequest.grantVenueAccess true 1 " Nova " 7 1,
    .createEvent novaScope
      { title := "Summer", shortDescription := "Live music"
        description := "Live music in the main hall...", category := .CONCERT } 1,
    .createEventSession summerScope nightInput (forwardAt 0) 1,
    .createSessionPriceTier nightScope
      { name := "Standard", code := "std", priceMinor := 1000, currency := .AZN } 1,
    .assignSessionSectionPricing nightScope [⟨1, 1⟩] fun i => i ].flatMap handled) ++
  [ .receive (.updateSessionPriceTier { nightScope with priceTierId := 1 } pricierInput),
    .receive (.publishEventSession nightScope 1000), .act 1,
    .receive (.publishEvent summerScope 2000), .act 1 ]

/-- The change of the price, which read the session as a draft, comes to its transaction, and sales
open; the hall gets a new map and takes the access back, and the event is cancelled. -/
def closingSeason : List PlanningAction :=
  [.act 0, .receive (.resumeEventSessionSales nightScope 30000000), .act 0] ++
  [ VenueAction.edit (.clonePublishedSeatMap { authorized := true, seatMapId := 1 }
      { seatMapId := 2, sectionId := fun i => 2 + i
        rows := fun _ => { rowId := fun i => 5 + i, seatId := fun i j => 50 + 10 * i + j } }),
    .edit (.publishSeatMap { authorized := true, seatMapId := 2 } 40000000) ].map
      PlanningAction.venue ++
  [ PlanningRequest.revokeVenueAccess true 1 1 7 50000000,
    .cancelEvent summerScope 60000000 ].flatMap handled

/-- The cancelled event is archived, and its restoration and a second night are asked for. -/
def nightAfter : List PlanningAction :=
  [ PlanningRequest.archiveEvent summerScope 70000000, .restoreEvent summerScope,
    .createEventSession summerScope nightInput (forwardAt 0) 2 ].flatMap handled

/-- A night with two seats on sale, which is cancelled. -/
theorem summerNight : ∃ s t u session,
    Reaches (planningStep plainForms) (fun _ _ => True) { db := openingDb } s ∧
    Reaches (planningStep plainForms) (fun _ _ => True) s t ∧
    Reaches (planningStep plainForms) (fun _ _ => True) t u ∧
    s.db.sessions.lookup 1 = some session ∧ session.publishedAt.isSome ∧
    (getSessionPricingCoverage s.db 1 session).totalSellable = 2 ∧
    (t.db.sessions.lookup 1).map (·.status) = some .CANCELLED ∧
    (t.db.events.lookup 1).map (·.status) = some .CANCELLED ∧
    (u.db.events.lookup 1).map (·.status) = some .ARCHIVED := by
  have hrun : (execute (planningStep plainForms) openingSeason { db := openingDb }).any (fun s =>
      ((s.db.sessions.lookup 1).any fun session => session.publishedAt.isSome &&
        (getSessionPricingCoverage s.db 1 session).totalSellable == 2) &&
      (execute (planningStep plainForms) closingSeason s).any fun t =>
        ((t.db.sessions.lookup 1).map (·.status) == some .CANCELLED &&
          (t.db.events.lookup 1).map (·.status) == some .CANCELLED) &&
        (execute (planningStep plainForms) nightAfter t).any fun u =>
          (u.db.events.lookup 1).map (·.status) == some .ARCHIVED) = true := by
    decide +kernel
  obtain ⟨s, hs, hdb⟩ := (Option.any_eq_true _ _).mp hrun
  obtain ⟨hfound, hlater⟩ := Bool.and_eq_true_iff.mp hdb
  obtain ⟨session, hsession, hchecks⟩ := (Option.any_eq_true _ _).mp hfound
  obtain ⟨hpublished, htotal⟩ := Bool.and_eq_true_iff.mp hchecks
  obtain ⟨t, ht, hcancelled⟩ := (Option.any_eq_true _ _).mp hlater
  obtain ⟨hstatus, hafter⟩ := Bool.and_eq_true_iff.mp hcancelled
  obtain ⟨hstatus, hevent⟩ := Bool.and_eq_true_iff.mp hstatus
  obtain ⟨u, hu, harchived⟩ := (Option.any_eq_true _ _).mp hafter
  exact ⟨s, t, u, session, reaches_of_execute hs fun _ _ _ => trivial,
    reaches_of_execute ht fun _ _ _ => trivial, reaches_of_execute hu fun _ _ _ => trivial,
    hsession, hpublished, beq_iff_eq.mp htotal, beq_iff_eq.mp hstatus, beq_iff_eq.mp hevent,
    beq_iff_eq.mp harchived⟩

theorem publishedSessions_complete_summerNight :
    ∃ s session, Reaches (planningStep plainForms) (fun _ _ => True) { db := openingDb } s ∧
      s.db.sessions.lookup 1 = some session ∧
      (s.db.inventoryOf 1).length = (getSessionPricingCoverage s.db 1 session).totalSellable ∧
      (getSessionPricingCoverage s.db 1 session).totalSellable = 2 := by
  obtain ⟨s, -, -, session, hreach, -, -, hsession, hpublished, htotal, -⟩ := summerNight
  obtain ⟨-, -, -, hcount, -⟩ := publishedSessions_complete hreach rfl rfl hsession hpublished
  exact ⟨s, session, hreach, hsession, hcount, htotal⟩

theorem publishedSession_kept_summerNight :
    ∃ s t session, Reaches (planningStep plainForms) (fun _ _ => True) { db := openingDb } s ∧
      Reaches (planningStep plainForms) (fun _ _ => True) s t ∧
      s.db.sessions.lookup 1 = some session ∧
      (∃ session', t.db.sessions.lookup 1 = some session' ∧ session'.snapshot = session.snapshot) ∧
      (∀ seatId, t.db.inventory.lookup (1, seatId) = s.db.inventory.lookup (1, seatId)) ∧
      (t.db.sessions.lookup 1).map (·.status) = some .CANCELLED := by
  obtain ⟨s, t, -, session, hbefore, hreach, -, hsession, hpublished, -, hstatus, -⟩ := summerNight
  obtain ⟨hrow, -, -, -, hinventory⟩ :=
    publishedSession_kept hbefore rfl rfl hreach hsession hpublished
  exact ⟨s, t, session, hbefore, hreach, hsession, hrow, hinventory, hstatus⟩

end SummerNight

end SeatFlow.Planning
