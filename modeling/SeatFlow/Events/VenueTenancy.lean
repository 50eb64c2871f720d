import SeatFlow.Events.SeasonCoherence

/-!
# Sessions and the venues that admit them

A session names a venue, a space and a seat map, and its organizer must have been granted access to
the venue. Grants are revoked and venues reorganised later; what a session names keeps together.
-/

namespace SeatFlow.Planning

open Relational

/-! ## §1 Tenancy -/

def VenueAccessGrant.Concerns (grant : VenueAccessGrant) (organizationId : OrganizationId)
    (venueId : VenueId) : Prop :=
  grant.organizerOrganizationId = organizationId ∧ grant.venueId = venueId

/-- The session lies in its venue, which its organizer was admitted to. -/
structure PlanningDb.Admits (db : PlanningDb) (session : EventSession) : Prop where
  space : (db.layout.spaces.lookup session.spaceId).map (·.venueId) = some session.venueId
  seatMap : ∃ m, db.layout.seatMaps.lookup session.seatMapId = some m ∧
    m.spaceId = session.spaceId ∧ m.status ≠ .DRAFT
  grant : ∃ event, db.events.lookup session.eventId = some event ∧
    ∃ grantId grant, db.grants.lookup grantId = some grant ∧
      grant.Concerns event.organizerOrganizationId session.venueId

structure PlanningDb.Tenanted (db : PlanningDb) : Prop where
  sole : ∀ id id' grant grant', db.grants.lookup id = some grant →
    db.grants.lookup id' = some grant' → grant.status = .ACTIVE → grant'.status = .ACTIVE →
    grant.Concerns grant'.organizerOrganizationId grant'.venueId → id = id'
  admits : ∀ id session, db.sessions.lookup id = some session → db.Admits session

/-- What was granted was granted, and what was revoked stays revoked. -/
def VenueAccessGrant.Aged (grant grant' : VenueAccessGrant) : Prop :=
  grant'.Concerns grant.organizerOrganizationId grant.venueId ∧
    (grant.status = .REVOKED → grant'.status = .REVOKED ∧ grant'.revokedAt = grant.revokedAt)

def PlanningDb.GrantsAged (db db' : PlanningDb) : Prop :=
  ∀ id grant, db.grants.lookup id = some grant →
    ∃ grant', db'.grants.lookup id = some grant' ∧ grant.Aged grant'

/-- The step relation. -/
def PlanningDb.Settles (db db' : PlanningDb) : Prop :=
  db.Tenanted → db'.Tenanted ∧ db.GrantsAged db'

section Rows

variable {db db' db'' : PlanningDb} {session : EventSession}

theorem PlanningDb.grantsAged_of_eq (h : db'.grants = db.grants) : db.GrantsAged db' :=
  fun _ grant hgrant => ⟨grant, h ▸ hgrant, ⟨rfl, rfl⟩, fun hrevoked => ⟨hrevoked, rfl⟩⟩

theorem PlanningDb.GrantsAged.trans (h : db.GrantsAged db') (h' : db'.GrantsAged db'') :
    db.GrantsAged db'' := by
  intro id grant hgrant
  obtain ⟨grant', hgrant', hconcerns, hrevoked⟩ := h id grant hgrant
  obtain ⟨grant'', hgrant'', hconcerns', hrevoked'⟩ := h' id grant' hgrant'
  refine ⟨grant'', hgrant'', ⟨hconcerns'.1.trans hconcerns.1, hconcerns'.2.trans hconcerns.2⟩,
    fun hstatus => ?_⟩
  obtain ⟨hstatus', hdate⟩ := hrevoked hstatus
  obtain ⟨hstatus'', hdate'⟩ := hrevoked' hstatus'
  exact ⟨hstatus'', hdate'.trans hdate⟩

/-- Only the columns that `EventSession_enforce_ancestry` watches matter. -/
theorem PlanningDb.Admits.congr {session' : EventSession} (h : db.Admits session)
    (hsame : session'.ancestry = session.ancestry) : db.Admits session' := by
  simp only [EventSession.ancestry, Prod.mk.injEq] at hsame
  obtain ⟨hevent, hvenue, hspace, hmap⟩ := hsame
  refine ⟨?_, ?_, ?_⟩
  · rw [hspace, hvenue]
    exact h.space
  · rw [hmap, hspace]
    exact h.seatMap
  · rw [hevent, hvenue]
    exact h.grant

/-- Grants are not deleted, and an event keeps its organizer. -/
theorem PlanningDb.Admits.kept (h : db.Admits session) (hlayout : db'.layout = db.layout)
    (hgrants : db.GrantsAged db')
    (hevent : ∀ event, db.events.lookup session.eventId = some event →
      ∃ event', db'.events.lookup session.eventId = some event' ∧
        event'.organizerOrganizationId = event.organizerOrganizationId) : db'.Admits session := by
  obtain ⟨event, hfound, grantId, grant, hgrant, hconcerns⟩ := h.grant
  obtain ⟨event', hfound', horganizer⟩ := hevent event hfound
  obtain ⟨grant', hgrant', hconcerns', -⟩ := hgrants grantId grant hgrant
  refine ⟨hlayout ▸ h.space, hlayout ▸ h.seatMap, event', hfound', grantId, grant', hgrant', ?_⟩
  exact ⟨hconcerns'.1.trans (hconcerns.1.trans horganizer.symm), hconcerns'.2.trans hconcerns.2⟩

end Rows

/-! ## §2 Steps -/

section Steps

variable {db : PlanningDb}

/-- The layout, the grants and the sessions stay, and the events keep their organizers. -/
theorem settles_aside {db' : PlanningDb} (hlayout : db'.layout = db.layout)
    (hgrants : db'.grants = db.grants) (hsessions : db'.sessions = db.sessions)
    (hevents : ∀ id session event, db.sessions.lookup id = some session →
      db.events.lookup session.eventId = some event →
      ∃ event', db'.events.lookup session.eventId = some event' ∧
        event'.organizerOrganizationId = event.organizerOrganizationId) : db.Settles db' := by
  have haged : db.GrantsAged db' := PlanningDb.grantsAged_of_eq hgrants
  refine fun hdb => ⟨⟨hgrants ▸ hdb.sole, fun id session hsession => ?_⟩, haged⟩
  rw [hsessions] at hsession
  exact (hdb.admits id session hsession).kept hlayout haged fun event hevent =>
    hevents id session event hsession hevent

theorem settles_rest {db' : PlanningDb} (hlayout : db'.layout = db.layout)
    (hgrants : db'.grants = db.grants) (hsessions : db'.sessions = db.sessions)
    (hevents : db'.events = db.events) : db.Settles db' :=
  settles_aside hlayout hgrants hsessions fun _ _ event _ hevent => ⟨event, hevents ▸ hevent, rfl⟩

theorem VenueAccessGrant.aged_of_validate {id : GrantId} {old new : VenueAccessGrant}
    (hvalid : VenueAccessGrant.validate db id (some old) new = .ok ()) : old.Aged new := by
  unfold VenueAccessGrant.validate VenueAccessGrant.enforceHistory at hvalid
  simp only [Except.bind_unit_eq_ok, checkRow_eq_ok] at hvalid
  obtain ⟨-, ⟨⟨horganizer, hvenue, -⟩, hrevoked, -⟩, -⟩ := hvalid
  refine ⟨⟨horganizer, hvenue⟩, fun hstatus => ?_⟩
  obtain ⟨hsame, hdate, -⟩ := hrevoked hstatus
  exact ⟨hsame.trans hstatus, hdate⟩

/-- `VenueAccessGrant_one_active_per_organizer_venue_key`. -/
theorem VenueAccessGrant.sole_of_validate {id : GrantId} {old : Option VenueAccessGrant}
    {new : VenueAccessGrant} (hvalid : VenueAccessGrant.validate db id old new = .ok ())
    (hactive : new.status = .ACTIVE) {k : GrantId} {grant : VenueAccessGrant}
    (hgrant : db.grants.lookup k = some grant) (hstatus : grant.status = .ACTIVE)
    (hconcerns : grant.Concerns new.organizerOrganizationId new.venueId) : k = id := by
  have hindex : db.grants.any (fun k grant =>
      k != id && grant.organizerOrganizationId == new.organizerOrganizationId &&
        grant.venueId == new.venueId && grant.status == .ACTIVE) = false := by
    unfold VenueAccessGrant.validate at hvalid
    cases old <;> simp only [Except.bind_unit_eq_ok, checkIndex_eq_ok] at hvalid
    · exact hvalid.2.2 hactive
    · exact hvalid.2.2.2 hactive
  have hrow := Table.any_eq_false.mp hindex k grant hgrant
  simpa [hstatus, hconcerns.1, hconcerns.2] using hrow

theorem admitsRow_grant : Prisma.venueAccessGrant.AdmitsRow PlanningDb.Settles := by
  intro db id new hvalid hdb
  replace hvalid : VenueAccessGrant.validate db id (db.grants.lookup id) new = .ok () := hvalid
  have haged : db.GrantsAged { db with grants := db.grants.insert id new } := by
    intro k grant hk
    dsimp only
    rw [Table.lookup_insert_ite]
    split
    · next hsame =>
        rw [← hsame, hk] at hvalid
        exact ⟨new, rfl, VenueAccessGrant.aged_of_validate hvalid⟩
    · exact ⟨grant, hk, ⟨rfl, rfl⟩, fun hrevoked => ⟨hrevoked, rfl⟩⟩
  refine ⟨⟨fun k k' grant grant' hk hk' hactive hactive' hconcerns => ?_,
    fun k session hsession => (hdb.admits k session hsession).kept rfl haged
      fun event hevent => ⟨event, hevent, rfl⟩⟩, haged⟩
  rcases Table.wrote_insert.cases hk with ⟨rfl, rfl⟩ | ⟨-, hold⟩
  · rcases Table.wrote_insert.cases hk' with ⟨rfl, rfl⟩ | ⟨-, hold'⟩
    · rfl
    · exact (VenueAccessGrant.sole_of_validate hvalid hactive hold' hactive'
        ⟨hconcerns.1.symm, hconcerns.2.symm⟩).symm
  · rcases Table.wrote_insert.cases hk' with ⟨rfl, rfl⟩ | ⟨-, hold'⟩
    · exact VenueAccessGrant.sole_of_validate hvalid hactive' hold hactive hconcerns
    · exact hdb.sole k k' grant grant' hold hold' hactive hactive' hconcerns

theorem admitsRow_event : Prisma.event.AdmitsRow PlanningDb.Settles := by
  intro db id new hvalid
  replace hvalid : Event.validate db id (db.events.lookup id) new = .ok () := hvalid
  refine settles_aside rfl rfl rfl fun _ session event _ hevent => ?_
  dsimp only [Prisma.event]
  rw [Table.lookup_insert_ite]
  split
  · next hsame =>
      refine ⟨new, rfl, ?_⟩
      unfold Event.validate Event.requireOrganizerOrganization at hvalid
      simp only [Except.bind_unit_eq_ok, checkRow_eq_ok] at hvalid
      exact hvalid.1.2.2 event (hsame ▸ hevent)
  · exact ⟨event, hevent, rfl⟩

theorem steps_deleteEventRow_settles (id : EventId) :
    (deleteEventRow id).Steps PlanningDb.Settles := by
  refine Program.steps_iff_ensures.mpr fun db => ensures_deleteEventRow.mono ?_
  rintro _ _ ⟨_, -, -, hempty, rfl⟩
  refine .single (settles_aside rfl rfl rfl fun k session event hsession hevent => ?_)
  exact ⟨event, (AList.lookup_erase_ne (hempty k session hsession)).trans hevent, rfl⟩

/-- A row that was let in names what lies together. -/
theorem admits_of_validate {id : SessionId} {old : Option EventSession} {new : EventSession}
    (hvalid : EventSession.validate db id old new = .ok ())
    (hold : ∀ session ∈ old, db.Admits session) : db.Admits new := by
  have hancestry := (EventSession.validate_eq_ok.mp hvalid).1
  unfold EventSession.enforceAncestry at hancestry
  simp only [Except.bind_unit_eq_ok, checkRow_eq_ok] at hancestry
  obtain ⟨-, hspace, hmap, hcurrent⟩ := hancestry
  split at hcurrent
  · next hsame =>
      obtain ⟨session, hsession, hkept⟩ := (Option.any_eq_true _ _).mp hsame
      refine (hold session hsession).congr ?_
      exact (beq_iff_eq.mp (Bool.and_eq_true_iff.mp hkept).1).symm
  · unfold EventSession.requireCurrentAccess at hcurrent
    simp only [Except.bind_unit_eq_ok, checkRow_eq_ok] at hcurrent
    obtain ⟨-, hpublished, haccess⟩ := hcurrent
    obtain ⟨m, hm, hplace⟩ := Option.map_eq_some_iff.mp hmap
    obtain ⟨event, hevent, hcount⟩ := Option.map_eq_some_iff.mp haccess
    refine ⟨hspace, ⟨m, hm, hplace, fun hdraft => ?_⟩, event, hevent, ?_⟩
    · rw [hm, Option.map_some, hdraft] at hpublished
      cases hpublished
    · obtain ⟨e, he⟩ := List.exists_mem_of_length_pos (Nat.lt_of_lt_of_eq Nat.one_pos hcount.symm)
      obtain ⟨hgrant, hmatches⟩ := Table.mem_select.mp he
      simp only [Bool.and_eq_true, beq_iff_eq] at hmatches
      exact ⟨e.1, e.2, hgrant, hmatches.1.1, hmatches.1.2⟩

theorem settles_sessions {t : Table SessionId EventSession}
    (h : db.Tenanted → ∀ id session, t.lookup id = some session → db.Admits session) :
    db.Settles { db with sessions := t } := by
  have haged : db.GrantsAged { db with sessions := t } := PlanningDb.grantsAged_of_eq rfl
  refine fun hdb => ⟨⟨hdb.sole, fun id session hsession => ?_⟩, haged⟩
  exact (h hdb id session hsession).kept rfl haged fun event hevent => ⟨event, hevent, rfl⟩

theorem admitsRow_session : Prisma.eventSession.AdmitsRow PlanningDb.Settles := by
  intro db id new hvalid
  replace hvalid : EventSession.validate db id (db.sessions.lookup id) new = .ok () := hvalid
  refine settles_sessions fun hdb k session hk => ?_
  rcases Table.wrote_insert.cases hk with ⟨rfl, rfl⟩ | ⟨-, hold⟩
  · exact admits_of_validate hvalid fun old hold => hdb.admits k old hold
  · exact hdb.admits k session hold

theorem admitsBatch_session : Prisma.eventSession.AdmitsBatch PlanningDb.Settles := by
  intro db p f hvalid
  refine settles_sessions fun hdb k session' hk => ?_
  obtain ⟨session, hsession, rfl⟩ := (Table.mapped_updates p f db.sessions).cases hk
  split
  · refine admits_of_validate (hvalid k session hsession ‹_›) fun old hold => ?_
    rw [← Option.some.inj hold]
    exact hdb.admits k session hsession
  · exact hdb.admits k session hsession

theorem steps_publishEventSession_settles {access : Option SessionAccess} {now : Time} :
    (publishEventSession access now).Steps PlanningDb.Settles := by
  refine Program.steps_iff_ensures.mpr fun db => ensures_publishEventSession.mono ?_
  rintro _ _ (rfl | ⟨id, session, t, hsession, -, -, -, hvalid, rfl⟩)
  · exact .refl
  have haside : db.Settles { db with inventory := t } := settles_rest rfl rfl rfl rfl
  refine .tail (.single haside) ?_
  refine admitsRow_session { db with inventory := t } id _ ?_
  rw [show (Prisma.eventSession.get { db with inventory := t }).lookup id = some session
    from hsession]
  exact hvalid

/-- The venues' work. -/
theorem settles_venue [Casing] {action : VenueAction} {layout : SeatMapDb}
    (h : venueStep db.layout action = some layout) :
    db.Settles { db with layout := layout } := by
  have hkeeping : db.layout.Keeping layout :=
    SeatMapDb.Keeping.steps (steps_of_venueStep venueSteps_keeping h)
  refine fun hdb => ⟨⟨hdb.sole, fun id session hsession => ?_⟩, PlanningDb.grantsAged_of_eq rfl⟩
  have hadmits := hdb.admits id session hsession
  refine ⟨?_, ?_, hadmits.grant⟩
  · obtain ⟨space, hspace, hvenue⟩ := Option.map_eq_some_iff.mp hadmits.space
    obtain ⟨space', hspace', hvenue'⟩ := samePlaces_of_venueStep h session.spaceId space hspace
    exact Option.map_eq_some_iff.mpr ⟨space', hspace', hvenue'.trans hvenue⟩
  · obtain ⟨m, hm, hplace, hstatus⟩ := hadmits.seatMap
    obtain ⟨⟨m', hm', hkept⟩, -⟩ := hkeeping session.seatMapId m hm hstatus
    refine ⟨m', hm', ?_, hkept.settled hstatus⟩
    rcases hkept with rfl | ⟨-, rfl⟩ <;> exact hplace

end Steps

/-! ## §3 Runs -/

theorem invariant_tenanted [Casing] (db₀ : PlanningDb) :
    PlanningInvariant PlanningDb.Settles fun db => db.Tenanted ∧ db₀.GrantsAged db where
  grant := admitsRow_grant
  newEvent := admitsRow_event.new
  event := admitsRow_event.change
  deleteEvent := steps_deleteEventRow_settles
  publishEvent _ _ := steps_publishEvent fun _ => admitsRow_event.update
  cancelEvent _ _ := steps_cancelEvent admitsBatch_session.changes fun _ => admitsRow_event.update
  createSession _ _ _ _ := steps_createEventSession admitsRow_session.new
  session := admitsRow_session.change
  publishSession _ _ := steps_publishEventSession_settles
  priceTier := Entity.Free.row fun _ _ => settles_rest rfl rfl rfl rfl
  deletePriceTier id := by
    refine Program.steps_iff_ensures.mpr fun db => ensures_deletePriceTierRow.mono ?_
    rintro _ _ ⟨-, -, -, rfl⟩
    exact .single (settles_rest rfl rfl rfl rfl)
  sectionPricing := Entity.Free.row fun _ _ => settles_rest rfl rfl rfl rfl
  deletePricing id := by
    refine Program.steps_iff_ensures.mpr fun db => ensures_deletePricingOf.mono ?_
    rintro _ _ ⟨_, rfl, -⟩
    exact .single (settles_rest rfl rfl rfl rfl)
  keeps db db' hsettles hdb := by
    obtain ⟨htenanted, haged⟩ := hsettles hdb.1
    exact ⟨htenanted, hdb.2.trans haged⟩
  venue db action layout hlayout hdb := by
    obtain ⟨htenanted, haged⟩ := settles_venue hlayout hdb.1
    exact ⟨htenanted, hdb.2.trans haged⟩
  backfill _ _ _ _ :=
    steps_backfillSession (Entity.Free.row fun _ _ => settles_rest rfl rfl rfl rfl)

section Runs

variable [Casing] {forms : TextForms} {db : PlanningDb} {s t : PlanningState}

/-- **Sessions lie where their organizers were admitted.** In every state that is reached, a session
names a space of its venue and a seat map of its space that is no draft, and its event's organizer
has a grant for the venue, active or revoked; at most one is active; and a revoked one stays so. -/
theorem sessions_admitted
    (hbefore : Reaches (planningStep forms) (fun _ _ => True) { db := db } s)
    (hsessions : db.sessions = ∅) (hgrants : db.grants = ∅)
    (hreach : Reaches (planningStep forms) (fun _ _ => True) s t) :
    (∀ id session, t.db.sessions.lookup id = some session → t.db.Admits session) ∧
    (∀ organizationId venueId, (t.db.activeGrants organizationId venueId).length ≤ 1) ∧
    ∀ id grant, s.db.grants.lookup id = some grant → grant.status = .REVOKED →
      ∃ grant', t.db.grants.lookup id = some grant' ∧ grant'.status = .REVOKED ∧
        grant'.revokedAt = grant.revokedAt ∧
        grant'.Concerns grant.organizerOrganizationId grant.venueId := by
  have hstart : db.Tenanted := by
    refine ⟨fun id _ grant _ hgrant => ?_, fun id session hsession => ?_⟩
    · rw [hgrants] at hgrant
      cases hgrant
    · rw [hsessions] at hsession
      cases hsession
  obtain ⟨⟨htenanted, -⟩, hwaiting⟩ := (invariant_tenanted db).reaches hbefore
    ⟨⟨hstart, PlanningDb.grantsAged_of_eq rfl⟩, fun _ hmem => by cases hmem⟩
  obtain ⟨⟨hdb, haged⟩, -⟩ := (invariant_tenanted s.db).reaches hreach
    ⟨⟨htenanted, PlanningDb.grantsAged_of_eq rfl⟩, hwaiting⟩
  refine ⟨hdb.admits, fun organizationId venueId => ?_, fun id grant hgrant hrevoked => ?_⟩
  · refine Table.length_select_le_one fun k k' r r' hk hk' hp hp' => ?_
    simp only [Bool.and_eq_true, beq_iff_eq] at hp hp'
    exact hdb.sole k k' r r' hk hk' hp.2 hp'.2
      ⟨hp.1.1.trans hp'.1.1.symm, hp.1.2.trans hp'.1.2.symm⟩
  · obtain ⟨grant', hgrant', hconcerns, hlasting⟩ := haged id grant hgrant
    obtain ⟨hstatus, hdate⟩ := hlasting hrevoked
    exact ⟨grant', hgrant', hstatus, hdate, hconcerns⟩

end Runs

section SummerNight

attribute [local instance] asciiCasing

theorem sessions_admitted_summerNight :
    ∃ t session, Reaches (planningStep plainForms) (fun _ _ => True) { db := openingDb } t ∧
      t.db.sessions.lookup 1 = some session ∧ t.db.Admits session := by
  obtain ⟨_, t, _, _, hopening, hclosing, -, -, -, -, hstatus, -⟩ := summerNight
  obtain ⟨session, hsession, -⟩ := Option.map_eq_some_iff.mp hstatus
  exact ⟨t, session, hopening.trans hclosing, hsession,
    (sessions_admitted hopening rfl rfl hclosing).1 1 session hsession⟩

end SummerNight

end SeatFlow.Planning
