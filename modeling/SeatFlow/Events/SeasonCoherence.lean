import SeatFlow.Events.PublishedSessions

/-!
# Events and their sessions

The state of an event and the states of its sessions are kept in two tables, and most services
write one of them from what they read earlier. What the two have to do with each other is kept all
the same, and so is the calendar of every space.
-/

namespace SeatFlow.Planning

open Relational

/-! ## §1 Coherence -/

structure EventSession.Sound (session : EventSession) : Prop where
  lifecycle : session.lifecycleCheck = true
  times : session.startAt < session.endAt
  sales : session.salesStartAt < session.salesEndAt ∧ session.salesEndAt ≤ session.startAt
  uncompleted : session.status ≠ .COMPLETED

structure PlanningDb.Coherent (db : PlanningDb) : Prop where
  lifecycle : ∀ id event, db.events.lookup id = some event → event.lifecycleCheck = true
  sound : ∀ id session, db.sessions.lookup id = some session → session.Sound
  apart : ∀ id id' session session', db.sessions.lookup id = some session →
    db.sessions.lookup id' = some session' → id ≠ id' → ¬session.Clash session'
  owned : ∀ id session, db.sessions.lookup id = some session →
    ∃ event, db.events.lookup session.eventId = some event ∧
      (event.cancelledAt.isSome → session.cancelledAt.isSome)
  offered : ∀ id event, db.events.lookup id = some event → event.publishedAt.isSome →
    ∃ sessionId session, db.sessions.lookup sessionId = some session ∧ session.eventId = id ∧
      session.publishedAt.isSome

/-- What has become of a session: it stays with its event, and it is neither unpublished nor
brought back. -/
structure EventSession.Evolves (session session' : EventSession) : Prop where
  eventId : session'.eventId = session.eventId
  published : session.publishedAt.isSome → session'.publishedAt.isSome
  cancelled : session.cancelledAt.isSome → session'.cancelledAt.isSome

/-- Sessions last, and cancelled events do. -/
structure PlanningDb.Lasting (db db' : PlanningDb) : Prop where
  sessions : ∀ id session, db.sessions.lookup id = some session →
    ∃ session', db'.sessions.lookup id = some session' ∧ session.Evolves session'
  events : ∀ id event, db.events.lookup id = some event → event.cancelledAt.isSome →
    ∃ event', db'.events.lookup id = some event' ∧ event'.cancelledAt.isSome

/-- The step relation. -/
def PlanningDb.Progress (db db' : PlanningDb) : Prop :=
  db.Coherent → db'.Coherent ∧ db.Lasting db'

section Rows

variable {session session' session'' : EventSession} {event event' : Event}

theorem EventSession.evolves_refl (session : EventSession) : session.Evolves session :=
  ⟨rfl, id, id⟩

theorem EventSession.Evolves.trans (h : session.Evolves session')
    (h' : session'.Evolves session'') : session.Evolves session'' :=
  ⟨h'.eventId.trans h.eventId, fun hp => h'.published (h.published hp),
    fun hc => h'.cancelled (h.cancelled hc)⟩

theorem PlanningDb.lasting_refl (db : PlanningDb) : db.Lasting db :=
  ⟨fun _ session hsession => ⟨session, hsession, session.evolves_refl⟩,
    fun _ event hevent hcancelled => ⟨event, hevent, hcancelled⟩⟩

theorem PlanningDb.Lasting.trans {db db' db'' : PlanningDb} (h : db.Lasting db')
    (h' : db'.Lasting db'') : db.Lasting db'' := by
  refine ⟨fun id session hsession => ?_, fun id event hevent hcancelled => ?_⟩
  · obtain ⟨session', hsession', hevolves⟩ := h.sessions id session hsession
    obtain ⟨session'', hsession'', hevolves'⟩ := h'.sessions id session' hsession'
    exact ⟨session'', hsession'', hevolves.trans hevolves'⟩
  · obtain ⟨event', hevent', hcancelled'⟩ := h.events id event hevent hcancelled
    exact h'.events id event' hevent' hcancelled'

theorem EventSession.Clash.symm (h : session.Clash session') : session'.Clash session :=
  ⟨h.1.symm, h.2.2.1, h.2.1, h.2.2.2.2, h.2.2.2.1⟩

/-- Among the states that are reached, `cancelledAt` says whether a session is cancelled. -/
theorem EventSession.Sound.cancelled_iff (h : session.Sound) :
    session.cancelledAt.isSome ↔ session.status = .CANCELLED := by
  have hcheck := h.lifecycle
  unfold EventSession.lifecycleCheck at hcheck
  cases hstatus : session.status <;> rw [hstatus] at hcheck <;>
    simp_all [Bool.and_eq_true, Option.isNone_iff_eq_none]

/-- An event that is open is not cancelled. -/
theorem Event.uncancelled_of_open (h : event.lifecycleCheck = true) (hopen : isOpen event.status) :
    event.cancelledAt = none := by
  unfold Event.lifecycleCheck at h
  simp only [isOpen, List.mem_cons, List.not_mem_nil, or_false] at hopen
  rcases hopen with hstatus | hstatus <;> rw [hstatus] at h <;>
    simp_all [Bool.and_eq_true, Option.isNone_iff_eq_none]

theorem Event.unpublished_of_draft (h : event.lifecycleCheck = true)
    (hdraft : event.status = .DRAFT) : event.publishedAt = none ∧ event.cancelledAt = none := by
  unfold Event.lifecycleCheck at h
  rw [hdraft] at h
  simp only [Bool.and_eq_true, Option.isNone_iff_eq_none] at h
  exact ⟨h.1.1.1, h.1.1.2⟩

theorem Event.cancelled_of_date (h : event.lifecycleCheck = true)
    (hdate : event.cancelledAt.isSome) : event.status = .CANCELLED ∨
      event.status = .ARCHIVED ∧ event.preArchiveStatus = some .CANCELLED := by
  unfold Event.lifecycleCheck at h
  cases hstatus : event.status with
  | CANCELLED => exact .inl rfl
  | ARCHIVED =>
    refine .inr ⟨rfl, ?_⟩
    rw [hstatus] at h
    rcases hbefore : event.preArchiveStatus with _ | status
    · simp [hbefore] at h
    · cases status <;> simp_all [Option.isNone_iff_eq_none]
  | _ => simp_all [Option.isNone_iff_eq_none]

theorem EventChange.dates (h : EventChange event event') :
    event'.publishedAt = event.publishedAt ∧ event'.cancelledAt = event.cancelledAt := by
  cases h <;> exact ⟨rfl, rfl⟩

theorem SessionChange.evolves (h : SessionChange session session') : session.Evolves session' := by
  cases h with
  | cancelled => exact ⟨rfl, id, fun _ => rfl⟩
  | _ => exact ⟨rfl, id, id⟩

theorem SessionChange.uncompleted (h : SessionChange session session')
    (hstatus : session.status ≠ .COMPLETED) : session'.status ≠ .COMPLETED := by
  cases h with
  | configured => exact hstatus
  | _ => exact EventSessionStatus.noConfusion

end Rows

/-! ## §2 Steps -/

section Steps

variable {db : PlanningDb}

/-- A step that changes neither events nor sessions. -/
theorem progress_aside {db' : PlanningDb} (hevents : db'.events = db.events)
    (hsessions : db'.sessions = db.sessions) : db.Progress db' := by
  refine fun hdb => ⟨⟨?_, ?_, ?_, ?_, ?_⟩, ?_, ?_⟩
  · rw [hevents]
    exact hdb.lifecycle
  · rw [hsessions]
    exact hdb.sound
  · rw [hsessions]
    exact hdb.apart
  · rw [hevents, hsessions]
    exact hdb.owned
  · rw [hevents, hsessions]
    exact hdb.offered
  · rw [hsessions]
    exact db.lasting_refl.sessions
  · rw [hevents]
    exact db.lasting_refl.events

theorem sound_of_validate {id : SessionId} {old : Option EventSession} {new : EventSession}
    (hvalid : EventSession.validate db id old new = .ok ()) (hstatus : new.status ≠ .COMPLETED) :
    new.Sound := by
  obtain ⟨-, -, htimes, hsales, hlifecycle, -, -⟩ := EventSession.validate_eq_ok.mp hvalid
  exact ⟨hlifecycle, htimes, hsales, hstatus⟩

theorem apart_of_validate {id k : SessionId} {old : Option EventSession}
    {new session : EventSession}
    (hvalid : EventSession.validate db id old new = .ok ())
    (hsession : db.sessions.lookup k = some session) (hk : k ≠ id) : ¬session.Clash new := by
  obtain ⟨-, -, -, -, -, hapart, -⟩ := EventSession.validate_eq_ok.mp hvalid
  have hrow := Table.any_eq_false.mp hapart k session hsession
  intro hclash
  rw [decide_eq_true hclash, Bool.and_true, bne_eq_false_iff_eq] at hrow
  exact hk hrow

/-- The events stay, and every session evolves or is new to an event that is not cancelled. -/
theorem progress_sessions {t : Table SessionId EventSession}
    (hkept : ∀ id session, db.sessions.lookup id = some session →
      ∃ session', t.lookup id = some session' ∧ session.Evolves session')
    (hold : db.Coherent → ∀ id session', t.lookup id = some session' →
      (∃ session, db.sessions.lookup id = some session ∧ session.Evolves session') ∨
      ∃ event, db.events.lookup session'.eventId = some event ∧ event.cancelledAt = none)
    (hsound : db.Coherent → ∀ id session', t.lookup id = some session' → session'.Sound)
    (hapart : db.Coherent → ∀ id id' session session', t.lookup id = some session →
      t.lookup id' = some session' → id ≠ id' → ¬session.Clash session') :
    db.Progress { db with sessions := t } := by
  refine fun hdb => ⟨⟨hdb.lifecycle, hsound hdb, hapart hdb, ?_, ?_⟩, hkept, db.lasting_refl.events⟩
  · intro id session' hsession'
    rcases hold hdb id session' hsession' with
      ⟨session, hsession, hevolves⟩ | ⟨event, hevent, hopen⟩
    · obtain ⟨event, hevent, hcancelled⟩ := hdb.owned id session hsession
      rw [← hevolves.eventId] at hevent
      exact ⟨event, hevent, fun h => hevolves.cancelled (hcancelled h)⟩
    · refine ⟨event, hevent, fun h => ?_⟩
      rw [hopen] at h
      cases h
  · intro id event hevent hpublished
    obtain ⟨sessionId, session, hsession, rfl, hoffered⟩ := hdb.offered id event hevent hpublished
    obtain ⟨session', hsession', hevolves⟩ := hkept sessionId session hsession
    exact ⟨sessionId, session', hsession', hevolves.eventId, hevolves.published hoffered⟩

/-- One session is written. -/
theorem progress_session {id : SessionId} {new : EventSession}
    (hvalid : EventSession.validate db id (db.sessions.lookup id) new = .ok ())
    (hstatus : db.Coherent → new.status ≠ .COMPLETED)
    (hevolves : ∀ session, db.sessions.lookup id = some session → session.Evolves new)
    (hnew : db.Coherent → db.sessions.lookup id = none →
      ∃ event, db.events.lookup new.eventId = some event ∧ event.cancelledAt = none) :
    db.Progress { db with sessions := db.sessions.insert id new } := by
  refine progress_sessions (fun k session hk => ?_) (fun hdb k session' hk => ?_)
    (fun hdb k session' hk => ?_) fun hdb k k' session session' hk hk' hne => ?_
  · rw [Table.lookup_insert_ite]
    split
    · next hsame => exact ⟨new, rfl, hevolves session (hsame ▸ hk)⟩
    · exact ⟨session, hk, session.evolves_refl⟩
  · rcases Table.wrote_insert.cases hk with ⟨rfl, rfl⟩ | ⟨-, hold⟩
    · cases hlook : db.sessions.lookup k with
      | none => exact .inr (hnew hdb hlook)
      | some session => exact .inl ⟨session, rfl, hevolves session hlook⟩
    · exact .inl ⟨session', hold, session'.evolves_refl⟩
  · rcases Table.wrote_insert.cases hk with ⟨rfl, rfl⟩ | ⟨-, hold⟩
    · exact sound_of_validate hvalid (hstatus hdb)
    · exact hdb.sound k session' hold
  · rcases Table.wrote_insert.cases hk with ⟨rfl, rfl⟩ | ⟨hid, hold⟩
    · rcases Table.wrote_insert.cases hk' with ⟨rfl, rfl⟩ | ⟨hid', hold'⟩
      · exact absurd rfl hne
      · exact fun hclash => apart_of_validate hvalid hold' hid' hclash.symm
    · rcases Table.wrote_insert.cases hk' with ⟨rfl, rfl⟩ | ⟨-, hold'⟩
      · exact apart_of_validate hvalid hold hid
      · exact hdb.apart k k' session session' hold hold' hne

theorem admitsChange_session_progress :
    Prisma.eventSession.AdmitsChange SessionChange PlanningDb.Progress := by
  intro db id session new hsession hchange hvalid
  replace hsession : db.sessions.lookup id = some session := hsession
  refine progress_session (by rw [hsession]; exact hvalid)
    (fun hdb => hchange.uncompleted (hdb.sound id session hsession).uncompleted)
    (fun old hold => ?_) fun _ habsent => ?_
  · cases hsession.symm.trans hold
    exact hchange.evolves
  · cases hsession.symm.trans habsent

/-- One event is written. -/
theorem progress_event {id : EventId} {new : Event} (hlifecycle : new.lifecycleCheck = true)
    (hlasting : ∀ event, db.events.lookup id = some event → event.cancelledAt.isSome →
      new.cancelledAt.isSome)
    (hcancelled : db.Coherent → new.cancelledAt.isSome → ∀ sessionId session,
      db.sessions.lookup sessionId = some session → session.eventId = id →
      session.cancelledAt.isSome)
    (hoffered : db.Coherent → new.publishedAt.isSome → ∃ sessionId session,
      db.sessions.lookup sessionId = some session ∧ session.eventId = id ∧
      session.publishedAt.isSome) :
    db.Progress { db with events := db.events.insert id new } := by
  refine fun hdb => ⟨⟨fun k event hk => ?_, hdb.sound, hdb.apart, fun sessionId session hsession =>
    ?_, fun k event hk hpublished => ?_⟩, db.lasting_refl.sessions, fun k event hk hdate => ?_⟩
  · rcases Table.wrote_insert.cases hk with ⟨-, rfl⟩ | ⟨-, hold⟩
    · exact hlifecycle
    · exact hdb.lifecycle k event hold
  · rw [Table.lookup_insert_ite]
    split
    · next hsame =>
        exact ⟨new, rfl, fun hdate => hcancelled hdb hdate sessionId session hsession hsame⟩
    · exact hdb.owned sessionId session hsession
  · rcases Table.wrote_insert.cases hk with ⟨rfl, rfl⟩ | ⟨-, hold⟩
    · exact hoffered hdb hpublished
    · exact hdb.offered k event hold hpublished
  · rw [Table.lookup_insert_ite]
    split
    · next hsame => exact ⟨new, rfl, hlasting event (hsame ▸ hk) hdate⟩
    · exact ⟨event, hk, hdate⟩

theorem Event.lifecycle_of_validate {id : EventId} {old : Option Event} {new : Event}
    (hvalid : Event.validate db id old new = .ok ()) : new.lifecycleCheck = true := by
  unfold Event.validate at hvalid
  simp only [Except.bind_unit_eq_ok, checkRow_eq_ok] at hvalid
  exact hvalid.2.2.1

theorem admitsNew_event_progress :
    Prisma.event.AdmitsNew (·.status = .DRAFT) PlanningDb.Progress := by
  intro db id new hdraft habsent hvalid
  replace habsent : db.events.lookup id = none := habsent
  have hlifecycle := Event.lifecycle_of_validate hvalid
  obtain ⟨hpublished, hcancelled⟩ := Event.unpublished_of_draft hlifecycle hdraft
  refine progress_event hlifecycle (fun event hevent => ?_) (fun _ hdate => ?_) fun _ hdate => ?_
  · cases habsent.symm.trans hevent
  · rw [hcancelled] at hdate
    cases hdate
  · rw [hpublished] at hdate
    cases hdate

theorem admitsChange_event_progress :
    Prisma.event.AdmitsChange EventChange PlanningDb.Progress := by
  intro db id event new hevent hchange hvalid
  replace hevent : db.events.lookup id = some event := hevent
  obtain ⟨hpublished, hcancelled⟩ := hchange.dates
  refine progress_event (Event.lifecycle_of_validate hvalid) (fun old hold hdate => ?_)
    (fun hdb hdate sessionId session hsession howner => ?_) fun hdb hdate => ?_
  · cases hevent.symm.trans hold
    rwa [hcancelled]
  · obtain ⟨owner, howner', hsame⟩ := hdb.owned sessionId session hsession
    rw [howner] at howner'
    cases hevent.symm.trans howner'
    exact hsame (hcancelled ▸ hdate)
  · exact hdb.offered id event hevent (hpublished ▸ hdate)

theorem steps_deleteEventRow_progress (id : EventId) :
    (deleteEventRow id).Steps PlanningDb.Progress := by
  refine Program.steps_iff_ensures.mpr fun db => ensures_deleteEventRow.mono ?_
  rintro _ _ ⟨event, hevent, hdraft, hempty, rfl⟩
  have hrest : ∀ k old, (db.events.erase id).lookup k = some old → db.events.lookup k = some old :=
    fun k old hk => (Table.lookup_of_erase hk).2
  refine .single fun hdb => ⟨⟨fun k old hk => hdb.lifecycle k old (hrest k old hk), hdb.sound,
    hdb.apart, fun sessionId session hsession => ?_,
    fun k old hk => hdb.offered k old (hrest k old hk)⟩, db.lasting_refl.sessions,
    fun k old hk hdate => ?_⟩
  · obtain ⟨owner, howner, hcancelled⟩ := hdb.owned sessionId session hsession
    exact ⟨owner, (AList.lookup_erase_ne (hempty sessionId session hsession)).trans howner,
      hcancelled⟩
  · refine ⟨old, (AList.lookup_erase_ne ?_).trans hk, hdate⟩
    rintro rfl
    cases hevent.symm.trans hk
    rw [(Event.unpublished_of_draft (hdb.lifecycle k event hevent) hdraft).2] at hdate
    cases hdate

end Steps

/-! ## §3 Transactions that read before they write -/

section Transactions

variable {db : PlanningDb}

theorem eventOf_eq_some {access : EventAccess} {event : Event}
    (h : db.eventOf access = some event) : db.events.lookup access.eventId = some event :=
  (Option.filter_eq_some_iff.mp h).1

theorem steps_createEventSession_progress {access : Option EventAccess} {input : EventSessionInput}
    {timeZone : TimeZone} {fresh : SessionId} :
    (createEventSession access input timeZone fresh).Steps PlanningDb.Progress := by
  refine Program.steps_iff_ensures.mpr fun db => ?_
  unfold createEventSession
  simp only [Program.ensures_bind, Program.ensures_orThrow, Program.ensures_require]
  intro access _ _
  refine ensures_parsed.mono ?_
  rintro input _ rfl
  simp only [Program.ensures_read]
  intro event hfound
  obtain ⟨hevent, hopen⟩ := Option.filter_eq_some_iff.mp hfound
  refine ensures_loadAuthorizedConfiguration.mono ?_
  rintro _ _ rfl
  have hpure : (parseSessionTimes input timeZone).Steps (Program.Framing (id : PlanningDb → _)) :=
    steps_parseSessionTimes
  refine (hpure.framed _).mono ?_
  rintro times _ rfl
  rw [Entity.ensures_insert]
  intro _ habsent hvalid
  replace habsent : (id _ : PlanningDb).sessions.lookup fresh = none := habsent
  refine .single (progress_session (by rw [habsent]; exact hvalid)
    (fun _ => EventSessionStatus.noConfusion) (fun session hsession => ?_) fun hdb _ => ?_)
  · cases habsent.symm.trans hsession
  · exact ⟨event, eventOf_eq_some hevent, Event.uncancelled_of_open
      (hdb.lifecycle _ event (eventOf_eq_some hevent)) (of_decide_eq_true hopen)⟩

theorem steps_publishEvent_progress {access : Option EventAccess} {now : Time} :
    (publishEvent access now).Steps PlanningDb.Progress := by
  refine Program.steps_iff_ensures.mpr fun db => ?_
  unfold publishEvent
  simp only [Program.ensures_bind, Program.ensures_orThrow, Program.ensures_require,
    Program.ensures_read]
  intro access _ _ event hfound
  refine Program.ensures_ite.mpr ⟨fun _ => Program.ensures_pure.mpr .refl, fun _ => ?_⟩
  simp only [Program.ensures_bind, Program.ensures_require, Program.ensures_read,
    Entity.ensures_update, Program.ensures_pure]
  intro hdraft hsession row hrow hvalid
  have hevent := eventOf_eq_some hfound
  cases hevent.symm.trans hrow
  refine .single (progress_event (Event.lifecycle_of_validate hvalid) (fun old hold hdate => ?_)
    (fun hdb hdate => ?_) fun _ _ => ?_)
  · cases hevent.symm.trans hold
    exact hdate
  · have hopen : isOpen event.status := List.mem_cons.mpr (.inl hdraft)
    replace hdate : event.cancelledAt.isSome := hdate
    rw [Event.uncancelled_of_open (hdb.lifecycle _ event hevent) hopen] at hdate
    cases hdate
  · obtain ⟨e, he, -⟩ := List.any_eq_true.mp hsession
    obtain ⟨hlook, hvalid⟩ := Table.mem_select.mp he
    simp only [Bool.and_eq_true, beq_iff_eq] at hvalid
    exact ⟨e.1, e.2, hlook, hvalid.1.1.1, hvalid.1.1.2⟩

/-- The sessions that a cancellation of their event reaches. -/
theorem progress_cancelSessions {eventId : EventId} {now : Time}
    (hvalid : ∀ id session, db.sessions.lookup id = some session →
      (session.eventId == eventId && canCancelSession session.status) = true →
      EventSession.validate db id (some session)
        { session with status := .CANCELLED, cancelledAt := some now } = .ok ()) :
    db.Progress { db with sessions := db.sessions.putAll (db.sessions.updates
      (fun _ session => session.eventId == eventId && canCancelSession session.status)
      fun _ session => { session with status := .CANCELLED, cancelledAt := some now }) } := by
  have hmapped := Table.mapped_updates
    (fun _ session => session.eventId == eventId && canCancelSession session.status)
    (fun _ session => { session with status := .CANCELLED, cancelledAt := some now }) db.sessions
  have hrow : ∀ id session', (db.sessions.putAll (db.sessions.updates
      (fun _ session => session.eventId == eventId && canCancelSession session.status)
      fun _ session => { session with
        status := .CANCELLED, cancelledAt := some now })).lookup id = some session' →
      ∃ session, db.sessions.lookup id = some session ∧ (session' = session ∨
        session' = { session with status := .CANCELLED, cancelledAt := some now } ∧
        EventSession.validate db id (some session) session' = .ok ()) := by
    intro id session' hlook
    obtain ⟨session, hsession, rfl⟩ := hmapped.cases hlook
    refine ⟨session, hsession, ?_⟩
    split
    · exact .inr ⟨rfl, hvalid id session hsession ‹_›⟩
    · exact .inl rfl
  refine progress_sessions (fun id session hsession => ⟨_, hmapped.lookup hsession, ?_⟩)
    (fun _ id session' hlook => .inl ?_) (fun hdb id session' hlook => ?_)
    fun hdb id id' session session' hlook hlook' hne => ?_
  · split
    · exact ⟨rfl, fun h => h, fun _ => rfl⟩
    · exact session.evolves_refl
  · obtain ⟨session, hsession, rfl | ⟨rfl, -⟩⟩ := hrow id session' hlook
    · exact ⟨session', hsession, session'.evolves_refl⟩
    · exact ⟨session, hsession, rfl, fun h => h, fun _ => rfl⟩
  · obtain ⟨session, hsession, rfl | ⟨rfl, hchecked⟩⟩ := hrow id session' hlook
    · exact hdb.sound id session' hsession
    · exact sound_of_validate hchecked EventSessionStatus.noConfusion
  -- a cancelled session clashes with none
  · obtain ⟨old, hold, rfl | ⟨rfl, -⟩⟩ := hrow id session hlook
    · obtain ⟨old', hold', rfl | ⟨rfl, -⟩⟩ := hrow id' session' hlook'
      · exact hdb.apart id id' session session' hold hold' hne
      · exact fun hclash => hclash.2.2.1 rfl
    · exact fun hclash => hclash.2.1 rfl

theorem canCancelSession_eq_false {status : EventSessionStatus}
    (h : canCancelSession status = false) : status = .CANCELLED ∨ status = .COMPLETED := by
  cases status <;> simp_all [canCancelSession]

theorem steps_cancelEvent_progress {access : Option EventAccess} {now : Time} :
    (cancelEvent access now).Steps PlanningDb.Progress := by
  refine Program.steps_iff_ensures.mpr fun db => ?_
  unfold cancelEvent
  simp only [Program.ensures_bind, Program.ensures_orThrow]
  intro access _
  refine Program.ensures_ite.mpr ⟨fun _ => Program.ensures_pure.mpr .refl, fun _ => ?_⟩
  simp only [Program.ensures_bind, Program.ensures_require, Program.ensures_orThrow,
    Program.ensures_read]
  intro _ event hfound
  refine Program.ensures_ite.mpr ⟨fun _ => Program.ensures_pure.mpr .refl, fun _ => ?_⟩
  simp only [Program.ensures_bind, Program.ensures_require, Entity.ensures_updateMany,
    Entity.ensures_update, Program.ensures_pure]
  intro hopen hsessions row hrow hvalid
  have hevent := eventOf_eq_some hfound
  cases hevent.symm.trans hrow
  refine .tail (.single (progress_cancelSessions hsessions)) ?_
  refine progress_event (Event.lifecycle_of_validate hvalid) (fun _ _ _ => rfl)
    (fun hdb _ id session' hsession' howner => ?_) fun hdb hdate => ?_
  · refine (hdb.sound id session' hsession').cancelled_iff.mpr ?_
    obtain ⟨session, -, rfl⟩ := (Table.mapped_updates _ _ _).cases hsession'
    split
    · rfl
    · next hkept =>
        have howned : session.eventId = access.eventId := by simpa [hkept] using howner
        rw [howned, beq_self_eq_true, Bool.true_and, Bool.not_eq_true] at hkept
        refine (canCancelSession_eq_false hkept).resolve_right fun hcompleted => ?_
        refine (hdb.sound id _ hsession').uncompleted ?_
        simpa [howned, hkept] using hcompleted
  · exact hdb.offered access.eventId event hevent hdate

theorem steps_publishEventSession_progress {access : Option SessionAccess} {now : Time} :
    (publishEventSession access now).Steps PlanningDb.Progress := by
  refine Program.steps_iff_ensures.mpr fun db => ensures_publishEventSession.mono ?_
  rintro _ _ (rfl | ⟨id, session, t, hsession, -, -, -, hvalid, rfl⟩)
  · exact .refl
  have haside : db.Progress { db with inventory := t } := progress_aside rfl rfl
  have hsame : ({ db with inventory := t } : PlanningDb).sessions.lookup id = some session :=
    hsession
  rw [← hsame] at hvalid
  refine .tail (.single haside) (progress_session hvalid (fun _ => ?_) (fun old hold => ?_)
    fun _ habsent => ?_)
  · unfold EventSession.published publishedStatus
    dsimp only
    split <;> exact EventSessionStatus.noConfusion
  · cases hsession.symm.trans hold
    exact ⟨rfl, fun _ => rfl, fun h => h⟩
  · cases hsession.symm.trans habsent

end Transactions

/-! ## §4 Runs -/

theorem invariant_coherent [Casing] (db₀ : PlanningDb) :
    PlanningInvariant PlanningDb.Progress fun db => db.Coherent ∧ db₀.Lasting db where
  grant := Entity.Free.row fun _ _ => progress_aside rfl rfl
  newEvent := admitsNew_event_progress
  event := admitsChange_event_progress
  deleteEvent := steps_deleteEventRow_progress
  publishEvent _ _ := steps_publishEvent_progress
  cancelEvent _ _ := steps_cancelEvent_progress
  createSession _ _ _ _ := steps_createEventSession_progress
  session := admitsChange_session_progress
  publishSession _ _ := steps_publishEventSession_progress
  priceTier := Entity.Free.row fun _ _ => progress_aside rfl rfl
  deletePriceTier id := by
    refine Program.steps_iff_ensures.mpr fun db => ensures_deletePriceTierRow.mono ?_
    rintro _ _ ⟨-, -, -, rfl⟩
    exact .single (progress_aside rfl rfl)
  sectionPricing := Entity.Free.row fun _ _ => progress_aside rfl rfl
  deletePricing id := by
    refine Program.steps_iff_ensures.mpr fun db => ensures_deletePricingOf.mono ?_
    rintro _ _ ⟨_, rfl, -⟩
    exact .single (progress_aside rfl rfl)
  keeps db db' hprogress hdb := by
    obtain ⟨hcoherent, hlasting⟩ := hprogress hdb.1
    exact ⟨hcoherent, hdb.2.trans hlasting⟩
  venue db action layout _ hdb := by
    have haside : db.Progress { db with layout := layout } := progress_aside rfl rfl
    obtain ⟨hcoherent, hlasting⟩ := haside hdb.1
    exact ⟨hcoherent, hdb.2.trans hlasting⟩
  backfill _ _ _ _ := steps_backfillSession (Entity.Free.row fun _ _ => progress_aside rfl rfl)

section Runs

variable [Casing] {forms : TextForms} {db : PlanningDb} {s t : PlanningState}

theorem coherent_of_reaches (hreach : Reaches (planningStep forms) (fun _ _ => True) { db := db } s)
    (hevents : db.events = ∅) (hsessions : db.sessions = ∅) :
    s.db.Coherent ∧ s.Waiting PlanningDb.Progress := by
  have hnone : ∀ id session, db.sessions.lookup id ≠ some session := by
    intro id session hsession
    rw [hsessions] at hsession
    cases hsession
  have hstart : db.Coherent := by
    refine ⟨fun id event hevent => ?_, fun id session hsession =>
      absurd hsession (hnone id session),
      fun id _ session _ hsession => absurd hsession (hnone id session),
      fun id session hsession => absurd hsession (hnone id session), fun id event hevent => ?_⟩ <;>
    · rw [hevents] at hevent
      cases hevent
  obtain ⟨⟨hcoherent, -⟩, hwaiting⟩ := (invariant_coherent db).reaches hreach
    ⟨⟨hstart, db.lasting_refl⟩, fun _ hmem => by cases hmem⟩
  exact ⟨hcoherent, hwaiting⟩

/-- **Events, sessions and spaces agree.** In every state that is reached: a session belongs to an
event, its times are in order, and it is cancelled when its event is; a published event has a
session that was published; and no two sessions that are not cancelled are in one space at a
time. -/
theorem season_coherent
    (hreach : Reaches (planningStep forms) (fun _ _ => True) { db := db } s)
    (hevents : db.events = ∅) (hsessions : db.sessions = ∅) :
    (∀ id session, s.db.sessions.lookup id = some session →
      session.startAt < session.endAt ∧ session.salesStartAt < session.salesEndAt ∧
        session.salesEndAt ≤ session.startAt ∧ session.status ≠ .COMPLETED ∧
        ∃ event, s.db.events.lookup session.eventId = some event ∧
          (event.status = .CANCELLED → session.status = .CANCELLED)) ∧
    (∀ id event, s.db.events.lookup id = some event → event.status = .PUBLISHED →
      ∃ sessionId session, s.db.sessions.lookup sessionId = some session ∧
        session.eventId = id ∧ session.publishedAt.isSome) ∧
    ∀ id id' session session', s.db.sessions.lookup id = some session →
      s.db.sessions.lookup id' = some session' → id ≠ id' → session.status ≠ .CANCELLED →
      session'.status ≠ .CANCELLED → session.spaceId = session'.spaceId →
      session.endAt ≤ session'.startAt ∨ session'.endAt ≤ session.startAt := by
  have hdb := (coherent_of_reaches hreach hevents hsessions).1
  refine ⟨fun id session hsession => ?_, fun id event hevent hpublished => ?_,
    fun id id' session session' hsession hsession' hne hopen hopen' hspace => ?_⟩
  · have hsound := hdb.sound id session hsession
    obtain ⟨event, hevent, hcancelled⟩ := hdb.owned id session hsession
    refine ⟨hsound.times, hsound.sales.1, hsound.sales.2, hsound.uncompleted, event, hevent,
      fun hstatus => hsound.cancelled_iff.mp (hcancelled ?_)⟩
    have hcheck := hdb.lifecycle _ event hevent
    unfold Event.lifecycleCheck at hcheck
    rw [hstatus] at hcheck
    simp only [Bool.and_eq_true] at hcheck
    exact hcheck.1.1
  · have hcheck := hdb.lifecycle id event hevent
    unfold Event.lifecycleCheck at hcheck
    rw [hpublished] at hcheck
    simp only [Bool.and_eq_true] at hcheck
    exact hdb.offered id event hevent hcheck.1.1.1
  · have hapart := hdb.apart id id' session session' hsession hsession' hne
    by_cases hbefore : session.endAt ≤ session'.startAt
    · exact .inl hbefore
    · refine .inr (Int.not_lt.mp fun hafter => hapart ?_)
      exact ⟨hspace, hopen, hopen', hafter, Int.not_le.mp hbefore⟩

/-- **A cancellation is final.** Once an event is cancelled, it stays so, archived or not, with
every session that it has, whatever was read before the cancellation is acted on after it. -/
theorem cancellation_final
    (hbefore : Reaches (planningStep forms) (fun _ _ => True) { db := db } s)
    (hevents : db.events = ∅) (hsessions : db.sessions = ∅)
    (hreach : Reaches (planningStep forms) (fun _ _ => True) s t) {id : EventId} {event : Event}
    (hevent : s.db.events.lookup id = some event) (hcancelled : event.status = .CANCELLED) :
    (∃ event', t.db.events.lookup id = some event' ∧ (event'.status = .CANCELLED ∨
      event'.status = .ARCHIVED ∧ event'.preArchiveStatus = some .CANCELLED)) ∧
    ∀ sessionId session, t.db.sessions.lookup sessionId = some session → session.eventId = id →
      session.status = .CANCELLED := by
  obtain ⟨hcoherent, hwaiting⟩ := coherent_of_reaches hbefore hevents hsessions
  obtain ⟨⟨hdb, hlasting⟩, -⟩ := (invariant_coherent s.db).reaches hreach
    ⟨⟨hcoherent, s.db.lasting_refl⟩, hwaiting⟩
  have hdate : event.cancelledAt.isSome := by
    have hcheck := hcoherent.lifecycle id event hevent
    unfold Event.lifecycleCheck at hcheck
    rw [hcancelled] at hcheck
    simp only [Bool.and_eq_true] at hcheck
    exact hcheck.1.1
  obtain ⟨event', hevent', hdate'⟩ := hlasting.events id event hevent hdate
  refine ⟨⟨event', hevent', ?_⟩, fun sessionId session hsession howner => ?_⟩
  · exact Event.cancelled_of_date (hdb.lifecycle id event' hevent') hdate'
  · obtain ⟨owner, howner', hsame⟩ := hdb.owned sessionId session hsession
    rw [howner, hevent'] at howner'
    cases howner'
    exact (hdb.sound sessionId session hsession).cancelled_iff.mp (hsame hdate')

end Runs

section SummerNight

attribute [local instance] asciiCasing

theorem season_coherent_summerNight :
    ∃ s session, Reaches (planningStep plainForms) (fun _ _ => True) { db := openingDb } s ∧
      s.db.sessions.lookup 1 = some session ∧ session.salesEndAt ≤ session.startAt ∧
      ∃ event, s.db.events.lookup session.eventId = some event := by
  obtain ⟨s, -, -, session, hreach, -, -, hsession, -⟩ := summerNight
  obtain ⟨-, -, hsales, -, event, hevent, -⟩ :=
    (season_coherent hreach rfl rfl).1 1 session hsession
  exact ⟨s, session, hreach, hsession, hsales, event, hevent⟩

theorem cancellation_final_summerNight :
    ∃ s t, Reaches (planningStep plainForms) (fun _ _ => True) { db := openingDb } s ∧
      Reaches (planningStep plainForms) (fun _ _ => True) s t ∧
      (t.db.events.lookup 1).map (·.status) = some .ARCHIVED ∧
      ∀ sessionId session, t.db.sessions.lookup sessionId = some session → session.eventId = 1 →
        session.status = .CANCELLED := by
  obtain ⟨_, t, u, _, hopening, hclosing, hafter, -, -, -, -, hevent, harchived⟩ := summerNight
  obtain ⟨event, hfound, hcancelled⟩ := Option.map_eq_some_iff.mp hevent
  have hbefore := hopening.trans hclosing
  exact ⟨t, u, hbefore, hafter, harchived,
    (cancellation_final hbefore rfl rfl hafter hfound hcancelled).2⟩

end SummerNight

end SeatFlow.Planning
