import SeatFlow.Platform.Reachability

/-!
# What an accepting reply is about

A scan that reaches its ticket is accepted with an entry on record: for the ticket that
the presented credential belongs to, into the presented session. A scan under a key that
was used before is answered from the earlier record before its credential is looked at,
so its reply is about whatever was presented then.
-/

namespace SeatFlow

open Relational Program Entity

variable {db : Db} {input : ScanInput}

/-! ## §1 Entries -/

/-- An accepted entry of the ticket that the presented credential belongs to, into the
presented session, is on record. -/
def Db.entered (db : Db) (input : ScanInput) : Bool :=
  input.credential.any fun token =>
    db.credentials.any fun _ c => c.credentialHash == token &&
      db.redemptions.any fun _ e =>
        e.outcome == .ACCEPTED && e.ticketId == some c.ticketId && e.sessionId == input.sessionId

/-- The scanner may scan for the session. -/
def Db.authorizesScan (db : Db) (input : ScanInput) : Bool :=
  (db.sessions.lookup input.sessionId).any fun session =>
    (db.events.lookup session.eventId).any fun event =>
      (db.users.lookup input.scannerUserId).any fun user =>
        user.administers event.organizerOrganizationId ||
          user.administers session.venueOrganizationId

/-- The outcome on record under the scanner's key. -/
def Db.replays (db : Db) (input : ScanInput) : Option TicketRedemptionOutcome :=
  input.idempotencyKey.bind fun key =>
    (db.redemptions.select fun _ e =>
      e.scannerUserId == input.scannerUserId && e.idempotencyKey == some key).head?.map
        (·.2.outcome)

theorem entered_congr {s s' : Db} (hcredentials : s'.credentials = s.credentials)
    (hredemptions : s'.redemptions = s.redemptions) (input : ScanInput) :
    s'.entered input = s.entered input := by
  unfold Db.entered
  rw [hcredentials, hredemptions]

theorem entered_of_accepted {token : CredentialToken} {credentialId : CredentialId}
    {c : TicketCredential} {id : RedemptionId} {e : TicketRedemptionEvent}
    (hpresented : input.credential = some token) (hc : db.credentials.lookup credentialId = some c)
    (hhash : c.credentialHash = token) (he : db.redemptions.lookup id = some e)
    (haccepted : e.outcome = .ACCEPTED) (hticket : e.ticketId = some c.ticketId)
    (hsession : e.sessionId = input.sessionId) : db.entered input = true := by
  unfold Db.entered
  rw [hpresented, Option.any_some, Table.any_eq_true]
  refine ⟨credentialId, c, hc, ?_⟩
  rw [Bool.and_eq_true, Table.any_eq_true]
  exact ⟨beq_iff_eq.mpr hhash, id, e, he, by simp [haccepted, hticket, hsession]⟩

/-! ## §2 One scan -/

theorem ensures_replayedOutcome :
    Ensures (replayedOutcome input) db fun replayed s' => replayed = db.replays input ∧
    s' = db := by
  unfold replayedOutcome Db.replays
  cases input.idempotencyKey with
  | none => exact ensures_pure.mpr ⟨rfl, rfl⟩
  | some key => exact ensures_bind.mpr (ensures_findMany.mpr (ensures_pure.mpr ⟨rfl, rfl⟩))

/-- A scan that reaches its ticket and is accepted leaves the entry on record. -/
theorem ensures_scanTicket {target : ScanTarget} {token : CredentialToken}
    {credentialId : CredentialId} {locked : TicketCredential} {fresh : RedemptionId} {now : Time}
    (hpresented : input.credential = some token)
    (hlocked : db.credentials.lookup credentialId = some locked)
    (hhash : locked.credentialHash = token) :
    Ensures (scanTicket input target credentialId locked.ticketId fresh now) db fun result s' =>
      result.accepted = true → s'.entered input = true := by
  refine ensures_bind.mpr (ensures_lock.mpr (ensures_bind.mpr (ensures_findOrThrow.mpr ?_)))
  intro credential hcredential
  cases Option.some.inj (hlocked.symm.trans hcredential)
  refine ensures_bind.mpr (ensures_findOrThrow.mpr fun ticket _ => ?_)
  refine ensures_bind.mpr (ensures_findOrThrow.mpr fun booking _ => ?_)
  refine ensures_bind.mpr (ensures_findOrThrow.mpr fun session _ => ?_)
  refine ensures_bind.mpr (ensures_insert.mpr fun _ _ => ?_)
  dsimp only
  split
  · rename_i haccepted
    -- the credential is used up: its hash and its ticket stay
    refine ensures_bind.mpr (ensures_bind.mpr (ensures_bind.mpr (ensures_update.mpr ?_)))
    intro c hc _
    cases Option.some.inj (hlocked.symm.trans hc)
    refine ensures_perform.mpr ?_
    rintro eff ⟨⟩
    refine ensures_bind.mpr (ensures_update.mpr fun _ _ _ => ensures_pure.mpr (ensures_pure.mpr ?_))
    intro _
    exact entered_of_accepted hpresented (AList.lookup_insert _) hhash (AList.lookup_insert _)
      haccepted rfl rfl
  · rename_i hrefused
    exact ensures_pure.mpr fun haccepted => absurd (eq_of_beq haccepted) hrefused

theorem ensures_recordInvalid {target : ScanTarget} {fresh : RedemptionId} {now : Time} :
    Ensures (recordInvalid input target fresh now) db fun result _ => result.accepted = false :=
  ensures_bind.mpr (ensures_insert.mpr fun _ _ => ensures_pure.mpr rfl)

/-- **An accepting transaction** replayed an acceptance, or has an entry on record. -/
theorem ensures_scanInTransaction {target : ScanTarget} {fresh : RedemptionId} {now : Time} :
    Ensures (scanInTransaction input target fresh now) db fun result s' => result.accepted = true →
      (db.replays input = some .ACCEPTED ∧ s'.entered input = db.entered input) ∨
        s'.entered input = true := by
  refine ensures_runInTransaction (ensures_bind.mpr (ensures_replayedOutcome.mono ?_))
  rintro replayed s ⟨hreplayed, rfl⟩
  have hinvalid : Ensures (recordInvalid input target fresh now) s fun result s' =>
      checkAll (DeferredTrigger.check s') s'.deferred = .ok () → result.accepted = true →
        (s.replays input = some .ACCEPTED ∧
          Db.entered { s' with deferred := [] } input = s.entered input) ∨
        Db.entered { s' with deferred := [] } input = true := by
    refine ensures_recordInvalid.mono fun result s' hrefused _ haccepted => ?_
    rw [hrefused] at haccepted
    cases haccepted
  split
  · rename_i outcome
    refine ensures_pure.mpr fun _ haccepted => .inl ⟨?_, entered_congr rfl rfl input⟩
    rw [← hreplayed]
    exact congrArg some (eq_of_beq haccepted)
  · split
    · exact hinvalid
    · rename_i token hpresented
      refine ensures_bind.mpr (ensures_lockMany.mpr ?_)
      split
      · exact hinvalid
      · rename_i credentialId locked hhead
        obtain ⟨hlocked, hhash⟩ := Table.mem_select.mp (List.mem_of_head? hhead)
        refine (ensures_scanTicket hpresented hlocked (eq_of_beq hhash)).mono ?_
        intro result s' hentered _ haccepted
        exact .inr ((entered_congr rfl rfl input).trans (hentered haccepted))

/-- A replayed acceptance is the reply. -/
theorem commits_scanInTransaction (target : ScanTarget) (fresh : RedemptionId) (now : Time)
    (hidle : db.deferred = []) (hreplays : db.replays input = some .ACCEPTED) :
    Commits (scanInTransaction input target fresh now) db fun result s' =>
      result.accepted = true ∧ s'.entered input = db.entered input := by
  have hreplayed : Commits (replayedOutcome input) db fun replayed s' =>
      replayed = some .ACCEPTED ∧ s' = db := by
    unfold replayedOutcome
    unfold Db.replays at hreplays
    cases hkey : input.idempotencyKey with
    | none =>
        rw [hkey] at hreplays
        cases hreplays
    | some key =>
        rw [hkey] at hreplays
        exact commits_bind.mpr (commits_findMany.mpr (commits_pure.mpr ⟨hreplays, rfl⟩))
  refine commits_bind.mpr (commits_bind.mpr (hreplayed.mono ?_))
  rintro _ s ⟨rfl, rfl⟩
  refine commits_pure.mpr (commits_bind.mpr (commits_perform.mpr
    ⟨{ locks := [], writes := [.settled], result := () }, ?_, commits_pure.mpr ⟨rfl, ?_⟩⟩))
  · exact Except.bind_unit_eq_ok.mpr ⟨by rw [hidle, checkAll_eq_ok]; simp, rfl⟩
  · exact entered_congr rfl rfl input

theorem ensures_authorizeScan :
    Ensures (authorizeScan input) db fun found s' => s' = db ∧
      ∀ target, found = some (target, true) → db.authorizesScan input = true := by
  refine ensures_bind.mpr (ensures_bind.mpr (ensures_find.mpr ?_))
  unfold Db.authorizesScan
  cases hsession : db.sessions.lookup input.sessionId with
  | none =>
      rw [show (Prisma.eventSession.get db).lookup input.sessionId = none from hsession]
      exact ensures_pure.mpr (ensures_pure.mpr ⟨rfl, by simp⟩)
  | some session =>
      rw [show (Prisma.eventSession.get db).lookup input.sessionId = some session from hsession]
      refine ensures_bind.mpr (ensures_findOrThrow.mpr fun event hevent => ensures_pure.mpr ?_)
      refine ensures_bind.mpr (ensures_bind.mpr (ensures_find.mpr (ensures_pure.mpr ?_)))
      refine ensures_pure.mpr ⟨rfl, fun target hfound => ?_⟩
      obtain ⟨rfl, hauthorized⟩ := Prod.mk.inj (Option.some.inj hfound)
      rw [Option.any_some, show db.events.lookup session.eventId = some event from hevent,
        Option.any_some]
      exact hauthorized

theorem commits_authorizeScan (h : db.authorizesScan input = true) :
    Commits (authorizeScan input) db fun found s' => s' = db ∧
      ∃ target, found = some (target, true) := by
  unfold Db.authorizesScan at h
  obtain ⟨session, hsession, h⟩ := (Option.any_eq_true _ _).mp h
  obtain ⟨event, hevent, hauthorized⟩ := (Option.any_eq_true _ _).mp h
  refine commits_bind.mpr (commits_bind.mpr (commits_find.mpr ?_))
  rw [show (Prisma.eventSession.get db).lookup input.sessionId = some session from hsession]
  refine commits_bind.mpr (commits_findOrThrow.mpr ⟨event, hevent, commits_pure.mpr ?_⟩)
  refine commits_bind.mpr (commits_bind.mpr (commits_find.mpr (commits_pure.mpr ?_)))
  refine commits_pure.mpr ⟨rfl, ⟨session.eventId, event.organizerOrganizationId⟩, ?_⟩
  exact congrArg (fun authorized => some (_, authorized)) hauthorized

/-! ## §3 The reply -/

/-- An accepting reply is about the credential and the session that were presented. -/
def ScanInput.RepliesTruly (input : ScanInput) (fresh : RedemptionId) (now : Time) (db : Db) :
    Prop :=
  ∀ result db', validateTicketEntry input fresh now db = .ok (result, db') →
    result.accepted = true → db'.entered input = true

/-- **What an accepting reply is about.** In every reachable state a scan's acceptance is
about what it presents, unless its key replays an acceptance that something else earned. -/
theorem repliesTruly_iff {sys : FinancialSystem} (hs : Platform.Reachable sys) (input : ScanInput)
    (fresh : RedemptionId) (now : Time) :
    input.RepliesTruly fresh now sys.db ↔
      (sys.db.authorizesScan input = true → sys.db.replays input = some .ACCEPTED →
        sys.db.entered input = true) := by
  constructor
  · intro htruly hauthorized hreplays
    obtain ⟨found, _, hfound, rfl, target, rfl⟩ := commits_authorizeScan hauthorized
    obtain ⟨result, db', hscan, haccepted, hsame⟩ :=
      commits_scanInTransaction target fresh now hs.consistent.idle hreplays
    rw [← hsame]
    refine htruly result db' ?_ haccepted
    rw [validateTicketEntry, hfound]
    exact hscan
  · intro hreplayed result db' hreply haccepted
    obtain ⟨⟨found, s⟩, hfound, hscan⟩ := Except.bind_eq_ok.mp hreply
    obtain ⟨rfl, hauthorized⟩ := ensures_authorizeScan _ _ hfound
    dsimp only at hscan
    split at hscan
    · cases hscan
      cases haccepted
    · cases hscan
      cases haccepted
    · rename_i target
      rcases ensures_scanInTransaction _ _ hscan haccepted with ⟨hreplays, hsame⟩ | hentered
      · rw [hsame]
        exact hreplayed (hauthorized target rfl) hreplays
      · exact hentered

namespace Platform

/-- The captured payment at the entrance: a request to issue the booking's tickets is due,
and the organizer has a scanner. -/
def entranceFinances : FinancialSystem :=
  FinancialSystem.capturedFinances.withDb { capturedPayment with
    users := capturedPayment.users.insert 3
      { platformRole := .USER, memberships := [{ organizationId := 1, role := .ADMIN }] }
    issuanceRequests := AList.singleton 1 { availableAt := 100, createdAt := 100 } }

theorem entranceFinances_reachable : Reachable entranceFinances := by
  have hfresh := RefundSystem.capturedStart_fresh
  have hconsistent : entranceFinances.db.Consistent :=
    hfresh.consistent.other (.other rfl rfl rfl rfl rfl rfl rfl rfl rfl rfl rfl rfl) rfl rfl rfl
  refine reachable_of_fresh ⟨?_, hconsistent, hfresh.untouched, hfresh.noEvents⟩ fun _ => rfl
  exact ⟨hfresh.start.refunds, rfl, hfresh.start.submissions, rfl, rfl⟩

/-- A scan of one seat's first credential, under key 9. -/
def scanOfSeat (seat : BookingSeatId) : ScanInput :=
  { scannerUserId := 3, sessionId := 1, credential := some (.derived seat 1), earlyMinutes := 60
    lateMinutes := 60, idempotencyKey := some 9 }

/-- The booking's tickets are issued and the first one enters. -/
def firstEntry : List PlatformAction :=
  [.ticket (.processTicketIssuanceForBooking 1
      { ticketId := id, publicReference := id, credentialId := id } 1000),
    .ticket (.validateTicketEntry (scanOfSeat 1) 1 6000)]

theorem firstEntry_normalized (sys : FinancialSystem) :
    ∀ a ∈ firstEntry, NormalizedEvents sys a := by
  intro a ha
  simp only [firstEntry, List.mem_cons, List.not_mem_nil, or_false] at ha
  rcases ha with rfl | rfl <;> trivial

/-- A repetition of the first scan is answered truly. -/
theorem repliesTruly_sameScan :
    ∃ sys, execute Platform.step firstEntry entranceFinances = some sys ∧
      (scanOfSeat 1).RepliesTruly 2 6001 sys.db := by
  have hrun : (execute Platform.step firstEntry entranceFinances).any
      (fun sys => sys.db.entered (scanOfSeat 1)) = true := by decide +kernel
  obtain ⟨sys, hsys, hentered⟩ := (Option.any_eq_true _ _).mp hrun
  have hreach := entranceFinances_reachable.reaches
    (reaches_of_execute hsys fun sys => firstEntry_normalized sys)
  exact ⟨sys, hsys, (repliesTruly_iff hreach _ 2 6001).mpr fun _ _ => hentered⟩

/-- The other seat's ticket, presented under the same key, is let in with nothing on record. -/
theorem repliesTruly_not_otherTicket :
    ∃ sys, Reaches Platform.step NormalizedEvents entranceFinances sys ∧
      ¬(scanOfSeat 2).RepliesTruly 2 6001 sys.db := by
  have hrun : (execute Platform.step firstEntry entranceFinances).any (fun sys =>
      (validateTicketEntry (scanOfSeat 2) 2 6001 sys.db).toOption.any fun reply =>
        reply.1.accepted && !reply.2.entered (scanOfSeat 2)) = true := by decide +kernel
  obtain ⟨sys, hsys, hreply⟩ := (Option.any_eq_true _ _).mp hrun
  refine ⟨sys, reaches_of_execute hsys fun sys => firstEntry_normalized sys, fun htruly => ?_⟩
  cases hscan : validateTicketEntry (scanOfSeat 2) 2 6001 sys.db with
  | ok reply =>
    rw [hscan] at hreply
    obtain ⟨haccepted, hentered⟩ := Bool.and_eq_true_iff.mp hreply
    rw [htruly reply.1 reply.2 hscan haccepted] at hentered
    exact absurd hentered (by decide)
  | error _ =>
    rw [hscan] at hreply
    cases hreply

end Platform

end SeatFlow
