import SeatFlow.Tickets.Replays
import SeatFlow.Relational.VersionChain

/-!
# Credential chains

A ticket's credentials are a chain of versions whose newest one is live exactly as long
as the ticket is. The triggers look at one row at a time; that the rows of a ticket fit
together is kept by the services, each transaction of which rewrites ticket and
credentials together.
-/

namespace SeatFlow

open Relational Program Entity

/-! ## §1 Chains -/

def credentialVersions : Versioning CredentialId TicketCredential TicketId where
  owner := (·.ticketId)
  version := (·.version)
  superseded c := c.status = .REPLACED
  live c := c.status = .ACTIVE
  successor := (·.replacementCredentialId)

/-- Every credential is of a ticket, and those of each ticket are a chain. -/
structure Db.Chained (db : Db) : Prop where
  homes : ∀ k c, db.credentials.lookup k = some c → ∃ t, db.tickets.lookup c.ticketId = some t
  chains : ∀ id t, db.tickets.lookup id = some t →
    ∃ n, credentialVersions.Chain db.credentials id (t.status = .ACTIVE) n

/-- A ticket's credentials: the versions `1 … n`, each of them once; the newest is the only
one that has not been replaced, and each replaced one has a later successor; at most one is
live, and none is once the ticket is used or revoked. -/
structure Ticket.CredentialsIntact (ticket : Ticket) (ticketId : TicketId) (db : Db) (n : Nat) :
    Prop where
  versions : ∀ v, (∃ k c, db.credentials.lookup k = some c ∧ c.ticketId = ticketId ∧
    c.version = v) ↔ 1 ≤ v ∧ v ≤ n
  distinct : ∀ k c k' c', db.credentials.lookup k = some c → db.credentials.lookup k' = some c' →
    c.ticketId = ticketId → c'.ticketId = ticketId → c.version = c'.version → k = k'
  newest : ∀ k c, db.credentials.lookup k = some c → c.ticketId = ticketId →
    (c.status ≠ .REPLACED ↔ c.version = n)
  successor : ∀ k c, db.credentials.lookup k = some c → c.ticketId = ticketId →
    c.status = .REPLACED → ∃ k' c', c.replacementCredentialId = some k' ∧
      db.credentials.lookup k' = some c' ∧ c'.ticketId = ticketId ∧ c.version < c'.version
  active : ∀ k c k' c', db.credentials.lookup k = some c → db.credentials.lookup k' = some c' →
    c.ticketId = ticketId → c'.ticketId = ticketId → c.status = .ACTIVE → c'.status = .ACTIVE →
      k = k'
  ended : ticket.status = .REVOKED ∨ ticket.status = .USED → ∀ k c,
    db.credentials.lookup k = some c → c.ticketId = ticketId → c.status ≠ .ACTIVE

theorem Ticket.CredentialsIntact.of_chain {ticket : Ticket} {ticketId : TicketId} {db : Db}
    {n : Nat}
    (h : credentialVersions.Chain db.credentials ticketId (ticket.status = .ACTIVE) n) :
    ticket.CredentialsIntact ticketId db n where
  versions := h.versions
  distinct := h.distinct
  newest := fun k c hlook howner => not_iff_comm.mp (h.superseded k c hlook howner).symm
  successor := h.successor
  active := fun _ _ _ _ hlook hlook' howner howner' => h.live_unique hlook hlook' howner howner'
  ended := by
    intro hended k c hlook howner hactive
    have hlive : ticket.status = .ACTIVE := ((h.live k c hlook howner).mp hactive).2
    rw [hlive] at hended
    rcases hended with hrevoked | hused
    · cases hrevoked
    · cases hused

/-- The tables that chains are in. -/
def Db.ticketTables (db : Db) : Table TicketId Ticket × Table CredentialId TicketCredential :=
  (db.tickets, db.credentials)

variable {s s' : Db} {id : TicketId} {t t' : Ticket}

theorem Db.Chained.other (hs : s.Chained) (htickets : s'.tickets = s.tickets)
    (hcredentials : s'.credentials = s.credentials) : s'.Chained := by
  constructor
  · rw [htickets, hcredentials]
    exact hs.homes
  · rw [htickets, hcredentials]
    exact hs.chains

theorem chained_of_tables (h : Framing Db.ticketTables s s') : Keeping Db.Chained s s' := by
  intro hs
  obtain ⟨htickets, hcredentials⟩ := Prod.mk.inj h
  exact hs.other htickets hcredentials

theorem Db.chained_empty (htickets : s.tickets.keys = []) (hcredentials : s.credentials.keys = []) :
    s.Chained where
  homes := fun k c hlook => (by cases (Table.lookup_of_keys hcredentials k).symm.trans hlook)
  chains := fun id t hlook => (by cases (Table.lookup_of_keys htickets id).symm.trans hlook)

/-- **A transaction on one ticket** has to answer for that ticket's chain alone. -/
theorem Db.Chained.of_ticket (hs : s.Chained) (hself : s'.tickets.lookup id = some t')
    (hothers : ∀ k, k ≠ id → s'.tickets.lookup k = s.tickets.lookup k)
    (hsame : ∀ k c, c.ticketId ≠ id →
      (s.credentials.lookup k = some c ↔ s'.credentials.lookup k = some c))
    (hchain : ∃ n, credentialVersions.Chain s'.credentials id (t'.status = .ACTIVE) n) :
    s'.Chained where
  homes := by
    intro k c hlook
    by_cases hid : c.ticketId = id
    · exact ⟨t', hid ▸ hself⟩
    · rw [hothers _ hid]
      exact hs.homes k c ((hsame k c hid).mpr hlook)
  chains := by
    intro k t hlook
    by_cases hid : k = id
    · subst hid
      cases Option.some.inj (hself.symm.trans hlook)
      exact hchain
    · rw [hothers k hid] at hlook
      obtain ⟨n, hold⟩ := hs.chains k t hlook
      exact ⟨n, hold.congr fun k' c howner => hsame k' c fun heq => hid (howner.symm.trans heq)⟩

/-- Rewriting a ticket's credentials leaves those of others. -/
theorem same_of_mapped {credentials credentials' : Table CredentialId TicketCredential}
    {g : CredentialId → TicketCredential → TicketCredential}
    (hmapped : credentials.Mapped g credentials')
    (hkeep : ∀ k c, credentials.lookup k = some c → (g k c).ticketId = c.ticketId)
    (hself : ∀ k c, credentials.lookup k = some c → c.ticketId ≠ id → g k c = c) (k : CredentialId)
    (c : TicketCredential) (hid : c.ticketId ≠ id) :
    credentials.lookup k = some c ↔ credentials'.lookup k = some c := by
  constructor
  · intro hlook
    rw [hmapped.lookup hlook, hself k c hlook hid]
  · intro hlook
    obtain ⟨old, hold, rfl⟩ := hmapped.cases hlook
    rw [hkeep k old hold] at hid
    rwa [hself k old hold hid]

/-- **Ending a ticket**: it is live no more, and neither is any of its credentials. -/
theorem Db.Chained.ended (hs : s.Chained) (hlook : s.tickets.lookup id = some t) (t' : Ticket)
    (htickets : s'.tickets = s.tickets.insert id t') (hended : t'.status ≠ .ACTIVE)
    {g : CredentialId → TicketCredential → TicketCredential}
    (hmapped : s.credentials.Mapped g s'.credentials)
    (hkeep : ∀ k c, s.credentials.lookup k = some c →
      (g k c).ticketId = c.ticketId ∧ (g k c).version = c.version ∧
        ((g k c).status = .REPLACED ↔ c.status = .REPLACED) ∧
          (g k c).replacementCredentialId = c.replacementCredentialId)
    (hothers : ∀ k c, s.credentials.lookup k = some c → c.ticketId ≠ id → g k c = c)
    (hclosed : ∀ k c, s.credentials.lookup k = some c → c.ticketId = id →
      (g k c).status ≠ .ACTIVE) : s'.Chained := by
  have hself : s'.tickets.lookup id = some t' := by rw [htickets, AList.lookup_insert]
  refine hs.of_ticket hself (fun k hk => ?_) ?_ ?_
  · rw [htickets, AList.lookup_insert_ne hk]
  · exact same_of_mapped hmapped (fun k c hc => (hkeep k c hc).1) hothers
  · obtain ⟨n, hchain⟩ := hs.chains id t hlook
    exact ⟨n, hchain.close hmapped hkeep hclosed hended⟩

/-! ## §2 Refunds and disputes -/

theorem chained_revokeAdmission : Revoking (Keeping Db.Chained) := by
  intro now safeReason ticketId
  refine steps_keeping.mpr fun s hs => ensures_bind.mpr (ensures_updateMany.mpr fun _ => ?_)
  refine ensures_bind.mpr (ensures_update.mpr fun t hlook _ => ensures_pure.mpr ?_)
  let p (_ : CredentialId) (c : TicketCredential) : Bool :=
    c.ticketId == ticketId && c.status == .ACTIVE
  refine hs.ended hlook { t with
      status := .REVOKED
      revokedAt := some now
      revocationReason := some safeReason } rfl (by simp)
    (Table.mapped_updates p (fun _ c => { c with status := .REVOKED, revokedAt := some now })
      s.credentials) ?_ ?_ ?_
  · intro k c _
    by_cases hp : p k c = true
    · have hactive : c.status = .ACTIVE := by simpa using (Bool.and_eq_true_iff.mp hp).2
      simp [hp, hactive]
    · simp [hp]
  · intro k c _ hother
    have hp : p k c = false := by simp [p, hother]
    simp [hp]
  · intro k c _ howner
    by_cases hp : p k c = true
    · simp [hp]
    · rw [if_neg hp]
      intro hactive
      exact hp (by simp [p, howner, hactive])

theorem ticketTables_frame : RefundFrame Db.ticketTables :=
  ⟨⟨fun _ _ => rfl, fun _ _ => rfl, fun _ _ => rfl, fun _ _ => rfl, fun _ _ _ _ => rfl⟩,
    fun _ _ _ _ _ => rfl⟩

/-- A statement that touches neither tickets nor credentials. -/
theorem steps_chained {α : Type} {p : Sql α}
    (h : p.Steps (Framing Db.ticketTables)) : p.Steps (Keeping Db.Chained) :=
  h.mono fun _ _ => chained_of_tables

theorem chained_refunds : RefundTransactionWrites (Keeping Db.Chained) where
  toRefundWrites := ticketTables_frame.writes.mono fun _ _ => chained_of_tables
  credit := fun input hentry hdispute => steps_chained
    (crediting_of_free (fun _ _ => rfl) input hentry hdispute)
  revoke := chained_revokeAdmission
  booking := fun _ _ _ _ => steps_update fun _ _ _ _ => chained_of_tables rfl
  inserted := fun id row _ => steps_chained
    (framed_insertRefund ticketTables_frame.1 (fun _ _ => rfl) id row)
  flagged := fun _ _ => steps_update fun _ _ _ _ => chained_of_tables rfl
  record := fun _ _ _ _ => steps_update fun _ _ _ _ => chained_of_tables rfl

theorem chained_appendLedgerEntry (input : AppendLedgerEntryInput) :
    (appendLedgerEntry input).Steps (Keeping Db.Chained) :=
  steps_require.bind fun _ => steps_insertNew fun _ _ _ => chained_of_tables rfl

theorem chained_disputes (webhookId : WebhookId) :
    DisputeWrites webhookId (Keeping Db.Chained) where
  opened := fun _ _ => steps_insert fun _ _ _ => chained_of_tables rfl
  advanced := fun _ _ _ _ => steps_update fun _ _ _ _ => chained_of_tables rfl
  history := fun _ _ => chained_of_tables rfl
  outbox := chained_refunds.outbox
  queue := chained_refunds.queue
  ledger := fun input _ => chained_appendLedgerEntry input
  webhook := fun _ _ => steps_update fun _ _ _ _ => chained_of_tables rfl
  booking := fun _ _ _ => steps_update fun _ _ _ _ => chained_of_tables rfl
  admission := chained_revokeAdmission

theorem chained_commits : PlatformCommits (Keeping Db.Chained) (Keeping Db.Chained) where
  commit := committing_of_queue fun _ => chained_of_tables rfl
  stored := fun _ _ _ _ _ _ _ _ => chained_of_tables rfl
  retried := fun _ => steps_updateMany fun _ _ => chained_of_tables rfl
  completed := fun _ _ _ => steps_updateWhen fun _ _ _ _ _ => chained_of_tables rfl
  recorded := fun _ _ _ _ => chained_of_tables rfl
  reissued := fun _ _ _ _ => chained_of_tables rfl

/-! ## §3 Issuing and managing tickets -/

section Tickets

variable {ticketId : TicketId} {ticket : Ticket} {credentialId : CredentialId}
  {credential : TicketCredential} {now : Time}

theorem ensures_createCredential {row : TicketCredential} {Q : Unit → Db → Prop}
    (hQ : s.credentials.lookup credentialId = none →
      Q () { s with
        credentials := s.credentials.insert credentialId row
        deferred := .verifyCredentialReplacement credentialId :: s.deferred }) :
    Ensures (createCredential credentialId row) s Q := by
  refine ensures_bind.mpr (ensures_insert.mpr fun habsent _ => ensures_perform.mpr ?_)
  rintro eff ⟨⟩
  exact hQ habsent

theorem ensures_updateCredential {f : TicketCredential → TicketCredential} {Q : Unit → Db → Prop}
    (hQ : ∀ c, s.credentials.lookup credentialId = some c →
      Q () { s with
        credentials := s.credentials.insert credentialId (f c)
        deferred := .verifyCredentialReplacement credentialId :: s.deferred }) :
    Ensures (updateCredential credentialId f) s Q := by
  refine ensures_bind.mpr (ensures_update.mpr fun c hlook _ => ensures_perform.mpr ?_)
  rintro eff ⟨⟩
  exact hQ c hlook

/-- Ending a ticket together with its live credential. -/
theorem Db.Chained.endedWith (hs : s.Chained) (hticket : s.tickets.lookup ticketId = some ticket)
    (hcredential : s.credentials.lookup credentialId = some credential)
    (howner : credential.ticketId = ticketId) (hactive : credential.status = .ACTIVE)
    (t' : Ticket) (c' : TicketCredential) (hended : t'.status ≠ .ACTIVE)
    (hkeep : c'.ticketId = credential.ticketId ∧ c'.version = credential.version ∧
      c'.replacementCredentialId = credential.replacementCredentialId)
    (hstatus : c'.status ≠ .ACTIVE ∧ c'.status ≠ .REPLACED)
    (htickets : s'.tickets = s.tickets.insert ticketId t')
    (hcredentials : s'.credentials = s.credentials.insert credentialId c') : s'.Chained := by
  refine hs.ended hticket t' htickets hended (g := fun k c => if k = credentialId then c' else c)
    ?_ ?_ ?_ ?_
  · rw [hcredentials]
    exact Table.mapped_insert hcredential c'
  · intro k c hc
    by_cases hk : k = credentialId
    · subst hk
      cases Option.some.inj (hcredential.symm.trans hc)
      simp [hkeep, hstatus.2, hactive]
    · simp [hk]
  · intro k c hc hother
    refine if_neg ?_
    rintro rfl
    cases Option.some.inj (hcredential.symm.trans hc)
    exact hother howner
  · intro k c hc hown
    by_cases hk : k = credentialId
    · simp [hk, hstatus.1]
    · rw [if_neg hk]
      intro hlive
      obtain ⟨n, hchain⟩ := hs.chains ticketId ticket hticket
      exact hk (hchain.live_unique hc hcredential hown howner hlive hactive)

/-- **A new version** of a ticket's credential, which replaces the one before if there is
one. -/
theorem Db.Chained.grown (hs : s.Chained) {fresh : CredentialId} (new : TicketCredential) {n : Nat}
    (t' : Ticket) (now : Time) (hstatus : t'.status = .ACTIVE)
    (hchain : credentialVersions.Chain s.credentials ticketId (t'.status = .ACTIVE) n)
    (hself : s'.tickets.lookup ticketId = some t')
    (hothers : ∀ k, k ≠ ticketId → s'.tickets.lookup k = s.tickets.lookup k)
    (hfresh : s.credentials.lookup fresh = none) (howned : new.ticketId = ticketId)
    (hversion : new.version = n + 1) (hactive : new.status = .ACTIVE)
    (hnew : s'.credentials.lookup fresh = some new)
    (hrest : ∀ k, k ≠ fresh → s'.credentials.lookup k = (s.credentials.lookup k).map fun c =>
      if c.ticketId = ticketId ∧ c.version = n then (c.replaced now).replacedBy fresh else c) :
    s'.Chained := by
  refine hs.of_ticket hself hothers (fun k c hother => ?_) ⟨n + 1, ?_⟩
  · by_cases hk : k = fresh
    · subst hk
      rw [hfresh, hnew]
      constructor
      · rintro ⟨⟩
      · rintro ⟨⟩
        exact absurd howned hother
    · rw [hrest k hk]
      cases hlook : s.credentials.lookup k with
      | none => simp
      | some old =>
          by_cases hold : old.ticketId = ticketId ∧ old.version = n
          · rw [Option.map_some, if_pos hold]
            constructor
            · rintro ⟨⟩
              exact absurd hold.1 hother
            · rintro ⟨⟩
              exact absurd hold.1 hother
          · rw [Option.map_some, if_neg hold]
  · refine hchain.grow (g := fun _ c =>
        if c.ticketId = ticketId ∧ c.version = n then (c.replaced now).replacedBy fresh else c)
      hfresh hnew hrest howned hversion ?_ ?_ ?_ ?_ ?_
    · simp [credentialVersions, hactive]
    · simp [credentialVersions, hactive, hstatus]
    · intro k c _
      dsimp only [credentialVersions]
      split <;> exact ⟨rfl, rfl⟩
    · intro k c _ _ hversion
      exact if_neg fun hboth => hversion hboth.2
    · intro k c _ howner hversion
      rw [if_pos ⟨howner, hversion⟩]
      exact ⟨rfl, rfl, by simp [credentialVersions, TicketCredential.replacedBy,
        TicketCredential.replaced]⟩

/-- A ticket that has just been issued has no credentials yet. -/
theorem ensures_issueTicket (hs : s.Chained) (bookingId : BookingId) (booking : Booking)
    (fresh : FreshTickets) (seat : BookingSeat) :
    Ensures (issueTicket bookingId booking fresh now seat) s fun issued s' =>
      s'.Chained ∧ s'.tickets.lookup issued.1 = some issued.2.1 := by
  refine ensures_bind.mpr (ensures_findMany.mpr ?_)
  split
  · rename_i ticketId ticket hhead
    have hfound := Table.mem_select.mp (List.mem_of_head? hhead)
    exact ensures_pure.mpr ⟨hs, hfound.1⟩
  · refine ensures_bind.mpr (ensures_insert.mpr fun habsent _ => ensures_pure.mpr ⟨?_, ?_⟩)
    · refine hs.of_ticket (AList.lookup_insert _) (fun k hk => AList.lookup_insert_ne hk)
        (fun _ _ _ => Iff.rfl) ⟨0, Versioning.chain_nil fun k c hlook howner => ?_⟩
      obtain ⟨t, ht⟩ := hs.homes k c hlook
      rw [show c.ticketId = _ from howner] at ht
      rw [show s.tickets.lookup _ = none from habsent] at ht
      cases ht
    · exact AList.lookup_insert _

theorem ensures_issueCredential (hs : s.Chained)
    (hticket : s.tickets.lookup ticketId = some ticket) :
    Ensures (issueCredential credentialId ticketId ticket now) s fun _ s' => s'.Chained := by
  refine ensures_bind.mpr (ensures_findMany.mpr ?_)
  split
  · rename_i hissue
    obtain ⟨hnone, hactive⟩ := hissue
    obtain ⟨n, hchain⟩ := hs.chains ticketId ticket hticket
    -- a live ticket with no live credential has no credential at all
    have hempty : ∀ k c, s.credentials.lookup k = some c → c.ticketId ≠ ticketId := by
      have hzero : n = 0 := by
        refine hchain.eq_zero hactive fun k c hlook howner hlive => ?_
        have hin : (k, c) ∈ (Prisma.ticketCredential.get s).select fun _ c =>
            c.ticketId == ticketId && c.status == .ACTIVE := by
          refine Table.mem_select.mpr ⟨hlook, ?_⟩
          rw [Bool.and_eq_true]
          exact ⟨beq_iff_eq.mpr howner, beq_iff_eq.mpr hlive⟩
        rw [hnone] at hin
        cases hin
      intro k c hlook howner
      have hpos := hchain.version_pos hlook howner
      have hle := hchain.version_le hlook howner
      omega
    refine ensures_bind.mpr (ensures_findMany.mpr ?_)
    have hversions : (Prisma.ticketCredential.get s).select (fun _ c => c.ticketId == ticketId)
        = [] := by
      refine List.eq_nil_iff_forall_not_mem.mpr fun e he => ?_
      obtain ⟨hlook, howner⟩ := Table.mem_select.mp he
      exact hempty e.1 e.2 hlook (eq_of_beq howner)
    rw [hversions]
    refine ensures_bind.mpr (ensures_createCredential fun habsent => ensures_pure.mpr ?_)
    refine hs.grown (ticket.credential ticketId 1 now) ticket now hactive
      (Versioning.chain_nil hempty) hticket
      (fun _ _ => rfl) habsent rfl rfl rfl (AList.lookup_insert _) fun k hk => ?_
    show (s.credentials.insert credentialId _).lookup k = _
    rw [AList.lookup_insert_ne hk]
    cases hlook : s.credentials.lookup k with
    | none => rfl
    | some c => simp [hempty k c hlook]
  · exact ensures_pure.mpr hs

theorem ensures_issueSeats (hs : s.Chained) (bookingId : BookingId) (booking : Booking)
    (fresh : FreshTickets) (now : Time) (seats : List BookingSeat) :
    Ensures (issueSeats bookingId booking fresh now seats) s fun _ s' => s'.Chained := by
  induction seats generalizing s with
  | nil => exact ensures_pure.mpr hs
  | cons seat seats ih =>
      refine ensures_bind.mpr ((ensures_issueTicket hs bookingId booking fresh seat).mono ?_)
      rintro ⟨ticketId, ticket, issued⟩ s₁ ⟨hs₁, hticket⟩
      refine ensures_bind.mpr ((ensures_issueCredential hs₁ hticket).mono fun created s₂ hs₂ => ?_)
      exact ensures_bind.mpr ((ih hs₂).mono fun _ _ hs₃ => ensures_pure.mpr hs₃)

theorem ensures_issueBookingTickets (hs : s.Chained) (bookingId : BookingId) (fresh : FreshTickets)
    (now : Time) :
    Ensures (issueBookingTicketsInTransaction bookingId fresh now) s fun _ s' => s'.Chained := by
  refine ensures_bind.mpr (ensures_findOrThrow.mpr fun booking _ => ?_)
  refine ensures_bind.mpr (ensures_require.mpr fun _ => ?_)
  refine ensures_bind.mpr ((ensures_issueSeats hs bookingId booking fresh now _).mono ?_)
  intro counts s₁ hs₁
  refine ensures_bind.mpr (ensures_findMany.mpr (ensures_bind.mpr (ensures_read.mpr ?_)))
  exact ensures_bind.mpr (ensures_require.mpr fun _ => ensures_pure.mpr hs₁)

theorem ensures_canManageTicket {actorUserId : UserId} {ticketReference : Reference} :
    Ensures (canManageTicket actorUserId ticketReference) s fun _ s' => s' = s := by
  refine ensures_bind.mpr (ensures_find.mpr (ensures_bind.mpr (ensures_findMany.mpr ?_)))
  split <;> exact ensures_pure.mpr rfl

theorem ensures_lockTicket {ticketReference : Reference} :
    Ensures (lockTicket ticketReference) s fun found s' =>
      s' = s ∧ s.tickets.lookup found.1 = some found.2 := by
  refine ensures_bind.mpr (ensures_lockMany.mpr (ensures_bind.mpr (ensures_orThrow.mpr ?_)))
  intro row _
  exact ensures_bind.mpr (ensures_findOrThrow.mpr fun ticket hlook =>
    ensures_pure.mpr ⟨rfl, hlook⟩)

theorem ensures_findActiveCredentials :
    Ensures (findActiveCredentials ticketId) s fun active s' => s' = s ∧
      ∀ e ∈ active, s.credentials.lookup e.1 = some e.2 ∧ e.2.ticketId = ticketId ∧
        e.2.status = .ACTIVE := by
  refine ensures_bind.mpr (ensures_findMany.mpr (ensures_pure.mpr ⟨rfl, fun e he => ?_⟩))
  obtain ⟨hlook, hp⟩ := Table.mem_select.mp ((List.mem_insertionSort _).mp he)
  obtain ⟨howner, hactive⟩ := Bool.and_eq_true_iff.mp hp
  exact ⟨hlook, eq_of_beq howner, eq_of_beq hactive⟩

/-- A committed body, as far as chains are concerned. -/
theorem chained_runInTransaction {α : Type} {body : Sql α}
    (h : body.Ensures s fun _ s' => s'.Chained) :
    (runInTransaction body).Ensures s fun _ s' => s'.Chained :=
  ensures_runInTransaction (h.mono fun _ _ hs' _ => hs'.other rfl rfl)

theorem ensures_rotateInTransaction (hs : s.Chained) (ticketReference : Reference)
    (fresh : CredentialId) (now : Time) :
    Ensures (rotateInTransaction ticketReference fresh now) s fun _ s' => s'.Chained := by
  refine chained_runInTransaction (ensures_bind.mpr (ensures_lockTicket.mono ?_))
  rintro ⟨ticketId, ticket⟩ s ⟨rfl, hticket⟩
  refine ensures_bind.mpr (ensures_require.mpr fun hrotates => ?_)
  have hactive : ticket.status = .ACTIVE := by simpa [canRotateTicket] using hrotates
  refine ensures_bind.mpr (ensures_findActiveCredentials.mono ?_)
  rintro active s ⟨rfl, hlive⟩
  refine ensures_bind.mpr (ensures_orThrow.mpr ?_)
  rintro ⟨credentialId, credential⟩ hhead
  obtain ⟨hlook, howner, hcurrent⟩ := hlive _ (List.mem_of_head? hhead)
  obtain ⟨n, hchain⟩ := hs.chains ticketId ticket hticket
  obtain rfl : credential.version = n := hchain.newest_of_live hlook howner hcurrent
  refine ensures_bind.mpr (ensures_lock.mpr ?_)
  refine ensures_bind.mpr (ensures_updateCredential fun c hc => ?_)
  cases Option.some.inj (hlook.symm.trans hc)
  refine ensures_bind.mpr (ensures_createCredential fun habsent => ?_)
  -- the new credential is another row than the one that it replaces
  have hne : fresh ≠ credentialId := by
    rintro rfl
    rw [AList.lookup_insert] at habsent
    cases habsent
  have hfresh : s.credentials.lookup fresh = none := by
    rwa [AList.lookup_insert_ne hne] at habsent
  refine ensures_bind.mpr (ensures_updateCredential fun c hc => ?_)
  rw [AList.lookup_insert_ne hne.symm, AList.lookup_insert] at hc
  cases hc
  refine ensures_bind.mpr (ensures_update.mpr fun t ht _ => ensures_pure.mpr ?_)
  cases Option.some.inj (hticket.symm.trans ht)
  refine hs.grown (ticket.credential ticketId (credential.version + 1) now) (ticket.rotated now)
    now hactive hchain
    (AList.lookup_insert _) (fun k hk => AList.lookup_insert_ne hk) hfresh rfl rfl rfl
    ?_ fun k hk => ?_
  · show AList.lookup fresh (AList.insert credentialId _ (AList.insert fresh _ _)) = _
    rw [AList.lookup_insert_ne hne, AList.lookup_insert]
  · show AList.lookup k (AList.insert credentialId _ (AList.insert fresh _
      (AList.insert credentialId _ s.credentials))) = _
    by_cases hold : k = credentialId
    · subst hold
      rw [AList.lookup_insert, hlook, Option.map_some, if_pos ⟨howner, rfl⟩]
    · rw [AList.lookup_insert_ne hold, AList.lookup_insert_ne hk, AList.lookup_insert_ne hold]
      cases hother : s.credentials.lookup k with
      | none => rfl
      | some c =>
          have hdiffers : ¬(c.ticketId = ticketId ∧ c.version = credential.version) := by
            rintro ⟨hown, hversion⟩
            exact hold (hchain.distinct k c credentialId credential hother hlook hown howner
              hversion)
          rw [Option.map_some, if_neg hdiffers]

theorem ensures_rotateTicketCredential (hs : s.Chained) (actorUserId : UserId)
    (ticketReference : Reference) (fresh : CredentialId) (now : Time) :
    Ensures (rotateTicketCredential actorUserId ticketReference fresh now) s fun _ s' =>
      s'.Chained := by
  refine ensures_bind.mpr (ensures_canManageTicket.mono ?_)
  rintro allowed _ rfl
  exact ensures_bind.mpr (ensures_require.mpr fun _ =>
    ensures_rotateInTransaction hs ticketReference fresh now)

theorem ensures_revokeInTransaction (hs : s.Chained) (actorUserId : UserId)
    (ticketReference : Reference) (reason : Code) (now : Time) :
    Ensures (revokeInTransaction actorUserId ticketReference reason now) s fun _ s' =>
      s'.Chained := by
  refine chained_runInTransaction (ensures_bind.mpr (ensures_lockTicket.mono ?_))
  rintro ⟨ticketId, ticket⟩ s ⟨rfl, hticket⟩
  dsimp only
  split
  · exact ensures_pure.mpr hs
  · exact ensures_abort.mpr trivial
  · refine ensures_bind.mpr (ensures_findMany.mpr ?_)
    split
    · rename_i credentialId credential hhead
      obtain ⟨hlook, hp⟩ := Table.mem_select.mp (List.mem_of_head? hhead)
      obtain ⟨howner, hcurrent⟩ := Bool.and_eq_true_iff.mp hp
      refine ensures_bind.mpr (ensures_lock.mpr (ensures_bind.mpr (ensures_updateCredential ?_)))
      intro c hc
      cases Option.some.inj (hlook.symm.trans hc)
      refine ensures_bind.mpr (ensures_update.mpr fun t ht _ => ensures_pure.mpr ?_)
      cases Option.some.inj (hticket.symm.trans ht)
      exact hs.endedWith hticket hlook (eq_of_beq howner) (eq_of_beq hcurrent)
        (ticket.revokedBy actorUserId reason now) (credential.revoked now)
        (by simp [Ticket.revokedBy]) ⟨rfl, rfl, rfl⟩ (by simp [TicketCredential.revoked]) rfl rfl
    · rename_i hnone
      refine ensures_bind.mpr (ensures_update.mpr fun t ht _ => ?_)
      cases Option.some.inj (hticket.symm.trans ht)
      refine ensures_pure.mpr (hs.ended hticket (ticket.revokedBy actorUserId reason now) rfl
        (by simp [Ticket.revokedBy]) (Table.mapped_id _) (by simp) (by simp) ?_)
      intro k c hlook howner hcurrent
      have hin : (k, c) ∈ (Prisma.ticketCredential.get s).select fun _ c =>
          c.ticketId == ticketId && c.status == .ACTIVE := by
        refine Table.mem_select.mpr ⟨hlook, ?_⟩
        rw [Bool.and_eq_true]
        exact ⟨beq_iff_eq.mpr howner, beq_iff_eq.mpr hcurrent⟩
      rw [List.head?_eq_none_iff.mp hnone] at hin
      cases hin

theorem ensures_revokeTicket (hs : s.Chained) (actorUserId : UserId) (ticketReference : Reference)
    (reason : Option Code) (now : Time) :
    Ensures (revokeTicket actorUserId ticketReference reason now) s fun _ s' => s'.Chained := by
  refine ensures_bind.mpr (ensures_canManageTicket.mono ?_)
  rintro allowed _ rfl
  exact ensures_bind.mpr (ensures_require.mpr fun _ => ensures_bind.mpr (ensures_orThrow.mpr
    fun reason _ => ensures_revokeInTransaction hs actorUserId ticketReference reason now))

/-! ## §4 Scans -/

/-- Only a live credential is let in. -/
theorem active_of_accepted {input : ScanInput} {eventId : EventId} {bookingStatus : BookingStatus}
    {session : EventSession}
    (h : decideScan input eventId credential ticket bookingStatus session now = .ACCEPTED) :
    credential.status = .ACTIVE := by
  unfold decideScan at h
  split at h
  · cases h
  · split at h
    · cases h
    · rename_i hunused
      split at h
      · cases h
      · rename_i hunrevoked
        cases hstatus : credential.status <;> simp_all

theorem ensures_chained_scanTicket (hs : s.Chained) (input : ScanInput) (target : ScanTarget)
    (hcredential : s.credentials.lookup credentialId = some credential) (fresh : RedemptionId)
    (now : Time) :
    Ensures (scanTicket input target credentialId credential.ticketId fresh now) s fun _ s' =>
      s'.Chained := by
  refine ensures_bind.mpr (ensures_lock.mpr (ensures_bind.mpr (ensures_findOrThrow.mpr ?_)))
  intro c hc
  cases Option.some.inj (hcredential.symm.trans hc)
  refine ensures_bind.mpr (ensures_findOrThrow.mpr fun ticket hticket => ?_)
  refine ensures_bind.mpr (ensures_findOrThrow.mpr fun booking _ => ?_)
  refine ensures_bind.mpr (ensures_findOrThrow.mpr fun session _ => ?_)
  refine ensures_bind.mpr (ensures_insert.mpr fun _ _ => ?_)
  have hrecorded : (Prisma.ticketRedemptionEvent.set ((Prisma.ticketRedemptionEvent.get s).insert
      fresh (input.event target (some (credential.ticketId, credentialId))
        (decideScan input target.eventId credential ticket booking.status session now) now))
      s).Chained :=
    hs.other rfl rfl
  dsimp only
  split
  · rename_i haccepted
    refine ensures_bind.mpr (ensures_bind.mpr (ensures_updateCredential fun c hc => ?_))
    cases Option.some.inj (hcredential.symm.trans hc)
    refine ensures_bind.mpr (ensures_update.mpr fun t ht _ => ?_)
    cases Option.some.inj (hticket.symm.trans ht)
    refine ensures_pure.mpr (ensures_pure.mpr ?_)
    exact hrecorded.endedWith hticket hcredential rfl (active_of_accepted haccepted) ticket.used
      (credential.used now) (by simp [Ticket.used]) ⟨rfl, rfl, rfl⟩
      (by simp [TicketCredential.used]) rfl rfl
  · exact ensures_bind.mpr (ensures_pure.mpr (ensures_pure.mpr hrecorded))

theorem ensures_chained_scanInTransaction (hs : s.Chained) (input : ScanInput) (target : ScanTarget)
    (fresh : RedemptionId) (now : Time) :
    Ensures (scanInTransaction input target fresh now) s fun _ s' => s'.Chained := by
  refine chained_runInTransaction (ensures_bind.mpr (ensures_replayedOutcome.mono ?_))
  rintro replayed s ⟨-, rfl⟩
  have hinvalid : Ensures (recordInvalid input target fresh now) s fun _ s' => s'.Chained :=
    ensures_bind.mpr (ensures_insert.mpr fun _ _ => ensures_pure.mpr (hs.other rfl rfl))
  split
  · exact ensures_pure.mpr hs
  · split
    · exact hinvalid
    · refine ensures_bind.mpr (ensures_lockMany.mpr ?_)
      split
      · exact hinvalid
      · rename_i credentialId locked hhead
        exact ensures_chained_scanTicket hs input target
          (Table.mem_select.mp (List.mem_of_head? hhead)).1 fresh now

end Tickets

/-! ## §5 The platform -/

/-- **Ticket transactions keep the chains.** -/
theorem TicketTransaction.chained (t : TicketTransaction) (hs : s.Chained) :
    (t.commit s).Chained := by
  have hcompleted : ∀ {db : Db} (bookingId : BookingId) (now : Time), db.Chained →
      Ensures (completeIssuance bookingId now) db fun _ db' => db'.Chained :=
    fun _ _ hdb => ensures_bind.mpr (ensures_update.mpr fun _ _ _ =>
      ensures_pure.mpr (hdb.other rfl rfl))
  cases t with
  | processTicketIssuanceForBooking bookingId fresh now =>
      refine Ensures.commit (Q := Db.Chained) (chained_runInTransaction ?_) hs
      refine ensures_bind.mpr (ensures_lock.mpr (ensures_bind.mpr (ensures_findOrThrow.mpr ?_)))
      intro request _
      split
      · exact ensures_pure.mpr hs
      · exact ensures_abort.mpr trivial
      · refine ensures_bind.mpr ((ensures_issueBookingTickets hs bookingId fresh now).mono ?_)
        intro result s₁ hs₁
        exact ensures_bind.mpr ((hcompleted bookingId now hs₁).mono fun _ _ hs₂ =>
          ensures_pure.mpr hs₂)
  | issuanceRound configuration fresh now =>
      have hround : Ensures (issueClaimed fresh now) s fun _ s' => s'.Chained := by
        refine chained_runInTransaction (ensures_bind.mpr (ensures_claimIssuance.mono ?_))
        rintro claimed s ⟨-, rfl⟩
        split
        · exact ensures_pure.mpr hs
        · rename_i bookingId
          refine ensures_bind.mpr ((ensures_issueBookingTickets hs bookingId fresh now).mono ?_)
          intro result s₁ hs₁
          exact ensures_bind.mpr ((hcompleted bookingId now hs₁).mono fun _ _ hs₂ =>
            ensures_pure.mpr hs₂)
      have hfailed : ∀ bookingId, Ensures (recordIssuanceFailure configuration bookingId now) s
          fun _ s' => s'.Chained := by
        intro bookingId
        refine chained_runInTransaction (ensures_bind.mpr (ensures_lock.mpr (ensures_bind.mpr
          (ensures_find.mpr ?_))))
        split
        · exact ensures_pure.mpr hs
        · split
          · exact ensures_pure.mpr hs
          · exact ensures_bind.mpr (ensures_update.mpr fun _ _ _ =>
              ensures_pure.mpr (hs.other rfl rfl))
      simp only [TicketTransaction.commit, SeatFlow.issuanceRound]
      split
      · rename_i result db' hrun
        exact hround _ _ hrun
      · split
        · exact Ensures.commit (Q := Db.Chained) (hfailed _) hs
        · exact hs
  | retryTicketIssuanceRequest bookingId now =>
      refine Ensures.commit (Q := Db.Chained) ?_ hs
      exact ensures_bind.mpr (ensures_updateMany.mpr fun _ =>
        ensures_pure.mpr (hs.other rfl rfl))
  | rotateTicketCredential actorUserId ticketReference fresh now =>
      exact Ensures.commit (Q := Db.Chained)
        (ensures_rotateTicketCredential hs actorUserId ticketReference fresh now) hs
  | revokeTicket actorUserId ticketReference reason now =>
      exact Ensures.commit (Q := Db.Chained)
        (ensures_revokeTicket hs actorUserId ticketReference reason now) hs
  | validateTicketEntry input fresh now =>
      simp only [TicketTransaction.commit]
      split
      · rename_i result db' hrun
        obtain ⟨⟨target, db₁⟩, -, hscan⟩ := Except.bind_eq_ok.mp hrun
        dsimp only at hscan
        split at hscan
        · cases hscan
          exact hs
        · cases hscan
          refine Ensures.commit (Q := Db.Chained) (ensures_insert.mpr fun _ _ => ?_) hs
          exact hs.other rfl rfl
        · exact ensures_chained_scanInTransaction hs input _ fresh now _ _ hscan
      · exact hs

namespace Platform

variable {sys sys' : FinancialSystem}

theorem chained_step {a : PlatformAction} (h : Platform.step sys a = some sys')
    (hs : sys.db.Chained) : sys'.db.Chained := by
  cases a with
  | ticket t =>
      cases h
      exact t.chained hs
  | commerce t =>
      cases h
      have houtside := t.outside sys.db
      simp only [Db.outsideCommerce, Prod.mk.injEq] at houtside
      exact hs.other houtside.1 houtside.2.1
  | financial a =>
      exact Keeping.steps (FinancialSystem.db_financial chained_refunds chained_disputes
        chained_appendLedgerEntry chained_commits h) hs

/-- **Credential chains.** In every state of every run from a platform without tickets, the
credentials of each ticket are intact. -/
theorem credentials_intact {ok : FinancialSystem → PlatformAction → Prop}
    (h : Reaches Platform.step ok sys sys') (htickets : sys.db.tickets.keys = [])
    (hcredentials : sys.db.credentials.keys = []) {ticketId : TicketId} {ticket : Ticket}
    (hticket : sys'.db.tickets.lookup ticketId = some ticket) :
    ∃ n, ticket.CredentialsIntact ticketId sys'.db n := by
  have hchained : sys'.db.Chained := h.invariant (I := fun sys => sys.db.Chained)
    (Db.chained_empty htickets hcredentials) fun _ _ _ _ hstep hs => chained_step hstep hs
  obtain ⟨n, hchain⟩ := hchained.chains ticketId ticket hticket
  exact ⟨n, .of_chain hchain⟩

/-- The tickets are issued, the first one's credential is rotated and lets its holder in,
and the second one is revoked. -/
def rotatedEntry : List PlatformAction :=
  [.ticket (.processTicketIssuanceForBooking 1
      { ticketId := fun seat => seat, publicReference := fun seat => seat
        credentialId := fun seat => seat } 1000),
    .ticket (.rotateTicketCredential 2 1 3 1500),
    .ticket (.validateTicketEntry { scanOfSeat 1 with credential := some (.derived 1 2) } 1 6000),
    .ticket (.revokeTicket 2 2 (some "LOST_PHONE") 6100)]

theorem credentials_intact_rotatedEntry :
    ∃ sys, execute Platform.step rotatedEntry entranceFinances = some sys ∧
      ∃ ticket, sys.db.tickets.lookup 1 = some ticket ∧ ticket.status = .USED ∧
        ∃ n, ticket.CredentialsIntact 1 sys.db n := by
  have hrun : (execute Platform.step rotatedEntry entranceFinances).any (fun sys =>
      (sys.db.tickets.lookup 1).any fun ticket => ticket.status == .USED) = true := by
    decide +kernel
  obtain ⟨sys, hsys, husedTicket⟩ := (Option.any_eq_true _ _).mp hrun
  obtain ⟨ticket, hticket, hused⟩ := (Option.any_eq_true _ _).mp husedTicket
  have hreach : Reaches Platform.step (fun _ _ => True) entranceFinances sys :=
    reaches_of_execute hsys fun _ _ _ => trivial
  exact ⟨sys, hsys, ticket, hticket, eq_of_beq hused,
    credentials_intact hreach (by decide) (by decide) hticket⟩

end Platform

end SeatFlow
