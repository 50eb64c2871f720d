import SeatFlow.Commerce.CommerceWrites
import SeatFlow.Tickets.ValidationService

/-!
# What ticket transactions write

The writes of issuance, management and scans, once for any relation that they are
steps of. `I` says for which seats of which bookings a ticket may be issued; a
booking's transaction only issues tickets for the seats it finds in it.
-/

namespace SeatFlow

open Relational Program Entity

/-- The writes of a ticket transaction. -/
structure TicketWrites (I : BookingId → Booking → BookingSeat → Prop) (step : Db → Db → Prop) :
    Prop where
  issued : ∀ bookingId booking seat reference now id, I bookingId booking seat →
    (Prisma.ticket.insert id (booking.ticket bookingId seat reference now)).Steps step
  ticket : ∀ id f missing, (Prisma.ticket.update id f missing).Steps step
  credential : Prisma.ticketCredential.AdmitsRow step
  redemption : Prisma.ticketRedemptionEvent.AdmitsRow step
  request : Prisma.ticketIssuanceRequest.AdmitsRow step
  queue : ∀ trigger, (defer trigger).Steps step

theorem steps_replayedOutcome {step : Db → Db → Prop} {input : ScanInput} :
    (replayedOutcome input).Steps step := by
  unfold replayedOutcome
  split
  · exact steps_pure
  · exact steps_findMany.bind fun _ => steps_pure

namespace TicketWrites

variable {I : BookingId → Booking → BookingSeat → Prop} {step whole : Db → Db → Prop}
  (hwrites : TicketWrites I step)

include hwrites

theorem createdCredential (id : CredentialId) (row : TicketCredential) :
    (createCredential id row).Steps step :=
  hwrites.credential.insert.bind fun _ => hwrites.queue _

theorem updatedCredential (id : CredentialId) (f : TicketCredential → TicketCredential) :
    (updateCredential id f).Steps step :=
  hwrites.credential.update.bind fun _ => hwrites.queue _

/-! ## §1 Issuance -/

theorem issuedTicket (bookingId : BookingId) (booking : Booking) (fresh : FreshTickets)
    (now : Time) (seat : BookingSeat) (hseat : I bookingId booking seat) :
    (issueTicket bookingId booking fresh now seat).Steps step := by
  refine steps_findMany.bind fun found => ?_
  split
  · exact steps_pure
  · exact (hwrites.issued _ _ _ _ _ _ hseat).bind fun _ => steps_pure

theorem issuedCredential (credentialId : CredentialId) (ticketId : TicketId) (ticket : Ticket)
    (now : Time) : (issueCredential credentialId ticketId ticket now).Steps step := by
  refine steps_findMany.bind fun active => ?_
  split
  · exact steps_findMany.bind fun versions => (hwrites.createdCredential _ _).bind fun _ =>
      steps_pure
  · exact steps_pure

theorem issuedSeats (bookingId : BookingId) (booking : Booking) (fresh : FreshTickets) (now : Time)
    (seats : List BookingSeat) (hseats : ∀ seat ∈ seats, I bookingId booking seat) :
    (issueSeats bookingId booking fresh now seats).Steps step := by
  induction seats with
  | nil => exact steps_pure
  | cons seat seats ih =>
      refine (hwrites.issuedTicket _ _ _ _ _ (hseats seat (by simp))).bind fun issued => ?_
      refine (hwrites.issuedCredential _ _ _ _).bind fun created => ?_
      exact (ih fun other hother => hseats other (List.mem_cons_of_mem _ hother)).bind
        fun _ => steps_pure

theorem completed (bookingId : BookingId) (now : Time) :
    (completeIssuance bookingId now).Steps step :=
  hwrites.request.update.bind fun _ => steps_pure

/-- A booking's tickets are issued for its own seats. -/
theorem issuedBooking {s : Db} (bookingId : BookingId) (fresh : FreshTickets) (now : Time)
    (hseats : ∀ booking, s.bookings.lookup bookingId = some booking →
      booking.status = .CONFIRMED → ∀ seat ∈ booking.seats, I bookingId booking seat) :
    Ensures (issueBookingTicketsInTransaction bookingId fresh now) s fun _ s' =>
      Relation.ReflTransGen step s s' := by
  refine ensures_bind.mpr (ensures_findOrThrow.mpr fun booking hbooking => ?_)
  refine ensures_bind.mpr (ensures_require.mpr fun hconfirmed => ?_)
  refine steps_iff_ensures.mp ((hwrites.issuedSeats _ _ _ _ _ fun seat hseat => ?_).bind
    fun _ => ?_) s
  · refine hseats booking hbooking hconfirmed.1 seat ?_
    exact (List.perm_insertionSort _ _).mem_iff.mp hseat
  · exact steps_findMany.bind fun _ => steps_read.bind fun _ => steps_require.bind fun _ =>
      steps_pure

theorem recordedFailure (hcommit : Committing step whole)
    (configuration : TicketIssuanceConfiguration) (bookingId : BookingId) (now : Time) :
    (recordIssuanceFailure configuration bookingId now).Steps whole := by
  refine hcommit.steps (steps_lock.bind fun _ => steps_find.bind fun due => ?_)
  split
  · exact steps_pure
  · split
    · exact steps_pure
    · exact hwrites.request.update.bind fun _ => steps_pure

/-! ## §2 Management -/

theorem rotated (hcommit : Committing step whole) (actorUserId : UserId)
    (ticketReference : Reference) (fresh : CredentialId) (now : Time) :
    (rotateTicketCredential actorUserId ticketReference fresh now).Steps whole := by
  refine Steps.bind ?_ fun allowed => steps_require.bind fun _ => hcommit.steps ?_
  · refine steps_find.bind fun actor => steps_findMany.bind fun tickets => ?_
    split <;> exact steps_pure
  · refine Steps.bind ?_ fun locked => steps_require.bind fun _ => Steps.bind ?_ fun active => ?_
    · exact steps_lockMany.bind fun rows => steps_orThrow.bind fun row =>
        steps_findOrThrow.bind fun ticket => steps_pure
    · exact steps_findMany.bind fun _ => steps_pure
    · exact steps_orThrow.bind fun found => steps_lock.bind fun _ =>
        (hwrites.updatedCredential _ _).bind fun _ => (hwrites.createdCredential _ _).bind fun _ =>
          (hwrites.updatedCredential _ _).bind fun _ => (hwrites.ticket _ _ _).bind fun _ =>
            steps_pure

theorem revoked (hcommit : Committing step whole) (actorUserId : UserId)
    (ticketReference : Reference) (reason : Option Code) (now : Time) :
    (revokeTicket actorUserId ticketReference reason now).Steps whole := by
  refine Steps.bind ?_ fun allowed => steps_require.bind fun _ => steps_orThrow.bind fun reason =>
    hcommit.steps ?_
  · refine steps_find.bind fun actor => steps_findMany.bind fun tickets => ?_
    split <;> exact steps_pure
  · refine Steps.bind ?_ fun locked => ?_
    · exact steps_lockMany.bind fun rows => steps_orThrow.bind fun row =>
        steps_findOrThrow.bind fun ticket => steps_pure
    · obtain ⟨ticketId, ticket⟩ := locked
      dsimp only
      split
      · exact steps_pure
      · exact steps_abort
      · refine steps_findMany.bind fun active => ?_
        split
        · exact steps_lock.bind fun _ => (hwrites.updatedCredential _ _).bind fun _ =>
            (hwrites.ticket _ _ _).bind fun _ => steps_pure
        · exact (hwrites.ticket _ _ _).bind fun _ => steps_pure

/-! ## §3 Scans -/

theorem recordedInvalid (input : ScanInput) (target : ScanTarget) (fresh : RedemptionId)
    (now : Time) : (recordInvalid input target fresh now).Steps step :=
  hwrites.redemption.insert.bind fun _ => steps_pure

theorem scannedTicket (input : ScanInput) (target : ScanTarget) (credentialId : CredentialId)
    (ticketId : TicketId) (fresh : RedemptionId) (now : Time) :
    (scanTicket input target credentialId ticketId fresh now).Steps step := by
  refine steps_lock.bind fun _ => steps_findOrThrow.bind fun credential => ?_
  refine steps_findOrThrow.bind fun ticket => steps_findOrThrow.bind fun booking => ?_
  refine steps_findOrThrow.bind fun session => hwrites.redemption.insert.bind fun _ => ?_
  dsimp only
  split
  · refine Steps.bind ?_ fun _ => steps_pure
    exact (hwrites.updatedCredential _ _).bind fun _ => (hwrites.ticket _ _ _).bind fun _ =>
      steps_pure
  · exact steps_pure

theorem scanned (hcommit : Committing step whole) (input : ScanInput) (target : ScanTarget)
    (fresh : RedemptionId) (now : Time) :
    (scanInTransaction input target fresh now).Steps whole := by
  refine hcommit.steps (steps_replayedOutcome.bind fun replayed => ?_)
  split
  · exact steps_pure
  · split
    · exact hwrites.recordedInvalid _ _ _ _
    · refine steps_lockMany.bind fun rows => ?_
      split
      · exact hwrites.recordedInvalid _ _ _ _
      · exact hwrites.scannedTicket _ _ _ _ _ _

end TicketWrites

/-! ## §4 Transactions -/

/-- The ticket transactions, with their inputs. -/
inductive TicketTransaction
  | processTicketIssuanceForBooking (bookingId : BookingId) (fresh : FreshTickets) (now : Time)
  | issuanceRound (configuration : TicketIssuanceConfiguration) (fresh : FreshTickets) (now : Time)
  | retryTicketIssuanceRequest (bookingId : BookingId) (now : Time)
  | rotateTicketCredential (actorUserId : UserId) (ticketReference : Reference)
      (fresh : CredentialId) (now : Time)
  | revokeTicket (actorUserId : UserId) (ticketReference : Reference) (reason : Option Code)
      (now : Time)
  | validateTicketEntry (input : ScanInput) (fresh : RedemptionId) (now : Time)

/-- The database after a transaction, whether it committed or not. -/
def TicketTransaction.commit (db : Db) : TicketTransaction → Db
  | .processTicketIssuanceForBooking bookingId fresh now =>
      (SeatFlow.processTicketIssuanceForBooking bookingId fresh now).commit db
  | .issuanceRound configuration fresh now => SeatFlow.issuanceRound configuration fresh now db
  | .retryTicketIssuanceRequest bookingId now =>
      (SeatFlow.retryTicketIssuanceRequest bookingId now).commit db
  | .rotateTicketCredential actorUserId ticketReference fresh now =>
      (SeatFlow.rotateTicketCredential actorUserId ticketReference fresh now).commit db
  | .revokeTicket actorUserId ticketReference reason now =>
      (SeatFlow.revokeTicket actorUserId ticketReference reason now).commit db
  | .validateTicketEntry input fresh now =>
      match SeatFlow.validateTicketEntry input fresh now db with
      | .ok (_, db') => db'
      | .error _ => db

/-- The booking whose request is due first. -/
def Db.dueIssuance (db : Db) (now : Time) : Option BookingId :=
  ((((db.issuanceRequests.select fun _ r => r.status == .PENDING && r.availableAt ≤ now)
    |>.insertionSort fun a b => a.2.createdAt < b.2.createdAt ∨
      a.2.createdAt = b.2.createdAt ∧ a.1 ≤ b.1).take 1).head?).map Prod.fst

/-- The booking that a transaction issues tickets for. -/
def Db.issues (db : Db) : TicketTransaction → Option BookingId
  | .processTicketIssuanceForBooking bookingId _ _ => some bookingId
  | .issuanceRound _ _ now => db.dueIssuance now
  | _ => none

theorem ensures_claimIssuance {s : Db} {now : Time} :
    Ensures (claimIssuance now) s fun claimed s' => claimed = s.dueIssuance now ∧ s' = s :=
  ensures_bind.mpr (ensures_lockBatch.mpr (ensures_pure.mpr ⟨rfl, rfl⟩))

/-- **What a ticket transaction does** is a sequence of steps between transactions. -/
theorem TicketTransaction.steps {I : BookingId → Booking → BookingSeat → Prop}
    {step whole : Db → Db → Prop} (hwrites : TicketWrites I step) (hcommit : Committing step whole)
    (hrecorded : Prisma.ticketRedemptionEvent.AdmitsRow whole)
    (hretried : Prisma.ticketIssuanceRequest.AdmitsBatch whole) (t : TicketTransaction) (db : Db)
    (hissues : ∀ bookingId booking, db.issues t = some bookingId →
      db.bookings.lookup bookingId = some booking → booking.status = .CONFIRMED →
      ∀ seat ∈ booking.seats, I bookingId booking seat) :
    Relation.ReflTransGen whole db (t.commit db) := by
  cases t with
  | processTicketIssuanceForBooking bookingId fresh now =>
      refine Ensures.commit (Q := fun db' => Relation.ReflTransGen whole db db') ?_ .refl
      refine hcommit.ensures (ensures_bind.mpr (ensures_lock.mpr (ensures_bind.mpr
        (ensures_findOrThrow.mpr fun request _ => ?_))))
      split
      · exact ensures_pure.mpr .refl
      · exact ensures_abort.mpr trivial
      · refine ensures_bind.mpr ((hwrites.issuedBooking bookingId fresh now fun booking hbooking =>
          hissues bookingId booking rfl hbooking).mono fun result s₁ hissued => ?_)
        refine ensures_bind.mpr ((steps_iff_ensures.mp (hwrites.completed bookingId now) s₁).mono
          fun _ s₂ hcompleted => ensures_pure.mpr (hissued.trans hcompleted))
  | issuanceRound configuration fresh now =>
      have hround : Ensures (issueClaimed fresh now) db fun _ db' =>
          Relation.ReflTransGen whole db db' := by
        refine hcommit.ensures (ensures_bind.mpr (ensures_claimIssuance.mono ?_))
        rintro claimed s₁ ⟨hdue, rfl⟩
        split
        · exact ensures_pure.mpr .refl
        · rename_i bookingId
          refine ensures_bind.mpr ((hwrites.issuedBooking bookingId fresh now
            fun booking hbooking => hissues bookingId booking hdue.symm hbooking).mono
            fun result s₂ hissued => ?_)
          refine ensures_bind.mpr ((steps_iff_ensures.mp (hwrites.completed bookingId now) s₂).mono
            fun _ s₃ hcompleted => ensures_pure.mpr (hissued.trans hcompleted))
      simp only [TicketTransaction.commit, SeatFlow.issuanceRound]
      split
      · rename_i result db' hrun
        exact hround _ _ hrun
      · split
        · exact (hwrites.recordedFailure hcommit _ _ _).commit db
        · exact .refl
  | retryTicketIssuanceRequest bookingId now =>
      exact (hretried.updateMany.bind fun _ => steps_pure).commit db
  | rotateTicketCredential => exact (hwrites.rotated hcommit _ _ _ _).commit db
  | revokeTicket => exact (hwrites.revoked hcommit _ _ _ _).commit db
  | validateTicketEntry input fresh now =>
      simp only [TicketTransaction.commit]
      split
      · rename_i result db' hrun
        obtain ⟨⟨target, db₁⟩, -, hscan⟩ := Except.bind_eq_ok.mp hrun
        dsimp only at hscan
        split at hscan
        · cases hscan
          exact .refl
        · cases hscan
          exact hrecorded.insert.commit db
        · exact hwrites.scanned hcommit _ _ _ _ _ _ _ hscan
      · exact .refl

/-! ## §5 What tickets leave alone -/

/-- The tables of sales, refunds, disputes and the books. -/
def Db.outsideTickets (db : Db) :=
  (db.inventory, db.holds, db.orders, db.attempts, db.webhooks, db.bookings, db.refunds,
    db.refundAttempts, db.disputes, db.disputeEvents, db.ledger, db.financialOutbox)

theorem outside_tickets : TicketWrites (fun _ _ _ => True) (Framing Db.outsideTickets) where
  issued := fun _ _ _ _ _ _ _ => steps_insert fun _ _ _ => rfl
  ticket := fun _ _ _ => steps_update fun _ _ _ _ => rfl
  credential := fun _ _ _ _ => rfl
  redemption := fun _ _ _ _ => rfl
  request := fun _ _ _ _ => rfl
  queue := fun _ s => ensures_perform.mpr (by
    rintro eff ⟨⟩
    exact .single rfl)

theorem TicketTransaction.outside (t : TicketTransaction) (db : Db) :
    (t.commit db).outsideTickets = db.outsideTickets :=
  Framing.steps (t.steps outside_tickets (committing_of_queue fun _ => rfl) (fun _ _ _ _ => rfl)
    (fun _ _ _ _ => rfl) db fun _ _ _ _ _ _ _ => trivial)

end SeatFlow
