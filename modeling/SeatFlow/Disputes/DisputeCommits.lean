import SeatFlow.Disputes.DisputeEffects
import SeatFlow.Platform.Reachability

/-!
# When a dispute event can be processed

A dispute event is processed in one transaction, so one rejected row leaves its record
open, and the next delivery writes the same row again. Only the row of the dispute itself
can be rejected: a new one for its amount, currency, outcome or times, a known one for its
outcome or the time it is closed at. Whatever follows it, the ledger entries, the flags and
the revoked tickets, is admitted.
-/

namespace SeatFlow

open Relational Program Entity

variable {s s' : Db}

/-! ## §1 Rows of disputes -/

/-- What a new dispute needs to be admitted. -/
@[mk_iff]
structure DisputeEventInput.Opens (input : DisputeEventInput) (db : Db) (fresh : FreshDispute)
    (attempt : PaymentAttempt) : Prop where
  unusedId : db.disputes.lookup fresh.disputeId = none
  unusedReference : db.disputes.any (fun _ d => d.publicReference == fresh.publicReference) = false
  positive : 0 < input.amountMinor
  covered : input.amountMinor ≤ attempt.amountMinor
  currency : input.currency = attempt.currency
  outcome : input.status ≠ .CLOSED
  time : isTerminalDisputeStatus input.status = true → input.occurredAt.getD input.now ≤ input.now

instance (input : DisputeEventInput) (db : Db) (fresh : FreshDispute) (attempt : PaymentAttempt) :
    Decidable (input.Opens db fresh attempt) :=
  decidable_of_iff _ (DisputeEventInput.opens_iff input db fresh attempt).symm

/-- What a known dispute needs to be advanced. -/
@[mk_iff]
structure PaymentDispute.Continues (d : PaymentDispute) (incoming : DisputeStatus) (now : Time) :
    Prop where
  outcome : isOpenDisputeStatus d.status = true → incoming ≠ .CLOSED
  time : isOpenDisputeStatus d.status = true → isTerminalDisputeStatus incoming = true →
    d.openedAt ≤ now

instance (d : PaymentDispute) (incoming : DisputeStatus) (now : Time) :
    Decidable (d.Continues incoming now) :=
  decidable_of_iff _ (PaymentDispute.continues_iff d incoming now).symm

/-- A status and its outcome agree, except for a dispute that is closed. -/
theorem lifecycleCheck_of_status {d : PaymentDispute} (now : Time)
    (hclosed : d.closedAt = if isTerminalDisputeStatus d.status then some now else none)
    (houtcome : d.outcome = outcomeForTerminalStatus d.status) :
    d.lifecycleCheck = true ↔ d.status ≠ .CLOSED := by
  unfold PaymentDispute.lifecycleCheck
  cases hstatus : d.status <;>
    simp [hclosed, houtcome, hstatus, isTerminalDisputeStatus, outcomeForTerminalStatus]

theorem timeOrderCheck_of_status {d : PaymentDispute} (now : Time)
    (hclosed : d.closedAt = if isTerminalDisputeStatus d.status then some now else none)
    (hevidence : d.evidenceDueAt.all (d.openedAt ≤ ·) = true) :
    d.timeOrderCheck = true ↔ (isTerminalDisputeStatus d.status = true → d.openedAt ≤ now) := by
  unfold PaymentDispute.timeOrderCheck
  rw [hevidence, Bool.and_true, hclosed]
  cases isTerminalDisputeStatus d.status <;> simp

theorem Db.disputeNamed_eq_none {db : Db} {provider : PaymentProviderName} {ref : ProviderRef} :
    db.disputeNamed provider ref = none ↔ ∀ id d, db.disputes.lookup id = some d →
      ¬(d.provider = provider ∧ d.providerDisputeId = ref) := by
  unfold Db.disputeNamed
  rw [List.head?_eq_none_iff, Table.select_eq_nil]
  simp

/-- **A new dispute** is admitted exactly when it opens. -/
theorem validate_created_iff {input : DisputeEventInput} (fresh : FreshDispute) {p : AttemptId}
    {a : PaymentAttempt} {bookingId : Option BookingId} (ha : s.attempts.lookup p = some a)
    (hbooking : ∀ id ∈ bookingId, (s.bookings.lookup id).map (·.orderId) = some a.orderId)
    (hunnamed : s.disputeNamed a.provider input.providerDisputeId = none)
    (hevidence : input.evidenceDueAt = none) :
    (s.disputes.lookup fresh.disputeId = none ∧
      PaymentDispute.validate s fresh.disputeId none
        (PaymentDispute.created input fresh p a bookingId) = .ok ()) ↔ input.Opens s fresh a := by
  let row := PaymentDispute.created input fresh p a bookingId
  have hlifecycle : row.lifecycleCheck = true ↔ input.status ≠ .CLOSED :=
    lifecycleCheck_of_status input.now rfl rfl
  have htime : row.timeOrderCheck = true ↔
      (isTerminalDisputeStatus input.status = true →
        input.occurredAt.getD input.now ≤ input.now) := by
    refine timeOrderCheck_of_status input.now rfl ?_
    show input.evidenceDueAt.all _ = true
    rw [hevidence, Option.all_none]
  have hancestry : PaymentDispute.enforceAncestry s row = .ok () ↔
      input.currency = a.currency ∧ input.amountMinor ≤ a.amountMinor := by
    simp only [PaymentDispute.enforceAncestry, Except.bind_unit_eq_ok, check_eq_ok]
    rw [show row.paymentAttemptId = p from rfl, ha]
    constructor
    · rintro ⟨-, -, hcurrency, hamount, -⟩
      exact ⟨(Option.some.inj hcurrency).symm, hamount a rfl⟩
    · rintro ⟨hcurrency, hamount⟩
      refine ⟨rfl, rfl, congrArg some hcurrency.symm, ?_, hbooking⟩
      rintro _ ⟨⟩
      exact hamount
  rw [show PaymentDispute.validate = Prisma.paymentDispute.validate from rfl,
    paymentDisputeConstraints.validate_iff]
  constructor
  · rintro ⟨habsent, hok, hapart, hstart⟩
    obtain ⟨hcurrency, hamount⟩ := hancestry.mp hstart
    refine ⟨habsent, ?_, hok.amount, hamount, hcurrency, hlifecycle.mp hok.lifecycle,
      htime.mp hok.timeOrder⟩
    rw [Table.any_eq_false]
    intro id d hd
    have hne : id ≠ fresh.disputeId := by
      rintro rfl
      rw [habsent] at hd
      cases hd
    exact beq_eq_false_iff_ne.mpr (hapart id d hd hne).reference
  · intro h
    refine ⟨h.unusedId, ⟨h.positive, htime.mpr h.time, hlifecycle.mpr h.outcome⟩, ?_,
      hancestry.mpr ⟨h.currency, h.covered⟩⟩
    intro id d hd _
    exact ⟨beq_eq_false_iff_ne.mp (Table.any_eq_false.mp h.unusedReference id d hd),
      Db.disputeNamed_eq_none.mp hunnamed id d hd⟩

/-- What only an event of its own can change in a dispute. -/
theorem apart_of_sameIdentity {d new x : PaymentDispute} (hsame : PaymentDispute.SameIdentity d new)
    (hapart : PaymentDispute.Apart x d) : PaymentDispute.Apart x new := by
  obtain ⟨href, -, -, hprovider, hid, -⟩ := hsame
  constructor
  · rw [href]
    exact hapart.reference
  · rw [hprovider, hid]
    exact hapart.external

/-- **A known dispute** that is open is advanced exactly when it continues. -/
theorem validate_advanced_iff (hs : s.Sound) {id : DisputeId} {d : PaymentDispute}
    {input : DisputeEventInput} {status : DisputeStatus} (hd : s.disputes.lookup id = some d)
    (hopen : isOpenDisputeStatus d.status = true) (hevidence : input.evidenceDueAt = none) :
    PaymentDispute.validate s id (some d)
        (d.advanced input status (outcomeForTerminalStatus status)) = .ok () ↔
      status ≠ .CLOSED ∧ (isTerminalDisputeStatus status = true → d.openedAt ≤ input.now) := by
  have hrow := hs.disputes.row id d hd
  have hopened : d.closedAt = none ∧ d.outcome = none := by
    have hlifecycle := hrow.lifecycle
    unfold PaymentDispute.lifecycleCheck at hlifecycle
    cases hstatus : d.status <;> rw [hstatus] at hlifecycle hopen <;>
      simp_all [isOpenDisputeStatus]
  let row := d.advanced input status (outcomeForTerminalStatus status)
  have hsame : PaymentDispute.SameIdentity d row := by
    simp [row, PaymentDispute.advanced, PaymentDispute.SameIdentity]
  have hlifecycle : row.lifecycleCheck = true ↔ status ≠ .CLOSED :=
    lifecycleCheck_of_status input.now rfl rfl
  have htime : row.timeOrderCheck = true ↔
      (isTerminalDisputeStatus status = true → d.openedAt ≤ input.now) := by
    refine timeOrderCheck_of_status input.now rfl ?_
    show (input.evidenceDueAt.or d.evidenceDueAt).all _ = true
    rw [hevidence, Option.none_or]
    exact (Bool.and_eq_true_iff.mp hrow.timeOrder).2
  rw [show PaymentDispute.validate = Prisma.paymentDispute.validate from rfl,
    paymentDisputeConstraints.validate_iff]
  constructor
  · rintro ⟨hok, -⟩
    exact ⟨hlifecycle.mp hok.lifecycle, htime.mp hok.timeOrder⟩
  · rintro ⟨hstatus, hnow⟩
    refine ⟨⟨hrow.amount, htime.mpr hnow, hlifecycle.mpr hstatus⟩, fun k x hx hne => ?_, ?_⟩
    · exact apart_of_sameIdentity hsame (hs.disputes.apart k x id d hx hd hne)
    · have hstill : d.status ≠ .REQUIRES_REVIEW ∧ isTerminalDisputeStatus d.status = false := by
        cases hcase : d.status <;> rw [hcase] at hopen <;>
          simp_all [isOpenDisputeStatus, isTerminalDisputeStatus]
      simp [paymentDisputeConstraints, PaymentDispute.protectIdentity, row, hsame, writeOnce,
        hopened.1, hopened.2, hstill.1, hstill.2]

/-- An escalation is always admitted. -/
theorem validate_escalated (hs : s.Sound) {id : DisputeId} {d : PaymentDispute}
    (hd : s.disputes.lookup id = some d) :
    PaymentDispute.validate s id (some d) d.escalated = .ok () := by
  have hrow := hs.disputes.row id d hd
  refine paymentDisputeConstraints.validate_update hs.disputes hd ⟨hrow.amount, hrow.timeOrder, rfl⟩
    (fun x h => ⟨h.reference, h.external⟩) ?_
  simp [paymentDisputeConstraints, PaymentDispute.protectIdentity, PaymentDispute.SameIdentity,
    PaymentDispute.escalated, writeOnce]

/-! ## §2 What follows the row -/

section Consequences

variable {refunds : Table RefundId Refund} {webhooks : Table WebhookId PaymentWebhookEvent}
  {id : DisputeId} {d : PaymentDispute}

/-- Ready to commit, with this row of a dispute. -/
structure Db.DisputeReady (refunds : Table RefundId Refund)
    (webhooks : Table WebhookId PaymentWebhookEvent) (id : DisputeId)
    (d : PaymentDispute) (db : Db) :
    Prop where
  ready : db.ReadyWith refunds webhooks
  dispute : db.disputes.lookup id = some d

/-- What never touches a dispute keeps its row. -/
theorem Db.DisputeReady.commits (hs : s.DisputeReady refunds webhooks id d) {α : Type} {p : Sql α}
    (hp : Commits p s fun _ s' => s'.ReadyWith refunds webhooks)
    (hframe : p.Steps (Framing Db.disputes)) :
    Commits p s fun _ s' => s'.DisputeReady refunds webhooks id d := by
  refine (hp.and_ensures (hframe.framed s)).mono fun _ s' ⟨hready, hdisputes⟩ => ⟨hready, ?_⟩
  rw [hdisputes]
  exact hs.dispute

/-- Consequences of a dispute that are about its row. -/
structure DisputeConsequenceInput.About (input : DisputeConsequenceInput) (id : DisputeId)
    (d : PaymentDispute) : Prop where
  dispute : input.disputeId = id
  order : input.orderId = d.orderId
  payment : input.paymentAttemptId = d.paymentAttemptId
  booking : input.bookingId = d.bookingId
  amount : input.amountMinor = d.disputedAmountMinor
  currency : input.currency = d.currency
  provider : input.provider = d.provider

theorem completing_enqueueDisputeEvent (key : FinancialEventKey) (event : FinancialEvent) :
    (enqueueFinancialEvent key event).Completing (Db.DisputeReady refunds webhooks id d) :=
  fun s hs => hs.commits (completing_enqueueFinancialEvent key event s hs.ready)
    (steps_insertNew fun _ _ _ => rfl)

/-- The ledger takes every entry of a dispute: its references are the dispute's own. -/
theorem completing_disputeEntry {input : DisputeConsequenceInput} (habout : input.About id d)
    {entryType : LedgerEntryType} {cause : LedgerCause}
    (htype : (∃ status, ledgerTypeByStatus status = some entryType) ∨
      entryType = .CHARGEBACK_RECORDED) :
    (appendLedgerEntry (input.ledgerEntry entryType cause)).Completing
      (Db.DisputeReady refunds webhooks id d) := by
  intro s hs
  have hpositive : 0 < input.amountMinor := by
    rw [habout.amount]
    exact (hs.ready.ready.sound.disputes.row id d hs.dispute).amount
  refine commits_bind.mpr (commits_require.mpr ⟨hpositive.le, ?_⟩)
  refine completing_insertNew (I := Db.DisputeReady refunds webhooks id d) (fun s₁ hs₁ _ => ?_) s hs
  refine ⟨?_, hs₁.ready.other (.other rfl rfl rfl rfl rfl rfl rfl rfl rfl rfl rfl rfl) rfl
    (fun _ => rfl) rfl rfl rfl rfl, hs₁.dispute⟩
  obtain ⟨a, ha, horder, hprovider, hcurrency, hbooking⟩ :=
    payment_of_dispute hs₁.ready.ready.sound hs₁.dispute
  have hlink : ∀ e : FinancialLedgerEntry, e.refundLinkCheck entryType = true := by
    intro e
    rcases htype with ⟨status, hstatus⟩ | rfl
    · cases status <;> simp only [ledgerTypeByStatus, Option.some.injEq,
        reduceCtorEq] at hstatus <;>
        subst hstatus <;> rfl
    · rfl
  have hdispute : ∀ e : FinancialLedgerEntry, e.disputeId = some input.disputeId →
      e.disputeLinkCheck entryType = true := by
    intro e he
    unfold FinancialLedgerEntry.disputeLinkCheck
    rw [he]
    cases entryType <;> rfl
  simp only [Prisma.financialLedgerEntry, FinancialLedgerEntry.enforceAncestry,
    Except.bind_unit_eq_ok, check_eq_ok]
  refine ⟨trivial, hpositive.le, directionCheck_directionForEntryType entryType _ rfl, hlink _,
    hdispute _ rfl, ?_, ?_, ?_, ?_, ?_, ?_⟩
  · show (s₁.attempts.lookup input.paymentAttemptId).map _ = some input.orderId
    rw [habout.payment, ha, Option.map_some, horder, habout.order]
  · show (s₁.attempts.lookup input.paymentAttemptId).map _ = some input.provider
    rw [habout.payment, ha, Option.map_some, hprovider, habout.provider]
  · show (s₁.attempts.lookup input.paymentAttemptId).map _ = some input.currency
    rw [habout.payment, ha, Option.map_some, hcurrency, habout.currency]
  · intro bookingId hid
    replace hid : bookingId ∈ d.bookingId := habout.booking ▸ hid
    obtain ⟨b, hb, hborder⟩ := hbooking bookingId hid
    show (s₁.bookings.lookup bookingId).map _ = some input.orderId
    rw [hb, Option.map_some, hborder, habout.order]
  · rintro refundId ⟨⟩
  · rintro disputeId ⟨⟩
    show (s₁.disputes.lookup input.disputeId).map _ = some (input.paymentAttemptId, input.currency)
    rw [habout.dispute, hs₁.dispute, Option.map_some, habout.payment, habout.currency]

theorem completing_raiseReviewState {orderId : OrderId} (horder : orderId = d.orderId)
    (state : FinancialReviewState) :
    (raiseReviewState orderId state).Completing (Db.DisputeReady refunds webhooks id d) := by
  refine Completing.bind (fun s hs => ?_) fun _ => fun s hs => ?_
  · obtain ⟨a, ha, haorder, -⟩ := payment_of_dispute hs.ready.ready.sound hs.dispute
    obtain ⟨o, ho⟩ := order_of_payment hs.ready.ready.sound ha
    rw [haorder, ← horder] at ho
    exact hs.commits (commits_flagOrder hs.ready ho _ _) (steps_update fun _ _ _ _ => rfl)
  · exact commits_perform.mpr ⟨_, rfl, hs.ready.queue (.inr (.inl ⟨_, rfl⟩)), hs.dispute⟩

/-- Live tickets that were found can be revoked. -/
theorem commits_revokeDisputedTickets {now : Time} {tickets : List (TicketId × Ticket)}
    (hnodup : (tickets.map Prod.fst).Nodup) (hs : s.ReadyWith refunds webhooks)
    (hfound : ∀ e ∈ tickets, s.tickets.lookup e.1 = some e.2) :
    Commits (revokeDisputedTickets now tickets) s fun _ s' => s'.ReadyWith refunds webhooks := by
  induction tickets generalizing s with
  | nil => exact commits_pure.mpr hs
  | cons ticket tickets ih =>
      rw [List.map_cons, List.nodup_cons] at hnodup
      have hlook := hfound ticket (by simp)
      have hfirst : Commits (revokeDisputedTicket now ticket) s fun _ s' =>
          s'.ReadyWith refunds webhooks ∧
            ∀ id, id ≠ ticket.1 → s'.tickets.lookup id = s.tickets.lookup id := by
        unfold revokeDisputedTicket
        split
        · rename_i hactive
          have hactive : ticket.2.status = .ACTIVE := by
            simpa [decideDisputeTicketConsequence] using hactive
          exact commits_bind.mpr ((commits_revokeAdmission hs hlook hactive).mono
            fun _ _ h => commits_pure.mpr h)
        · exact commits_pure.mpr ⟨hs, fun _ _ => rfl⟩
      refine commits_bind.mpr (hfirst.mono fun revoked s₁ ⟨hs₁, hframe⟩ => ?_)
      refine commits_bind.mpr
        ((ih hnodup.2 hs₁ fun e he => ?_).mono fun _ _ h => commits_pure.mpr h)
      rw [hframe e.1 fun heq => hnodup.1 (heq ▸ List.mem_map_of_mem he)]
      exact hfound e (List.mem_cons_of_mem _ he)

/-- Tickets are not part of a dispute. -/
theorem framed_revokeDisputedTickets {now : Time} {tickets : List (TicketId × Ticket)} :
    (revokeDisputedTickets now tickets).Steps (Framing Db.disputes) :=
  framed_revokeDisputedTickets_books.mono fun _ _ h => congrArg DisputeBooks.disputes h

theorem completing_recordChargeback {input : DisputeConsequenceInput} (habout : input.About id d) :
    (recordChargeback input).Completing (Db.DisputeReady refunds webhooks id d) := by
  have hlast : ∀ payload, Completing (Db.DisputeReady refunds webhooks id d) (do
      let _ ← enqueueFinancialEvent (.chargeback input.disputeId) (input.financialEvent payload)
      pure () : Sql Unit) :=
    fun payload => (completing_enqueueDisputeEvent _ _).bind fun _ => completing_pure
  refine (completing_disputeEntry habout (.inr rfl)).bind fun _ => ?_
  refine (completing_raiseReviewState habout.order _).bind fun _ => ?_
  dsimp only
  split
  · refine Completing.bind (fun s hs => ?_) fun _ => hlast _
    refine commits_bind.mpr (commits_findMany.mpr (hs.commits ?_ framed_revokeDisputedTickets))
    refine commits_revokeDisputedTickets ?_ hs.ready fun e he => (Table.mem_select.mp he).1
    exact (s.tickets.nodup_rows_fst).sublist (List.filter_sublist.map _)
  · exact hlast _

/-- **The consequences** of a stored dispute are never rejected. -/
theorem completing_consequences {input : DisputeConsequenceInput} (habout : input.About id d) :
    (recordDisputeLedgerAndConsequences input).Completing
      (Db.DisputeReady refunds webhooks id d) := by
  have hevent : ∀ key payload, Completing (Db.DisputeReady refunds webhooks id d) (do
      let _ ← enqueueFinancialEvent key (input.financialEvent payload)
      pure () : Sql Unit) :=
    fun key payload => (completing_enqueueDisputeEvent _ _).bind fun _ => completing_pure
  unfold recordDisputeLedgerAndConsequences
  extract_lets overlap last chargeback continued
  have hchargeback : Completing (Db.DisputeReady refunds webhooks id d) (chargeback ()) := by
    dsimp only [chargeback]
    split
    · exact (completing_recordChargeback habout).bind fun _ => hevent _ _
    · exact hevent _ _
  have hcontinued : Completing (Db.DisputeReady refunds webhooks id d) (continued ()) := by
    dsimp only [continued]
    split
    · exact (completing_raiseReviewState habout.order _).bind fun _ =>
        (completing_enqueueDisputeEvent _ _).bind fun _ => hchargeback
    · exact hchargeback
  split
  · rename_i entryType htype
    exact (completing_disputeEntry habout (.inl ⟨_, htype⟩)).bind fun _ => hcontinued
  · exact hcontinued

theorem completing_appendDisputeEvent {input : DisputeEventInput} {disputeId : DisputeId}
    {previousStatus : Option DisputeStatus} {newStatus : DisputeStatus}
    {safeMetadata : Option Code} :
    (appendDisputeEvent input disputeId previousStatus newStatus safeMetadata).Completing
      (Db.DisputeReady refunds webhooks id d) :=
  completing_insertNew fun _ hs _ => ⟨rfl,
    hs.ready.other
      (.other rfl rfl rfl rfl rfl rfl rfl rfl rfl rfl rfl rfl) rfl (fun _ => rfl) rfl rfl rfl
      rfl, hs.dispute⟩

/-- A booking that is there can be flagged. -/
theorem commits_flagBooking (hs : s.ReadyWith refunds webhooks) {bookingId : BookingId}
    {b : Booking}
    (hb : s.bookings.lookup bookingId = some b) (state : FinancialReviewState) (missing : Failure) :
    Commits (Prisma.booking.update bookingId (fun b => { b with financialReviewState := state })
      missing) s fun _ s' => s'.ReadyWith refunds webhooks := by
  have hrow := hs.ready.sound.bookings.row bookingId b hb
  have hvalid : Booking.validate s bookingId (some b) { b with financialReviewState := state }
      = .ok () := by
    refine bookingConstraints.validate_update (E := Prisma.booking) hs.ready.sound.bookings hb
      ⟨hrow.amount, hrow.time, hrow.lifecycle⟩ (fun x h => ⟨h.1, h.2⟩) ?_
    simp [bookingConstraints, Booking.protectSnapshot, Booking.SameSnapshot]
  refine commits_update.mpr ⟨b, hb, hvalid, ?_⟩
  refine ⟨⟨hs.ready.sound.step (.booking bookingId _ (by rwa [hb])), hs.ready.seatTotals,
    hs.ready.orderTotals, hs.ready.refunded, fun trigger hqueued => ?_⟩, hs.refunds, hs.webhooks⟩
  refine (hs.ready.queued trigger hqueued).imp_right (Or.imp_right ?_)
  rintro ⟨id', rfl, hcheck⟩
  refine ⟨id', rfl, ?_⟩
  unfold Booking.verifyRefundCompletion at hcheck ⊢
  by_cases hid : id' = bookingId
  · subst hid
    rw [show (Prisma.booking.set ((Prisma.booking.get s).insert id' _) s).bookings.lookup
      id' = some _
      from AList.lookup_insert _]
    rw [hb] at hcheck
    exact hcheck
  · rwa [show
      (Prisma.booking.set ((Prisma.booking.get s).insert bookingId _) s).bookings.lookup id' =
      s.bookings.lookup id' from AList.lookup_insert_ne hid]

end Consequences

/-! ## §3 The three ways an event is applied -/

/-- The record linked to its dispute. -/
def PaymentWebhookEvent.disputed (w : PaymentWebhookEvent) (disputeId : DisputeId) :
    PaymentWebhookEvent :=
  { w with disputeId := some disputeId }

/-- An open record can be linked to its dispute. -/
theorem validate_disputed (hs : s.Sound) {wid : WebhookId} {w : PaymentWebhookEvent}
    (id : DisputeId)
    (hw : s.webhooks.lookup wid = some w) (hunlinked : w.disputeId = none)
    (hcategory : w.eventCategory = .DISPUTE) :
    PaymentWebhookEvent.validate s wid (some w) (w.disputed id) = .ok () := by
  have hrow := hs.webhooks.row wid w hw
  refine paymentWebhookEventConstraints.validate_update (E := Prisma.paymentWebhookEvent)
    hs.webhooks hw ⟨?_, hrow.amount, hrow.signature, hrow.processing⟩ (fun _ h => h) ?_
  · have hcheck := hrow.category
    unfold PaymentWebhookEvent.categoryCheck at hcheck ⊢
    rw [hcategory] at hcheck
    rwa [show (w.disputed id).eventCategory = .DISPUTE from hcategory]
  · simp [paymentWebhookEventConstraints, PaymentWebhookEvent.protectEnvelope,
      PaymentWebhookEvent.SameEnvelope, PaymentWebhookEvent.disputed, hunlinked]

section Applied

variable {refunds : Table RefundId Refund} {webhooks : Table WebhookId PaymentWebhookEvent}
  {id : DisputeId} {d : PaymentDispute} {input : DisputeEventInput} {w : PaymentWebhookEvent}

theorem commits_linkDispute (id : DisputeId) (hs : s.ReadyWith refunds webhooks)
    (hw : webhooks.lookup input.webhookId = some w) (hunlinked : w.disputeId = none)
    (hcategory : w.eventCategory = .DISPUTE) :
    Commits (linkDispute input.webhookId id) s fun _ s' =>
      s'.ReadyWith refunds (webhooks.insert input.webhookId (w.disputed id)) := by
  have hlook : s.webhooks.lookup input.webhookId = some w := by rw [hs.webhooks, hw]
  have hvalid := validate_disputed hs.ready.sound id hlook hunlinked hcategory
  refine commits_bind.mpr
    (commits_update.mpr ⟨w, hlook, hvalid, commits_pure.mpr ⟨?_, hs.refunds, ?_⟩⟩)
  · exact hs.ready.other (.updatedWebhook hlook hvalid) rfl (fun _ => rfl) rfl rfl rfl
  · exact congrArg (AList.insert input.webhookId (w.disputed id)) hs.webhooks

/-- A write of the dispute's row leaves the state ready. -/
theorem disputeReady_written (hs : s.ReadyWith refunds webhooks)
    {new : PaymentDispute}
    (hkept : ∀ d, s.disputes.lookup id = some d → new.bookingId = d.bookingId)
    (hvalid : PaymentDispute.validate s id (s.disputes.lookup id) new = .ok ()) :
    Db.DisputeReady refunds webhooks id new { s with disputes := s.disputes.insert id new } :=
  ⟨hs.other (.dispute id new hkept hvalid) rfl (fun _ => rfl) rfl rfl rfl rfl,
    AList.lookup_insert _⟩

/-- **Opening a dispute** commits exactly when its row is admitted. -/
theorem commits_openDispute {fresh : FreshDispute} {p : AttemptId} {a : PaymentAttempt}
    {bookingId : Option BookingId} {Q : DisputeProcessingOutcome → Db → Prop}
    (hs : s.ReadyWith refunds webhooks) (ha : s.attempts.lookup p = some a)
    (hbooking : ∀ id ∈ bookingId, (s.bookings.lookup id).map (·.orderId) = some a.orderId)
    (hunnamed : s.disputeNamed a.provider input.providerDisputeId = none)
    (hevidence : input.evidenceDueAt = none) (hw : webhooks.lookup input.webhookId = some w)
    (hunlinked : w.disputeId = none) (hcategory : w.eventCategory = .DISPUTE)
    (hQ : ∀ s',
      s'.ReadyWith refunds (webhooks.insert input.webhookId (w.disputed fresh.disputeId)) →
      Q (.OPENED fresh.disputeId) s') :
    Commits (openDispute input fresh p a bookingId) s Q ↔ input.Opens s fresh a := by
  have hadmitted := validate_created_iff fresh ha hbooking hunnamed hevidence
  rw [← hadmitted, openDispute, commits_bind, commits_insert]
  constructor
  · rintro ⟨habsent, hvalid, -⟩
    exact ⟨habsent, hvalid⟩
  · rintro ⟨habsent, hvalid⟩
    refine ⟨habsent, hvalid, ?_⟩
    let row := PaymentDispute.created input fresh p a bookingId
    let linked := webhooks.insert input.webhookId (w.disputed fresh.disputeId)
    have hs₁ : Db.DisputeReady refunds webhooks fresh.disputeId row
        { s with disputes := s.disputes.insert fresh.disputeId row } := by
      refine disputeReady_written hs (fun d hd => ?_)
        (by rwa [show s.disputes.lookup _ = none from habsent])
      rw [show s.disputes.lookup _ = none from habsent] at hd
      cases hd
    refine commits_bind.mpr (((commits_linkDispute _ hs₁.ready hw hunlinked hcategory).and_ensures
      (framed_linkDispute_books.framed _)).mono ?_)
    rintro - s₂ ⟨hready₂, hbooks₂⟩
    have hs₂ : Db.DisputeReady refunds linked fresh.disputeId row s₂ := by
      refine ⟨hready₂, ?_⟩
      rw [show s₂.disputes = _ from congrArg DisputeBooks.disputes hbooks₂]
      exact hs₁.dispute
    have hlast : Completing (Db.DisputeReady refunds linked fresh.disputeId row)
        (recordDisputeLedgerAndConsequences (input.opened fresh.disputeId p a bookingId)) :=
      completing_consequences ⟨rfl, rfl, rfl, rfl, rfl, rfl, rfl⟩
    refine commits_bind.mpr (completing_appendDisputeEvent.commits hs₂ fun _ s₃ hs₃ => ?_)
    refine commits_bind.mpr ((completing_raiseReviewState rfl _).commits hs₃ fun _ s₄ hs₄ => ?_)
    dsimp only
    split
    · rename_i bookingId
      obtain ⟨-, -, -, -, -, hbooked⟩ := payment_of_dispute hs₄.ready.ready.sound hs₄.dispute
      obtain ⟨b, hb, -⟩ := hbooked bookingId rfl
      have hflagged := hs₄.commits
        (commits_flagBooking hs₄.ready hb .DISPUTE_REVIEW (.notFound "Booking"))
        (steps_update fun _ _ _ _ => rfl)
      refine commits_bind.mpr (hflagged.mono fun _ s₅ hs₅ => ?_)
      exact commits_bind.mpr (hlast.commits hs₅ fun _ s₆ hs₆ => commits_pure.mpr (hQ s₆ hs₆.ready))
    · exact commits_bind.mpr (hlast.commits hs₄ fun _ s₅ hs₅ => commits_pure.mpr (hQ s₅ hs₅.ready))

/-- **Advancing a dispute** commits exactly when its row is admitted. -/
theorem commits_advanceDispute {a : PaymentAttempt} {status : DisputeStatus}
    {outcome : Option DisputeOutcome} {Q : Unit → Db → Prop} (hs : s.ReadyWith refunds webhooks)
    (hd : s.disputes.lookup id = some d) (hprovider : d.provider = a.provider)
    (hQ : ∀ s', s'.ReadyWith refunds webhooks → Q () s') :
    Commits (advanceDispute input a id d status outcome) s Q ↔
      PaymentDispute.validate s id (some d) (d.advanced input status outcome) = .ok () := by
  rw [advanceDispute, commits_bind, commits_update]
  constructor
  · rintro ⟨d', hd', hvalid, -⟩
    cases Option.some.inj (hd.symm.trans hd')
    exact hvalid
  · intro hvalid
    refine ⟨d, hd, hvalid, ?_⟩
    have hs₁ : Db.DisputeReady refunds webhooks id (d.advanced input status outcome)
        { s with disputes := s.disputes.insert id (d.advanced input status outcome) } := by
      refine disputeReady_written hs (fun d' hd' => ?_) (by rwa [hd])
      cases Option.some.inj (hd.symm.trans hd')
      rfl
    refine commits_bind.mpr (completing_appendDisputeEvent.commits hs₁ fun _ s₂ hs₂ => ?_)
    have hlast : Completing (Db.DisputeReady refunds webhooks id (d.advanced input status outcome))
        (recordDisputeLedgerAndConsequences (input.advanced a id d status)) :=
      completing_consequences ⟨rfl, rfl, rfl, rfl, rfl, rfl, hprovider.symm⟩
    exact hlast.commits hs₂ fun _ s₃ hs₃ => hQ s₃ hs₃.ready

/-- An escalation always commits. -/
theorem commits_markDisputeUnderReview {safeCode : Code} (hs : s.ReadyWith refunds webhooks)
    (hd : s.disputes.lookup id = some d) :
    Commits (markDisputeUnderReview input id d safeCode) s fun _ s' =>
      s'.ReadyWith refunds webhooks := by
  have hvalid := validate_escalated hs.ready.sound hd
  refine commits_bind.mpr (commits_update.mpr ⟨d, hd, hvalid, ?_⟩)
  have hs₁ : Db.DisputeReady refunds webhooks id d.escalated
      { s with disputes := s.disputes.insert id d.escalated } := by
    refine disputeReady_written hs (fun d' hd' => ?_) (by rwa [hd])
    cases Option.some.inj (hd.symm.trans hd')
    rfl
  have hraised : Completing (Db.DisputeReady refunds webhooks id d.escalated)
      (raiseReviewState d.orderId .DISPUTE_REVIEW) := completing_raiseReviewState rfl _
  refine commits_bind.mpr (hraised.commits hs₁ fun _ s₂ hs₂ => ?_)
  refine commits_bind.mpr (completing_appendDisputeEvent.commits hs₂ fun _ s₃ hs₃ => ?_)
  exact commits_bind.mpr ((completing_enqueueDisputeEvent _ _).commits hs₃ fun _ s₄ hs₄ =>
    commits_pure.mpr hs₄.ready)

end Applied

/-! ## §4 The event -/

/-- An event that can be applied: about no payment, or with a row that is admitted. -/
def DisputeEventInput.Processable (input : DisputeEventInput) (db : Db) (fresh : FreshDispute) :
    Prop :=
  match db.paymentNamed input.providerIntentId with
  | none => True
  | some (_, attempt) =>
      match db.disputeNamed attempt.provider input.providerDisputeId with
      | none => input.Opens db fresh attempt
      | some (_, dispute) => dispute.Continues input.status input.now

instance (input : DisputeEventInput) (db : Db) (fresh : FreshDispute) :
    Decidable (input.Processable db fresh) :=
  match hpayment : db.paymentNamed input.providerIntentId with
  | none => .isTrue (by rw [DisputeEventInput.Processable, hpayment]; trivial)
  | some (_, attempt) =>
      match hnamed : db.disputeNamed attempt.provider input.providerDisputeId with
      | none => decidable_of_iff (input.Opens db fresh attempt) (by
          rw [DisputeEventInput.Processable, hpayment]
          dsimp only
          rw [hnamed])
      | some (_, dispute) => decidable_of_iff (dispute.Continues input.status input.now) (by
          rw [DisputeEventInput.Processable, hpayment]
          dsimp only
          rw [hnamed])

/-- Only an open dispute is advanced. -/
theorem open_of_apply {current incoming status : DisputeStatus} {outcome : Option DisputeOutcome}
    (h : decideDisputeTransition current incoming = .apply status outcome) :
    isOpenDisputeStatus current = true ∧ status = incoming ∧
      outcome = outcomeForTerminalStatus incoming := by
  unfold decideDisputeTransition at h
  split_ifs at h with hreview hsame hrequested hterminal
  cases h
  refine ⟨?_, rfl, rfl⟩
  cases current <;> simp_all [isOpenDisputeStatus, isTerminalDisputeStatus]

/-- What is not applied needs nothing. -/
theorem continues_of_kept {d : PaymentDispute} {incoming : DisputeStatus} (now : Time)
    (h : ∀ status outcome, decideDisputeTransition d.status incoming ≠ .apply status outcome) :
    d.Continues incoming now := by
  have hkept : isOpenDisputeStatus d.status = true →
      incoming = d.status ∨ incoming = .REQUIRES_REVIEW := by
    intro hopen
    by_contra hother
    rw [not_or] at hother
    refine h incoming (outcomeForTerminalStatus incoming) ?_
    unfold decideDisputeTransition
    cases hstatus : d.status <;> rw [hstatus] at hopen hother <;>
      simp_all [isOpenDisputeStatus, isTerminalDisputeStatus, Ne.symm hother.1]
  constructor
  · intro hopen
    rcases hkept hopen with rfl | rfl
    · rintro hclosed
      rw [hclosed] at hopen
      cases hopen
    · rintro ⟨⟩
  · intro hopen hterminal
    rcases hkept hopen with rfl | rfl
    · cases hstatus : d.status <;> rw [hstatus] at hopen hterminal <;>
        simp_all [isOpenDisputeStatus, isTerminalDisputeStatus]
    · cases hterminal

section Event

variable {input : DisputeEventInput} {w : PaymentWebhookEvent} {fresh : FreshDispute}

/-- Ready to commit, with the event's record open and linked to some dispute at most. -/
structure Db.EventReady (webhookId : WebhookId) (w : PaymentWebhookEvent) (db : Db) : Prop where
  ready : db.Ready
  record : ∃ linked, db.webhooks.lookup webhookId = some { w with disputeId := linked }

theorem Db.ReadyWith.eventReady {refunds : Table RefundId Refund}
    {webhooks : Table WebhookId PaymentWebhookEvent} {webhookId : WebhookId} {id : DisputeId}
    (hs : s.ReadyWith refunds (webhooks.insert webhookId (w.disputed id))) :
    s.EventReady webhookId w :=
  ⟨hs.ready, some id, by rw [hs.webhooks]; exact AList.lookup_insert _⟩

/-- What is done about a dispute that is known. -/
def applyFound (input : DisputeEventInput) (attempt : PaymentAttempt) (disputeId : DisputeId)
    (dispute : PaymentDispute) : Sql DisputeProcessingOutcome :=
  match decideDisputeTransition dispute.status input.status with
  | .ignore reason => do
      let _ ← appendDisputeEvent input disputeId (some dispute.status) dispute.status (some reason)
      pure (.IGNORED disputeId reason)
  | .review safeCode => do
      markDisputeUnderReview input disputeId dispute safeCode
      pure (.REVIEW disputeId safeCode)
  | .apply status outcome => do
      advanceDispute input attempt disputeId dispute status outcome
      pure (.APPLIED disputeId status)

/-- A known dispute is advanced if that is admitted, and anything else always commits. -/
theorem commits_applyFound {refunds : Table RefundId Refund}
    {webhooks : Table WebhookId PaymentWebhookEvent} {a : PaymentAttempt} {id : DisputeId}
    {d : PaymentDispute} {Q : DisputeProcessingOutcome → Db → Prop}
    (hs : s.ReadyWith refunds webhooks)
    (hd : s.disputes.lookup id = some d) (hprovider : d.provider = a.provider)
    (hevidence : input.evidenceDueAt = none)
    (hQ : ∀ applied s', s'.ReadyWith refunds webhooks → Q applied s') :
    Commits (applyFound input a id d) s Q ↔ d.Continues input.status input.now := by
  have hready : s.DisputeReady refunds webhooks id d := ⟨hs, hd⟩
  unfold applyFound
  cases hdecision : decideDisputeTransition d.status input.status with
  | ignore reason =>
      refine iff_of_true ?_ (continues_of_kept _ (by simp [hdecision]))
      exact commits_bind.mpr (completing_appendDisputeEvent.commits hready fun _ s' hs' =>
        commits_pure.mpr (hQ _ s' hs'.ready))
  | review safeCode =>
      refine iff_of_true ?_ (continues_of_kept _ (by simp [hdecision]))
      exact commits_bind.mpr ((commits_markDisputeUnderReview hs hd).mono fun _ s' hs' =>
        commits_pure.mpr (hQ _ s' hs'))
  | apply status outcome =>
      obtain ⟨hopen, rfl, rfl⟩ := open_of_apply hdecision
      rw [commits_bind, commits_advanceDispute hs hd hprovider fun s' hs' =>
        commits_pure.mpr (hQ _ s' hs'), validate_advanced_iff hs.ready.sound hd hopen hevidence]
      constructor
      · rintro ⟨houtcome, htime⟩
        exact ⟨fun _ => houtcome, fun _ => htime⟩
      · intro hcontinues
        exact ⟨hcontinues.outcome hopen, hcontinues.time hopen⟩

/-- Linking the record to its dispute changes nothing of it. -/
theorem commits_linked {refunds : Table RefundId Refund}
    {webhooks : Table WebhookId PaymentWebhookEvent} {id : DisputeId} {d : PaymentDispute}
    (rest : Sql DisputeProcessingOutcome) {Q : DisputeProcessingOutcome → Db → Prop} {c : Prop}
    (hs : s.ReadyWith refunds webhooks) (hd : s.disputes.lookup id = some d)
    (hw : webhooks.lookup input.webhookId = some w) (hunlinked : w.disputeId = none)
    (hcategory : w.eventCategory = .DISPUTE)
    (hrest : ∀ s', s'.ReadyWith refunds (webhooks.insert input.webhookId (w.disputed id)) →
      s'.disputes.lookup id = some d → (Commits rest s' Q ↔ c)) :
    Commits (do linkDispute input.webhookId id; rest) s Q ↔ c := by
  obtain ⟨u, s₁, hrun, hs₁, hbooks⟩ :=
    (commits_linkDispute id hs hw hunlinked hcategory).and_ensures
      (framed_linkDispute_books.framed s)
  have hdisputes : s₁.disputes = s.disputes := congrArg DisputeBooks.disputes hbooks
  have hiff := hrest s₁ hs₁ (by rw [hdisputes, hd])
  rw [commits_bind]
  constructor
  · rintro ⟨u', s₂, hrun', hcommits⟩
    cases hrun.symm.trans hrun'
    exact hiff.mp hcommits
  · intro hc
    exact ⟨u, s₁, hrun, hiff.mpr hc⟩

/-- **One event** is applied exactly when it is processable. -/
theorem commits_applyDispute {Q : DisputeProcessingOutcome → Db → Prop} (hs : s.Ready)
    (hevidence : input.evidenceDueAt = none) (hw : s.webhooks.lookup input.webhookId = some w)
    (hunlinked : w.disputeId = none) (hcategory : w.eventCategory = .DISPUTE)
    (hQ : ∀ applied s', s'.EventReady input.webhookId w → Q applied s') :
    Commits (applyDisputeFromVerifiedEvent input fresh) s Q ↔ input.Processable s fresh := by
  have hready : s.ReadyWith s.refunds s.webhooks := ⟨hs, rfl, rfl⟩
  rw [applyDisputeFromVerifiedEvent, commits_bind, commits_findMany, DisputeEventInput.Processable]
  have hfound : ((Prisma.paymentAttempt.get s).select fun _ a =>
      a.providerIntentId == some input.providerIntentId).head? =
        s.paymentNamed input.providerIntentId :=
    rfl
  rw [hfound]
  cases hpayment : s.paymentNamed input.providerIntentId with
  | none => exact iff_of_true (commits_pure.mpr (hQ _ _ ⟨hs, w.disputeId, hw⟩)) trivial
  | some payment =>
    obtain ⟨p, a⟩ := payment
    have ha : s.attempts.lookup p = some a :=
      (Table.mem_select.mp (List.mem_of_mem_head? hpayment)).1
    dsimp only
    rw [commits_bind, commits_findMany, commits_bind, commits_lockMany]
    have hlocked : ((Prisma.paymentDispute.get s).select fun _ d =>
        d.provider == a.provider && d.providerDisputeId == input.providerDisputeId).head? =
          s.disputeNamed a.provider input.providerDisputeId :=
      rfl
    rw [hlocked]
    cases hnamed : s.disputeNamed a.provider input.providerDisputeId with
    | none =>
        refine commits_openDispute hready ha ?_ hnamed hevidence hw hunlinked hcategory
          fun s' hs' => hQ _ s' hs'.eventReady
        intro id hid
        obtain ⟨⟨id', b⟩, hhead, rfl⟩ := Option.map_eq_some_iff.mp hid
        obtain ⟨hb, horder⟩ := Table.mem_select.mp (List.mem_of_mem_head? hhead)
        show (s.bookings.lookup id').map _ = _
        rw [show s.bookings.lookup id' = some b from hb, Option.map_some, eq_of_beq horder]
    | some found =>
        obtain ⟨id, d⟩ := found
        obtain ⟨hd, hprovider, -⟩ := Db.lookup_of_disputeNamed hnamed
        have hfound := commits_linked (applyFound input a id d) (Q := Q) hready hd hw hunlinked
          hcategory fun s' hs' hd' => commits_applyFound hs' hd' hprovider hevidence
            fun applied s'' hs'' => hQ applied s'' hs''.eventReady
        dsimp only
        rw [commits_bind, commits_findOrThrow]
        constructor
        · rintro ⟨d', hd', hcommits⟩
          cases Option.some.inj (hd.symm.trans hd')
          exact hfound.mp hcommits
        · intro hcontinues
          exact ⟨d, hd, hfound.mpr hcontinues⟩

end Event

/-! ## §5 The record -/

/-- The record closed with what was applied. -/
def PaymentWebhookEvent.disputeClosed (w : PaymentWebhookEvent) (applied : DisputeProcessingOutcome)
    (now : Time) : PaymentWebhookEvent :=
  { w with
    processingStatus := applied.processingStatus
    processedAt := some now
    attemptCount := w.attemptCount + 1
    safeProcessingError := applied.processingError }

/-- An open record of a dispute can be closed. -/
theorem validate_disputeClosed (hs : s.Sound) {wid : WebhookId} {w : PaymentWebhookEvent}
    (applied : DisputeProcessingOutcome) (now : Time) (hw : s.webhooks.lookup wid = some w)
    (hopen : w.processingStatus.isFinal = false) (hcategory : w.eventCategory = .DISPUTE) :
    PaymentWebhookEvent.validate s wid (some w) (w.disputeClosed applied now) = .ok () := by
  have hrow := hs.webhooks.row wid w hw
  refine paymentWebhookEventConstraints.validate_update (E := Prisma.paymentWebhookEvent)
    hs.webhooks hw ⟨?_, hrow.amount, hrow.signature, ?_⟩ (fun _ h => h) ?_
  · have hcheck := hrow.category
    unfold PaymentWebhookEvent.categoryCheck at hcheck ⊢
    rw [hcategory] at hcheck
    rwa [show (w.disputeClosed applied now).eventCategory = .DISPUTE from hcategory]
  · cases applied <;> rfl
  · simp [paymentWebhookEventConstraints, PaymentWebhookEvent.protectEnvelope,
      PaymentWebhookEvent.SameEnvelope, PaymentWebhookEvent.disputeClosed, hopen]

/-- Processing an open record applies its event and closes it. -/
theorem commits_openDisputeRecord {wid : WebhookId} {w : PaymentWebhookEvent} {ref : ProviderRef}
    {incoming : DisputeStatus} {fresh : FreshDispute} {now : Time}
    {Q : Option DisputeProcessingOutcome → Db → Prop} (hw : s.webhooks.lookup wid = some w)
    (hopen : w.processingStatus.isFinal = false) (hsignature : w.signatureStatus = .VERIFIED)
    (href : w.providerDisputeId = some ref)
    (hincoming : w.normalizedDisputeStatus = some incoming) :
    Commits (processVerifiedDisputeRecord wid fresh now) s Q ↔
      Commits (applyDisputeFromVerifiedEvent (w.disputeInput wid ref incoming now) fresh) s
        fun applied s' =>
          Commits (Prisma.paymentWebhookEvent.update wid (·.disputeClosed applied now)
          (.notFound "PaymentWebhookEvent")) s' fun _ s'' =>
            Commits (do runDeferredTriggers; pure (some applied)) s'' Q := by
  unfold processVerifiedDisputeRecord runInTransaction
  rw [commits_bind, commits_bind, commits_lock, commits_bind, commits_findOrThrow]
  constructor
  · rintro ⟨w', hw', hrest⟩
    cases Option.some.inj (hw.symm.trans hw')
    rw [if_neg (by simp [hopen]), commits_bind, commits_require, href, hincoming] at hrest
    simp only [hsignature, true_and, commits_bind, commits_pure] at hrest ⊢
    exact hrest
  · intro hrest
    refine ⟨w, hw, ?_⟩
    rw [if_neg (by simp [hopen]), commits_bind, commits_require, href, hincoming]
    simp only [hsignature, true_and, commits_bind, commits_pure] at hrest ⊢
    exact hrest

/-- The record of an event that can be applied. -/
def PaymentWebhookEvent.Processable (w : PaymentWebhookEvent) (wid : WebhookId) (db : Db)
    (fresh : FreshDispute) (now : Time) : Prop :=
  ∀ ref ∈ w.providerDisputeId, ∀ incoming ∈ w.normalizedDisputeStatus,
    (w.disputeInput wid ref incoming now).Processable db fresh

instance (w : PaymentWebhookEvent) (wid : WebhookId) (db : Db) (fresh : FreshDispute) (now : Time) :
    Decidable (w.Processable wid db fresh now) :=
  inferInstanceAs (Decidable (∀ _ ∈ _, _))

/-- **One record** is closed exactly when its event is processable. -/
theorem closed_processVerifiedDisputeRecord_iff (hs : s.Consistent)
    (hexact : ∀ p, paymentAggregate.Faithful s p) {wid : WebhookId} {w : PaymentWebhookEvent}
    {fresh : FreshDispute} {now : Time} (hw : s.webhooks.lookup wid = some w)
    (hopen : w.processingStatus.isFinal = false) (hunlinked : w.disputeId = none)
    (hcategory : w.eventCategory = .DISPUTE) :
    ((processVerifiedDisputeRecord wid fresh now).commit s).Closed wid ↔
      w.Processable wid s fresh now := by
  have hstill : ¬s.Closed wid := by
    rintro ⟨w', hw', hfinal⟩
    cases Option.some.inj (hw.symm.trans hw')
    rw [hopen] at hfinal
    cases hfinal
  have hrow := hs.sound.webhooks.row wid w hw
  obtain ⟨incoming, hincoming, ref, href⟩ : ∃ incoming, w.normalizedDisputeStatus = some incoming ∧
      ∃ ref, w.providerDisputeId = some ref := by
    have hcheck := hrow.category
    simp only [PaymentWebhookEvent.categoryCheck, hcategory, Bool.and_eq_true,
      Option.isSome_iff_exists] at hcheck
    obtain ⟨⟨⟨⟨-, incoming, hincoming⟩, ref, href⟩, -⟩, -⟩ := hcheck
    exact ⟨incoming, hincoming, ref, href⟩
  have hcondition : w.Processable wid s fresh now ↔
      (w.disputeInput wid ref incoming now).Processable s fresh := by
    constructor
    · intro h
      exact h ref href incoming hincoming
    · rintro h ref' href' incoming' hincoming'
      cases Option.some.inj (href.symm.trans href')
      cases Option.some.inj (hincoming.symm.trans hincoming')
      exact h
  rw [commit_iff_commits (Q := fun s' : Db => s'.Closed wid) hstill, hcondition,
    commits_openDisputeRecord hw hopen hrow.signature href hincoming]
  refine commits_applyDispute (hs.ready hexact) rfl hw hunlinked hcategory fun applied s' hs' => ?_
  -- closing the record is admitted, and so are the queued triggers
  obtain ⟨linked, hlinked⟩ := hs'.record
  have hclose := validate_disputeClosed hs'.ready.sound applied now hlinked hopen hcategory
  have hclosed := hs'.ready.other (.updatedWebhook hlinked hclose) rfl (fun _ => rfl) rfl rfl rfl
  refine commits_update.mpr ⟨_, hlinked, hclose, commits_bind.mpr (commits_perform.mpr ?_)⟩
  refine ⟨{ locks := [], writes := [.settled], result := () },
    Except.bind_unit_eq_ok.mpr ⟨hclosed.checked, rfl⟩,
    commits_pure.mpr ⟨_, AList.lookup_insert _, ?_⟩⟩
  cases applied <;> rfl

namespace Platform

variable {sys : FinancialSystem}

/-- **Which dispute events can be processed.** In every reachable state an open record of a
dispute event is closed exactly when its event is processable. -/
theorem processedDispute_closed_iff (hs : Reachable sys) {wid : WebhookId} {w : PaymentWebhookEvent}
    (fresh : FreshDispute) (now : Time) (hw : sys.db.webhooks.lookup wid = some w)
    (hopen : w.processingStatus.isFinal = false) (hcategory : w.eventCategory = .DISPUTE) :
    ((processVerifiedDisputeRecord wid fresh now).commit sys.db).Closed wid ↔
      w.Processable wid sys.db fresh now :=
  closed_processVerifiedDisputeRecord_iff hs.consistent hs.refunds.kept.exact hw hopen
    (hs.unlinked wid w hw hopen) hcategory

/-- A dispute event about the captured payment arrives. -/
def disputeArrives (status : DisputeStatus) : List PlatformAction :=
  [.financial (.storeDispute .STRIPE
    { providerEventId := 83, providerIntentId := 7, providerDisputeId := 50, status := status
      amountMinor := 1000, currency := .USD, occurredAt := some 2000 } 92 2000)]

theorem disputeArrives_normalized (status : DisputeStatus) (sys : FinancialSystem) :
    ∀ a ∈ disputeArrives status, NormalizedEvents sys a := by
  intro a ha
  rw [disputeArrives, List.mem_singleton] at ha
  subst ha
  trivial

/-- A dispute that opens is recorded. -/
theorem processedDispute_closed_open :
    ∃ sys,
      execute Platform.step (disputeArrives .OPEN) FinancialSystem.capturedFinances = some sys ∧
      ((processVerifiedDisputeRecord 92 { disputeId := 1, publicReference := 1 } 2001).commit
        sys.db).Closed 92 := by
  have hrun : (execute Platform.step (disputeArrives .OPEN) FinancialSystem.capturedFinances).any
      (fun sys => (sys.db.webhooks.lookup 92).any fun w => w.processingStatus.isFinal == false &&
        w.eventCategory == .DISPUTE &&
        decide (w.Processable 92 sys.db { disputeId := 1, publicReference := 1 } 2001)) = true := by
    decide +kernel
  obtain ⟨sys, hsys, hrecord⟩ := (Option.any_eq_true _ _).mp hrun
  obtain ⟨w, hw, hw'⟩ := (Option.any_eq_true _ _).mp hrecord
  simp only [Bool.and_eq_true, beq_iff_eq, decide_eq_true_eq] at hw'
  have hreach := capturedFinances_reachable.reaches
    (reaches_of_execute hsys fun sys => disputeArrives_normalized .OPEN sys)
  exact ⟨sys, hsys, (processedDispute_closed_iff hreach _ 2001 hw hw'.1.1 hw'.1.2).mpr hw'.2⟩

/-- A dispute whose first event closes it without an outcome is never recorded, however
often its event is delivered. -/
theorem processedDispute_not_closed :
    ∃ sys w, Reaches Platform.step NormalizedEvents FinancialSystem.capturedFinances sys ∧
      sys.db.webhooks.lookup 92 = some w ∧ w.normalizedDisputeStatus = some .CLOSED ∧
      ∀ fresh now, ¬((processVerifiedDisputeRecord 92 fresh now).commit sys.db).Closed 92 := by
  have hrun : (execute Platform.step (disputeArrives .CLOSED) FinancialSystem.capturedFinances).any
      (fun sys => (sys.db.webhooks.lookup 92).any fun w => w.processingStatus.isFinal == false &&
        w.eventCategory == .DISPUTE && w.normalizedDisputeStatus == some .CLOSED &&
        w.providerDisputeId == some 50 && (sys.db.paymentNamed w.providerIntentId).any fun found =>
          (sys.db.disputeNamed found.2.provider 50).isNone) = true := by decide +kernel
  obtain ⟨sys, hsys, hrecord⟩ := (Option.any_eq_true _ _).mp hrun
  obtain ⟨w, hw, hw'⟩ := (Option.any_eq_true _ _).mp hrecord
  simp only [Bool.and_eq_true, beq_iff_eq] at hw'
  obtain ⟨⟨⟨⟨hopen, hcategory⟩, hstatus⟩, href⟩, hpayment⟩ := hw'
  obtain ⟨⟨p, a⟩, hpayment, hnamed⟩ := (Option.any_eq_true _ _).mp hpayment
  have hreaches := reaches_of_execute hsys fun sys => disputeArrives_normalized .CLOSED sys
  have hreach := capturedFinances_reachable.reaches hreaches
  refine ⟨sys, w, hreaches, hw, hstatus, fun fresh now hclosed => ?_⟩
  have hprocessable := (closed_processVerifiedDisputeRecord_iff hreach.consistent
    hreach.refunds.kept.exact hw hopen (hreach.unlinked _ w hw hopen) hcategory).mp hclosed
    50 href .CLOSED hstatus
  rw [DisputeEventInput.Processable] at hprocessable
  rw [show (w.disputeInput 92 50 .CLOSED now).providerIntentId = w.providerIntentId from rfl,
    hpayment] at hprocessable
  dsimp only at hprocessable
  rw [show (w.disputeInput 92 50 .CLOSED now).providerDisputeId = 50 from rfl,
    Option.isNone_iff_eq_none.mp hnamed] at hprocessable
  exact hprocessable.outcome rfl

end Platform

end SeatFlow
