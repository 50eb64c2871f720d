import SeatFlow.Disputes.DisputeService
import SeatFlow.Refunds.Consistency
import SeatFlow.Refunds.Frames

/-!
# What dispute transactions write

The writes of a dispute transaction, once, for any relation that they are steps of.
Two such relations matter: keeping the database consistent, and leaving a part of
it alone. Of the tables that refunds are about a dispute touches none: refunds and
payments stay as they were, the ledger gains entries that record money moving only
when the dispute is lost, and no order is flagged but the dispute's own.
-/

namespace SeatFlow

open Relational Program Entity

/-! ## §1 The writes -/

/-- The writes that the transaction of any dispute event may make are steps. -/
structure DisputeWrites (webhookId : WebhookId) (step : Db → Db → Prop) : Prop where
  opened : ∀ id row, (Prisma.paymentDispute.insert id row).Steps step
  advanced : ∀ id f missing, (∀ d : PaymentDispute, (f d).bookingId = d.bookingId) →
    (Prisma.paymentDispute.update id f missing).Steps step
  history : Prisma.paymentDisputeEvent.Free step
  outbox : ∀ key event, (enqueueFinancialEvent key event).Steps step
  queue : ∀ trigger, (defer trigger).Steps step
  ledger : ∀ input : AppendLedgerEntryInput, isSettlingEntryType input.entryType = false →
    (appendLedgerEntry input).Steps step
  webhook : ∀ f missing, (Prisma.paymentWebhookEvent.update webhookId f missing).Steps step
  booking : ∀ id f missing, (Prisma.booking.update id f missing).Steps step
  admission : Revoking step

/-- Appending a ledger entry takes steps. -/
def Settling.Entries (step : Db → Db → Prop) : Prop :=
  ∀ input : AppendLedgerEntryInput, (appendLedgerEntry input).Steps step

/-- Only a status that is lost appends money moving. -/
theorem nonsettling_of_ledgerTypeByStatus {status : DisputeStatus} {entryType : LedgerEntryType}
    (h : ledgerTypeByStatus status = some entryType) (hstatus : status ≠ .LOST) :
    isSettlingEntryType entryType = false := by
  cases status <;> simp_all [ledgerTypeByStatus] <;> subst h <;> rfl

section Writes

variable {webhookId : WebhookId} {step : Db → Db → Prop} (hwrites : DisputeWrites webhookId step)

include hwrites

theorem steps_raiseReviewState {orderId : OrderId} (hflag : Flagging step orderId)
    (state : FinancialReviewState) : (raiseReviewState orderId state).Steps step :=
  (hflag state).bind fun _ => hwrites.queue _

theorem steps_revokeDisputedTickets (now : Time) (tickets : List (TicketId × Ticket)) :
    (revokeDisputedTickets now tickets).Steps step := by
  induction tickets with
  | nil => exact steps_pure
  | cons ticket tickets ih =>
      refine Steps.bind ?_ fun revoked => ih.bind fun rest => steps_pure
      unfold revokeDisputedTicket
      split
      · exact (hwrites.admission _ _ _).bind fun _ => steps_pure
      · exact steps_pure

theorem steps_revokeUnusedTicketsForLostDispute (bookingId : BookingId) (now : Time) :
    (revokeUnusedTicketsForLostDispute bookingId now).Steps step :=
  steps_findMany.bind fun _ => steps_revokeDisputedTickets hwrites _ _

theorem steps_recordChargeback {input : DisputeConsequenceInput}
    (hentries : Settling.Entries step) (hflag : Flagging step input.orderId) :
    (recordChargeback input).Steps step := by
  have hlast : ∀ payload, (do
      let _ ← enqueueFinancialEvent (.chargeback input.disputeId) (input.financialEvent payload)
      pure () : Sql Unit).Steps step :=
    fun payload => (hwrites.outbox _ _).bind fun _ => steps_pure
  refine (hentries _).bind fun _ => (steps_raiseReviewState hwrites hflag _).bind fun _ => ?_
  dsimp only
  split
  · exact (steps_revokeUnusedTicketsForLostDispute hwrites _ _).bind fun _ => hlast _
  · exact hlast _

/-- The consequences of a status flag the order if amounts overlap or the dispute is
lost. -/
theorem steps_recordDisputeLedgerAndConsequences {input : DisputeConsequenceInput}
    (hentries : input.status = .LOST → Settling.Entries step)
    (hflag : (detectRefundDisputeOverlap input.refundedMinor input.amountMinor
      input.capturedMinor).overlapping = true ∨ input.status = .LOST →
        Flagging step input.orderId) :
    (recordDisputeLedgerAndConsequences input).Steps step := by
  have hevent : ∀ key payload, (do
      let _ ← enqueueFinancialEvent key (input.financialEvent payload)
      pure () : Sql Unit).Steps step :=
    fun key payload => (hwrites.outbox _ _).bind fun _ => steps_pure
  unfold recordDisputeLedgerAndConsequences
  -- the source goes on after each of its three optional parts
  extract_lets overlap last chargeback continued
  have hchargeback : ∀ u, (chargeback u).Steps step := by
    intro u
    dsimp only [chargeback]
    split
    · rename_i hlost
      exact (steps_recordChargeback hwrites (hentries hlost) (hflag (.inr hlost))).bind
        fun _ => hevent _ _
    · exact hevent _ _
  have hcontinued : ∀ u, (continued u).Steps step := by
    intro u
    dsimp only [continued]
    split
    · rename_i hoverlap
      exact (steps_raiseReviewState hwrites (hflag (.inl hoverlap)) _).bind fun _ =>
        (hwrites.outbox _ _).bind fun _ => hchargeback ()
    · exact hchargeback ()
  split
  · rename_i entryType htype
    by_cases hlost : input.status = .LOST
    · exact (hentries hlost _).bind fun _ => hcontinued ()
    · exact (hwrites.ledger _ (nonsettling_of_ledgerTypeByStatus htype hlost)).bind
        fun _ => hcontinued ()
  · exact hcontinued ()

theorem steps_linkDispute (disputeId : DisputeId) : (linkDispute webhookId disputeId).Steps step :=
  (hwrites.webhook _ _).bind fun _ => steps_pure

/-- Opening a dispute flags the payment's order. -/
theorem steps_openDispute {input : DisputeEventInput} {fresh : FreshDispute} {attemptId : AttemptId}
    {attempt : PaymentAttempt} {bookingId : Option BookingId}
    (hwebhook : input.webhookId = webhookId)
    (hentries : input.status = .LOST → Settling.Entries step)
    (hflag : Flagging step attempt.orderId) :
    (openDispute input fresh attemptId attempt bookingId).Steps step := by
  subst hwebhook
  refine (hwrites.opened _ _).bind fun _ => (steps_linkDispute hwrites _).bind fun _ => ?_
  refine hwrites.history.insertNew.bind fun _ => ?_
  refine (steps_raiseReviewState hwrites hflag _).bind fun _ => ?_
  dsimp only
  split
  · exact (hwrites.booking _ _ _).bind fun _ =>
      (steps_recordDisputeLedgerAndConsequences hwrites hentries fun _ => hflag).bind
        fun _ => steps_pure
  · exact (steps_recordDisputeLedgerAndConsequences hwrites hentries fun _ => hflag).bind
      fun _ => steps_pure

theorem steps_markDisputeUnderReview {input : DisputeEventInput} {disputeId : DisputeId}
    {dispute : PaymentDispute} {safeCode : Code} (hflag : Flagging step dispute.orderId) :
    (markDisputeUnderReview input disputeId dispute safeCode).Steps step := by
  refine (hwrites.advanced _ _ _ fun _ => ?_).bind fun _ => ?_
  · rfl
  · exact (steps_raiseReviewState hwrites hflag _).bind fun _ =>
      hwrites.history.insertNew.bind fun _ => (hwrites.outbox _ _).bind fun _ => steps_pure

theorem steps_advanceDispute {input : DisputeEventInput} {attempt : PaymentAttempt}
    {disputeId : DisputeId} {dispute : PaymentDispute} {status : DisputeStatus}
    {outcome : Option DisputeOutcome} (hentries : status = .LOST → Settling.Entries step)
    (hflag : (detectRefundDisputeOverlap attempt.refundedMinor dispute.disputedAmountMinor
      attempt.amountMinor).overlapping = true ∨ status = .LOST → Flagging step dispute.orderId) :
    (advanceDispute input attempt disputeId dispute status outcome).Steps step := by
  refine (hwrites.advanced _ _ _ fun _ => ?_).bind fun _ => ?_
  · rfl
  · exact hwrites.history.insertNew.bind fun _ =>
      steps_recordDisputeLedgerAndConsequences hwrites hentries hflag

end Writes

/-! ## §2 The order that is flagged -/

/-- The payment of an intent: the first that has it, of any provider, in the order in which
the rows lie. The source's `findFirst` has no `orderBy`, so the order is the database's. -/
def Db.paymentNamed (db : Db) (intent : ProviderRef) : Option (AttemptId × PaymentAttempt) :=
  (db.attempts.select fun _ a => a.providerIntentId == some intent).head?

/-- The dispute with an external identity. -/
def Db.disputeNamed (db : Db) (provider : PaymentProviderName) (ref : ProviderRef) :
    Option (DisputeId × PaymentDispute) :=
  (db.disputes.select fun _ d => d.provider == provider && d.providerDisputeId == ref).head?

/-- The order that a dispute event flags, if any: a new dispute flags its payment's
order, and a known one its own when it is escalated, is lost or overlaps refunds. -/
def Db.disputeFlags (db : Db) (intent ref : ProviderRef) (incoming : DisputeStatus) :
    Option OrderId :=
  match db.paymentNamed intent with
  | none => none
  | some (_, attempt) =>
      match db.disputeNamed attempt.provider ref with
      | none => some attempt.orderId
      | some (_, dispute) =>
          match decideDisputeTransition dispute.status incoming with
          | .ignore _ => none
          | .review _ => some dispute.orderId
          | .apply status _ =>
              if (detectRefundDisputeOverlap attempt.refundedMinor dispute.disputedAmountMinor
                attempt.amountMinor).overlapping = true ∨ status = .LOST then some dispute.orderId
              else none

/-- Only the event's own status is applied. -/
theorem decideDisputeTransition_apply {current incoming status : DisputeStatus}
    {outcome : Option DisputeOutcome}
    (h : decideDisputeTransition current incoming = .apply status outcome) : status = incoming := by
  unfold decideDisputeTransition at h
  split_ifs at h
  cases h
  rfl

section Events

variable {webhookId : WebhookId} {step : Db → Db → Prop} (hwrites : DisputeWrites webhookId step)
  {s : Db}

include hwrites

theorem ensures_applyDisputeFromVerifiedEvent {input : DisputeEventInput} {fresh : FreshDispute}
    (hwebhook : input.webhookId = webhookId)
    (hentries : input.status = .LOST → Settling.Entries step)
    (hflag : ∀ orderId, s.disputeFlags input.providerIntentId input.providerDisputeId input.status
      = some orderId → Flagging step orderId) :
    Ensures (applyDisputeFromVerifiedEvent input fresh) s fun _ s' =>
      Relation.ReflTransGen step s s' := by
  unfold Db.disputeFlags Db.paymentNamed Db.disputeNamed at hflag
  refine ensures_bind.mpr (ensures_findMany.mpr ?_)
  split
  · exact ensures_pure.mpr .refl
  · rename_i attemptId attempt hattempt
    rw [show (s.attempts.select fun _ a => a.providerIntentId == some input.providerIntentId).head?
      = some (attemptId, attempt) from hattempt] at hflag
    dsimp only at hflag
    refine ensures_bind.mpr (ensures_findMany.mpr (ensures_bind.mpr (ensures_lockMany.mpr ?_)))
    split
    · rename_i hnone
      rw [show (s.disputes.select fun _ d => d.provider == attempt.provider &&
        d.providerDisputeId == input.providerDisputeId).head? = none from hnone] at hflag
      exact steps_iff_ensures.mp (steps_openDispute hwrites hwebhook hentries (hflag _ rfl)) s
    · rename_i disputeId d hsome
      rw [show (s.disputes.select fun _ d => d.provider == attempt.provider &&
        d.providerDisputeId == input.providerDisputeId).head? =
          some (disputeId, d) from hsome] at hflag
      dsimp only at hflag
      refine ensures_bind.mpr (ensures_findOrThrow.mpr fun dispute hdispute => ?_)
      have hfound := (Table.mem_select.mp (List.mem_of_head? hsome)).1
      cases Option.some.inj (hfound.symm.trans hdispute)
      subst hwebhook
      refine steps_iff_ensures.mp ((steps_linkDispute hwrites _).bind fun _ => ?_) s
      split
      · exact hwrites.history.insertNew.bind fun _ => steps_pure
      · rename_i safeCode hreview
        rw [hreview] at hflag
        exact (steps_markDisputeUnderReview hwrites (hflag _ rfl)).bind fun _ => steps_pure
      · rename_i status outcome happly
        rw [happly] at hflag
        rw [← decideDisputeTransition_apply happly] at hentries
        refine (steps_advanceDispute hwrites hentries fun hraised => ?_).bind fun _ => steps_pure
        exact hflag _ (if_pos hraised)

/-- What a processed dispute event writes before the transaction checks its queued
triggers. -/
theorem ensures_processVerifiedDisputeRecord {fresh : FreshDispute} {now : Time}
    (hentries : ∀ w, s.webhooks.lookup webhookId = some w →
      w.normalizedDisputeStatus = some .LOST → Settling.Entries step)
    (hflag : ∀ w ref incoming orderId, s.webhooks.lookup webhookId = some w →
      w.processingStatus.isFinal = false → w.providerDisputeId = some ref →
      w.normalizedDisputeStatus = some incoming →
      s.disputeFlags w.providerIntentId ref incoming = some orderId → Flagging step orderId) :
    Ensures (processVerifiedDisputeRecord webhookId fresh now) s fun _ s' =>
      ∃ s₁, Relation.ReflTransGen step s s₁ ∧
        checkAll (DeferredTrigger.check s₁) s₁.deferred = .ok () ∧
        s' = { s₁ with deferred := [] } := by
  refine ensures_runInTransaction (ensures_bind.mpr (ensures_lock.mpr ?_))
  refine ensures_bind.mpr (ensures_findOrThrow.mpr fun w hw => ?_)
  split
  · exact ensures_pure.mpr fun hchecked => ⟨s, .refl, hchecked, rfl⟩
  · rename_i hopened
    refine ensures_bind.mpr (ensures_require.mpr fun _ => ?_)
    split
    · rename_i ref incoming href hincoming
      refine ensures_bind.mpr ((ensures_applyDisputeFromVerifiedEvent hwrites rfl (fun hlost => ?_)
        fun orderId horder => ?_).mono fun applied s₁ hsteps => ?_)
      · replace hlost : incoming = .LOST := hlost
        exact hentries w hw (hlost ▸ hincoming)
      · exact hflag w ref incoming orderId hw (by simpa using hopened) href hincoming horder
      · refine ensures_bind.mpr ((steps_iff_ensures.mp (hwrites.webhook _ _) s₁).mono
          fun _ s₂ hclosed => ?_)
        exact ensures_pure.mpr fun hchecked => ⟨s₂, hsteps.trans hclosed, hchecked, rfl⟩
    · exact ensures_abort.mpr trivial

end Events

/-! ## §3 Consistency and frames -/

theorem disputeWrites_regular (webhookId : WebhookId) :
    DisputeWrites webhookId (Keeping Db.Regular) where
  opened := fun id row => steps_insert fun s habsent hvalid hs => by
    refine regular_other hs (.dispute id row (fun d hd => ?_) ?_) rfl rfl rfl
    · rw [show s.disputes.lookup id = none from habsent] at hd
      cases hd
    · show PaymentDispute.validate s id (s.disputes.lookup id) row = _
      rwa [show s.disputes.lookup id = none from habsent]
  advanced := fun id f _ hbooking => steps_update fun s d hlook hvalid hs => by
    refine regular_other hs (.dispute id (f d) (fun d' hd' => ?_) ?_) rfl rfl rfl
    · cases Option.some.inj (hlook.symm.trans hd')
      exact hbooking d
    · show PaymentDispute.validate s id (s.disputes.lookup id) (f d) = _
      rwa [show s.disputes.lookup id = some d from hlook]
  history := fun _ _ hs =>
    regular_other hs (.other rfl rfl rfl rfl rfl rfl rfl rfl rfl rfl rfl rfl) rfl rfl rfl
  outbox := regular_enqueueFinancialEvent
  queue := regular_defer
  ledger := fun input _ => regular_appendLedgerEntry input
  webhook := regular_updateWebhook webhookId
  booking := regular_updateBooking
  admission := regular_revokeAdmission

/-- A part that is in none of the tables a dispute writes. -/
theorem disputeWrites_framing {γ : Type} {part : Db → γ} {webhookId : WebhookId}
    (hpart :
      ∀ (s : Db) disputes disputeEvents financialOutbox deferred bookings tickets credentials,
      part { s with
        disputes := disputes
        disputeEvents := disputeEvents
        financialOutbox := financialOutbox
        deferred := deferred
        bookings := bookings
        tickets := tickets
        credentials := credentials } = part s)
    (hledger : ∀ (s : Db) key row, isSettlingEntryType key.entryType = false →
      part { s with ledger := s.ledger.insert key row } = part s)
    (hwebhook : ∀ (s : Db) row,
      part { s with webhooks := s.webhooks.insert webhookId row } = part s) :
    DisputeWrites webhookId (Framing part) where
  opened := fun _ _ => steps_insert fun s _ _ => hpart s _ _ _ _ _ _ _
  advanced := fun _ _ _ _ => steps_update fun s _ _ _ => hpart s _ _ _ _ _ _ _
  history := fun s _ => hpart s _ _ _ _ _ _ _
  outbox := fun _ _ => steps_insertNew fun s _ _ => hpart s _ _ _ _ _ _ _
  queue := framed_defer fun s _ => hpart s _ _ _ _ _ _ _
  ledger := fun _ hentry => steps_require.bind fun _ => steps_insertNew fun s _ _ =>
    hledger s _ _ hentry
  webhook := fun _ _ => steps_update fun s _ _ _ => hwebhook s _
  booking := fun _ _ _ => steps_update fun s _ _ _ => hpart s _ _ _ _ _ _ _
  admission := revoking_of_free (fun s _ => hpart s _ _ _ _ _ _ _) fun s _ => hpart s _ _ _ _ _ _ _

/-- **What a dispute event does** is a sequence of steps between transactions. -/
theorem steps_processVerifiedDisputeRecord {step whole : Db → Db → Prop} {webhookId : WebhookId}
    (hwrites : DisputeWrites webhookId step) (hentries : Settling.Entries step)
    (hflag : ∀ orderId, Flagging step orderId) (hcommit : Committing step whole)
    (fresh : FreshDispute) (now : Time) :
    (processVerifiedDisputeRecord webhookId fresh now).Steps whole := by
  refine fun s => (ensures_processVerifiedDisputeRecord hwrites (fun _ _ _ => hentries)
    fun _ _ _ orderId _ _ _ _ _ => hflag orderId).mono ?_
  rintro - s' ⟨s₁, hsteps, hchecked, rfl⟩
  exact hcommit s s₁ hsteps hchecked

theorem steps_storeVerifiedDisputeWebhook {step : Db → Db → Prop} {provider : PaymentProviderName}
    {event : NormalizedDisputeWebhookEvent} {fresh : WebhookId} {now : Time}
    (hstoring : Storing .DISPUTE step) :
    (storeVerifiedDisputeWebhook provider event fresh now).Steps step := by
  refine fun s =>
    ensures_bind.mpr (ensures_findMany.mpr (ensures_bind.mpr (ensures_findMany.mpr ?_)))
  split
  · exact ensures_pure.mpr .refl
  · exact hstoring.ensures ⟨rfl, rfl, rfl, rfl⟩ rfl

theorem consistent_processVerifiedDisputeRecord (webhookId : WebhookId) (fresh : FreshDispute)
    (now : Time) :
    (processVerifiedDisputeRecord webhookId fresh now).Steps (Keeping Db.Consistent) :=
  steps_processVerifiedDisputeRecord (disputeWrites_regular webhookId) regular_appendLedgerEntry
    regular_flagOrder committing_consistent fresh now

theorem consistent_storeVerifiedDisputeWebhook (provider : PaymentProviderName)
    (event : NormalizedDisputeWebhookEvent) (fresh : WebhookId) (now : Time) :
    (storeVerifiedDisputeWebhook provider event fresh now).Steps (Keeping Db.Consistent) :=
  steps_storeVerifiedDisputeWebhook (storing_consistent _)

section Frames

variable {γ : Type} {part : Db → γ} {s : Db} {webhookId : WebhookId} {fresh : FreshDispute}
  {now : Time}

/-- What a processed dispute event leaves alone. -/
theorem framed_processVerifiedDisputeRecord (hwrites : DisputeWrites webhookId (Framing part))
    (hqueue : ∀ s deferred, part { s with deferred := deferred } = part s)
    (hentries : ∀ w, s.webhooks.lookup webhookId = some w →
      w.normalizedDisputeStatus = some .LOST → Settling.Entries (Framing part))
    (hflag : ∀ w ref incoming orderId, s.webhooks.lookup webhookId = some w →
      w.processingStatus.isFinal = false → w.providerDisputeId = some ref →
      w.normalizedDisputeStatus = some incoming →
      s.disputeFlags w.providerIntentId ref incoming = some orderId →
      Flagging (Framing part) orderId) :
    Ensures (processVerifiedDisputeRecord webhookId fresh now) s fun _ s' => part s' = part s := by
  refine (ensures_processVerifiedDisputeRecord hwrites hentries hflag).mono ?_
  rintro - s' ⟨s₁, hsteps, -, rfl⟩
  rw [hqueue]
  induction hsteps with
  | refl => rfl
  | tail _ hstep ih => exact Eq.trans hstep ih

/-- The tables that refunds are about. -/
def Db.refundTables (db : Db) : Table RefundId Refund × Table AttemptId PaymentAttempt :=
  (db.refunds, db.attempts)

theorem disputeWrites_refundTables : DisputeWrites webhookId (Framing Db.refundTables) :=
  disputeWrites_framing (fun _ _ _ _ _ _ _ _ => rfl) (fun _ _ _ _ => rfl) fun _ _ => rfl

/-- Refunds and payments are no business of a dispute. -/
theorem ensures_processedDispute_refundTables :
    Ensures (processVerifiedDisputeRecord webhookId fresh now) s fun _ s' =>
      s'.refundTables = s.refundTables :=
  framed_processVerifiedDisputeRecord disputeWrites_refundTables (fun _ _ => rfl)
    (fun _ _ _ _ => steps_require.bind fun _ => steps_insertNew fun _ _ _ => rfl)
    fun _ _ _ _ _ _ _ _ _ _ => steps_update fun _ _ _ _ => rfl

/-- The records of other events. -/
def Db.otherRecords (webhookId : WebhookId) (db : Db) (id : WebhookId) :
    Option PaymentWebhookEvent :=
  if id = webhookId then none else db.webhooks.lookup id

/-- A dispute event's transaction touches no other record. -/
theorem ensures_processedDispute_otherRecords :
    Ensures (processVerifiedDisputeRecord webhookId fresh now) s fun _ s' =>
      s'.otherRecords webhookId = s.otherRecords webhookId := by
  refine framed_processVerifiedDisputeRecord (disputeWrites_framing (fun _ _ _ _ _ _ _ _ => rfl)
    (fun _ _ _ _ => rfl) fun s row => ?_) (fun _ _ => rfl)
    (fun _ _ _ _ => steps_require.bind fun _ => steps_insertNew fun _ _ _ => rfl)
    fun _ _ _ _ _ _ _ _ _ _ => steps_update fun _ _ _ _ => rfl
  funext id
  unfold Db.otherRecords
  split
  · rfl
  · rename_i hother
    exact AList.lookup_insert_ne hother

/-- Processing a dispute record closes that record, or leaves all of them alone. -/
theorem ensures_processedDispute_closed :
    Ensures (processVerifiedDisputeRecord webhookId fresh now) s fun _ s' =>
      s'.webhooks = s.webhooks ∨
        ∃ w, s'.webhooks.lookup webhookId = some w ∧ w.processingStatus.isFinal = true := by
  refine ensures_runInTransaction (ensures_bind.mpr (ensures_lock.mpr ?_))
  refine ensures_bind.mpr (ensures_findOrThrow.mpr fun w _ => ?_)
  split
  · exact ensures_pure.mpr fun _ => .inl rfl
  · refine ensures_bind.mpr (ensures_require.mpr fun _ => ?_)
    split
    · refine ensures_bind.mpr fun applied s₁ _ => ensures_bind.mpr (ensures_update.mpr ?_)
      refine fun w₁ _ _ => ensures_pure.mpr fun _ => .inr ⟨_, AList.lookup_insert _, ?_⟩
      cases applied <;> rfl
    · exact ensures_abort.mpr trivial

end Frames

end SeatFlow
