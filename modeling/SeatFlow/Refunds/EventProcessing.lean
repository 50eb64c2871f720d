import SeatFlow.Refunds.SettlementCommits

/-!
# Processing one refund event

The whole transaction that processes the record of a refund event: when it
commits, and what it leaves. A rejected transaction leaves the record open, and
every later delivery of the event runs into the same rejection, so the question
is which records can be closed. A refund that still counts in its payment's
totals can always be escalated, one that was released needs room there.
-/

namespace SeatFlow

open Relational Program Entity

variable {s s' : Db}

/-! ## §1 The transaction -/

/-- The refund that an event is about: the first that has its external identity, of any
provider, in the order in which the rows lie. The source's query has no `ORDER BY`. -/
def Db.refundNamed (db : Db) (ref : ProviderRef) : Option (RefundId × Refund) :=
  (db.refunds.select fun _ r => r.providerRefundId == some ref).head?

theorem Db.lookup_of_refundNamed {db : Db} {ref : ProviderRef} {id : RefundId} {r : Refund}
    (h : db.refundNamed ref = some (id, r)) :
    db.refunds.lookup id = some r ∧ r.providerRefundId = some ref := by
  obtain ⟨hlook, href⟩ := Table.mem_select.mp (List.mem_of_mem_head? h)
  exact ⟨hlook, by simpa using href⟩

/-- What the settlement is told about an event. -/
def PaymentWebhookEvent.settleInput (w : PaymentWebhookEvent) (webhookId : WebhookId)
    (ref : ProviderRef) (incoming : RefundStatus) (now : Time) : SettleInput :=
  { webhookId := webhookId
    providerRefundId := ref
    incomingStatus := incoming
    amountMinor := w.amountMinor
    currency := w.currency
    occurredAt := w.providerOccurredAt
    now := now }

/-- The settlement after the refund was found and the record linked to it. -/
def settleFound (input : SettleInput) (refundId : RefundId) (refund : Refund) :
    Sql RefundSettlementOutcome :=
  if input.amountMinor ≠ refund.requestedAmountMinor ∨ input.currency ≠ refund.currency then do
    markRefundUnderReview refundId refund "REFUND_AMOUNT_OR_CURRENCY_MISMATCH" input.now
    pure (.REVIEW "REFUND_AMOUNT_OR_CURRENCY_MISMATCH")
  else if isStaleProviderEvent (refund.succeededAt.or refund.failedAt) input.occurredAt then
    pure (.IGNORED "STALE_PROVIDER_EVENT")
  else
    match decideRefundTransition refund.status input.incomingStatus with
    | .ignore reason => pure (.IGNORED reason)
    | .review safeCode => do
        markRefundUnderReview refundId refund safeCode input.now
        pure (.REVIEW safeCode)
    | .apply .SUCCEEDED => do
        settleSucceeded input refundId refund
        pure (.APPLIED .SUCCEEDED)
    | .apply .FAILED => do
        settleFailed input refundId refund
        pure (.APPLIED .FAILED)
    | .apply status => do
        settleAdvanced input refundId status
        pure (.APPLIED status)

/-- The record linked to its refund. -/
def PaymentWebhookEvent.linkedTo (w : PaymentWebhookEvent) (refundId : RefundId) :
    PaymentWebhookEvent :=
  { w with refundId := some refundId }

def Db.linked (db : Db) (webhookId : WebhookId) (w : PaymentWebhookEvent)
    (refundId : RefundId) : Db :=
  { db with webhooks := db.webhooks.insert webhookId (w.linkedTo refundId) }

/-- Settling a refund that is found. -/
theorem commits_settleRefundFromVerifiedEvent (input : SettleInput) {id : RefundId} {r : Refund}
    {w : PaymentWebhookEvent} {Q : RefundSettlementOutcome → Db → Prop}
    (hfound : s.refundNamed input.providerRefundId = some (id, r))
    (hw : s.webhooks.lookup input.webhookId = some w)
    (hvalid : PaymentWebhookEvent.validate s input.webhookId (some w) (w.linkedTo id) = .ok ()) :
    Commits (settleRefundFromVerifiedEvent input) s Q ↔
      Commits (settleFound input id r) (s.linked input.webhookId w id) Q := by
  have hr := (Db.lookup_of_refundNamed hfound).1
  unfold settleRefundFromVerifiedEvent
  rw [commits_bind, commits_lockMany]
  rw [show ((Prisma.refund.get s).select fun _ r =>
    r.providerRefundId == some input.providerRefundId).head? = some (id, r) from hfound]
  dsimp only
  rw [commits_bind, commits_findOrThrow]
  constructor
  · rintro ⟨r', hr', hrest⟩
    cases Option.some.inj (hr.symm.trans hr')
    obtain ⟨w', hw', -, hrest⟩ := commits_update.mp (commits_bind.mp hrest)
    cases Option.some.inj (hw.symm.trans hw')
    exact hrest
  · intro hrest
    exact ⟨r, hr, commits_bind.mpr (commits_update.mpr ⟨w, hw, hvalid, hrest⟩)⟩

/-- Processing an open record settles its refund and closes it. -/
theorem commits_openRecord {wid : WebhookId} {w : PaymentWebhookEvent} {ref : ProviderRef}
    {incoming : RefundStatus} {now : Time} {Q : RefundSettlementOutcome → Db → Prop}
    (hw : s.webhooks.lookup wid = some w) (hopen : w.processingStatus.isFinal = false)
    (hsignature : w.signatureStatus = .VERIFIED) (href : w.providerRefundId = some ref)
    (hincoming : w.normalizedRefundStatus = some incoming) :
    Commits (processVerifiedRefundRecord wid now) s Q ↔
      Commits (settleRefundFromVerifiedEvent (w.settleInput wid ref incoming now)) s
        fun outcome s' => Commits (Prisma.paymentWebhookEvent.update wid (·.closedBy outcome now)
          (.notFound "PaymentWebhookEvent")) s' fun _ s'' =>
            Commits (do runDeferredTriggers; pure outcome) s'' Q := by
  unfold processVerifiedRefundRecord runInTransaction
  rw [commits_bind, commits_bind, commits_lock, commits_bind, commits_findOrThrow]
  constructor
  · rintro ⟨w', hw', hrest⟩
    cases Option.some.inj (hw.symm.trans hw')
    rw [if_neg (by simp [hopen]), commits_bind, commits_require, href, hincoming] at hrest
    simp only [hsignature, true_and, commits_bind, commits_pure] at hrest ⊢
    exact hrest
  · intro hrest
    refine ⟨w, hw, ?_⟩
    rw [if_neg (by simp [hopen]), commits_bind, commits_require, href, hincoming]
    simp only [hsignature, true_and, commits_bind, commits_pure] at hrest ⊢
    exact hrest

theorem PaymentWebhookEvent.category_of_refund {w : PaymentWebhookEvent} {ref : ProviderRef}
    (h : w.categoryCheck = true) (href : w.providerRefundId = some ref) :
    w.eventCategory = .REFUND := by
  unfold categoryCheck at h
  cases hcase : w.eventCategory <;> simp_all

/-- An open record can be linked to its refund. -/
theorem validate_linkedTo (hs : s.Sound) {wid : WebhookId} {w : PaymentWebhookEvent}
    {ref : ProviderRef} (id : RefundId) (hw : s.webhooks.lookup wid = some w)
    (hunlinked : w.refundId = none) (href : w.providerRefundId = some ref) :
    PaymentWebhookEvent.validate s wid (some w) (w.linkedTo id) = .ok () := by
  have hrow := hs.webhooks.row wid w hw
  have hcategory := PaymentWebhookEvent.category_of_refund hrow.category href
  refine paymentWebhookEventConstraints.validate_update (E := Prisma.paymentWebhookEvent)
    hs.webhooks hw ⟨?_, hrow.amount, hrow.signature, hrow.processing⟩ (fun _ h => h) ?_
  · have hcheck := hrow.category
    unfold PaymentWebhookEvent.categoryCheck at hcheck ⊢
    rw [hcategory] at hcheck
    rwa [show (w.linkedTo id).eventCategory = .REFUND from hcategory]
  · simp [paymentWebhookEventConstraints, PaymentWebhookEvent.protectEnvelope,
      PaymentWebhookEvent.SameEnvelope, PaymentWebhookEvent.linkedTo, hunlinked]

/-- An open record can be closed. -/
theorem validate_closedBy (hs : s.Sound) {wid : WebhookId} {w : PaymentWebhookEvent}
    {ref : ProviderRef} (outcome : RefundSettlementOutcome) (now : Time)
    (hw : s.webhooks.lookup wid = some w) (hopen : w.processingStatus.isFinal = false)
    (href : w.providerRefundId = some ref) :
    PaymentWebhookEvent.validate s wid (some w) (w.closedBy outcome now) = .ok () := by
  have hrow := hs.webhooks.row wid w hw
  have hcategory := PaymentWebhookEvent.category_of_refund hrow.category href
  refine paymentWebhookEventConstraints.validate_update (E := Prisma.paymentWebhookEvent)
    hs.webhooks hw ⟨?_, hrow.amount, hrow.signature, ?_⟩ (fun _ h => h) ?_
  · have hcheck := hrow.category
    unfold PaymentWebhookEvent.categoryCheck at hcheck ⊢
    rw [hcategory] at hcheck
    rwa [show (w.closedBy outcome now).eventCategory = .REFUND from hcategory]
  · cases outcome <;> rfl
  · simp [paymentWebhookEventConstraints, PaymentWebhookEvent.protectEnvelope,
      PaymentWebhookEvent.SameEnvelope, PaymentWebhookEvent.closedBy, hopen]

/-- **One record.** Processing an open record commits exactly when settling its
refund does, and leaves the refunds as the settlement has them, with the record
closed. -/
theorem commits_processVerifiedRefundRecord (hs : s.Consistent)
    (hexact : ∀ p, paymentAggregate.Faithful s p) {wid : WebhookId} {w : PaymentWebhookEvent}
    {ref : ProviderRef} {incoming : RefundStatus} {id : RefundId} {r : Refund} {now : Time}
    {outcome : RefundSettlementOutcome} {refunds : Table RefundId Refund} {c : Prop}
    {Q : RefundSettlementOutcome → Db → Prop}
    (hw : s.webhooks.lookup wid = some w) (hopen : w.processingStatus.isFinal = false)
    (hunlinked : w.refundId = none) (href : w.providerRefundId = some ref)
    (hincoming : w.normalizedRefundStatus = some incoming)
    (hfound : s.refundNamed ref = some (id, r))
    (hsettle : ∀ {Q' : RefundSettlementOutcome → Db → Prop}, (s.linked wid w id).Ready →
      (∀ s', s'.ReadyWith refunds (s.linked wid w id).webhooks → Q' outcome s') →
      (Commits (settleFound (w.settleInput wid ref incoming now) id r) (s.linked wid w id) Q' ↔ c))
    (hQ : ∀ s', s'.refunds = refunds →
      s'.webhooks.lookup wid = some ((w.linkedTo id).closedBy outcome now) → Q outcome s') :
    Commits (processVerifiedRefundRecord wid now) s Q ↔ c := by
  have hlink := validate_linkedTo hs.sound id hw hunlinked href
  have hready : (s.linked wid w id).Ready :=
    (hs.ready hexact).other (.updatedWebhook hw hlink) rfl (fun _ => rfl) rfl rfl rfl
  rw [commits_openRecord hw hopen (hs.sound.webhooks.row wid w hw).signature href hincoming,
    commits_settleRefundFromVerifiedEvent (w.settleInput wid ref incoming now) hfound hw hlink]
  refine hsettle hready fun s' hs' => ?_
  -- the record is closed and the queued triggers run
  have hlinked : s'.webhooks.lookup wid = some (w.linkedTo id) := by
    rw [hs'.webhooks]
    exact AList.lookup_insert _
  have hclose := validate_closedBy hs'.ready.sound outcome now hlinked hopen href
  let closed : Db :=
    { s' with webhooks := s'.webhooks.insert wid ((w.linkedTo id).closedBy outcome now) }
  have hclosed : closed.Ready :=
    hs'.ready.other (.updatedWebhook hlinked hclose) rfl (fun _ => rfl) rfl rfl rfl
  have hcommit : Commits (do runDeferredTriggers; pure outcome) closed Q := by
    have hfinal : Q outcome { closed with deferred := [] } :=
      hQ _ hs'.refunds (AList.lookup_insert s'.webhooks)
    refine commits_bind.mpr (commits_perform.mpr
      ⟨{ locks := [], writes := [.settled], result := () }, ?_, commits_pure.mpr hfinal⟩)
    exact Except.bind_unit_eq_ok.mpr ⟨hclosed.checked, rfl⟩
  exact commits_update.mpr ⟨_, hlinked, hclose, hcommit⟩

/-! ## §2 Admitted updates -/

/-- An escalation is admitted unless it lies before the request. -/
theorem validate_review_iff (hs : s.Sound) {id : RefundId} {r : Refund}
    (hr : s.refunds.lookup id = some r) {code : Code} (hcode : isSafeCode code = true)
    {now : Time} :
    Refund.validate s id (some r) (RefundUpdate.apply r (.review code now)) = .ok () ↔
      r.requestedAt ≤ now := by
  have hrow := hs.refunds.row id r hr
  rw [validate_refund_iff (u := .review code now) hs hr rfl]
  constructor
  · rintro ⟨hok, -⟩
    have htime := hok.timeOrder
    simp only [Refund.timeOrderCheck, RefundUpdate.apply, Bool.and_eq_true,
      Option.all_some] at htime
    exact of_decide_eq_true htime.2
  · intro hnow
    refine ⟨⟨hrow.amount, hcode, ?_, hrow.exclusive, rfl⟩, ?_⟩
    · have htime := hrow.timeOrder
      simp only [Refund.timeOrderCheck, RefundUpdate.apply, Bool.and_eq_true, Option.all_some]
        at htime ⊢
      exact ⟨htime.1, decide_eq_true hnow⟩
    · simp [Refund.protectIdentity, RefundUpdate.apply, Refund.SameIdentity, writeOnce]

/-- A refund in processing has no outcome yet. -/
theorem outcome_of_processing (hs : s.Sound) {id : RefundId} {r : Refund}
    (hr : s.refunds.lookup id = some r) (hprocessing : r.status = .PROCESSING) :
    r.succeededAt = none ∧ r.failedAt = none ∧ r.cancelledAt = none ∧
    r.reviewRequiredAt = none := by
  have hlifecycle := (hs.refunds.row id r hr).lifecycle
  simp only [Refund.lifecycleCheck, hprocessing, Bool.and_eq_true, Option.isNone_iff_eq_none]
    at hlifecycle
  exact ⟨hlifecycle.1.1.1.2, hlifecycle.1.1.2, hlifecycle.1.2, hlifecycle.2⟩

theorem validate_succeed_iff (hs : s.Sound) {id : RefundId} {r : Refund}
    (hr : s.refunds.lookup id = some r) (hprocessing : r.status = .PROCESSING) {now : Time} :
    Refund.validate s id (some r) (RefundUpdate.apply r (.succeed now)) = .ok () ↔
      r.requestedAt ≤ now := by
  have hrow := hs.refunds.row id r hr
  obtain ⟨hsucceeded, hfailed, hcancelled, hreview⟩ := outcome_of_processing hs hr hprocessing
  rw [validate_refund_iff (u := .succeed now) hs hr rfl]
  have htime := hrow.timeOrder
  simp only [Refund.timeOrderCheck, Bool.and_eq_true] at htime
  constructor
  · rintro ⟨hok, -⟩
    have htime := hok.timeOrder
    simp only [Refund.timeOrderCheck, RefundUpdate.apply, Bool.and_eq_true,
      Option.all_some] at htime
    exact of_decide_eq_true htime.1.1.1.2
  · intro hnow
    refine ⟨⟨hrow.amount, rfl, ?_, ?_, ?_⟩, ?_⟩
    · simp only [Refund.timeOrderCheck, RefundUpdate.apply, Bool.and_eq_true, Option.all_some]
      exact ⟨⟨⟨⟨htime.1.1.1.1, decide_eq_true hnow⟩, htime.1.1.2⟩, htime.1.2⟩, htime.2⟩
    · simp [Refund.outcomeExclusivityCheck, RefundUpdate.apply, hfailed, hcancelled]
    · simp [Refund.lifecycleCheck, RefundUpdate.apply, hfailed, hcancelled, hreview]
    · simp [Refund.protectIdentity, RefundUpdate.apply, Refund.SameIdentity, writeOnce, hprocessing,
        hsucceeded, isTerminalRefundStatus]

theorem validate_fail_iff (hs : s.Sound) {id : RefundId} {r : Refund}
    (hr : s.refunds.lookup id = some r) (hprocessing : r.status = .PROCESSING) {code : Code}
    (hcode : isSafeCode code = true) {now : Time} :
    Refund.validate s id (some r) (RefundUpdate.apply r (.fail code now)) = .ok () ↔
      r.requestedAt ≤ now := by
  have hrow := hs.refunds.row id r hr
  obtain ⟨hsucceeded, hfailed, hcancelled, hreview⟩ := outcome_of_processing hs hr hprocessing
  rw [validate_refund_iff (u := .fail code now) hs hr rfl]
  have htime := hrow.timeOrder
  simp only [Refund.timeOrderCheck, Bool.and_eq_true] at htime
  constructor
  · rintro ⟨hok, -⟩
    have htime := hok.timeOrder
    simp only [Refund.timeOrderCheck, RefundUpdate.apply, Bool.and_eq_true,
      Option.all_some] at htime
    exact of_decide_eq_true htime.1.1.2
  · intro hnow
    refine ⟨⟨hrow.amount, hcode, ?_, ?_, ?_⟩, ?_⟩
    · simp only [Refund.timeOrderCheck, RefundUpdate.apply, Bool.and_eq_true, Option.all_some]
      exact ⟨⟨⟨⟨htime.1.1.1.1, htime.1.1.1.2⟩, decide_eq_true hnow⟩, htime.1.2⟩, htime.2⟩
    · simp [Refund.outcomeExclusivityCheck, RefundUpdate.apply, hsucceeded, hcancelled]
    · simp [Refund.lifecycleCheck, RefundUpdate.apply, hsucceeded, hcancelled, hreview]
    · simp [Refund.protectIdentity, RefundUpdate.apply, Refund.SameIdentity, writeOnce, hprocessing,
        hfailed, isTerminalRefundStatus]

/-- A cancellation stores no time of cancellation, which the lifecycle demands. -/
theorem not_validate_cancelled (hs : s.Sound) {id : RefundId} {r : Refund}
    (hr : s.refunds.lookup id = some r) (hprocessing : r.status = .PROCESSING) {now : Time} :
    Refund.validate s id (some r) (RefundUpdate.apply r (.advance .CANCELLED now)) ≠ .ok () := by
  obtain ⟨-, -, hcancelled, -⟩ := outcome_of_processing hs hr hprocessing
  rw [ne_eq, validate_refund_iff (u := .advance .CANCELLED now) hs hr rfl]
  rintro ⟨hok, -⟩
  have hlifecycle := hok.lifecycle
  simp [Refund.lifecycleCheck, RefundUpdate.apply, hcancelled] at hlifecycle

/-! ### Room in the totals -/

/-- A payment's stored totals are those of its refunds, and fit. -/
theorem totals_of_payment (hs : s.Sound) (hexact : ∀ p, paymentAggregate.Faithful s p)
    {p : AttemptId} {a : PaymentAttempt} (ha : s.attempts.lookup p = some a) :
    a.refundedMinor = s.refundedSum p ∧ a.inFlightRefundMinor = s.inFlightSum p ∧
      0 ≤ a.refundedMinor ∧ 0 ≤ a.inFlightRefundMinor ∧
      a.refundedMinor + a.inFlightRefundMinor ≤ a.amountMinor := by
  obtain ⟨hrefunded, hinFlight⟩ := paymentAggregate_faithful.mp (hexact p) a ha
  exact ⟨hrefunded, hinFlight, (hs.attempts.row p a ha).aggregate⟩

/-- How the totals of a payment move with one of its refunds. -/
theorem totalsFit_iff {id : RefundId} {r : Refund} {a : PaymentAttempt} {u : RefundUpdate}
    (hr : s.refunds.lookup id = some r) :
    s.TotalsFit id (u.apply r) a ↔
      0 ≤ s.refundedSum r.paymentAttemptId - r.refundedOf r.paymentAttemptId
          + (u.apply r).refundedOf r.paymentAttemptId ∧
        0 ≤ s.inFlightSum r.paymentAttemptId - r.inFlightOf r.paymentAttemptId
          + (u.apply r).inFlightOf r.paymentAttemptId ∧
        s.refundedSum r.paymentAttemptId - r.refundedOf r.paymentAttemptId
            + (u.apply r).refundedOf r.paymentAttemptId
          + (s.inFlightSum r.paymentAttemptId - r.inFlightOf r.paymentAttemptId
            + (u.apply r).inFlightOf r.paymentAttemptId) ≤ a.amountMinor := by
  have hpayment : (u.apply r).paymentAttemptId = r.paymentAttemptId := by cases u <;> rfl
  rw [Db.TotalsFit, hpayment, refundedSum_written hr, inFlightSum_written hr]

/-- A refund that counts in its payment's totals counts the same under review; one
that was released needs room. -/
theorem totalsFit_review_iff (hs : s.Sound) (hexact : ∀ p, paymentAggregate.Faithful s p)
    {id : RefundId} {r : Refund} {a : PaymentAttempt} (hr : s.refunds.lookup id = some r)
    (ha : s.attempts.lookup r.paymentAttemptId = some a) (code : Code) (now : Time) :
    s.TotalsFit id (RefundUpdate.apply r (.review code now)) a ↔
      r.coversSeats = true ∨
        a.refundedMinor + a.inFlightRefundMinor + r.requestedAmountMinor ≤ a.amountMinor := by
  obtain ⟨hrefunded, hinFlight, hpos, hpos', hfit⟩ := totals_of_payment hs hexact ha
  have hamount := (hs.refunds.row id r hr).amount
  have hreview : isInFlightRefundStatus .REQUIRES_REVIEW = true := rfl
  rw [totalsFit_iff (u := .review code now) hr, ← hrefunded, ← hinFlight]
  by_cases hsucceeded : r.succeededAt.isSome
  · have hnone : r.succeededAt ≠ none := by
      rintro hnone
      simp [hnone] at hsucceeded
    simp [Refund.refundedOf, Refund.inFlightOf, RefundUpdate.apply, Refund.coversSeats, hsucceeded,
      hnone, hpos, hpos', hfit]
  · have hnone : r.succeededAt = none := by simpa using hsucceeded
    cases hlive : isInFlightRefundStatus r.status with
    | true =>
        simp [Refund.refundedOf, Refund.inFlightOf, RefundUpdate.apply, Refund.coversSeats, hnone,
          hlive, hpos, hpos', hfit, hreview]
    | false =>
        simp only [Refund.refundedOf, Refund.inFlightOf, RefundUpdate.apply, Refund.coversSeats,
          hnone, hlive, hreview, Option.isSome_none, Bool.false_eq_true, and_false, if_false,
          and_self, if_true, Bool.or_self, false_or]
        constructor
        · rintro ⟨-, -, hle⟩
          linarith
        · intro hle
          exact ⟨by linarith, by linarith, by linarith⟩

/-- A refund in processing always has room for its outcome. -/
theorem totalsFit_succeed (hs : s.Sound) (hexact : ∀ p, paymentAggregate.Faithful s p)
    {id : RefundId} {r : Refund} {a : PaymentAttempt} (hr : s.refunds.lookup id = some r)
    (ha : s.attempts.lookup r.paymentAttemptId = some a) (hprocessing : r.status = .PROCESSING)
    {now : Time} : s.TotalsFit id (RefundUpdate.apply r (.succeed now)) a := by
  obtain ⟨hrefunded, hinFlight, hpos, -, hfit⟩ := totals_of_payment hs hexact ha
  have hamount := (hs.refunds.row id r hr).amount
  have hreserved := inFlightOf_le_sum hs hr r.paymentAttemptId
  rw [totalsFit_iff (u := .succeed now) hr, ← hrefunded, ← hinFlight]
  rw [← hinFlight] at hreserved
  obtain ⟨hnone, -⟩ := outcome_of_processing hs hr hprocessing
  simp only [Refund.refundedOf, Refund.inFlightOf, RefundUpdate.apply, hnone, hprocessing,
    isInFlightRefundStatus] at hreserved ⊢
  simp only [Option.isSome_none, Option.isSome_some, Bool.false_eq_true, and_false, if_false,
    and_self, if_true, reduceCtorEq] at hreserved ⊢
  exact ⟨by linarith, by linarith, by linarith⟩

theorem totalsFit_fail (hs : s.Sound) (hexact : ∀ p, paymentAggregate.Faithful s p)
    {id : RefundId} {r : Refund} {a : PaymentAttempt} (hr : s.refunds.lookup id = some r)
    (ha : s.attempts.lookup r.paymentAttemptId = some a) (hprocessing : r.status = .PROCESSING)
    {code : Code} {now : Time} : s.TotalsFit id (RefundUpdate.apply r (.fail code now)) a := by
  obtain ⟨hrefunded, hinFlight, hpos, -, hfit⟩ := totals_of_payment hs hexact ha
  have hamount := (hs.refunds.row id r hr).amount
  have hreserved := inFlightOf_le_sum hs hr r.paymentAttemptId
  rw [totalsFit_iff (u := .fail code now) hr, ← hrefunded, ← hinFlight]
  rw [← hinFlight] at hreserved
  obtain ⟨hnone, -⟩ := outcome_of_processing hs hr hprocessing
  simp only [Refund.refundedOf, Refund.inFlightOf, RefundUpdate.apply, hnone, hprocessing,
    isInFlightRefundStatus] at hreserved ⊢
  simp only [Option.isSome_none, Bool.false_eq_true, and_false, if_false, and_self, if_true]
    at hreserved ⊢
  exact ⟨by linarith, by linarith, by linarith⟩

/-! ## §3 What becomes of an open record -/

/-- An open record of an event about refund `id`, with the status it reports. -/
structure Db.Delivers (db : Db) (webhookId : WebhookId) (w : PaymentWebhookEvent)
    (incoming : RefundStatus) (id : RefundId) (r : Refund) : Prop where
  record : db.webhooks.lookup webhookId = some w
  opened : w.processingStatus.isFinal = false
  status : w.normalizedRefundStatus = some incoming
  named : ∃ ref, w.providerRefundId = some ref ∧ db.refundNamed ref = some (id, r)

theorem Db.delivers_iff {db : Db} {webhookId : WebhookId} {w : PaymentWebhookEvent}
    {incoming : RefundStatus} {id : RefundId} {r : Refund} :
    db.Delivers webhookId w incoming id r ↔
      db.webhooks.lookup webhookId = some w ∧ w.processingStatus.isFinal = false ∧
        w.normalizedRefundStatus = some incoming ∧
        w.providerRefundId.bind db.refundNamed = some (id, r) := by
  rw [Option.bind_eq_some_iff]
  constructor
  · intro h
    exact ⟨h.record, h.opened, h.status, h.named⟩
  · rintro ⟨hrecord, hopened, hstatus, hnamed⟩
    exact ⟨hrecord, hopened, hstatus, hnamed⟩

instance (db : Db) (webhookId : WebhookId) (w : PaymentWebhookEvent) (incoming : RefundStatus)
    (id : RefundId) (r : Refund) : Decidable (db.Delivers webhookId w incoming id r) :=
  decidable_of_iff _ Db.delivers_iff.symm

theorem Db.Delivers.refund {wid : WebhookId} {w : PaymentWebhookEvent} {incoming : RefundStatus}
    {id : RefundId} {r : Refund} (h : s.Delivers wid w incoming id r) :
    s.refunds.lookup id = some r ∧ r.providerRefundId.isSome = true := by
  obtain ⟨ref, -, hnamed⟩ := h.named
  obtain ⟨hr, href⟩ := Db.lookup_of_refundNamed hnamed
  exact ⟨hr, by simp [href]⟩

/-- The event reports the refund's own amount and currency. -/
def PaymentWebhookEvent.Matching (w : PaymentWebhookEvent) (r : Refund) : Prop :=
  w.amountMinor = r.requestedAmountMinor ∧ w.currency = r.currency

instance (w : PaymentWebhookEvent) (r : Refund) : Decidable (w.Matching r) :=
  inferInstanceAs (Decidable (_ ∧ _))

/-- The outcome of a decision. -/
def RefundTransitionDecision.outcome : RefundTransitionDecision → RefundSettlementOutcome
  | .ignore reason => .IGNORED reason
  | .review safeCode => .REVIEW safeCode
  | .apply status => .APPLIED status

/-- What an event comes to for its refund. -/
def PaymentWebhookEvent.outcomeFor (w : PaymentWebhookEvent) (incoming : RefundStatus)
    (r : Refund) :
    RefundSettlementOutcome :=
  if ¬w.Matching r then .REVIEW "REFUND_AMOUNT_OR_CURRENCY_MISMATCH"
  else if isStaleProviderEvent (r.succeededAt.or r.failedAt) w.providerOccurredAt then
    .IGNORED "STALE_PROVIDER_EVENT"
  else (decideRefundTransition r.status incoming).outcome

theorem outcomeFor_current {w : PaymentWebhookEvent} {incoming : RefundStatus} {r : Refund}
    (hmatching : w.Matching r)
    (hcurrent : isStaleProviderEvent (r.succeededAt.or r.failedAt) w.providerOccurredAt = false) :
    w.outcomeFor incoming r = (decideRefundTransition r.status incoming).outcome := by
  simp [PaymentWebhookEvent.outcomeFor, hmatching, hcurrent]

/-- The settlement of a refund that was found does what the outcome says. -/
theorem settleFound_eq {wid : WebhookId} {w : PaymentWebhookEvent} {incoming : RefundStatus}
    {id : RefundId} {r : Refund} {now : Time} {ref : ProviderRef} :
    settleFound (w.settleInput wid ref incoming now) id r =
      (match w.outcomeFor incoming r with
      | .REVIEW safeCode => do
          markRefundUnderReview id r safeCode now
          pure (.REVIEW safeCode)
      | .APPLIED .SUCCEEDED => do
          settleSucceeded (w.settleInput wid ref incoming now) id r
          pure (.APPLIED .SUCCEEDED)
      | .APPLIED .FAILED => do
          settleFailed (w.settleInput wid ref incoming now) id r
          pure (.APPLIED .FAILED)
      | .APPLIED status => do
          settleAdvanced (w.settleInput wid ref incoming now) id status
          pure (.APPLIED status)
      | outcome => pure outcome) := by
  have hmismatch : (w.amountMinor ≠ r.requestedAmountMinor ∨ w.currency ≠ r.currency) ↔
      ¬w.Matching r := by
    unfold PaymentWebhookEvent.Matching
    tauto
  unfold settleFound PaymentWebhookEvent.outcomeFor
  simp only [PaymentWebhookEvent.settleInput, hmismatch]
  by_cases hmatching : w.Matching r
  · by_cases hstale : isStaleProviderEvent (r.succeededAt.or r.failedAt) w.providerOccurredAt = true
    · simp only [hmatching, hstale, not_true_eq_false, if_true, if_false]
    · simp only [hmatching, hstale, not_true_eq_false, if_false]
      cases decideRefundTransition r.status incoming with
      | ignore reason => rfl
      | review safeCode => rfl
      | apply status => cases status <;> rfl
  · simp [hmatching]

/-- The refund's payment could reserve its amount once more. -/
def Db.RoomFor (db : Db) (r : Refund) : Prop :=
  ∀ a, db.attempts.lookup r.paymentAttemptId = some a →
    a.refundedMinor + a.inFlightRefundMinor + r.requestedAmountMinor ≤ a.amountMinor

instance (db : Db) (r : Refund) : Decidable (db.RoomFor r) :=
  inferInstanceAs (Decidable (∀ a ∈ db.attempts.lookup r.paymentAttemptId, _))

/-- If this refund's success completes its booking, the booking was confirmed by
then. -/
def Db.BookingMarkable (db : Db) (r : Refund) (now : Time) : Prop :=
  ∀ a b, db.attempts.lookup r.paymentAttemptId = some a →
    db.bookings.lookup r.bookingId = some b →
    a.amountMinor ≤ a.refundedMinor + r.requestedAmountMinor → b.status = .CONFIRMED →
    b.confirmedAt ≤ now

variable {wid : WebhookId} {w : PaymentWebhookEvent} {incoming : RefundStatus} {id : RefundId}
  {r : Refund} {now : Time} {Q : RefundSettlementOutcome → Db → Prop}

/-- The record of an event is closed. -/
def Db.Closed (db : Db) (webhookId : WebhookId) : Prop :=
  ∃ w, db.webhooks.lookup webhookId = some w ∧ w.processingStatus.isFinal = true

theorem Db.closed_of_lookup {outcome : RefundSettlementOutcome}
    (h : s.webhooks.lookup wid = some (w.closedBy outcome now)) : s.Closed wid :=
  ⟨_, h, by cases outcome <;> rfl⟩

theorem Db.Delivers.not_closed (h : s.Delivers wid w incoming id r) : ¬s.Closed wid := by
  rintro ⟨w', hw', hfinal⟩
  cases Option.some.inj (h.record.symm.trans hw')
  rw [h.opened] at hfinal
  cases hfinal

/-- The record is closed by a transaction that commits. -/
theorem Db.Delivers.closed_iff_commits (h : s.Delivers wid w incoming id r) {α : Type}
    {p : Sql α} : (p.commit s).Closed wid ↔ Commits p s fun _ s' => s'.Closed wid :=
  commit_iff_commits (Q := fun s' : Db => s'.Closed wid) h.not_closed

section Open

variable (hs : s.Consistent) (hexact : ∀ p, paymentAggregate.Faithful s p)
  (h : s.Delivers wid w incoming id r) (hunlinked : w.refundId = none)

include hs hexact h hunlinked

/-- An event that changes nothing is closed. -/
theorem commits_ignored {reason : Code}
    (houtcome : w.outcomeFor incoming r = .IGNORED reason)
    (hQ : ∀ s', s'.refunds = s.refunds →
      s'.webhooks.lookup wid = some ((w.linkedTo id).closedBy (.IGNORED reason) now) →
      Q (.IGNORED reason) s') :
    Commits (processVerifiedRefundRecord wid now) s Q := by
  obtain ⟨ref, href, hnamed⟩ := h.named
  refine (commits_processVerifiedRefundRecord (c := True) hs hexact h.record h.opened hunlinked href
    h.status hnamed (fun hready hQ' => ?_) hQ).mpr trivial
  simp only [settleFound_eq, houtcome, commits_pure, iff_true]
  exact hQ' _ ⟨hready, rfl, rfl⟩

/-- An event that escalates its refund is closed exactly when the escalation is
admitted. -/
theorem commits_escalated {code : Code} (hcode : isSafeCode code = true)
    (houtcome : w.outcomeFor incoming r = .REVIEW code)
    (hQ : ∀ s', s'.refunds = s.refunds.insert id (RefundUpdate.apply r (.review code now)) →
      s'.webhooks.lookup wid = some ((w.linkedTo id).closedBy (.REVIEW code) now) →
      Q (.REVIEW code) s') :
    Commits (processVerifiedRefundRecord wid now) s Q ↔
      r.requestedAt ≤ now ∧ (r.coversSeats = true ∨ s.RoomFor r) := by
  obtain ⟨ref, href, hnamed⟩ := h.named
  have hr := h.refund.1
  obtain ⟨a, ha, hcaptured, -⟩ := payment_of_refund hs.sound hr
  refine commits_processVerifiedRefundRecord hs hexact h.record h.opened hunlinked href
    h.status hnamed (fun hready hQ' => ?_) hQ
  simp only [settleFound_eq, houtcome, commits_bind]
  refine (commits_markRefundUnderReview hready hs.idle hr ha hcaptured
    fun s' hs' => commits_pure.mpr (hQ' s' hs')).trans ?_
  have hroom : s.RoomFor r ↔
      a.refundedMinor + a.inFlightRefundMinor + r.requestedAmountMinor ≤ a.amountMinor := by
    constructor
    · intro hroom
      exact hroom a ha
    · intro hle a' ha'
      cases Option.some.inj (ha.symm.trans ha')
      exact hle
  rw [hroom, ← totalsFit_review_iff hs.sound hexact hr ha code now]
  exact and_congr_left fun _ => validate_review_iff hready.sound hr hcode

variable (hprocessing : r.status = .PROCESSING)

include hprocessing

/-- A success of a refund in processing is closed unless it lies before the request
or cannot mark its booking. -/
theorem commits_succeeded
    (houtcome : w.outcomeFor incoming r = .APPLIED .SUCCEEDED)
    (hQ : ∀ s', s'.refunds = s.refunds.insert id (RefundUpdate.apply r (.succeed now)) →
      s'.webhooks.lookup wid = some ((w.linkedTo id).closedBy (.APPLIED .SUCCEEDED) now) →
      Q (.APPLIED .SUCCEEDED) s') :
    Commits (processVerifiedRefundRecord wid now) s Q ↔
      r.requestedAt ≤ now ∧ s.BookingMarkable r now := by
  obtain ⟨ref, href, hnamed⟩ := h.named
  have hr := h.refund.1
  obtain ⟨a, ha, hcaptured, -⟩ := payment_of_refund hs.sound hr
  obtain ⟨b, hb, -⟩ := booking_of_refund hs.sound hr
  refine commits_processVerifiedRefundRecord hs hexact h.record h.opened hunlinked href
    h.status hnamed (fun hready hQ' => ?_) hQ
  simp only [settleFound_eq, houtcome, commits_bind]
  refine (commits_settleSucceeded hready hs.idle (w.settleInput wid ref incoming now) hr ha
    hcaptured hb fun s' hs' => commits_pure.mpr (hQ' s' hs')).trans ?_
  refine and_congr (validate_succeed_iff hready.sound hr hprocessing) ?_
  have hfit : (s.linked wid w id).TotalsFit id (RefundUpdate.apply r (.succeed now)) a :=
    totalsFit_succeed hs.sound hexact hr ha hprocessing
  have hnone := (outcome_of_processing hs.sound hr hprocessing).1
  have hrefunded : a.refundedMinor = s.refundedSum r.paymentAttemptId :=
    (totals_of_payment hs.sound hexact ha).1
  have hcounts : r.refundedOf r.paymentAttemptId = 0 := by simp [Refund.refundedOf, hnone]
  constructor
  · rintro ⟨-, hmark⟩ a' b' ha' hb' hcovered hconfirmed
    cases Option.some.inj (ha.symm.trans ha')
    cases Option.some.inj (hb.symm.trans hb')
    refine hmark ?_ hconfirmed
    show _ ≤ s.refundedSum _ - _ + _
    rw [hcounts, ← hrefunded]
    linarith
  · intro hmark
    refine ⟨hfit, fun hcovered hconfirmed => hmark a b ha hb ?_ hconfirmed⟩
    replace hcovered : a.amountMinor ≤ s.refundedSum r.paymentAttemptId
      - r.refundedOf r.paymentAttemptId + r.requestedAmountMinor := hcovered
    rw [hcounts, ← hrefunded] at hcovered
    linarith

/-- A failure of a refund in processing is closed unless it lies before the
request. -/
theorem commits_failed
    (houtcome : w.outcomeFor incoming r = .APPLIED .FAILED)
    (hQ : ∀ s', s'.refunds = s.refunds.insert id
        (RefundUpdate.apply r (.fail "PROVIDER_REPORTED_FAILURE" now)) →
      s'.webhooks.lookup wid = some ((w.linkedTo id).closedBy (.APPLIED .FAILED) now) →
      Q (.APPLIED .FAILED) s') :
    Commits (processVerifiedRefundRecord wid now) s Q ↔ r.requestedAt ≤ now := by
  obtain ⟨ref, href, hnamed⟩ := h.named
  have hr := h.refund.1
  obtain ⟨a, ha, hcaptured, -⟩ := payment_of_refund hs.sound hr
  refine commits_processVerifiedRefundRecord hs hexact h.record h.opened hunlinked href
    h.status hnamed (fun hready hQ' => ?_) hQ
  simp only [settleFound_eq, houtcome, commits_bind]
  refine (commits_settleFailed hready hs.idle (w.settleInput wid ref incoming now) hr ha
    hcaptured fun s' hs' => commits_pure.mpr (hQ' s' hs')).trans ?_
  have hfit : (s.linked wid w id).TotalsFit id
      (RefundUpdate.apply r (.fail "PROVIDER_REPORTED_FAILURE" now)) a :=
    totalsFit_fail hs.sound hexact hr ha hprocessing
  refine (and_iff_left hfit).trans (validate_fail_iff hready.sound hr hprocessing ?_)
  decide +kernel

/-- A cancellation is never closed. -/
theorem not_commits_cancelled
    (houtcome : w.outcomeFor incoming r = .APPLIED .CANCELLED) :
    ¬Commits (processVerifiedRefundRecord wid now) s Q := by
  obtain ⟨ref, href, hnamed⟩ := h.named
  have hr := h.refund.1
  obtain ⟨a, ha, hcaptured, -⟩ := payment_of_refund hs.sound hr
  intro hcommits
  have hnever : Commits (processVerifiedRefundRecord wid now) s (fun _ _ => True) ↔ False := by
    refine commits_processVerifiedRefundRecord hs hexact h.record h.opened hunlinked href h.status
      hnamed (fun hready hQ' => ?_) fun s'
        (_ : s'.refunds = s.refunds.insert id (RefundUpdate.apply r (.advance .CANCELLED now)))
        (_ : s'.webhooks.lookup wid = some ((w.linkedTo id).closedBy (.APPLIED .CANCELLED) now)) =>
          trivial
    simp only [settleFound_eq, houtcome, commits_bind]
    refine (commits_settleAdvanced hready hs.idle (w.settleInput wid ref incoming now) hr ha
      hcaptured
      fun s' hs' => commits_pure.mpr (hQ' s' hs')).trans ?_
    rw [iff_false]
    rintro ⟨hvalid, -⟩
    exact not_validate_cancelled hready.sound hr hprocessing hvalid
  exact hnever.mp (hcommits.mono fun _ _ _ => trivial)

end Open

/-! ## §4 The outcome of an event -/

/-- What an outcome writes to the refund. -/
def RefundSettlementOutcome.update (now : Time) : RefundSettlementOutcome → Option RefundUpdate
  | .REVIEW safeCode => some (.review safeCode now)
  | .APPLIED .SUCCEEDED => some (.succeed now)
  | .APPLIED .FAILED => some (.fail "PROVIDER_REPORTED_FAILURE" now)
  | .APPLIED status => some (.advance status now)
  | .IGNORED _ | .UNKNOWN_REFUND => none

/-- The refunds after an outcome. -/
def RefundSettlementOutcome.refunds (outcome : RefundSettlementOutcome) (now : Time) (id : RefundId)
    (r : Refund) (refunds : Table RefundId Refund) : Table RefundId Refund :=
  (outcome.update now).elim refunds fun u => refunds.insert id (u.apply r)

theorem isSafeCode_of_review {current : RefundStatus} {code : Code}
    (h : decideRefundTransition current incoming = .review code) : isSafeCode code = true := by
  have hcode : code = "CONTRADICTORY_REFUND_OUTCOME" ∨ code = "PROVIDER_REQUESTED_REVIEW" := by
    unfold decideRefundTransition at h
    split_ifs at h <;> simp_all
  rcases hcode with rfl | rfl <;> decide +kernel

theorem isSafeCode_of_outcomeFor {code : Code} (h : w.outcomeFor incoming r = .REVIEW code) :
    isSafeCode code = true := by
  unfold PaymentWebhookEvent.outcomeFor at h
  split_ifs at h
  · cases hdecision : decideRefundTransition r.status incoming with
    | review safeCode =>
        rw [hdecision] at h
        cases h
        exact isSafeCode_of_review hdecision
    | _ =>
        rw [hdecision] at h
        cases h
  · cases h
    decide +kernel

/-- Only the event's own status is applied, to a refund that is neither finished nor
under review. -/
theorem applied_of_outcomeFor {status : RefundStatus}
    (h : w.outcomeFor incoming r = .APPLIED status) :
    status = incoming ∧ isTerminalRefundStatus r.status = false ∧ r.status ≠ .REQUIRES_REVIEW ∧
      decideRefundTransition r.status incoming = .apply status := by
  unfold PaymentWebhookEvent.outcomeFor at h
  split_ifs at h
  cases hdecision : decideRefundTransition r.status incoming with
  | apply applied =>
      rw [hdecision] at h
      cases h
      obtain ⟨hincoming, hunfinished, hreview⟩ := decideRefundTransition_apply hdecision
      exact ⟨hincoming, hunfinished, hreview, rfl⟩
  | _ =>
      rw [hdecision] at h
      cases h

/-- Processing a record that is not the open record of an event about a refund
writes neither refunds nor the ledger. -/
theorem ensures_processed_none :
    Ensures (processVerifiedRefundRecord wid now) s fun _ s' =>
      (s'.refunds = s.refunds ∧ s'.ledger = s.ledger) ∨
        ∃ w incoming id r, s.Delivers wid w incoming id r := by
  refine ensures_runInTransaction (ensures_bind.mpr (ensures_lock.mpr ?_))
  refine ensures_bind.mpr (ensures_findOrThrow.mpr fun w hw => ?_)
  split
  · exact ensures_pure.mpr fun _ => .inl ⟨rfl, rfl⟩
  · rename_i hopen
    refine ensures_bind.mpr (ensures_require.mpr fun _ => ?_)
    split
    · rename_i ref incoming href hincoming
      cases hnamed : s.refundNamed ref with
      | some found =>
          have hdelivers : s.Delivers wid w incoming found.1 found.2 :=
            ⟨hw, by simpa using hopen, hincoming, ref, href, hnamed⟩
          exact ensures_bind.mpr fun _ _ _ => ensures_bind.mpr fun _ _ _ =>
            ensures_pure.mpr fun _ => .inr ⟨w, incoming, found.1, found.2, hdelivers⟩
      | none =>
          -- nobody has the identity, so only the record is closed
          refine ensures_bind.mpr (ensures_bind.mpr (ensures_lockMany.mpr ?_))
          rw [show ((Prisma.refund.get s).select fun _ r =>
            r.providerRefundId == some ref).head? = none
            from hnamed]
          refine ensures_pure.mpr (ensures_bind.mpr (ensures_update.mpr fun _ _ _ => ?_))
          exact ensures_pure.mpr fun _ => .inl ⟨rfl, rfl⟩
    · exact ensures_abort.mpr trivial

namespace RefundSystem

variable {sys : RefundSystem}

/-- A refund that an event is about, neither finished nor under review, is in
processing. -/
theorem Reachable.processing (hs : sys.Reachable) (h : sys.db.Delivers wid w incoming id r)
    (hunfinished : isTerminalRefundStatus r.status = false)
    (hreview : r.status ≠ .REQUIRES_REVIEW) :
    r.status = .PROCESSING := by
  obtain ⟨hr, hidentity⟩ := h.refund
  obtain ⟨hrequested, hsubmitting⟩ := hs.attached id r hr hidentity
  cases hstatus : r.status <;> simp_all [isTerminalRefundStatus]

/-- **Processing an event.** In a reachable state, what processing an open record
leaves is told by its outcome, which the event and the refund determine. -/
theorem Reachable.ensures_processed (hs : sys.Reachable)
    (h : sys.db.Delivers wid w incoming id r) :
    Ensures (processVerifiedRefundRecord wid now) sys.db fun outcome s' =>
      outcome = w.outcomeFor incoming r ∧
        s'.refunds = outcome.refunds now id r sys.db.refunds ∧
        s'.webhooks.lookup wid = some ((w.linkedTo id).closedBy outcome now) := by
  have hunlinked := hs.stored.unlinked wid w h.record h.opened
  refine ensures_of_commits fun hcommits => ?_
  cases houtcome : w.outcomeFor incoming r with
  | IGNORED reason =>
      exact commits_ignored hs.kept.consistent hs.kept.exact h hunlinked houtcome
        fun s' hrefunds hclosed => ⟨rfl, hrefunds, hclosed⟩
  | REVIEW code =>
      have hcode := isSafeCode_of_outcomeFor houtcome
      have hadmitted :=
        (commits_escalated hs.kept.consistent hs.kept.exact h hunlinked hcode houtcome
        fun _ _ _ => trivial).mp hcommits
      exact (commits_escalated hs.kept.consistent hs.kept.exact h hunlinked hcode houtcome
        fun s' hrefunds hclosed => ⟨rfl, hrefunds, hclosed⟩).mpr hadmitted
  | APPLIED status =>
      obtain ⟨rfl, hunfinished, hreview, happly⟩ := applied_of_outcomeFor houtcome
      have hprocessing := hs.processing h hunfinished hreview
      cases status with
      | SUCCEEDED =>
          have hadmitted := (commits_succeeded hs.kept.consistent hs.kept.exact h hunlinked
            hprocessing houtcome fun _ _ _ => trivial).mp hcommits
          exact (commits_succeeded hs.kept.consistent hs.kept.exact h hunlinked hprocessing houtcome
            fun s' hrefunds hclosed => ⟨rfl, hrefunds, hclosed⟩).mpr hadmitted
      | FAILED =>
          have hadmitted := (commits_failed hs.kept.consistent hs.kept.exact h hunlinked
            hprocessing houtcome fun _ _ _ => trivial).mp hcommits
          exact (commits_failed hs.kept.consistent hs.kept.exact h hunlinked hprocessing houtcome
            fun s' hrefunds hclosed => ⟨rfl, hrefunds, hclosed⟩).mpr hadmitted
      | CANCELLED =>
          exact absurd hcommits (not_commits_cancelled hs.kept.consistent hs.kept.exact h hunlinked
            hprocessing houtcome)
      | _ =>
          -- a normalised status that advances a refund in processing is an outcome
          have hnormalized := hs.stored.normalized wid w _ h.record h.opened h.status
          rw [hprocessing] at happly
          simp_all [isNormalized_iff, decideRefundTransition, isContradictoryRefundOutcome,
            isTerminalRefundStatus]
  | UNKNOWN_REFUND =>
      unfold PaymentWebhookEvent.outcomeFor at houtcome
      split_ifs at houtcome
      cases hdecision : decideRefundTransition r.status incoming <;>
        simp [hdecision, RefundTransitionDecision.outcome] at houtcome

/-- What one processing of a record does in a reachable state. -/
theorem Reachable.processed_cases {sys' : RefundSystem} (hs : sys.Reachable)
    (h : sys.step (.processWebhook wid now) = some sys') :
    (sys'.db.refunds = sys.db.refunds ∧ sys'.db.ledger = sys.db.ledger) ∨
    ∃ w incoming id r outcome, sys.db.Delivers wid w incoming id r ∧
      (processVerifiedRefundRecord wid now).run sys.db = .ok (outcome, sys'.db) ∧
      outcome = w.outcomeFor incoming r ∧
      sys'.db.refunds = outcome.refunds now id r sys.db.refunds ∧
      sys'.db.webhooks.lookup wid = some ((w.linkedTo id).closedBy outcome now) := by
  cases h
  cases hrun : (processVerifiedRefundRecord wid now).run sys.db with
  | error e => exact .inl (by simp [Program.commit, hrun])
  | ok result =>
      obtain ⟨outcome, db⟩ := result
      rw [commit_of_run hrun]
      rcases ensures_processed_none _ _ hrun with hsame | ⟨w, incoming, id, r, hdelivers⟩
      · exact .inl hsame
      · obtain ⟨houtcome, hrefunds, hclosed⟩ := hs.ensures_processed hdelivers _ _ hrun
        exact .inr ⟨w, incoming, id, r, outcome, hdelivers, rfl, houtcome, hrefunds, hclosed⟩

end RefundSystem

end SeatFlow
