import SeatFlow.Refunds.UnfinishedRefunds

/-!
# Events for finished refunds

A verified event that contradicts a finished refund escalates it. Escalation puts
the refund back among those that count in its payment's totals, and whether there
is room for it depends on what was requested after the refund had ended. The stale
check comes first: it compares the provider's time of the new event with the local
time at which the earlier one was processed, so it also drops an event that is
newer at the provider but was delivered soon.
-/

namespace SeatFlow

open Relational Program Entity

variable {s : Db} {wid : WebhookId} {w : PaymentWebhookEvent} {incoming : RefundStatus}
  {id : RefundId} {r : Refund} {now : Time}

/-! ## §1 Escalation -/

/-- The order is flagged for the operators. -/
def Db.Flagged (db : Db) (orderId : OrderId) : Prop :=
  ∃ o, db.orders.lookup orderId = some o ∧ o.financialReviewState = .REFUND_REVIEW

theorem ensures_flagOrderForReview {refundId : RefundId} {refund : Refund} {safeCode : Code} :
    Ensures (flagOrderForReview refundId refund safeCode now) s fun _ s' =>
      s'.Flagged refund.orderId := by
  refine ensures_bind.mpr (ensures_update.mpr fun o _ _ => ?_)
  refine ensures_bind.mpr (ensures_perform.mpr ?_)
  rintro eff ⟨⟩
  refine ensures_bind.mpr (ensures_insertNew.mpr ⟨fun _ => ?_, fun _ _ => ?_⟩)
  · exact ensures_pure.mpr ⟨_, AList.lookup_insert _, rfl⟩
  · exact ensures_pure.mpr ⟨_, AList.lookup_insert _, rfl⟩

/-- A settlement that escalates flags the order of the refund it found. -/
theorem ensures_settle_flagged {input : SettleInput} :
    Ensures (settleRefundFromVerifiedEvent input) s fun outcome s' =>
      ∀ code, outcome = .REVIEW code →
        ∃ id r, s.refundNamed input.providerRefundId = some (id, r) ∧ s'.Flagged r.orderId := by
  refine ensures_bind.mpr (ensures_lockMany.mpr ?_)
  split
  · exact ensures_pure.mpr (by simp)
  · rename_i refundId r₀ hhead
    obtain ⟨hr₀, -⟩ := Db.lookup_of_refundNamed hhead
    refine ensures_bind.mpr (ensures_findOrThrow.mpr fun refund hrefund => ?_)
    cases Option.some.inj (hr₀.symm.trans hrefund)
    refine ensures_bind.mpr (ensures_update.mpr fun _ _ _ => ?_)
    have hreview : ∀ {safeCode : Code} {s₁ : Db}, Ensures (do
        markRefundUnderReview refundId r₀ safeCode input.now
        pure (RefundSettlementOutcome.REVIEW safeCode)) s₁ fun outcome s' =>
        ∀ code, outcome = .REVIEW code →
          ∃ id r, s.refundNamed input.providerRefundId = some (id, r) ∧ s'.Flagged r.orderId := by
      intro safeCode s₁
      refine ensures_bind.mpr (ensures_bind.mpr (ensures_updateRefundById fun _ _ _ _ _ => ?_))
      exact ensures_flagOrderForReview.mono fun _ _ hflagged => ensures_pure.mpr fun _ _ =>
        ⟨refundId, r₀, hhead, hflagged⟩
    have hother : ∀ {α : Type} {prog : Sql α} {outcome : RefundSettlementOutcome} {s₁ : Db},
        (∀ code, outcome ≠ .REVIEW code) →
        Ensures (do let _ ← prog; pure outcome) s₁ fun outcome s' => ∀ code,
          outcome = .REVIEW code →
            ∃ id r, s.refundNamed input.providerRefundId = some (id, r) ∧ s'.Flagged r.orderId :=
      fun hne => ensures_bind.mpr fun _ _ _ => ensures_pure.mpr fun code hcode =>
        absurd hcode (hne code)
    split
    · exact hreview
    · split
      · exact ensures_pure.mpr (by simp)
      · split
        · exact ensures_pure.mpr (by simp)
        · exact hreview
        · exact hother (by simp)
        · exact hother (by simp)
        · exact hother (by simp)

/-- The transaction that processes an event keeps the flag that its settlement
raised. -/
theorem ensures_processed_flagged (h : s.Delivers wid w incoming id r) :
    Ensures (processVerifiedRefundRecord wid now) s fun outcome s' =>
      ∀ code, outcome = .REVIEW code → s'.Flagged r.orderId := by
  obtain ⟨ref, href, hnamed⟩ := h.named
  refine ensures_runInTransaction (ensures_bind.mpr (ensures_lock.mpr ?_))
  refine ensures_bind.mpr (ensures_findOrThrow.mpr fun w' hw' => ?_)
  cases Option.some.inj (h.record.symm.trans hw')
  split
  · exact ensures_pure.mpr (by simp)
  · refine ensures_bind.mpr (ensures_require.mpr fun _ => ?_)
    split
    · rename_i ref' incoming' href' _
      cases Option.some.inj (href.symm.trans href')
      refine ensures_bind.mpr (ensures_settle_flagged.mono fun outcome s₁ hsettled => ?_)
      refine ensures_bind.mpr (ensures_update.mpr fun _ _ _ => ensures_pure.mpr fun _ => ?_)
      intro code hcode
      obtain ⟨id', r', hnamed', hflagged⟩ := hsettled code hcode
      cases Option.some.inj (hnamed.symm.trans hnamed')
      exact hflagged
    · exact ensures_abort.mpr trivial

/-- The refund is under review, the event's record says so, and the order is
flagged. -/
structure Db.Escalated (db : Db) (webhookId : WebhookId) (id : RefundId) (orderId : OrderId) :
    Prop where
  refund : ∃ r, db.refunds.lookup id = some r ∧ r.status = .REQUIRES_REVIEW
  record : ∃ w, db.webhooks.lookup webhookId = some w ∧ w.processingStatus = .REQUIRES_REVIEW
  order : db.Flagged orderId

theorem Db.Delivers.not_escalated (h : s.Delivers wid w incoming id r) {orderId : OrderId} :
    ¬s.Escalated wid id orderId := by
  intro hescalated
  obtain ⟨w', hw', hreview⟩ := hescalated.record
  exact h.not_closed ⟨w', hw', by rw [hreview]; rfl⟩

namespace RefundSystem

variable {sys₀ sys : RefundSystem}

/-- When an escalation commits, and what it leaves. -/
theorem commits_escalation_iff (hs : sys.Reachable) (h : sys.db.Delivers wid w incoming id r)
    {code : Code} (houtcome : w.outcomeFor incoming r = .REVIEW code)
    {Q : RefundSettlementOutcome → Db → Prop}
    (hQ : ∀ s', s'.Escalated wid id r.orderId → Q (.REVIEW code) s') :
    Commits (processVerifiedRefundRecord wid now) sys.db Q ↔
      r.requestedAt ≤ now ∧ (r.coversSeats = true ∨ sys.db.RoomFor r) := by
  have hunlinked := hs.stored.unlinked wid w h.record h.opened
  have hany : Commits (processVerifiedRefundRecord wid now) sys.db (fun _ _ => True) ↔
      r.requestedAt ≤ now ∧ (r.coversSeats = true ∨ sys.db.RoomFor r) :=
    commits_escalated hs.kept.consistent hs.kept.exact h hunlinked
      (isSafeCode_of_outcomeFor houtcome) houtcome fun _ _ _ => trivial
  rw [← hany]
  constructor
  · intro hescalated
    exact hescalated.mono fun _ _ _ => trivial
  · intro hcommits
    refine ((hcommits.and_ensures (hs.ensures_processed h)).and_ensures
      (ensures_processed_flagged h)).mono ?_
    rintro outcome s' ⟨⟨-, rfl, hrefunds, hclosed⟩, hflagged⟩
    rw [houtcome] at hrefunds hclosed hflagged ⊢
    have hrefund : s'.refunds.lookup id = some (RefundUpdate.apply r (.review code now)) := by
      rw [hrefunds]
      exact AList.lookup_insert _
    exact hQ s' ⟨⟨_, hrefund, rfl⟩, ⟨_, hclosed, rfl⟩, hflagged code rfl⟩

/-- **Contradictions on finished refunds.** In every reachable state, an event that
contradicts a finished refund escalates it exactly when the refund counts in its
payment's totals already, having succeeded, or there is room for it beside what was
requested since, and the clock is not behind its request. -/
theorem escalated_iff_room (hfresh : sys₀.Fresh) (hreach : Reaches step NormalizedEvents sys₀ sys)
    (h : sys.db.Delivers wid w incoming id r) (hfinished : isTerminalRefundStatus r.status = true)
    (hmatching : w.Matching r)
    (hcurrent : isStaleProviderEvent (r.succeededAt.or r.failedAt) w.providerOccurredAt = false)
    {code : Code} (hreview : decideRefundTransition r.status incoming = .review code) :
    ((processVerifiedRefundRecord wid now).commit sys.db).Escalated wid id r.orderId ↔
      r.requestedAt ≤ now ∧ (r.succeededAt.isSome = true ∨ sys.db.RoomFor r) := by
  have hs := hfresh.reaches hreach
  have hcovers : r.coversSeats = r.succeededAt.isSome := by
    have hreleased : isInFlightRefundStatus r.status = false := by
      cases hstatus : r.status <;> simp_all [isTerminalRefundStatus, isInFlightRefundStatus]
    simp [Refund.coversSeats, hreleased]
  have houtcome : w.outcomeFor incoming r = .REVIEW code := by
    rw [outcomeFor_current hmatching hcurrent, hreview]
    rfl
  rw [← hcovers]
  exact (commit_iff_commits (Q := fun s' : Db => s'.Escalated wid id r.orderId)
    h.not_escalated).trans
      (commits_escalation_iff hs h houtcome fun _ hescalated => hescalated)

/-- A later event of the provider about the first seat's refund. -/
def secondReport (status : RefundStatus) (occurredAt : Time) : RefundAction :=
  .storeWebhook .STRIPE
    { firstSeatSucceeded with
      providerEventId := 82
      status := status
      occurredAt := some occurredAt } 92 240

theorem escalated_iff_room_succeeded :
    ∃ sys, Reaches step NormalizedEvents capturedStart sys ∧
      ((processVerifiedRefundRecord 92 245).commit sys.db).Escalated 92 1 1 := by
  have hrun : (execute (guarded step fun s a => decide (s.NormalizedEvents a))
      (submittedAndReported .SUCCEEDED ++ [.processWebhook 91 230, secondReport .FAILED 235])
      capturedStart).any (fun sys =>
        (sys.db.webhooks.lookup 92).any fun w => (sys.db.refunds.lookup 1).any fun r =>
          decide (sys.db.Delivers 92 w .FAILED 1 r ∧ r.status = .SUCCEEDED ∧ w.Matching r ∧
            isStaleProviderEvent (r.succeededAt.or r.failedAt) w.providerOccurredAt = false ∧
            r.orderId = 1 ∧ r.requestedAt ≤ 245 ∧ r.succeededAt.isSome = true)) = true := by
    decide +kernel
  obtain ⟨sys, hsys, hcheck⟩ := (Option.any_eq_true _ _).mp hrun
  obtain ⟨w, hw, hcheck⟩ := (Option.any_eq_true _ _).mp hcheck
  obtain ⟨r, hr, hcheck⟩ := (Option.any_eq_true _ _).mp hcheck
  obtain ⟨hdelivers, hstatus, hmatching, hcurrent, horder, hadmitted⟩ := of_decide_eq_true hcheck
  have hreach := reaches_of_normalized hsys
  have hreview :
      decideRefundTransition r.status .FAILED = .review "CONTRADICTORY_REFUND_OUTCOME" := by
    rw [hstatus]
    rfl
  refine ⟨sys, hreach, ?_⟩
  exact horder ▸ (escalated_iff_room capturedStart_fresh hreach hdelivers (by rw [hstatus]; rfl)
    hmatching hcurrent hreview).mpr ⟨hadmitted.1, .inl hadmitted.2⟩

/-- A refund fails, its seat is refunded anew, and then the provider reports that the
first refund succeeded after all: the escalation would exceed the payment. -/
theorem contradiction_rejected :
    ∃ sys, Reaches step NormalizedEvents capturedStart sys ∧
      ∃ w r, sys.db.Delivers 92 w .SUCCEEDED 1 r ∧ r.status = .FAILED ∧ w.Matching r ∧
        isStaleProviderEvent (r.succeededAt.or r.failedAt) w.providerOccurredAt = false ∧
        decideRefundTransition r.status .SUCCEEDED = .review "CONTRADICTORY_REFUND_OUTCOME" ∧
        ¬((processVerifiedRefundRecord 92 245).commit sys.db).Escalated 92 1 r.orderId := by
  have hrun : (execute (guarded step fun s a => decide (s.NormalizedEvents a))
      (submittedAndReported .FAILED ++ [.processWebhook 91 230] ++
        requestAndSubmit { userId := 2, role := .PLATFORM_ADMIN } 1 2 2 (.accepts 72 none) ++
        [secondReport .SUCCEEDED 235]) capturedStart).any (fun sys =>
        ((sys.db.webhooks.lookup 92).any fun w => (sys.db.refunds.lookup 1).any fun r =>
          decide (sys.db.Delivers 92 w .SUCCEEDED 1 r ∧ r.status = .FAILED ∧ w.Matching r ∧
            isStaleProviderEvent (r.succeededAt.or r.failedAt) w.providerOccurredAt = false ∧
            decideRefundTransition r.status .SUCCEEDED = .review "CONTRADICTORY_REFUND_OUTCOME")) &&
          (((processVerifiedRefundRecord 92 245).commit sys.db).refunds.lookup 1).all fun r =>
            r.status != .REQUIRES_REVIEW) = true := by
    decide +kernel
  obtain ⟨sys, hsys, hcheck⟩ := (Option.any_eq_true _ _).mp hrun
  rw [Bool.and_eq_true] at hcheck
  obtain ⟨w, hw, hdelivers⟩ := (Option.any_eq_true _ _).mp hcheck.1
  obtain ⟨r, hr, hdelivers⟩ := (Option.any_eq_true _ _).mp hdelivers
  obtain ⟨hdelivers, hstatus, hmatching, hcurrent, hreview⟩ := of_decide_eq_true hdelivers
  refine ⟨sys, reaches_of_normalized hsys, w, r, hdelivers, hstatus, hmatching, hcurrent,
    hreview, ?_⟩
  intro hescalated
  obtain ⟨r', hr', hstatus'⟩ := hescalated.refund
  have hother := (Option.all_eq_true _ _).mp hcheck.2 r' hr'
  simp [hstatus'] at hother

/-! ## §2 Stale events -/

/-- A refund keeps its identity and its outcome through a run. -/
theorem evolves_of_reaches {ok : RefundSystem → RefundAction → Prop} {sys' : RefundSystem}
    (hreach : Reaches step ok sys sys') (hr : sys.db.refunds.lookup id = some r) :
    ∃ r', sys'.db.refunds.lookup id = some r' ∧ Refund.Evolves r r' := by
  refine hreach.invariant (I := fun t => ∃ r', t.db.refunds.lookup id = some r' ∧
    Refund.Evolves r r') ⟨r, hr, .refl r⟩ ?_
  rintro t a t' - hstep ⟨r₁, hr₁, hevolves₁⟩
  obtain ⟨r₂, hr₂, hevolves₂⟩ := refund_evolves (db_steps hstep) hr₁
  exact ⟨r₂, hr₂, hevolves₁.trans hevolves₂⟩

/-- An applied outcome is stamped with the local time at which its event was
processed. -/
theorem Reachable.outcome_time (hs : sys.Reachable) (h : sys.db.Delivers wid w incoming id r)
    {status : RefundStatus} {db' : Db}
    (happlied : (processVerifiedRefundRecord wid now).run sys.db = .ok (.APPLIED status, db'))
    (hterminal : isTerminalRefundStatus status = true) :
    ∃ r', db'.refunds.lookup id = some r' ∧ r'.status = status ∧
      r'.succeededAt.or r'.failedAt = some now := by
  obtain ⟨houtcome, hrefunds, -⟩ := hs.ensures_processed h _ _ happlied
  obtain ⟨rfl, hunfinished, hreview, -⟩ := applied_of_outcomeFor houtcome.symm
  have hprocessing := hs.processing h hunfinished hreview
  have hnone := (outcome_of_processing hs.kept.consistent.sound h.refund.1 hprocessing).1
  cases status with
  | SUCCEEDED =>
      refine ⟨RefundUpdate.apply r (.succeed now), ?_, rfl, rfl⟩
      rw [hrefunds]
      exact AList.lookup_insert _
  | FAILED =>
      refine ⟨RefundUpdate.apply r (.fail "PROVIDER_REPORTED_FAILURE" now), ?_, rfl, ?_⟩
      · rw [hrefunds]
        exact AList.lookup_insert _
      · simp [RefundUpdate.apply, hnone]
  | CANCELLED =>
      have hunlinked := hs.stored.unlinked wid w h.record h.opened
      have hcommits : Commits (processVerifiedRefundRecord wid now) sys.db fun _ _ => True :=
        ⟨_, _, happlied, trivial⟩
      exact absurd hcommits (not_commits_cancelled hs.kept.consistent hs.kept.exact h hunlinked
        hprocessing houtcome.symm)
  | _ => cases hterminal

/-- The outcome's time is never overwritten, and it is the only one. -/
theorem outcome_time_of_evolves {r' : Refund} (hevolves : Refund.Evolves r r')
    (hexclusive : r'.outcomeExclusivityCheck = true) {t : Time}
    (htime : r.succeededAt.or r.failedAt = some t) : r'.succeededAt.or r'.failedAt = some t := by
  cases hsucceeded : r.succeededAt with
  | some t' =>
      have hkept := hevolves.succeeded (by simp [hsucceeded])
      rw [hsucceeded] at hkept htime
      rw [hkept]
      exact htime
  | none =>
      rw [hsucceeded, Option.none_or] at htime
      have hkept := (hevolves.failed (by simp [htime])).trans htime
      have hnone : r'.succeededAt = none := by
        simp only [Refund.outcomeExclusivityCheck, hkept] at hexclusive
        cases hsome : r'.succeededAt with
        | none => rfl
        | some t' =>
            simp only [hsome, Option.isSome_some, Bool.toNat_true, decide_eq_true_eq] at hexclusive
            omega
      rw [hnone, hkept, Option.none_or]

/-- **Contradicting events.** Let an event be applied to a refund that it finishes,
and let a contradicting event of the right amount, later at the provider, be
processed in any state reached from there. It is recorded and leaves the refund
under review exactly when it is not before the local time at which the first was
processed, and the refund is under review already or can be escalated. -/
theorem contradiction_recorded_iff {sys₁ sys₂ : RefundSystem} {wid₁ wid₂ : WebhookId}
    {w₁ w₂ : PaymentWebhookEvent} {incoming₁ incoming₂ status₁ : RefundStatus} {r₁ r₂ : Refund}
    {now₁ now₂ occurredAt₁ occurredAt₂ : Time} {db₁ : Db} (hfresh : sys₀.Fresh)
    (hreach₁ : Reaches step NormalizedEvents sys₀ sys₁)
    (h₁ : sys₁.db.Delivers wid₁ w₁ incoming₁ id r₁)
    (happlied : (processVerifiedRefundRecord wid₁ now₁).run sys₁.db = .ok (.APPLIED status₁, db₁))
    (hterminal₁ : isTerminalRefundStatus status₁ = true)
    (hreach₂ : Reaches step NormalizedEvents { sys₁ with db := db₁ } sys₂)
    (h₂ : sys₂.db.Delivers wid₂ w₂ incoming₂ id r₂) (hmatching : w₂.Matching r₂)
    (hterminal₂ : isTerminalRefundStatus incoming₂ = true) (hcontradicts : incoming₂ ≠ status₁)
    (_ : w₁.providerOccurredAt = some occurredAt₁)
    (hoccurred : w₂.providerOccurredAt = some occurredAt₂)
    (_ : occurredAt₁ < occurredAt₂) :
    Commits (processVerifiedRefundRecord wid₂ now₂) sys₂.db (fun outcome s' =>
        outcome ≠ .IGNORED "STALE_PROVIDER_EVENT" ∧
          ∃ r, s'.refunds.lookup id = some r ∧ r.status = .REQUIRES_REVIEW) ↔
      now₁ ≤ occurredAt₂ ∧ (r₂.status = .REQUIRES_REVIEW ∨
        r₂.requestedAt ≤ now₂ ∧ (r₂.succeededAt.isSome = true ∨ sys₂.db.RoomFor r₂)) := by
  have hs₁ := hfresh.reaches hreach₁
  have hstep : sys₁.step (.processWebhook wid₁ now₁) = some { sys₁ with db := db₁ } := by
    simp only [step, commit_of_run happlied]
  have hs₂ := (hs₁.step (a := .processWebhook wid₁ now₁) trivial hstep).reaches hreach₂
  -- the refund carries the local time of the first event, for good
  obtain ⟨r₁', hr₁', hstatus₁, htime₁⟩ := hs₁.outcome_time h₁ happlied hterminal₁
  obtain ⟨r, hr, hevolves⟩ := evolves_of_reaches hreach₂ hr₁'
  obtain rfl : r = r₂ := Option.some.inj (hr.symm.trans h₂.refund.1)
  have hrow := hs₂.kept.consistent.sound.refunds.row id r hr
  have htime := outcome_time_of_evolves hevolves hrow.exclusive htime₁
  have hunlinked := hs₂.stored.unlinked wid₂ w₂ h₂.record h₂.opened
  have hstale : isStaleProviderEvent (r.succeededAt.or r.failedAt) w₂.providerOccurredAt
      = decide (occurredAt₂ < now₁) := by
    simp [htime, hoccurred, isStaleProviderEvent]
  by_cases holder : occurredAt₂ < now₁
  · have houtcome : w₂.outcomeFor incoming₂ r = .IGNORED "STALE_PROVIDER_EVENT" := by
      simp [PaymentWebhookEvent.outcomeFor, hmatching, hstale, holder]
    constructor
    · rintro ⟨outcome, s', hrun, hnotStale, -⟩
      exact absurd ((hs₂.ensures_processed h₂ _ _ hrun).1.trans houtcome) hnotStale
    · rintro ⟨hle, -⟩
      exact absurd hle (not_le.mpr holder)
  · have hdecided :
        w₂.outcomeFor incoming₂ r = (decideRefundTransition r.status incoming₂).outcome :=
      outcomeFor_current hmatching (by simp [hstale, holder])
    rw [and_iff_right (not_lt.mp holder)]
    rcases hevolves.terminal (hstatus₁ ▸ hterminal₁) with hsame | hreview
    · have hstatus := hsame.trans hstatus₁
      have hcontra : decideRefundTransition r.status incoming₂
          = .review "CONTRADICTORY_REFUND_OUTCOME" := by
        rw [hstatus]
        have hne := hcontradicts.symm
        cases status₁ <;> simp_all [decideRefundTransition, isContradictoryRefundOutcome,
          isTerminalRefundStatus]
      rw [hcontra] at hdecided
      have hreleased : isInFlightRefundStatus r.status = false := by
        rw [hstatus]
        cases status₁ <;> simp_all [isTerminalRefundStatus, isInFlightRefundStatus]
      have hcovers : r.coversSeats = r.succeededAt.isSome := by
        simp [Refund.coversSeats, hreleased]
      have hnotReview : r.status ≠ .REQUIRES_REVIEW := by
        rintro hreview
        rw [hreview] at hreleased
        cases hreleased
      rw [← hcovers, or_iff_right hnotReview]
      exact commits_escalation_iff hs₂ h₂ hdecided fun s' hescalated => ⟨by simp, hescalated.refund⟩
    · have hignored : w₂.outcomeFor incoming₂ r = .IGNORED "ALREADY_UNDER_REVIEW" := by
        rw [hdecided, hreview]
        rfl
      refine iff_of_true ?_ (.inl hreview)
      refine commits_ignored hs₂.kept.consistent hs₂.kept.exact h₂ hunlinked hignored
        fun s' hrefunds _ => ⟨by simp, r, ?_, hreview⟩
      rwa [hrefunds]

theorem contradiction_recorded_iff_later :
    ∃ sys, Reaches step NormalizedEvents capturedStart sys ∧
      Commits (processVerifiedRefundRecord 92 245) sys.db fun outcome s' =>
        outcome ≠ .IGNORED "STALE_PROVIDER_EVENT" ∧
          ∃ r, s'.refunds.lookup 1 = some r ∧ r.status = .REQUIRES_REVIEW := by
  have hrun : (execute (guarded step fun s a => decide (s.NormalizedEvents a))
      (submittedAndReported .SUCCEEDED) capturedStart).any (fun sys =>
        ((sys.db.webhooks.lookup 91).any fun w => (sys.db.refunds.lookup 1).any fun r =>
          decide (sys.db.Delivers 91 w .SUCCEEDED 1 r ∧ w.providerOccurredAt = some 215)) &&
        match (processVerifiedRefundRecord 91 230).run sys.db with
        | .ok (outcome, db) => decide (outcome = .APPLIED .SUCCEEDED) &&
            (execute (guarded step fun s a => decide (s.NormalizedEvents a))
              [secondReport .FAILED 235] { sys with db := db }).any fun sys =>
                (sys.db.webhooks.lookup 92).any fun w => (sys.db.refunds.lookup 1).any fun r =>
                  decide (sys.db.Delivers 92 w .FAILED 1 r ∧ w.Matching r ∧
                    w.providerOccurredAt = some 235 ∧ r.requestedAt ≤ 245 ∧
                    r.succeededAt.isSome = true)
        | .error _ => false) = true := by
    decide +kernel
  obtain ⟨sys₁, hsys₁, hcheck⟩ := (Option.any_eq_true _ _).mp hrun
  rw [Bool.and_eq_true] at hcheck
  obtain ⟨w₁, hw₁, hfirst⟩ := (Option.any_eq_true _ _).mp hcheck.1
  obtain ⟨r₁, hr₁, hfirst⟩ := (Option.any_eq_true _ _).mp hfirst
  obtain ⟨hdelivers₁, hoccurred₁⟩ := of_decide_eq_true hfirst
  obtain ⟨-, hcheck⟩ := hcheck
  split at hcheck
  · rename_i outcome db₁ happlied
    rw [Bool.and_eq_true] at hcheck
    cases of_decide_eq_true hcheck.1
    obtain ⟨sys₂, hsys₂, hsecond⟩ := (Option.any_eq_true _ _).mp hcheck.2
    obtain ⟨w₂, hw₂, hsecond⟩ := (Option.any_eq_true _ _).mp hsecond
    obtain ⟨r₂, hr₂, hsecond⟩ := (Option.any_eq_true _ _).mp hsecond
    obtain ⟨hdelivers₂, hmatching, hoccurred₂, hrequested, hsucceeded⟩ := of_decide_eq_true hsecond
    have hreach₁ := reaches_of_normalized hsys₁
    have hreach₂ := reaches_of_normalized hsys₂
    have hstep : sys₁.step (.processWebhook 91 230) = some { sys₁ with db := db₁ } := by
      simp only [step, commit_of_run happlied]
    exact ⟨sys₂, (hreach₁.tail ⟨.processWebhook 91 230, trivial, hstep⟩).trans hreach₂,
      (contradiction_recorded_iff capturedStart_fresh hreach₁ hdelivers₁ happlied rfl hreach₂
        hdelivers₂ hmatching rfl (by simp) hoccurred₁ hoccurred₂ (by decide)).mpr
          ⟨by decide, .inr ⟨hrequested, .inl hsucceeded⟩⟩⟩
  · cases hcheck

/-- The provider reports a success that occurred at 215 and is processed at 230, and
then a failure that occurred at 220: the failure is newer, and is dropped as stale. -/
theorem contradiction_dropped :
    ∃ sys, Reaches step NormalizedEvents capturedStart sys ∧
      ∃ w₁ w₂ r, sys.db.webhooks.lookup 91 = some w₁ ∧ w₁.processingStatus = .PROCESSED ∧
        w₁.normalizedRefundStatus = some .SUCCEEDED ∧ w₁.providerOccurredAt = some 215 ∧
        sys.db.Delivers 92 w₂ .FAILED 1 r ∧ r.status = .SUCCEEDED ∧ w₂.Matching r ∧
        w₂.providerOccurredAt = some 220 ∧
        Commits (processVerifiedRefundRecord 92 245) sys.db fun outcome s' =>
          outcome = .IGNORED "STALE_PROVIDER_EVENT" ∧
            (s'.refunds.lookup 1).map (·.status) = some .SUCCEEDED := by
  have hrun : (execute (guarded step fun s a => decide (s.NormalizedEvents a))
      (submittedAndReported .SUCCEEDED ++ [.processWebhook 91 230, secondReport .FAILED 220])
      capturedStart).any (fun sys =>
        (sys.db.webhooks.lookup 91).any fun w₁ => (sys.db.webhooks.lookup 92).any fun w₂ =>
          (sys.db.refunds.lookup 1).any fun r =>
            decide (w₁.processingStatus = .PROCESSED ∧ w₁.normalizedRefundStatus = some .SUCCEEDED ∧
              w₁.providerOccurredAt = some (215 : Time) ∧ sys.db.Delivers 92 w₂ .FAILED 1 r ∧
              r.status = .SUCCEEDED ∧ w₂.Matching r ∧ w₂.providerOccurredAt = some (220 : Time)) &&
            match (processVerifiedRefundRecord 92 245).run sys.db with
            | .ok (outcome, s') => decide (outcome = .IGNORED "STALE_PROVIDER_EVENT" ∧
                (s'.refunds.lookup 1).map (·.status) = some .SUCCEEDED)
            | .error _ => false) = true := by
    decide +kernel
  obtain ⟨sys, hsys, hcheck⟩ := (Option.any_eq_true _ _).mp hrun
  obtain ⟨w₁, hw₁, hcheck⟩ := (Option.any_eq_true _ _).mp hcheck
  obtain ⟨w₂, hw₂, hcheck⟩ := (Option.any_eq_true _ _).mp hcheck
  obtain ⟨r, hr, hcheck⟩ := (Option.any_eq_true _ _).mp hcheck
  rw [Bool.and_eq_true] at hcheck
  obtain ⟨hprocessed, hstatus, hoccurred, hdelivers, hsucceeded, hmatching, hlater⟩ :=
    of_decide_eq_true hcheck.1
  refine ⟨sys, reaches_of_normalized hsys, w₁, w₂, r, hw₁, hprocessed, hstatus,
    hoccurred, hdelivers,
    hsucceeded, hmatching, hlater, ?_⟩
  obtain ⟨-, hignored⟩ := hcheck
  split at hignored
  · rename_i outcome s' hresult
    exact ⟨outcome, s', hresult, of_decide_eq_true hignored⟩
  · cases hignored

end RefundSystem

end SeatFlow
