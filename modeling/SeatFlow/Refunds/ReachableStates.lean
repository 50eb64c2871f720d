import SeatFlow.Refunds.Ambiguity
import SeatFlow.Refunds.Consistency
import SeatFlow.Refunds.Frames

/-!
# Reachable states of the refund system

What holds in every state that a run reaches from a consistent database without
refunds: the database is consistent and its totals exact, a webhook record that
is not closed is linked to no refund, and a refund with an external identity has
been submitted. The adapters normalise every event before it is stored.
-/

namespace SeatFlow

open Relational Program Entity

/-- A status that the adapters' normalisation can produce. -/
def IsNormalized (status : RefundStatus) : Prop :=
  ∃ value, normalizeProviderRefundStatus value = .ok (some status)

theorem IsNormalized.cases {status : RefundStatus} (h : IsNormalized status) :
    status = .PROCESSING ∨ status = .SUCCEEDED ∨ status = .FAILED ∨ status = .CANCELLED ∨
      status = .REQUIRES_REVIEW := by
  obtain ⟨value, hvalue⟩ := h
  unfold normalizeProviderRefundStatus at hvalue
  cases hlookup : normalizedRefundStatuses.lookup (normalizedWord value) with
  | none =>
      rw [hlookup] at hvalue
      dsimp only at hvalue
      split at hvalue <;> cases hvalue
  | some found =>
      rw [hlookup] at hvalue
      cases hvalue
      obtain ⟨before, after, hsplit, -⟩ := List.lookup_eq_some_iff.mp hlookup
      have hmem : (normalizedWord value, status) ∈ normalizedRefundStatuses := by
        rw [hsplit]
        simp
      revert hmem
      cases status <;> simp [normalizedRefundStatuses]

/-- Every status but those of a refund that is not submitted can be produced. -/
theorem isNormalized_iff {status : RefundStatus} :
    IsNormalized status ↔ status ≠ .REQUESTED ∧ status ≠ .SUBMITTING := by
  constructor
  · intro h
    rcases h.cases with rfl | rfl | rfl | rfl | rfl <;> simp
  · rintro ⟨hrequested, hsubmitting⟩
    cases status with
    | REQUESTED => exact absurd rfl hrequested
    | SUBMITTING => exact absurd rfl hsubmitting
    | PROCESSING => exact ⟨"processing", by decide +kernel⟩
    | SUCCEEDED => exact ⟨"succeeded", by decide +kernel⟩
    | FAILED => exact ⟨"failed", by decide +kernel⟩
    | CANCELLED => exact ⟨"canceled", by decide +kernel⟩
    | REQUIRES_REVIEW => exact ⟨"requires_review", by decide +kernel⟩

instance (status : RefundStatus) : Decidable (IsNormalized status) :=
  decidable_of_iff _ isNormalized_iff.symm

namespace RefundSystem

variable {sys sys' : RefundSystem}

/-! ## §1 Consistency -/

/-- Every action runs at most one refund transaction. -/
theorem db_transaction {a : RefundAction} (h : sys.step a = some sys') :
    sys'.db = sys.db ∨ ∃ t : RefundTransaction, sys'.db = t.program.commit sys.db := by
  cases a with
  | requestRefund actor input fresh now =>
      cases h
      exact .inr ⟨.requestRefund actor input fresh now, (commit_drop _ _).symm⟩
  | claim id provider refundId now =>
      have hclaim : ∀ {claimed : Option ClaimedRefund} {db : Db},
          (claimRefundForSubmission refundId now).run sys.db = .ok (claimed, db) →
          db = (RefundTransaction.claimRefundForSubmission refundId now).program.commit sys.db :=
        fun hrun => (commit_of_run hrun).symm.trans (commit_drop _ _).symm
      rcases step_claim h with ⟨db, hrun, rfl⟩ | ⟨claimed, db, hrun, -, rfl⟩
      · exact .inr ⟨_, hclaim hrun⟩
      · exact .inr ⟨_, hclaim hrun⟩
  | createRefund id outcome =>
      obtain ⟨_, _, _, _, _, -, rfl, -⟩ := step_createRefund h
      exact .inl rfl
  | completeAttempt id =>
      obtain ⟨claimed, provider, now, answer, db, -, hrun, rfl⟩ := step_completeAttempt h
      cases answer with
      | returned ref =>
          exact .inr ⟨.completeAttempt claimed.id claimed.attemptNumber .SUCCEEDED
            (some ref) none now,
            (commit_of_run hrun).symm⟩
      | threw message =>
          exact .inr ⟨.completeAttempt claimed.id claimed.attemptNumber
            (if isAmbiguousFailure message then .TIMEOUT else .FAILED) none
            (some (safeCodeFrom message)) now, (commit_of_run hrun).symm⟩
  | finish id =>
      obtain ⟨claimed, provider, now, answer, hlook, rfl⟩ := step_finish h
      refine .inr ?_
      cases answer with
      | returned ref => exact ⟨.recordSubmission claimed provider ref now, rfl⟩
      | threw message =>
          by_cases hambiguous : isAmbiguousFailure message = true
          · exact ⟨.markSubmissionAmbiguous claimed now, by
              simp [finishSubmission, hambiguous, RefundTransaction.program]⟩
          · exact ⟨.failRefund claimed.id (safeCodeFrom message) now, by
              simp [finishSubmission, hambiguous, RefundTransaction.program]⟩
  | selectAmbiguous provider batchSize =>
      cases h
      exact .inl rfl
  | inspect refundId listed =>
      rcases (step_inspect h).2 with ⟨-, rfl⟩ | ⟨_, -, rfl⟩ <;> exact .inl rfl
  | adopt refundId ref =>
      obtain ⟨-, rfl⟩ := step_adopt h
      exact .inr ⟨.adoptExternalRefund refundId ref, rfl⟩
  | storeWebhook provider event fresh now =>
      cases h
      exact .inr ⟨.storeVerifiedFinancialWebhook provider event fresh now, (commit_drop _ _).symm⟩
  | processWebhook webhookId now =>
      cases h
      exact .inr ⟨.processVerifiedRefundRecord webhookId now, (commit_drop _ _).symm⟩

/-- A consistent database with exact totals. -/
structure Kept (db : Db) : Prop where
  consistent : db.Consistent
  exact : ∀ p, paymentAggregate.Faithful db p

theorem Kept.step {a : RefundAction} (hs : Kept sys.db) (h : sys.step a = some sys') :
    Kept sys'.db := by
  rcases db_transaction h with heq | ⟨t, heq⟩
  · rwa [heq]
  · rw [heq]
    exact ⟨(steps_keeping.mp t.consistent _ hs.consistent).commit hs.consistent,
      (t.refreshing.ensures _ hs.exact).commit hs.exact⟩

/-! ## §2 Webhook records -/

/-- An action other than processing leaves a part of the database alone, unless it
writes the part's own rows: a requested refund, a stored event. -/
theorem framed_of_step {γ : Type} {part : Db → γ} (hpart : RefundFrame part) {a : RefundAction}
    (h : sys.step a = some sys')
    (hrequest : ∀ actor input fresh now, a = .requestRefund actor input fresh now →
      Prisma.refund.Free (Framing part))
    (hstore : ∀ provider event fresh now, a = .storeWebhook provider event fresh now →
      Prisma.paymentWebhookEvent.Free (Framing part))
    (hprocess : ∀ webhookId now, a ≠ .processWebhook webhookId now) :
    part sys'.db = part sys.db := by
  have hcommit : ∀ {α : Type} {p : Sql α}, p.Steps (Framing part) →
      part (p.commit sys.db) = part sys.db := by
    intro α p hp
    exact Ensures.commit (Q := fun s => part s = part sys.db) (hp.framed sys.db) rfl
  cases a with
  | requestRefund actor input fresh now =>
      cases h
      exact hcommit (framed_requestRefund hpart (hrequest _ _ _ _ rfl) _ _ _ _)
  | claim id provider refundId now =>
      have hframed := (framed_claimRefundForSubmission hpart refundId now).framed sys.db
      rcases step_claim h with ⟨db, hrun, rfl⟩ | ⟨claimed, db, hrun, -, rfl⟩
      · exact hframed _ _ hrun
      · exact hframed _ _ hrun
  | createRefund id outcome =>
      obtain ⟨_, _, _, _, _, -, rfl, -⟩ := step_createRefund h
      rfl
  | completeAttempt id =>
      obtain ⟨claimed, provider, now, answer, db, -, hrun, rfl⟩ := step_completeAttempt h
      cases answer with
      | returned ref => exact (framed_completeAttempt hpart _ _ _ _ _ _).framed sys.db _ _ hrun
      | threw message => exact (framed_completeAttempt hpart _ _ _ _ _ _).framed sys.db _ _ hrun
  | finish id =>
      obtain ⟨claimed, provider, now, answer, hlook, rfl⟩ := step_finish h
      cases answer with
      | returned ref => exact hcommit (framed_recordSubmission hpart _ _ _ _)
      | threw message =>
          refine hcommit ?_
          unfold finishSubmission
          dsimp only
          split
          · exact framed_markSubmissionAmbiguous hpart _ _
          · exact framed_failRefund hpart _ _ _
  | selectAmbiguous provider batchSize =>
      cases h
      rfl
  | inspect refundId listed =>
      rcases (step_inspect h).2 with ⟨-, rfl⟩ | ⟨_, -, rfl⟩ <;> rfl
  | adopt refundId ref =>
      obtain ⟨-, rfl⟩ := step_adopt h
      exact hcommit (framed_adoptExternalRefund hpart _ _)
  | storeWebhook provider event fresh now =>
      cases h
      have hinsert := hstore _ _ _ _ rfl
      refine hcommit (steps_findMany.bind fun attempts => steps_findMany.bind fun existing => ?_)
      split
      · exact steps_pure
      · exact hinsert.insert.bind fun _ => steps_pure
  | processWebhook webhookId now => exact absurd rfl (hprocess webhookId now)

end RefundSystem

/-- Storing an event inserts at most one record, which is open and unlinked and
carries the event's status. -/
theorem ensures_storeVerifiedFinancialWebhook {s : Db} {provider : PaymentProviderName}
    {event : NormalizedRefundWebhookEvent} {fresh : WebhookId} {now : Time} :
    Ensures (storeVerifiedFinancialWebhook provider event fresh now) s fun _ s' =>
      s'.ledger = s.ledger ∧ s'.refunds = s.refunds ∧
      (s'.webhooks = s.webhooks ∨ ∃ w, s.webhooks.lookup fresh = none ∧
        s'.webhooks = s.webhooks.insert fresh w ∧ w.processingStatus = .RECEIVED ∧
        w.refundId = none ∧ w.normalizedRefundStatus = some event.status) := by
  refine ensures_bind.mpr (ensures_findMany.mpr (ensures_bind.mpr (ensures_findMany.mpr ?_)))
  split
  · exact ensures_pure.mpr ⟨rfl, rfl, .inl rfl⟩
  · refine ensures_bind.mpr (ensures_insert.mpr fun habsent _ => ensures_pure.mpr ?_)
    exact ⟨rfl, rfl, .inr ⟨_, habsent, rfl, rfl, rfl, rfl⟩⟩

/-- Settling touches the event's own record only. -/
theorem ensures_settle_webhooks {s : Db} {input : SettleInput} :
    Ensures (settleRefundFromVerifiedEvent input) s fun _ s' =>
      s'.webhooks = s.webhooks ∨ ∃ w, s'.webhooks = s.webhooks.insert input.webhookId w := by
  refine ensures_bind.mpr (ensures_lockMany.mpr ?_)
  split
  · exact ensures_pure.mpr (.inl rfl)
  · refine ensures_bind.mpr (ensures_findOrThrow.mpr fun refund _ => ?_)
    refine ensures_bind.mpr (ensures_update.mpr fun w _ _ => ?_)
    refine ((show Steps (Framing Db.webhooks) _ from ?_).framed _).mono fun _ _ h => .inr ⟨_, h⟩
    have hwrites := webhooks_frame.settlementWrites (crediting_of_free fun _ _ => rfl)
      (revoking_of_free (fun _ _ => rfl) fun _ _ => rfl) fun _ _ => rfl
    have hflag : Flagging (Framing Db.webhooks) refund.orderId :=
      fun _ => steps_update fun _ _ _ _ => rfl
    split
    · exact (hwrites.escalated hflag _ _ _ trivial).bind fun _ => steps_pure
    · split
      · exact steps_pure
      · split
        · exact steps_pure
        · exact (hwrites.escalated hflag _ _ _ trivial).bind fun _ => steps_pure
        · exact (hwrites.settledSucceeded _ _ _ trivial trivial).bind fun _ => steps_pure
        · exact (hwrites.settledFailed _ _ _ trivial).bind fun _ => steps_pure
        · exact (hwrites.settledAdvanced _ _ _ trivial).bind fun _ => steps_pure

/-- The record closed by a settlement. -/
def PaymentWebhookEvent.closedBy (w : PaymentWebhookEvent) (settlement : RefundSettlementOutcome)
    (now : Time) : PaymentWebhookEvent :=
  { w with
    processingStatus := settlement.processingStatus
    processedAt := some now
    attemptCount := w.attemptCount + 1
    safeProcessingError := settlement.processingError }

/-- Processing touches the record it processes only, and closes it. -/
theorem ensures_processed_webhooks {s : Db} {webhookId : WebhookId} {now : Time} :
    Ensures (processVerifiedRefundRecord webhookId now) s fun _ s' =>
      s'.webhooks = s.webhooks ∨
        ∃ w', w'.processingStatus.isFinal = true ∧ s.webhooks.Wrote webhookId w' s'.webhooks := by
  refine ensures_runInTransaction (ensures_bind.mpr (ensures_lock.mpr ?_))
  refine ensures_bind.mpr (ensures_findOrThrow.mpr fun w hw => ?_)
  split
  · exact ensures_pure.mpr fun _ => .inl rfl
  · refine ensures_bind.mpr (ensures_require.mpr fun _ => ?_)
    split
    · refine ensures_bind.mpr (ensures_settle_webhooks.mono fun outcome s₁ hsettled => ?_)
      refine ensures_bind.mpr (ensures_update.mpr fun w₁ _ _ => ensures_pure.mpr fun _ => ?_)
      refine .inr ⟨w₁.closedBy outcome now, by cases outcome <;> rfl, ?_⟩
      show s.webhooks.Wrote webhookId _ (s₁.webhooks.insert webhookId (w₁.closedBy outcome now))
      rcases hsettled with hsame | ⟨w₂, hlinked⟩
      · rw [hsame]
        exact Table.wrote_insert
      · rw [hlinked]
        exact Table.wrote_insert.insert
    · exact ensures_abort.mpr trivial

namespace RefundSystem

variable {sys sys' : RefundSystem}

/-- How an action changes the webhook records: not at all, by one that is stored
open and unlinked, or by one that is closed. -/
theorem webhooks_cases {a : RefundAction} (h : sys.step a = some sys') :
    sys'.db.webhooks = sys.db.webhooks ∨
    (∃ provider event fresh now w, a = .storeWebhook provider event fresh now ∧
      sys.db.webhooks.lookup fresh = none ∧
      sys'.db.webhooks = sys.db.webhooks.insert fresh w ∧ w.processingStatus = .RECEIVED ∧
      w.refundId = none ∧ w.normalizedRefundStatus = some event.status) ∨
    ∃ webhookId now w', a = .processWebhook webhookId now ∧ w'.processingStatus.isFinal = true ∧
      sys.db.webhooks.Wrote webhookId w' sys'.db.webhooks := by
  cases a with
  | storeWebhook provider event fresh now =>
      cases h
      rcases ensures_storeVerifiedFinancialWebhook.commit_cases with
        hsame | ⟨-, -, -, hsame | ⟨w, hw⟩⟩
      · exact .inl (congrArg Db.webhooks hsame)
      · exact .inl hsame
      · exact .inr (.inl ⟨provider, event, fresh, now, w, rfl, hw⟩)
  | processWebhook webhookId now =>
      cases h
      rcases ensures_processed_webhooks.commit_cases with hsame | ⟨-, hsame | ⟨w', hfinal, hwrote⟩⟩
      · exact .inl (congrArg Db.webhooks hsame)
      · exact .inl hsame
      · exact .inr (.inr ⟨webhookId, now, w', rfl, hfinal, hwrote⟩)
  | _ =>
      exact .inl (framed_of_step webhooks_frame h (fun _ _ _ _ _ _ _ => rfl) (by simp) (by simp))

/-- The events of a run are normalised before they are stored. -/
def NormalizedEvents (_ : RefundSystem) : RefundAction → Prop
  | .storeWebhook _ event _ _ => IsNormalized event.status
  | _ => True

instance (sys : RefundSystem) : (a : RefundAction) → Decidable (sys.NormalizedEvents a)
  | .storeWebhook _ event _ _ => inferInstanceAs (Decidable (IsNormalized event.status))
  | .requestRefund .. | .claim .. | .createRefund .. | .completeAttempt .. | .finish ..
  | .selectAmbiguous .. | .inspect .. | .adopt ..
  | .processWebhook .. => instDecidableTrue

/-- A computed run of normalised events. -/
theorem reaches_of_normalized {l : List RefundAction}
    (h : execute (guarded step fun s a => decide (s.NormalizedEvents a)) l sys = some sys') :
    Reaches step NormalizedEvents sys sys' :=
  (reaches_of_guarded h).mono fun _ _ => of_decide_eq_true

/-- What holds of the stored refund events. -/
structure Stored (db : Db) : Prop where
  unlinked : ∀ id w, db.webhooks.lookup id = some w → w.processingStatus.isFinal = false →
    w.refundId = none
  normalized : ∀ id w status, db.webhooks.lookup id = some w →
    w.processingStatus.isFinal = false → w.normalizedRefundStatus = some status →
    IsNormalized status

theorem Stored.step {a : RefundAction} (hs : Stored sys.db) (hok : sys.NormalizedEvents a)
    (h : sys.step a = some sys') : Stored sys'.db := by
  rcases webhooks_cases h with hsame | ⟨provider, event, fresh, now, w, rfl, -,
    hinsert, -, hunlinked,
    hstatus⟩ | ⟨webhookId, now, w', -, hfinal, hwrote⟩
  · exact ⟨hsame ▸ hs.unlinked, hsame ▸ hs.normalized⟩
  · have hwrote : sys.db.webhooks.Wrote fresh w sys'.db.webhooks := hinsert ▸ Table.wrote_insert
    constructor
    · intro id row hrow hopen
      rcases hwrote.cases hrow with ⟨rfl, rfl⟩ | ⟨-, hold⟩
      · exact hunlinked
      · exact hs.unlinked id row hold hopen
    · intro id row status hrow hopen hnormalized
      rcases hwrote.cases hrow with ⟨rfl, rfl⟩ | ⟨-, hold⟩
      · rw [hstatus] at hnormalized
        cases hnormalized
        exact hok
      · exact hs.normalized id row status hold hopen hnormalized
  · constructor
    · intro id row hrow hopen
      rcases hwrote.cases hrow with ⟨rfl, rfl⟩ | ⟨-, hold⟩
      · rw [hfinal] at hopen
        cases hopen
      · exact hs.unlinked id row hold hopen
    · intro id row status hrow hopen hnormalized
      rcases hwrote.cases hrow with ⟨rfl, rfl⟩ | ⟨-, hold⟩
      · rw [hfinal] at hopen
        cases hopen
      · exact hs.normalized id row status hold hopen hnormalized

end RefundSystem

/-! ## §3 External identities -/

/-- A refund with an external identity has been submitted. -/
def Attached (db : Db) : Prop :=
  ∀ id r, db.refunds.lookup id = some r → r.providerRefundId.isSome = true →
    r.status ≠ .REQUESTED ∧ r.status ≠ .SUBMITTING

theorem Attached.step {U : RefundId → RefundUpdate → Prop} {B : BookingId → Prop}
    {W : WebhookId → Prop} {s s' : Db} (hs : Attached s) (h : RefundStep U B W s s')
    (hU : ∀ id u, U id u → u.status ≠ .REQUESTED ∧ u.status ≠ .SUBMITTING) : Attached s' := by
  intro id r' hr' hattached
  rcases h.refund_cases hr' with hr | ⟨-, -, hfresh⟩ | ⟨r, added, hr, rfl, -⟩ |
      ⟨r, u, hr, hu, rfl, -⟩
  · exact hs id r' hr hattached
  · rw [hfresh.unattached] at hattached
    cases hattached
  · exact hs id r hr hattached
  · rw [u.status_apply]
    exact hU id u hu

/-- A claim without a result leaves the refunds. -/
theorem ensures_claimRefundForSubmission_none {s : Db} {refundId : RefundId} {now : Time} :
    Ensures (claimRefundForSubmission refundId now) s fun result s' =>
      result = none → s'.refunds = s.refunds := by
  refine ensures_runInTransaction (ensures_bind.mpr (ensures_lockSkip.mpr ?_))
  split
  · exact ensures_pure.mpr fun _ _ => rfl
  · refine ensures_bind.mpr (ensures_findOrThrow.mpr fun refund _ => ?_)
    refine ensures_bind.mpr (ensures_findOrThrow.mpr fun attempt _ => ?_)
    refine ensures_bind.mpr (ensures_read.mpr ?_)
    split
    · exact ensures_pure.mpr fun _ _ => rfl
    · refine ensures_bind.mpr (ensures_updateRefundById fun r₀ s₁ _ _ _ => ?_)
      exact ensures_bind.mpr (ensures_insert.mpr fun _ _ => ensures_pure.mpr (by simp))

/-- A normalised event moves a refund past its submission. -/
theorem ensures_processed_attached {s : Db} {webhookId : WebhookId} {now : Time}
    (hs : Attached s) (hstored : RefundSystem.Stored s) :
    Ensures (processVerifiedRefundRecord webhookId now) s fun _ s' => Attached s' := by
  refine ensures_runInTransaction (ensures_bind.mpr (ensures_lock.mpr ?_))
  refine ensures_bind.mpr (ensures_findOrThrow.mpr fun w hw => ?_)
  split
  · exact ensures_pure.mpr fun _ => hs
  · rename_i hopen
    refine ensures_bind.mpr (ensures_require.mpr fun _ => ?_)
    split
    · rename_i ref incoming href hincoming
      have hnormalized := (hstored.normalized webhookId w incoming hw (by simpa using hopen)
        hincoming).cases
      have hsettled : ∀ input : SettleInput, input.incomingStatus = incoming →
          Ensures (settleRefundFromVerifiedEvent input) s fun _ s' => Attached s' := by
        rintro input rfl
        refine (steps_settleRefundFromVerifiedEvent (B := fun _ => True) (W := fun _ => True)
          (U := fun _ u => u.status ≠ .REQUESTED ∧ u.status ≠ .SUBMITTING) input
          (fun _ u hu hadvance => ?_) (fun _ => trivial) trivial).ensures hs
          fun _ _ hstep h => h.step hstep fun _ _ hu => hu
        cases u with
        | advance status t =>
            rw [RefundUpdate.status, hadvance status t rfl]
            rcases hnormalized with h | h | h | h | h <;> simp [h]
        | submit t => cases hu
        | ambiguous => cases hu
        | attach ref => cases hu
        | _ => simp [RefundUpdate.status]
      refine ensures_bind.mpr ((hsettled _ rfl).mono fun outcome s₁ hs₁ => ?_)
      exact ensures_bind.mpr (ensures_update.mpr fun _ _ _ => ensures_pure.mpr fun _ => hs₁)
    · exact ensures_abort.mpr trivial

namespace RefundSystem

variable {sys sys' : RefundSystem}

theorem attached_step {a : RefundAction} (hs : Attached sys.db) (hstored : Stored sys.db)
    (h : sys.step a = some sys') : Attached sys'.db := by
  have hallowed : (∀ id u, sys.Allowed a id u → u.status ≠ .REQUESTED ∧ u.status ≠ .SUBMITTING) →
      Attached sys'.db := by
    intro hU
    have hsteps := db_steps h
    generalize sys'.db = db' at hsteps
    induction hsteps with
    | refl => exact hs
    | tail _ hstep ih => exact ih.step hstep hU
  cases a with
  | claim sid provider refundId now =>
      rcases step_claim h with ⟨db, hrun, rfl⟩ | ⟨claimed, db, hrun, -, rfl⟩
      · have hrefunds := ensures_claimRefundForSubmission_none _ _ hrun rfl
        intro id r hr hattached
        exact hs id r (hrefunds ▸ hr) hattached
      · -- a claimed refund was requested, so it has no identity yet
        obtain ⟨r₀, t, hr₀, hrequested, -, -, hrefunds⟩ :=
          ensures_claimRefundForSubmission _ _ hrun claimed rfl
        intro id r hr hattached
        have hwrote :
            sys.db.refunds.Wrote refundId (RefundUpdate.apply r₀ (.submit t)) db.refunds :=
          hrefunds ▸ Table.wrote_insert
        rcases hwrote.cases hr with ⟨rfl, rfl⟩ | ⟨-, hold⟩
        · exact absurd hrequested (hs _ r₀ hr₀ hattached).1
        · exact hs id r hold hattached
  | processWebhook webhookId now =>
      cases h
      exact (ensures_processed_attached hs hstored).commit hs
  | finish sid =>
      refine hallowed fun id u hu => ?_
      obtain ⟨claimed, provider, now, answer, -, -, rfl⟩ := hu
      cases answer with
      | returned ref => simp [answerUpdate, RefundUpdate.status]
      | threw message =>
          simp only [answerUpdate]
          split <;> simp [RefundUpdate.status]
  | adopt refundId ref =>
      refine hallowed fun id u hu => ?_
      obtain ⟨-, rfl⟩ := hu
      simp [RefundUpdate.status]
  | _ => exact hallowed fun id u hu => hu.elim

/-! ## §4 Every reachable state -/

/-- What a run keeps. -/
structure Reachable (sys : RefundSystem) : Prop where
  kept : Kept sys.db
  grounded : sys.Grounded
  stored : Stored sys.db
  attached : Attached sys.db

/-- The system before any refund was requested, over a consistent database whose
events, if there are any, are not about refunds. -/
structure Fresh (sys : RefundSystem) : Prop where
  start : sys.Start
  consistent : sys.db.Consistent
  untouched : ∀ p a, sys.db.attempts.lookup p = some a →
    a.refundedMinor = 0 ∧ a.inFlightRefundMinor = 0
  noEvents : ∀ id w, sys.db.webhooks.lookup id = some w → w.eventCategory ≠ .REFUND

theorem Fresh.reachable (h : sys.Fresh) : sys.Reachable where
  kept :=
    { consistent := h.consistent
      exact := by
        intro p
        refine paymentAggregate_faithful.mpr fun a ha => ?_
        rw [(h.untouched p a ha).1, (h.untouched p a ha).2]
        exact ⟨(Table.sum_eq_zero h.start.refunds).symm, (Table.sum_eq_zero h.start.refunds).symm⟩ }
  grounded := h.start.grounded
  stored := by
    have hcategory : ∀ id w, sys.db.webhooks.lookup id = some w →
        w.refundId = none ∧ w.normalizedRefundStatus = none := by
      intro id w hw
      have hcheck := (h.consistent.sound.webhooks.row id w hw).category
      have hother := h.noEvents id w hw
      unfold PaymentWebhookEvent.categoryCheck at hcheck
      cases hcase : w.eventCategory with
      | REFUND => exact absurd hcase hother
      | PAYMENT => simp_all
      | DISPUTE => simp_all
    exact
      { unlinked := fun id w hw _ => (hcategory id w hw).1
        normalized := fun id w status hw _ hstatus => by
          rw [(hcategory id w hw).2] at hstatus
          cases hstatus }
  attached := fun id r hr => by simp [h.start.refunds id] at hr

theorem Reachable.step {a : RefundAction} (hs : sys.Reachable) (hok : sys.NormalizedEvents a)
    (h : sys.step a = some sys') : sys'.Reachable where
  kept := hs.kept.step h
  grounded := hs.grounded.step h
  stored := hs.stored.step hok h
  attached := attached_step hs.attached hs.stored h

/-- **Every state that a run reaches** is reachable. -/
theorem Reachable.reaches (hs : sys.Reachable)
    (hreach : Reaches RefundSystem.step NormalizedEvents sys sys') : sys'.Reachable :=
  hreach.invariant hs fun _ _ _ hok hstep ih => ih.step hok hstep

theorem Fresh.reaches {sys₀ : RefundSystem} (h : sys₀.Fresh)
    (hreach : Reaches step NormalizedEvents sys₀ sys) : sys.Reachable :=
  h.reachable.reaches hreach

end RefundSystem

/-! ## §5 The captured payment -/

/-- The captured payment is what the database admits. -/
theorem capturedPayment_sound : capturedPayment.Sound where
  inventory :=
    (Table.coherent_singleton ⟨by decide, by decide⟩).insert sessionSeatInventoryConstraints.symm
      ⟨by decide, by decide⟩ fun k r hr _ => by
        have hseat := Table.forall_lookup (t := (AList.singleton 1 _ : Table InventoryId _))
          (p := fun _ row => row.seatId ≠ 2) (by decide) k r hr
        rintro ⟨-, hsame⟩
        exact hseat hsame
  holds := Table.coherent_singleton ⟨by decide, by decide⟩
  orders := Table.coherent_singleton ⟨by decide, by decide, by decide, by decide⟩
  attempts := Table.coherent_singleton ⟨by decide, by decide, by decide, by decide, by decide⟩
  webhooks := Table.coherent_empty
  bookings := Table.coherent_singleton ⟨by decide, by decide, by decide⟩
  refunds := Table.coherent_empty
  tickets := Table.coherent_empty
  credentials := Table.coherent_empty
  disputes := Table.coherent_empty
  orderAncestry := Table.forall_lookup (by decide)
  attemptOrder := Table.forall_lookup (by decide)
  bookingOrder := Table.forall_lookup (by decide)
  refundAncestry := Table.forall_lookup (t := capturedPayment.refunds) (by decide)
  disputeAncestry := Table.forall_lookup (t := capturedPayment.disputes) (by decide)

theorem capturedPayment_consistent : capturedPayment.Consistent where
  sound := capturedPayment_sound
  idle := rfl
  seatTotals := fun id => by simp [Refund.verifySeatTotal, capturedPayment, paidBooking]
  orderTotals := fun id => by
    have htotals := Table.forall_lookup (t := capturedPayment.orders)
      (p := fun k _ => CheckoutOrder.verifyTotals capturedPayment k = .ok ()) (by decide)
    cases hlook : capturedPayment.orders.lookup id with
    | none => simp [CheckoutOrder.verifyTotals, hlook]
    | some o => exact htotals id o hlook

namespace RefundSystem

theorem capturedStart_fresh : capturedStart.Fresh where
  start := capturedStart_start
  consistent := capturedPayment_consistent
  untouched := Table.forall_lookup (t := capturedPayment.attempts) (by decide)
  noEvents := Table.forall_lookup (t := capturedPayment.webhooks) (by decide)

end RefundSystem

end SeatFlow
