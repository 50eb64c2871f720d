import SeatFlow.Disputes.LostDisputes
import SeatFlow.Platform.PlatformWrites
import SeatFlow.Refunds.Successes

/-!
# Overlaps of refunds and disputes

A customer who was refunded and then also wins a chargeback is paid twice, so the
overlap is announced in the outbox. The code looks for it when it records a dispute's
status and nowhere else: a refund that succeeds after a dispute was opened announces
nothing, nor does the escalation of a won dispute. Between those two the announcement
is complete.
-/

namespace SeatFlow

open Relational Program Entity

variable {s s' : Db}

/-! ## §1 What is announced -/

/-- The overlap of a dispute is announced. -/
def Db.Announced (db : Db) (id : DisputeId) : Prop :=
  (db.financialOutbox.lookup (.refundDisputeOverlap id)).isSome = true

instance (db : Db) (id : DisputeId) : Decidable (db.Announced id) :=
  inferInstanceAs (Decidable (_ = true))

/-- Every dispute that is not won, on a payment of which money was returned, has its
overlap announced. -/
def Db.OverlapsRaised (db : Db) : Prop :=
  ∀ id d a, db.disputes.lookup id = some d → db.attempts.lookup d.paymentAttemptId = some a →
    d.status ≠ .WON → 0 < a.refundedMinor → db.Announced id

/-- What is announced stays announced. -/
theorem Db.Appends.announced (h : s.Appends s') {id : DisputeId} (hid : s.Announced id) :
    s'.Announced id := by
  obtain ⟨event, hevent⟩ := Option.isSome_iff_exists.mp hid
  obtain ⟨event', hevent', -⟩ := h.outbox _ event hevent
  exact Option.isSome_iff_exists.mpr ⟨event', hevent'⟩

theorem appends_of_writes (h : Relation.ReflTransGen Db.Writes s s') {id : DisputeId}
    (hid : s.Announced id) : s'.Announced id := by
  induction h with
  | refl => exact hid
  | tail _ hlast ih => exact hlast.2.announced ih

/-- The consequences of a status announce its overlap and no other. -/
theorem DisputeConsequenceInput.overlaps_books {input : DisputeConsequenceInput}
    {books : DisputeBooks} (id : DisputeId) :
    (input.books books).overlaps id
      = (books.overlaps id || input.overlapping && id == input.disputeId) := by
  have happend : ∀ (books : DisputeBooks) (entry : AppendLedgerEntryInput),
      (books.append entry).overlaps = books.overlaps := by
    intro books entry
    unfold DisputeBooks.append
    split <;> rfl
  have hstatus : (input.recordStatus books).overlaps = books.overlaps := by
    unfold DisputeConsequenceInput.recordStatus
    split
    · exact happend _ _
    · rfl
  have hloss : ∀ books : DisputeBooks, (input.recordLoss books).overlaps = books.overlaps := by
    intro books
    unfold DisputeConsequenceInput.recordLoss
    split
    · exact happend _ _
    · rfl
  rw [DisputeConsequenceInput.books, hloss, DisputeConsequenceInput.recordOverlap]
  cases hoverlap : input.overlapping with
  | true => simp [DisputeBooks.announce, hstatus]
  | false => simp [hstatus]

/-! ## §2 Disputes -/

/-- A decision that escalates. -/
def DisputeTransitionDecision.escalates : DisputeTransitionDecision → Bool
  | .review _ => true
  | .ignore _ | .apply _ _ => false

/-- The won dispute that processing the record escalates, if there is one. -/
def Db.reviving (db : Db) (webhookId : WebhookId) : Option (DisputeId × PaymentDispute) :=
  (db.webhooks.lookup webhookId).bind fun w =>
    ((db.paymentNamed w.providerIntentId).bind fun e => w.providerDisputeId.bind fun ref =>
      db.disputeNamed e.2.provider ref).filter fun e =>
        w.processingStatus.isFinal = false ∧ e.2.status = .WON ∧
          ∃ incoming ∈ w.normalizedDisputeStatus,
            (decideDisputeTransition e.2.status incoming).escalates = true

theorem Db.Hears.reviving {wid : WebhookId} {w : PaymentWebhookEvent} {ref : ProviderRef}
    {incoming : DisputeStatus} {p : AttemptId} {a : PaymentAttempt} {id : DisputeId}
    {d : PaymentDispute} {code : Code} (h : s.Hears wid w ref incoming p a)
    (hnamed : s.disputeNamed a.provider ref = some (id, d)) (hwon : d.status = .WON)
    (hdecision : decideDisputeTransition d.status incoming = .review code) :
    s.reviving wid = some (id, d) := by
  refine Option.bind_eq_some_iff.mpr ⟨w, h.record, Option.filter_eq_some_iff.mpr ⟨?_, ?_⟩⟩
  · exact Option.bind_eq_some_iff.mpr ⟨(p, a), h.payment,
      Option.bind_eq_some_iff.mpr ⟨ref, h.reference, hnamed⟩⟩
  · exact decide_eq_true ⟨h.opened, hwon, incoming, h.incoming, by rw [hdecision]; rfl⟩

/-- A won dispute is settled: nothing advances it. -/
theorem ne_won_of_apply {current incoming status : DisputeStatus} {outcome : Option DisputeOutcome}
    (h : decideDisputeTransition current incoming = .apply status outcome) : current ≠ .WON := by
  rintro rfl
  cases incoming <;> simp [decideDisputeTransition, isTerminalDisputeStatus] at h

/-- **A dispute event** keeps the announcements complete, unless it escalates a won
dispute. -/
theorem Db.OverlapsRaised.event {wid : WebhookId} {fresh : FreshDispute} {now : Time}
    (hs : s.OverlapsRaised) (hconsistent : s'.Consistent) (hattempts : s'.attempts = s.attempts)
    (heffect : DisputeEffect s s' wid fresh now)
    (hrevived : ∀ e ∈ s.reviving wid,
      (∀ a ∈ s.attempts.lookup e.2.paymentAttemptId, a.refundedMinor = 0) ∨ s.Announced e.1) :
    s'.OverlapsRaised := by
  intro id' d' a' hd' ha' hwon hrefunded
  rw [hattempts] at ha'
  show s'.books.overlaps id' = true
  have hold : ∀ d, s.disputes.lookup id' = some d → d.paymentAttemptId = d'.paymentAttemptId →
      d.status ≠ .WON → s.books.overlaps id' = true :=
    fun d hd hpayment hstatus => hs id' d a' hd (hpayment ▸ ha') hstatus hrefunded
  cases heffect with
  | quiet books =>
      have hdisputes : s'.disputes = s.disputes := congrArg DisputeBooks.disputes books
      rw [books]
      exact hold d' (hdisputes ▸ hd') rfl hwon
  | opened w ref incoming p a bookingId heard closed unnamed booking absent books =>
      have hdisputes : s'.disputes = s.disputes.insert fresh.disputeId
          (PaymentDispute.created (w.disputeInput wid ref incoming now) fresh p a bookingId) :=
        (congrArg DisputeBooks.disputes books).trans DisputeConsequenceInput.disputes_books
      have hamount : 0 < d'.disputedAmountMinor := (hconsistent.sound.disputes.row _ _ hd').amount
      rw [hdisputes] at hd'
      rw [books, DisputeConsequenceInput.overlaps_books]
      rcases Table.wrote_insert.cases hd' with ⟨rfl, rfl⟩ | ⟨-, hd⟩
      · have hpayment := (Table.mem_select.mp (List.mem_of_head? heard.payment)).1
        obtain rfl : a = a' := Option.some.inj (hpayment.symm.trans ha')
        have hoverlap : ((w.disputeInput wid ref incoming now).opened fresh.disputeId p a
            bookingId).overlapping = true := by
          simp only [DisputeConsequenceInput.overlapping, detectRefundDisputeOverlap,
            Bool.and_eq_true, decide_eq_true_eq]
          exact ⟨hrefunded, hamount⟩
        rw [hoverlap]
        simp [DisputeEventInput.opened]
      · rw [Bool.or_eq_true]
        exact .inl (hold d' hd rfl hwon)
  | escalated w ref incoming p a id d code heard closed named decision books =>
      have hdisputes : s'.disputes = s.disputes.insert id d.escalated :=
        congrArg DisputeBooks.disputes books
      rw [hdisputes] at hd'
      rw [books]
      show s.books.overlaps id' = true
      rcases Table.wrote_insert.cases hd' with ⟨rfl, rfl⟩ | ⟨-, hd⟩
      · have hlook := (Db.lookup_of_disputeNamed named).1
        by_cases hstatus : d.status = .WON
        · rcases hrevived _ (heard.reviving named hstatus decision) with hnone | hannounced
          · have hzero := hnone a' ha'
            linarith
          · exact hannounced
        · exact hold d hlook rfl hstatus
      · exact hold d' hd rfl hwon
  | advanced w ref incoming p a id d outcome heard closed named decision books =>
      have hdisputes : s'.disputes = s.disputes.insert id
          (d.advanced (w.disputeInput wid ref incoming now) incoming outcome) :=
        (congrArg DisputeBooks.disputes books).trans DisputeConsequenceInput.disputes_books
      rw [hdisputes] at hd'
      rw [books, DisputeConsequenceInput.overlaps_books, Bool.or_eq_true]
      rcases Table.wrote_insert.cases hd' with ⟨rfl, rfl⟩ | ⟨-, hd⟩
      · exact .inl (hold d (Db.lookup_of_disputeNamed named).1 rfl (ne_won_of_apply decision))
      · exact .inl (hold d' hd rfl hwon)

/-! ## §3 Runs -/

namespace FinancialSystem

variable {sys₀ sys sys' : FinancialSystem}

/-- The condition on a step: money is returned only on payments whose disputes are won
or announced, and a won dispute is escalated only if nothing was refunded or its overlap
is announced. -/
def Heedful (sys : FinancialSystem) : FinancialAction → Prop
  | .refund (.processWebhook webhookId _) =>
      ∀ e ∈ sys.refunds.db.succeeding webhookId, ∀ dispute ∈ sys.refunds.db.disputes.rows,
        dispute.2.paymentAttemptId = e.2.paymentAttemptId → dispute.2.status ≠ .WON →
          sys.refunds.db.Announced dispute.1
  | .refund a => sys.refunds.NormalizedEvents a
  | .storeDispute _ _ _ _ => True
  | .processDispute webhookId _ _ =>
      ∀ e ∈ sys.refunds.db.reviving webhookId,
        (∀ a ∈ sys.refunds.db.attempts.lookup e.2.paymentAttemptId, a.refundedMinor = 0) ∨
          sys.refunds.db.Announced e.1

instance (sys : FinancialSystem) : (a : FinancialAction) → Decidable (sys.Heedful a)
  | .refund (.processWebhook webhookId _) => inferInstanceAs (Decidable
      (∀ e ∈ sys.refunds.db.succeeding webhookId, ∀ dispute ∈ sys.refunds.db.disputes.rows,
        dispute.2.paymentAttemptId = e.2.paymentAttemptId → dispute.2.status ≠ .WON →
          sys.refunds.db.Announced dispute.1))
  | .refund (.storeWebhook _ event _ _) => inferInstanceAs (Decidable (IsNormalized event.status))
  | .refund (.requestRefund ..) | .refund (.claim ..) | .refund (.createRefund ..)
  | .refund (.completeAttempt ..) | .refund (.finish ..) | .refund (.selectAmbiguous ..)
  | .refund (.inspect ..) | .refund (.adopt ..) | .storeDispute .. => instDecidableTrue
  | .processDispute webhookId _ _ => inferInstanceAs (Decidable
      (∀ e ∈ sys.refunds.db.reviving webhookId,
        (∀ a ∈ sys.refunds.db.attempts.lookup e.2.paymentAttemptId, a.refundedMinor = 0) ∨
          sys.refunds.db.Announced e.1))

instance (sys : FinancialSystem) : (a : FinancialAction) → Decidable (sys.NormalizedEvents a)
  | .refund a => inferInstanceAs (Decidable (sys.refunds.NormalizedEvents a))
  | .storeDispute .. | .processDispute .. => instDecidableTrue

theorem Heedful.normalized {a : FinancialAction} (h : sys.Heedful a) : sys.NormalizedEvents a := by
  cases a with
  | refund a => cases a <;> first | exact h | trivial
  | _ => trivial

/-- A step of the refund system changes no dispute and takes no announcement back. -/
theorem announced_step {a : RefundAction} {refunds : RefundSystem}
    (h : sys.refunds.step a = some refunds) {id : DisputeId} (hid : sys.refunds.db.Announced id) :
    refunds.db.Announced id :=
  appends_of_writes (RefundSystem.db_whole writes_refunds writes_commits h) hid

theorem overlapsRaised_refund {a : RefundAction} {refunds : RefundSystem}
    (hs : sys.refunds.Reachable) (hraised : sys.refunds.db.OverlapsRaised)
    (hok : sys.Heedful (.refund a)) (h : sys.refunds.step a = some refunds) :
    refunds.db.OverlapsRaised := by
  have hstep : sys.step (.refund a) = some
      { refunds := refunds, claims := sys.claims ++ refunds.committedClaim a } := by
    rw [FinancialSystem.step, h]
    rfl
  have hs' := hs.step (a := a) hok.normalized h
  obtain ⟨hdisputes, -⟩ := disputeRecords_step hstep (by rintro _ _ _ ⟨⟩)
  intro id d a' hd ha' hwon hrefunded
  replace hd : sys.refunds.db.disputes.lookup id = some d := hdisputes ▸ hd
  obtain ⟨p, hp, -⟩ := payment_of_dispute hs.kept.consistent.sound hd
  -- the payment's total is the sum of its refunds before and after
  have hbefore := (paymentAggregate_faithful.mp (hs.kept.exact _) p hp).1
  have hafter := (paymentAggregate_faithful.mp (hs'.kept.exact _) a' ha').1
  rcases RefundSystem.refundedSum_cases hs h d.paymentAttemptId with hsame |
    ⟨wid, now, rid, r, rfl, hsucceeding, hpayment⟩
  · refine announced_step h (hraised id d p hd hp hwon ?_)
    rw [hbefore, ← hsame, ← hafter]
    exact hrefunded
  · exact announced_step h (hok _ hsucceeding (id, d) (Table.mem_rows.mpr hd) hpayment.symm hwon)

theorem overlapsRaised_step {a : FinancialAction} (hs : sys.refunds.Reachable)
    (hraised : sys.refunds.db.OverlapsRaised) (hok : sys.Heedful a) (h : sys.step a = some sys') :
    sys'.refunds.db.OverlapsRaised := by
  cases a with
  | refund a =>
      obtain ⟨refunds, hstep, rfl⟩ := step_refund h
      exact overlapsRaised_refund hs hraised hok hstep
  | storeDispute provider event fresh now =>
      cases h
      refine Ensures.commit (Q := fun db' : Db => db'.OverlapsRaised) ?_ hraised
      refine ensures_bind.mpr (ensures_findMany.mpr (ensures_bind.mpr (ensures_findMany.mpr ?_)))
      split
      · exact ensures_pure.mpr hraised
      · exact ensures_bind.mpr (ensures_insert.mpr fun _ _ => ensures_pure.mpr hraised)
  | processDispute wid fresh now =>
      have hs' := reachable_step hs hok.normalized h
      cases h
      dsimp only at hs' ⊢
      cases hrun : (processVerifiedDisputeRecord wid fresh now).run sys.refunds.db with
      | error e => rwa [show Program.commit _ sys.refunds.db = sys.refunds.db by
          simp [Program.commit, hrun]]
      | ok result =>
          rw [commit_of_run hrun] at hs' ⊢
          have htables := ensures_processedDispute_refundTables _ _ hrun
          exact hraised.event hs'.kept.consistent (congrArg Prod.snd htables)
            (ensures_processedDispute_effect _ _ hrun) hok

/-- **Overlaps are raised**, in every run whose steps heed what is disputed: whatever the
order of refunds and dispute events, no unannounced overlap is ever reached. -/
theorem overlaps_raised_of_heedful (hfresh : sys₀.refunds.Fresh)
    (hundisputed : ∀ id, sys₀.refunds.db.disputes.lookup id = none)
    (hreach : Reaches FinancialSystem.step Heedful sys₀ sys) : sys.refunds.db.OverlapsRaised := by
  have hinv : sys.refunds.Reachable ∧ sys.refunds.db.OverlapsRaised := by
    refine hreach.invariant (I := fun sys => sys.refunds.Reachable ∧ sys.refunds.db.OverlapsRaised)
      ⟨hfresh.reachable, fun id d _ hd => ?_⟩ ?_
    · rw [hundisputed id] at hd
      cases hd
    · rintro sys a sys' hok hstep ⟨hs, hraised⟩
      exact ⟨reachable_step hs hok.normalized hstep, overlapsRaised_step hs hraised hok hstep⟩
  exact hinv.2

/-- The refund of the first seat succeeds and a dispute is opened after it. -/
def refundedThenDisputed : List FinancialAction :=
  (RefundSystem.submittedAndReported .SUCCEEDED ++
    [RefundAction.processWebhook 91 230]).map .refund ++
    capturedDispute 83 92 .OPEN 233

/-- The dispute is processed before the success of the refund. -/
def disputedThenRefunded : List FinancialAction :=
  (RefundSystem.submittedAndReported .SUCCEEDED).map .refund ++ capturedDispute 83 92 .OPEN 223 ++
    [.refund (.processWebhook 91 230)]

/-- The dispute is open and money was returned on its payment. -/
def doublyPaid (sys : FinancialSystem) : Bool :=
  (sys.refunds.db.disputes.lookup 1).any fun d => d.status == .OPEN &&
    (sys.refunds.db.attempts.lookup d.paymentAttemptId).any fun a => 0 < a.refundedMinor

theorem overlaps_raised_refundedFirst :
    ∃ sys, Reaches FinancialSystem.step Heedful capturedFinances sys ∧ doublyPaid sys = true ∧
      sys.refunds.db.OverlapsRaised := by
  have hrun : (execute (guarded FinancialSystem.step fun s a => decide (s.Heedful a))
      refundedThenDisputed capturedFinances).any doublyPaid = true := by
    decide +kernel
  obtain ⟨sys, hsys, hcheck⟩ := (Option.any_eq_true _ _).mp hrun
  have hreach := (reaches_of_guarded hsys).mono fun _ _ => of_decide_eq_true
  exact ⟨sys, hreach, hcheck, overlaps_raised_of_heedful RefundSystem.capturedStart_fresh
    (fun _ => rfl) hreach⟩

/-- The refund that succeeds while the dispute is open announces nothing. -/
theorem overlap_missed :
    ∃ sys, Reaches FinancialSystem.step NormalizedEvents capturedFinances sys ∧
      ¬sys.refunds.db.OverlapsRaised := by
  have hrun : (execute (guarded FinancialSystem.step fun s a => decide (s.NormalizedEvents a))
      disputedThenRefunded capturedFinances).any (fun sys =>
        doublyPaid sys && !decide (sys.refunds.db.Announced 1)) = true := by
    decide +kernel
  obtain ⟨sys, hsys, hcheck⟩ := (Option.any_eq_true _ _).mp hrun
  simp only [Bool.and_eq_true, Bool.not_eq_true', decide_eq_false_iff_not] at hcheck
  obtain ⟨hpaid, hmissed⟩ := hcheck
  obtain ⟨d, hd, hpaid⟩ := (Option.any_eq_true _ _).mp hpaid
  rw [Bool.and_eq_true, beq_iff_eq] at hpaid
  obtain ⟨hopen, hpaid⟩ := hpaid
  obtain ⟨a, ha, hrefunded⟩ := (Option.any_eq_true _ _).mp hpaid
  refine ⟨sys, (reaches_of_guarded hsys).mono fun _ _ =>
    of_decide_eq_true, fun hraised => hmissed ?_⟩
  exact hraised 1 d a hd ha (by rw [hopen]; decide) (of_decide_eq_true hrefunded)

end FinancialSystem

end SeatFlow
