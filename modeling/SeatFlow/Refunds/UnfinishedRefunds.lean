import SeatFlow.Refunds.EventProcessing
import SeatFlow.Refunds.SettlementRace

/-!
# Events for unfinished refunds

A refund with an external identity that is neither finished nor under review is
in processing, so a verified event of the right amount either changes nothing,
applies its outcome or escalates the refund. The row that is written for it must
pass the lifecycle and time-order checks. The branch that advances a refund
stamps `submittedAt` whatever the status, so the row of a cancelled refund has no
`cancelledAt`: a cancellation is rejected on every delivery.
-/

namespace SeatFlow

open Relational Program Entity

variable {s : Db} {wid : WebhookId} {w : PaymentWebhookEvent} {incoming : RefundStatus}
  {id : RefundId} {r : Refund} {now : Time}

/-- The row that an event's status makes of a refund in processing can be stored. -/
def Db.Processable (db : Db) (r : Refund) (incoming : RefundStatus) (now : Time) : Prop :=
  incoming ≠ .CANCELLED ∧
    (incoming = .PROCESSING ∨
      r.requestedAt ≤ now ∧ (incoming = .SUCCEEDED → db.BookingMarkable r now))

namespace RefundSystem

variable {sys₀ sys : RefundSystem}

/-- **Events for unfinished refunds.** In every reachable state, processing a
verified event of the right amount closes its record exactly when the row of its
status can be stored: never for a cancellation, and otherwise unless the clock is
behind the request or, for the success that completes a booking's refunds, behind
the booking. -/
theorem record_closed_iff_processable (hfresh : sys₀.Fresh)
    (hreach : Reaches step NormalizedEvents sys₀ sys) (h : sys.db.Delivers wid w incoming id r)
    (hunfinished : isTerminalRefundStatus r.status = false) (hreview : r.status ≠ .REQUIRES_REVIEW)
    (hmatching : w.Matching r) :
    ((processVerifiedRefundRecord wid now).commit sys.db).Closed wid ↔
      sys.db.Processable r incoming now := by
  have hs := hfresh.reaches hreach
  have hprocessing := hs.processing h hunfinished hreview
  have hunlinked := hs.stored.unlinked wid w h.record h.opened
  have hcovers : r.coversSeats = true := by
    simp [Refund.coversSeats, hprocessing, isInFlightRefundStatus]
  obtain ⟨hsucceededAt, hfailedAt, -⟩ :=
    outcome_of_processing hs.kept.consistent.sound h.refund.1 hprocessing
  -- a refund in processing has no outcome that an event could be older than
  have houtcome :
      w.outcomeFor incoming r = (decideRefundTransition .PROCESSING incoming).outcome := by
    rw [outcomeFor_current hmatching (by simp [hsucceededAt, hfailedAt, isStaleProviderEvent]),
      hprocessing]
  rw [h.closed_iff_commits]
  unfold Db.Processable
  rcases (hs.stored.normalized wid w incoming h.record h.opened h.status).cases with
    rfl | rfl | rfl | rfl | rfl
  · simp only [ne_eq, reduceCtorEq, not_false_eq_true, true_or, and_self, iff_true]
    exact commits_ignored hs.kept.consistent hs.kept.exact h hunlinked houtcome
      fun s' _ hclosed => Db.closed_of_lookup hclosed
  · rw [commits_succeeded hs.kept.consistent hs.kept.exact h hunlinked hprocessing houtcome
      fun s' _ hclosed => Db.closed_of_lookup hclosed]
    simp
  · rw [commits_failed hs.kept.consistent hs.kept.exact h hunlinked hprocessing houtcome
      fun s' _ hclosed => Db.closed_of_lookup hclosed]
    simp
  · have hnever : ¬Commits (processVerifiedRefundRecord wid now) sys.db fun _ s' => s'.Closed wid :=
      not_commits_cancelled hs.kept.consistent hs.kept.exact h hunlinked hprocessing houtcome
    simp [hnever]
  · rw [commits_escalated hs.kept.consistent hs.kept.exact h hunlinked
      (isSafeCode_of_outcomeFor houtcome) houtcome fun s' _ hclosed => Db.closed_of_lookup hclosed]
    simp [hcovers]

/-- One seat's refund submitted, and the provider's event about it stored. -/
def submittedAndReported (status : RefundStatus) : List RefundAction :=
  requestAndSubmit { userId := 2, role := .PLATFORM_ADMIN } 1 1 1 (.accepts 71 none) ++
    [.storeWebhook .STRIPE { firstSeatSucceeded with status := status } 91 220]

theorem record_closed_iff_processable_failure :
    ∃ sys, Reaches step NormalizedEvents capturedStart sys ∧
      ((processVerifiedRefundRecord 91 230).commit sys.db).Closed 91 := by
  have hrun : (execute (guarded step fun s a => decide (s.NormalizedEvents a))
      (submittedAndReported .FAILED) capturedStart).any (fun sys =>
        (sys.db.webhooks.lookup 91).any fun w => (sys.db.refunds.lookup 1).any fun r =>
          decide (sys.db.Delivers 91 w .FAILED 1 r ∧ isTerminalRefundStatus r.status = false ∧
            r.status ≠ .REQUIRES_REVIEW ∧ w.Matching r ∧ r.requestedAt ≤ 230)) = true := by
    decide +kernel
  obtain ⟨sys, hsys, hcheck⟩ := (Option.any_eq_true _ _).mp hrun
  obtain ⟨w, hw, hcheck⟩ := (Option.any_eq_true _ _).mp hcheck
  obtain ⟨r, hr, hcheck⟩ := (Option.any_eq_true _ _).mp hcheck
  obtain ⟨hdelivers, hunfinished, hreview, hmatching, hrequested⟩ := of_decide_eq_true hcheck
  have hreach := reaches_of_normalized hsys
  refine ⟨sys, hreach,
    (record_closed_iff_processable capturedStart_fresh hreach hdelivers hunfinished
    hreview hmatching).mpr ?_⟩
  exact ⟨by simp, .inr ⟨hrequested, by simp⟩⟩

/-- A verified cancellation of a submitted refund is not recorded. -/
theorem cancellation_never_closed :
    ∃ sys, Reaches step NormalizedEvents capturedStart sys ∧
      ∃ w r, sys.db.Delivers 91 w .CANCELLED 1 r ∧ isTerminalRefundStatus r.status = false ∧
        r.status ≠ .REQUIRES_REVIEW ∧ w.Matching r ∧
        ¬((processVerifiedRefundRecord 91 230).commit sys.db).Closed 91 := by
  have hrun : (execute (guarded step fun s a => decide (s.NormalizedEvents a))
      (submittedAndReported .CANCELLED) capturedStart).any (fun sys =>
        (sys.db.webhooks.lookup 91).any fun w => (sys.db.refunds.lookup 1).any fun r =>
          decide (sys.db.Delivers 91 w .CANCELLED 1 r ∧ isTerminalRefundStatus r.status = false ∧
            r.status ≠ .REQUIRES_REVIEW ∧ w.Matching r) &&
          (((processVerifiedRefundRecord 91 230).commit sys.db).webhooks.lookup 91).all fun w =>
            !w.processingStatus.isFinal) = true := by
    decide +kernel
  obtain ⟨sys, hsys, hcheck⟩ := (Option.any_eq_true _ _).mp hrun
  obtain ⟨w, hw, hcheck⟩ := (Option.any_eq_true _ _).mp hcheck
  obtain ⟨r, hr, hcheck⟩ := (Option.any_eq_true _ _).mp hcheck
  rw [Bool.and_eq_true] at hcheck
  obtain ⟨hdelivers, hunfinished, hreview, hmatching⟩ := of_decide_eq_true hcheck.1
  refine ⟨sys, reaches_of_normalized hsys, w, r, hdelivers, hunfinished, hreview, hmatching, ?_⟩
  rintro ⟨w', hw', hfinal⟩
  have hopen := (Option.all_eq_true _ _).mp hcheck.2 w' hw'
  simp [hfinal] at hopen

end RefundSystem

end SeatFlow
