import SeatFlow.Refunds.LedgerMirror

/-!
# Which event settles which refund

A refund's money is recorded as returned by processing one open record: the record of
a current event that matches the refund and moves it to `SUCCEEDED`. Everything that
depends on money having been returned changes in such a step only.
-/

namespace SeatFlow

open Relational Program

/-- The refund that processing the record settles, when the event's transition is
applied: the record is open, the event matches the refund and is not stale. -/
def Db.succeeding (db : Db) (webhookId : WebhookId) : Option (RefundId × Refund) :=
  (db.webhooks.lookup webhookId).bind fun w =>
    (w.providerRefundId.bind db.refundNamed).filter fun e =>
    w.processingStatus.isFinal = false ∧ w.normalizedRefundStatus = some .SUCCEEDED ∧
      w.Matching e.2 ∧
      isStaleProviderEvent (e.2.succeededAt.or e.2.failedAt) w.providerOccurredAt = false ∧
      decideRefundTransition e.2.status .SUCCEEDED = .apply .SUCCEEDED

variable {s s' : Db} {wid : WebhookId} {w : PaymentWebhookEvent} {incoming : RefundStatus}
  {id : RefundId} {r : Refund} {now : Time}

theorem Db.lookup_of_succeeding (h : s.succeeding wid = some (id, r)) :
    s.refunds.lookup id = some r := by
  obtain ⟨w, -, hfound⟩ := Option.bind_eq_some_iff.mp h
  obtain ⟨hnamed, -⟩ := Option.filter_eq_some_iff.mp hfound
  obtain ⟨ref, -, hnamed⟩ := Option.bind_eq_some_iff.mp hnamed
  exact (Db.lookup_of_refundNamed hnamed).1

/-- An event whose outcome is a success settles its refund. -/
theorem Db.Delivers.succeeding (h : s.Delivers wid w incoming id r)
    (houtcome : w.outcomeFor incoming r = .APPLIED .SUCCEEDED) :
    s.succeeding wid = some (id, r) := by
  obtain ⟨hincoming, -, -, happly⟩ := applied_of_outcomeFor houtcome
  subst hincoming
  obtain ⟨hrecord, hopened, hstatus, hnamed⟩ := Db.delivers_iff.mp h
  refine Option.bind_eq_some_iff.mpr ⟨w, hrecord, Option.filter_eq_some_iff.mpr ⟨hnamed, ?_⟩⟩
  have hfits : w.Matching r ∧
      isStaleProviderEvent (r.succeededAt.or r.failedAt) w.providerOccurredAt = false := by
    unfold PaymentWebhookEvent.outcomeFor at houtcome
    split_ifs at houtcome with hmismatch hstale
    exact ⟨hmismatch, by simpa using hstale⟩
  exact decide_eq_true ⟨hopened, hstatus, hfits.1, hfits.2, happly⟩

/-- A settled refund adds its amount to its payment's refunded total and to no other. -/
theorem refundedSum_of_success (hr : s.refunds.lookup id = some r)
    (hrefunds : s'.refunds = s.refunds.insert id (RefundUpdate.apply r (.succeed now)))
    {p : AttemptId} (hp : p ≠ r.paymentAttemptId) : s'.refundedSum p = s.refundedSum p := by
  rw [Db.refundedSum, hrefunds, refundedSum_written hr]
  simp [Refund.refundedOf, RefundUpdate.apply, hp.symm]

namespace RefundSystem

variable {sys sys' : RefundSystem}

/-- **What a step settles**: nothing, or the one refund of the record it processes. -/
theorem settled_cases {a : RefundAction} (hs : sys.Reachable) (h : sys.step a = some sys') :
    sys'.db.settledAt = sys.db.settledAt ∨
    ∃ wid now id r, a = .processWebhook wid now ∧ sys.db.succeeding wid = some (id, r) ∧
      sys'.db.refunds = sys.db.refunds.insert id (RefundUpdate.apply r (.succeed now)) := by
  by_cases hprocess : ∃ wid now, a = .processWebhook wid now
  · obtain ⟨wid, now, rfl⟩ := hprocess
    rcases hs.processed_cases h with ⟨hrefunds, -⟩ |
      ⟨w, incoming, id, r, outcome, hdelivers, -, houtcome, hrefunds, -⟩
    · refine .inl ?_
      funext id
      rw [Db.settledAt, hrefunds, Db.settledAt]
    · by_cases hsuccess : outcome = .APPLIED .SUCCEEDED
      · rw [hsuccess] at houtcome hrefunds
        exact .inr ⟨wid, now, id, r, rfl, hdelivers.succeeding houtcome.symm, hrefunds⟩
      · exact .inl (settledAt_of_outcome hsuccess hdelivers.refund.1 hrefunds)
  · exact .inl (settledAt_of_step (fun wid now heq => hprocess ⟨wid, now, heq⟩) h)

/-- A payment's refunded total changes only when a refund of its is settled. -/
theorem refundedSum_cases {a : RefundAction} (hs : sys.Reachable) (h : sys.step a = some sys')
    (p : AttemptId) :
    sys'.db.refundedSum p = sys.db.refundedSum p ∨
    ∃ wid now id r, a = .processWebhook wid now ∧ sys.db.succeeding wid = some (id, r) ∧
      r.paymentAttemptId = p := by
  rcases settled_cases hs h with hsettled | ⟨wid, now, id, r, ha, hsucceeding, hrefunds⟩
  · exact .inl (refundedSum_of_settledAt hsettled (fun _ _ hr => refund_evolves (db_steps h) hr) p)
  · by_cases hp : p = r.paymentAttemptId
    · exact .inr ⟨wid, now, id, r, ha, hsucceeding, hp.symm⟩
    · exact .inl (refundedSum_of_success (Db.lookup_of_succeeding hsucceeding) hrefunds hp)

end RefundSystem

end SeatFlow
