import SeatFlow.Disputes.DisputeWrites
import SeatFlow.Refunds.EventFrames
import SeatFlow.Refunds.LedgerMirror

/-!
# Refunds and disputes together

The refund system with verified dispute events between its steps. A dispute event is
stored and processed like a refund event, in a transaction of its own, and leaves
the refund system in a reachable state. For every claim the state of the order's
financial review at its commit is noted.
-/

namespace SeatFlow

open Relational Program Entity

/-- The review state of a refund's order. -/
def Db.reviewState (db : Db) (id : RefundId) : Option FinancialReviewState :=
  (db.refunds.lookup id).bind fun r => (db.orders.lookup r.orderId).map (·.financialReviewState)

structure FinancialSystem where
  refunds : RefundSystem
  claims : List (RefundId × Option FinancialReviewState) := []

inductive FinancialAction
  | refund (a : RefundAction)
  | storeDispute (provider : PaymentProviderName) (event : NormalizedDisputeWebhookEvent)
      (fresh : WebhookId) (now : Time)
  | processDispute (webhookId : WebhookId) (fresh : FreshDispute) (now : Time)

namespace RefundSystem

/-- The claim that a step committed, with the review state it was committed under. -/
def committedClaim (refunds' : RefundSystem) :
    RefundAction → List (RefundId × Option FinancialReviewState)
  | .claim id _ refundId _ =>
      if (refunds'.submissions.lookup id).isSome then [(refundId, refunds'.db.reviewState refundId)]
      else []
  | _ => []

end RefundSystem

namespace FinancialSystem

/-- One step of the system; `none` when the action is not possible now. -/
def step (sys : FinancialSystem) : FinancialAction → Option FinancialSystem
  | .refund a =>
      (sys.refunds.step a).map fun refunds =>
        { refunds := refunds, claims := sys.claims ++ refunds.committedClaim a }
  | .storeDispute provider event fresh now =>
      let db := (storeVerifiedDisputeWebhook provider event fresh now).commit sys.refunds.db
      some { sys with refunds := { sys.refunds with db := db } }
  | .processDispute webhookId fresh now =>
      let db := (processVerifiedDisputeRecord webhookId fresh now).commit sys.refunds.db
      some { sys with refunds := { sys.refunds with db := db } }

/-- The events of a run are normalised before they are stored. -/
def NormalizedEvents (sys : FinancialSystem) : FinancialAction → Prop
  | .refund a => sys.refunds.NormalizedEvents a
  | _ => True

variable {sys sys' : FinancialSystem}

theorem step_refund {a : RefundAction} (h : sys.step (.refund a) = some sys') :
    ∃ refunds, sys.refunds.step a = some refunds ∧
      sys' = { refunds := refunds, claims := sys.claims ++ refunds.committedClaim a } := by
  obtain ⟨refunds, hstep, rfl⟩ := Option.map_eq_some_iff.mp h
  exact ⟨refunds, hstep, rfl⟩

end FinancialSystem

/-! ## §1 Steps beside the refund system -/

/-- The totals of a payment; those of an unknown one are nothing. -/
def Db.totalsOf (db : Db) (p : AttemptId) : Money × Money :=
  (db.attempts.lookup p).elim (0, 0) PaymentAttempt.totals

/-- A record that is open was as open before, with the same links, or is new and linked to
nothing. -/
def Db.RecordsAside (s s' : Db) : Prop :=
  ∀ id w', s'.webhooks.lookup id = some w' → w'.processingStatus.isFinal = false →
    (w'.links = (none, none) ∧ w'.normalizedRefundStatus = none) ∨
      ∃ w, s.webhooks.lookup id = some w ∧ w.processingStatus.isFinal = false ∧
        w'.links = w.links ∧ w'.normalizedRefundStatus = w.normalizedRefundStatus

theorem Db.RecordsAside.of_open {s s' : Db}
    (h : ∀ id w, s'.webhooks.lookup id = some w → w.processingStatus.isFinal = false →
      s.webhooks.lookup id = some w) : s.RecordsAside s' :=
  fun id w hw hopened => .inr ⟨w, h id w hw hopened, hopened, rfl, rfl⟩

/-- What a transaction of another service leaves of the tables that refunds are about. -/
structure Db.RefundsAside (s s' : Db) : Prop where
  refunds : s'.refunds = s.refunds
  totals : ∀ p, s'.totalsOf p = s.totalsOf p
  records : s.RecordsAside s'

/-- A write of other tables. -/
theorem Db.RefundsAside.of_eq {s s' : Db} (hrefunds : s'.refunds = s.refunds)
    (hattempts : s'.attempts = s.attempts) (hrecords : s.RecordsAside s') : s.RefundsAside s' :=
  ⟨hrefunds, fun p => by rw [Db.totalsOf, hattempts, Db.totalsOf], hrecords⟩

theorem Db.refundsAside_refl (s : Db) : s.RefundsAside s :=
  .of_eq rfl rfl (.of_open fun _ _ hw _ => hw)

theorem Db.RefundsAside.trans {s₁ s₂ s₃ : Db} (h : s₁.RefundsAside s₂) (h' : s₂.RefundsAside s₃) :
    s₁.RefundsAside s₃ where
  refunds := h'.refunds.trans h.refunds
  totals := fun p => (h'.totals p).trans (h.totals p)
  records := by
    intro id w₃ hw₃ hopened₃
    rcases h'.records id w₃ hw₃ hopened₃ with hnew | ⟨w₂, hw₂, hopened₂, hlinks, hstatus⟩
    · exact .inl hnew
    · rcases h.records id w₂ hw₂ hopened₂ with hnew | ⟨w₁, hw₁, hopened₁, hlinks₁, hstatus₁⟩
      · exact .inl ⟨hlinks.trans hnew.1, hstatus.trans hnew.2⟩
      · exact .inr ⟨w₁, hw₁, hopened₁, hlinks.trans hlinks₁, hstatus.trans hstatus₁⟩

theorem ensures_storedDispute_aside {s : Db} {provider : PaymentProviderName}
    {event : NormalizedDisputeWebhookEvent} {fresh : WebhookId} {now : Time} :
    Ensures (storeVerifiedDisputeWebhook provider event fresh now) s fun _ s' =>
      s.RefundsAside s' := by
  refine ensures_bind.mpr (ensures_findMany.mpr (ensures_bind.mpr (ensures_findMany.mpr ?_)))
  split
  · exact ensures_pure.mpr s.refundsAside_refl
  · refine ensures_bind.mpr (ensures_insert.mpr fun _ _ => ensures_pure.mpr (.of_eq rfl rfl ?_))
    intro id w hw hopened
    rcases Table.wrote_insert.cases hw with ⟨-, rfl⟩ | ⟨-, hold⟩
    · exact .inl ⟨rfl, rfl⟩
    · exact .inr ⟨w, hold, hopened, rfl, rfl⟩

theorem ensures_processedDispute_aside {s : Db} {webhookId : WebhookId} {fresh : FreshDispute}
    {now : Time} :
    Ensures (processVerifiedDisputeRecord webhookId fresh now) s fun _ s' => s.RefundsAside s' := by
  refine ((ensures_processedDispute_refundTables.and ensures_processedDispute_otherRecords).and
    ensures_processedDispute_closed).mono ?_
  rintro - s' ⟨⟨htables, hothers⟩, hclosed⟩
  refine .of_eq (congrArg Prod.fst htables) (congrArg Prod.snd htables) (.of_open ?_)
  intro id w hw hopened
  rcases hclosed with hsame | ⟨w', hw', hfinal⟩
  · rwa [hsame] at hw
  · by_cases hid : id = webhookId
    · subst hid
      cases Option.some.inj (hw'.symm.trans hw)
      rw [hfinal] at hopened
      cases hopened
    · have hother := congrFun hothers id
      simp only [Db.otherRecords, hid, if_false] at hother
      rw [← hother]
      exact hw

namespace RefundSystem

variable {refunds : RefundSystem}

/-- The totals of a payment are the sums over its refunds, also of an unknown one: no
refund is of a payment that is not there. -/
theorem Reachable.totalsOf (hs : refunds.Reachable) (p : AttemptId) :
    refunds.db.totalsOf p = (refunds.db.refundedSum p, refunds.db.inFlightSum p) := by
  unfold Db.totalsOf
  cases hlook : refunds.db.attempts.lookup p with
  | some a =>
      obtain ⟨hrefunded, hinFlight⟩ := paymentAggregate_faithful.mp (hs.kept.exact p) a hlook
      rw [Option.elim_some, PaymentAttempt.totals, hrefunded, hinFlight]
  | none =>
      have hother : ∀ id r, refunds.db.refunds.lookup id = some r → r.paymentAttemptId ≠ p := by
        rintro id r hr rfl
        obtain ⟨a, ha, -⟩ := payment_of_refund hs.kept.consistent.sound hr
        rw [hlook] at ha
        cases ha
      have hrefunded : refunds.db.refundedSum p = 0 :=
        Table.sum_eq_zero_of_rows fun id r hr => if_neg fun hboth => hother id r hr hboth.1
      have hinFlight : refunds.db.inFlightSum p = 0 :=
        Table.sum_eq_zero_of_rows fun id r hr => if_neg fun hboth => hother id r hr hboth.1
      rw [Option.elim_none, hrefunded, hinFlight]

/-- The system stays reachable when its database becomes one with the same refunds and
payment totals. -/
theorem Reachable.kept_rows (hs : refunds.Reachable) {db : Db} (hconsistent : db.Consistent)
    (hlookup : ∀ id, db.refunds.lookup id = refunds.db.refunds.lookup id)
    (htotals : ∀ p, db.totalsOf p = refunds.db.totalsOf p) (hrecords : refunds.db.RecordsAside db) :
    Reachable { refunds with db := db } := by
  constructor
  case kept =>
    refine ⟨hconsistent, fun p => paymentAggregate_faithful.mpr fun a ha => ?_⟩
    have hsums : ∀ w : RefundId → Refund → Money, db.refunds.sum w = refunds.db.refunds.sum w :=
      fun w => Table.sum_congr fun id => by rw [Table.contribution, Table.contribution, hlookup]
    have hstored := (htotals p).trans (hs.totalsOf p)
    rw [Db.totalsOf, ha, Option.elim_some, PaymentAttempt.totals, Prod.mk.injEq] at hstored
    simpa only [Db.refundedSum, Db.inFlightSum, hsums] using hstored
  case grounded =>
    have hgrounded := hs.grounded
    exact
      { rows := ⟨by simpa only [hlookup] using hgrounded.rows.approval,
          by simpa only [hlookup] using hgrounded.rows.keys,
          by simpa only [hlookup] using hgrounded.rows.lifecycle⟩
        externalIds := hgrounded.externalIds
        externalKeys := hgrounded.externalKeys
        linked := by simpa only [hlookup] using hgrounded.linked
        owned := by simpa only [hlookup] using hgrounded.owned
        answered := hgrounded.answered }
  case stored =>
    constructor
    · intro id w hw hopened
      rcases hrecords id w hw hopened with ⟨hnew, -⟩ | ⟨w₀, hw₀, hopened₀, hlinks, -⟩
      · exact congrArg Prod.fst hnew
      · exact (congrArg Prod.fst hlinks).trans (hs.stored.unlinked id w₀ hw₀ hopened₀)
    · intro id w status hw hopened hstatus
      rcases hrecords id w hw hopened with ⟨-, hnone⟩ | ⟨w₀, hw₀, hopened₀, -, hsame⟩
      · rw [hnone] at hstatus
        cases hstatus
      · exact hs.stored.normalized id w₀ status hw₀ hopened₀ (hsame.symm.trans hstatus)
  case attached =>
    intro id r hr
    exact hs.attached id r (hlookup id ▸ hr)

/-- A transaction of another service keeps the system reachable. -/
theorem Reachable.kept_db (hs : refunds.Reachable) {db : Db} (hconsistent : db.Consistent)
    (haside : refunds.db.RefundsAside db) : Reachable { refunds with db := db } :=
  hs.kept_rows hconsistent (fun id => by rw [haside.refunds]) haside.totals haside.records

end RefundSystem

namespace FinancialSystem

variable {sys sys' : FinancialSystem}

/-- **Refunds and disputes.** Every step keeps the refund system reachable. -/
theorem reachable_step {a : FinancialAction} (hs : sys.refunds.Reachable)
    (hok : sys.NormalizedEvents a) (h : sys.step a = some sys') : sys'.refunds.Reachable := by
  cases a with
  | refund a =>
      obtain ⟨refunds, hstep, rfl⟩ := step_refund h
      exact hs.step hok hstep
  | storeDispute provider event fresh now =>
      cases h
      refine hs.kept_db ((steps_keeping.mp (consistent_storeVerifiedDisputeWebhook _ _ _ _) _
        hs.kept.consistent).commit hs.kept.consistent) ?_
      exact ensures_storedDispute_aside.commit (Db.refundsAside_refl _)
  | processDispute webhookId fresh now =>
      cases h
      refine hs.kept_db ((steps_keeping.mp (consistent_processVerifiedDisputeRecord _ _ _) _
        hs.kept.consistent).commit hs.kept.consistent) ?_
      exact ensures_processedDispute_aside.commit (Db.refundsAside_refl _)

/-- A record that is closed stays closed. -/
theorem closed_step {a : FinancialAction} (h : sys.step a = some sys') {wid : WebhookId}
    (hclosed : sys.refunds.db.Closed wid) : sys'.refunds.db.Closed wid := by
  cases a with
  | refund a =>
      obtain ⟨refunds, hstep, rfl⟩ := step_refund h
      exact RefundSystem.closed_step hstep hclosed
  | storeDispute provider event fresh now =>
      cases h
      refine Ensures.commit (Q := fun s' : Db => s'.Closed wid) ?_ hclosed
      refine ensures_bind.mpr (ensures_findMany.mpr (ensures_bind.mpr (ensures_findMany.mpr ?_)))
      split
      · exact ensures_pure.mpr hclosed
      · refine ensures_bind.mpr (ensures_insert.mpr fun habsent _ => ensures_pure.mpr ?_)
        obtain ⟨w, hw, hfinal⟩ := hclosed
        refine ⟨w, (AList.lookup_insert_ne ?_).trans hw, hfinal⟩
        rintro rfl
        rw [show sys.refunds.db.webhooks.lookup wid = none from habsent] at hw
        cases hw
  | processDispute webhookId fresh now =>
      cases h
      refine Ensures.commit (Q := fun s' : Db => s'.Closed wid) ?_ hclosed
      refine (ensures_processedDispute_otherRecords.and ensures_processedDispute_closed).mono ?_
      rintro - s' ⟨hothers, hown⟩
      obtain ⟨w, hw, hfinal⟩ := hclosed
      by_cases hwid : wid = webhookId
      · subst hwid
        rcases hown with hsame | hclosed'
        · exact ⟨w, hsame ▸ hw, hfinal⟩
        · exact hclosed'
      · have hother := congrFun hothers wid
        simp only [Db.otherRecords, hwid, if_false] at hother
        exact ⟨w, hother.trans hw, hfinal⟩

/-- The captured payment with nothing claimed. -/
def capturedFinances : FinancialSystem :=
  { refunds := RefundSystem.capturedStart }

end FinancialSystem

end SeatFlow
