import SeatFlow.Disputes.FinancialSystem
import SeatFlow.Refunds.OpenSeats

/-!
# The review gate

A payment under financial review takes no new refund: `requestRefund` looks at the
order's flag. The claim that hands a refund to the provider does not, so a refund is
sent under review if the flag was raised while the refund waited for its claim.
-/

namespace SeatFlow

open Relational Program Entity

variable {s s' : Db} {wid : WebhookId} {w : PaymentWebhookEvent} {incoming : RefundStatus}
  {id : RefundId} {r : Refund} {now : Time}

/-! ## §1 Orders without a flag -/

/-- The order is under no review. -/
def Db.Unreviewed (db : Db) (orderId : OrderId) : Prop :=
  ∃ order, db.orders.lookup orderId = some order ∧ order.financialReviewState = .NONE

/-- The orders other than `orderId`. -/
def Db.otherOrders (orderId : OrderId) (db : Db) (id : OrderId) : Option CheckoutOrder :=
  if id = orderId then none else db.orders.lookup id

theorem flagging_otherOrders (orderId : OrderId) :
    Flagging (Framing (Db.otherOrders orderId)) orderId := by
  refine fun state => steps_update fun s order _ _ => funext fun id => ?_
  unfold Db.otherOrders
  split
  · rfl
  · rename_i hother
    exact AList.lookup_insert_ne hother

theorem otherOrders_frame (orderId : OrderId) : RefundFrame (Db.otherOrders orderId) :=
  ⟨⟨fun _ _ => rfl, fun _ _ => rfl, fun _ _ => rfl, fun _ _ => rfl, fun _ _ _ _ => rfl⟩,
    fun _ _ _ _ _ => rfl⟩

/-- A refund event touches the orders by flagging one. -/
theorem ensures_processed_orders :
    Ensures (processVerifiedRefundRecord wid now) s fun _ s' =>
      ∀ orderId, s.refundFlags wid ≠ some orderId →
        s'.orders.lookup orderId = s.orders.lookup orderId := by
  cases hflags : s.refundFlags wid with
  | none =>
      refine (framed_processed orders_frame (crediting_of_free fun _ _ => rfl)
        (revoking_of_free (fun _ _ => rfl) fun _ _ => rfl) (fun _ _ => rfl) (fun _ _ => rfl)
        fun orderId horder => ?_).mono fun _ s' hsame orderId _ => by rw [hsame]
      rw [hflags] at horder
      cases horder
  | some flagged =>
      refine (framed_processed (otherOrders_frame flagged) (crediting_of_free fun _ _ => rfl)
        (revoking_of_free (fun _ _ => rfl) fun _ _ => rfl) (fun _ _ => rfl) (fun _ _ => rfl)
        fun orderId horder => ?_).mono fun _ s' hsame orderId hne => ?_
      · cases Option.some.inj (hflags.symm.trans horder)
        exact flagging_otherOrders flagged
      · have hother := congrFun hsame orderId
        have hdistinct : orderId ≠ flagged := fun heq => hne (heq ▸ rfl)
        simpa only [Db.otherOrders, hdistinct, if_false] using hother

/-- The order that the dispute event of a record flags, if any. -/
def Db.recordFlags (db : Db) (webhookId : WebhookId) : Option OrderId :=
  match db.webhooks.lookup webhookId with
  | none => none
  | some w =>
      if w.processingStatus.isFinal then none
      else
        match w.providerDisputeId, w.normalizedDisputeStatus with
        | some ref, some incoming => db.disputeFlags w.providerIntentId ref incoming
        | _, _ => none

/-- Processing a dispute event changes no order but the one it may flag. -/
theorem ensures_processedDispute_orders {fresh : FreshDispute} :
    Ensures (processVerifiedDisputeRecord wid fresh now) s fun _ s' =>
      ∀ orderId, s.recordFlags wid ≠ some orderId →
        s'.orders.lookup orderId = s.orders.lookup orderId := by
  have hflags : ∀ w ref status orderId, s.webhooks.lookup wid = some w →
      w.processingStatus.isFinal = false → w.providerDisputeId = some ref →
      w.normalizedDisputeStatus = some status →
      s.disputeFlags w.providerIntentId ref status = some orderId →
      s.recordFlags wid = some orderId := by
    intro w ref status orderId hw hopened href hstatus horder
    simp only [Db.recordFlags, hw, hopened, href, hstatus, Bool.false_eq_true, if_false]
    exact horder
  have hframed : ∀ {γ : Type} (part : Db → γ),
      (∀ s s' : Db, s'.orders = s.orders → part s' = part s) →
      (∀ orderId, s.recordFlags wid = some orderId → Flagging (Framing part) orderId) →
      Ensures (processVerifiedDisputeRecord wid fresh now) s fun _ s' => part s' = part s := by
    intro γ part horders hflag
    refine framed_processVerifiedDisputeRecord (disputeWrites_framing
      (fun _ _ _ _ _ _ _ _ => horders _ _ rfl) (fun _ _ _ _ => horders _ _ rfl)
      fun _ _ => horders _ _ rfl) (fun _ _ => horders _ _ rfl) (fun _ _ _ _ => ?_) ?_
    · exact steps_require.bind fun _ => steps_insertNew fun _ _ _ => horders _ _ rfl
    · intro w ref status orderId hw hopened href hstatus horder
      exact hflag orderId (hflags w ref status orderId hw hopened href hstatus horder)
  cases hrecord : s.recordFlags wid with
  | none =>
      refine (hframed Db.orders (fun _ _ h => h) fun orderId horder => ?_).mono
        fun _ s' hsame orderId _ => by rw [hsame]
      rw [hrecord] at horder
      cases horder
  | some flagged =>
      refine (hframed (Db.otherOrders flagged) (fun _ _ h => ?_) fun orderId horder => ?_).mono
        fun _ s' hsame orderId hne => ?_
      · funext orderId
        simp only [Db.otherOrders, h]
      · cases Option.some.inj (hrecord.symm.trans horder)
        exact flagging_otherOrders flagged
      · have hother := congrFun hsame orderId
        have hdistinct : orderId ≠ flagged := fun heq => hne (heq ▸ rfl)
        simpa only [Db.otherOrders, hdistinct, if_false] using hother

/-- A requested refund is of an order under no review. -/
theorem ensures_requestRefund_gate {actor : RefundActor} {input : RefundRequestInput}
    {fresh : FreshRefund} :
    Ensures (requestRefund actor input fresh now) s fun _ s' =>
      s'.refunds = s.refunds ∨
        ∃ r, s.refunds.Wrote fresh.refundId r s'.refunds ∧ s.Unreviewed r.orderId := by
  refine ensures_requestRefund_row.mono ?_
  rintro - s' (hsame | ⟨r, order, hwrote, horder, hreview, -⟩)
  · exact .inl hsame
  · exact .inr ⟨r, hwrote, order, horder, hreview⟩

/-! ## §2 Waiting refunds -/

/-- No refund of the order waits for its claim. -/
def Db.NoneWaiting (db : Db) (orderId : OrderId) : Prop :=
  ∀ e ∈ db.refunds.rows, e.2.orderId = orderId → e.2.status ≠ .REQUESTED

instance (db : Db) (orderId : OrderId) : Decidable (db.NoneWaiting orderId) :=
  inferInstanceAs
    (Decidable (∀ e ∈ db.refunds.rows, e.2.orderId = orderId → e.2.status ≠ .REQUESTED))

/-- Every waiting refund is of an order under no review. -/
def Db.Clear (db : Db) : Prop :=
  ∀ id r, db.refunds.lookup id = some r → r.status = .REQUESTED → db.Unreviewed r.orderId

/-- Refunds that wait waited before, and their orders are as they were. -/
theorem Db.Clear.kept (hs : s.Clear)
    (hrefunds : ∀ id r', s'.refunds.lookup id = some r' → r'.status = .REQUESTED →
      ∃ r, s.refunds.lookup id = some r ∧ r.status = .REQUESTED ∧ r.orderId = r'.orderId)
    (horders : ∀ id r, s.refunds.lookup id = some r → r.status = .REQUESTED →
      s'.orders.lookup r.orderId = s.orders.lookup r.orderId) : s'.Clear := by
  intro id r' hr' hwaits'
  obtain ⟨r, hr, hwaits, horder⟩ := hrefunds id r' hr' hwaits'
  obtain ⟨order, hfound, hnone⟩ := hs id r hr hwaits
  exact ⟨order, by rw [← horder, horders id r hr hwaits, hfound], hnone⟩

/-- An event that flags no order with a waiting refund, or is rolled back. -/
theorem Db.Clear.event {α : Type} {p : Sql α} {flagged : Option OrderId} (hs : s.Clear)
    (hquiet : (p.run s).isOk = true → ∀ orderId ∈ flagged, s.NoneWaiting orderId)
    (hrefunds : ∀ id r', (p.commit s).refunds.lookup id = some r' → r'.status = .REQUESTED →
      ∃ r, s.refunds.lookup id = some r ∧ r.status = .REQUESTED ∧ r.orderId = r'.orderId)
    (horders : Ensures p s fun _ s' => ∀ orderId, flagged ≠ some orderId →
      s'.orders.lookup orderId = s.orders.lookup orderId) : (p.commit s).Clear := by
  cases hrun : p.run s with
  | error e => rwa [show p.commit s = s by simp [Program.commit, hrun]]
  | ok result =>
      refine hs.kept hrefunds fun id r hr hwaits => ?_
      rw [commit_of_run hrun]
      refine horders _ _ hrun r.orderId fun hflagged => ?_
      exact hquiet (by simp [hrun, Except.isOk, Except.toBool]) r.orderId hflagged (id, r)
        (Table.mem_rows.mpr hr) rfl hwaits

namespace RefundSystem

variable {sys sys' : RefundSystem}

/-- No update of a submission or a reconciliation lets a refund wait again. -/
theorem allowed_waiting {a : RefundAction} (hprocess : ∀ wid now, a ≠ .processWebhook wid now)
    {u : RefundUpdate} (hu : sys.Allowed a id u) : u.status ≠ .REQUESTED := by
  cases a with
  | claim sid provider refundId now =>
      obtain ⟨-, t, rfl⟩ := hu
      simp [RefundUpdate.status]
  | finish sid =>
      obtain ⟨claimed, provider, now, answer, -, -, rfl⟩ := hu
      cases answer with
      | returned ref => simp [answerUpdate, RefundUpdate.status]
      | threw message =>
          simp only [answerUpdate]
          split <;> simp [RefundUpdate.status]
  | adopt refundId ref =>
      obtain ⟨-, rfl⟩ := hu
      simp [RefundUpdate.status]
  | processWebhook wid now => exact absurd rfl (hprocess wid now)
  | _ => exact hu.elim

/-- A claim is taken under a new name. -/
theorem absent_of_claim {sid : SubmissionId} {provider : PaymentProviderName} {refundId : RefundId}
    {now : Time} (h : sys.step (.claim sid provider refundId now) = some sys') :
    sys.submissions.lookup sid = none := by
  simp only [step] at h
  split at h
  · assumption
  · assumption
  · cases h

/-- A refund that waits after an action other than a request waited before. -/
theorem Reachable.waited (hs : sys.Reachable) {a : RefundAction}
    (hrequest : ∀ actor input fresh now, a ≠ .requestRefund actor input fresh now)
    (h : sys.step a = some sys') {r' : Refund} (hr' : sys'.db.refunds.lookup id = some r')
    (hwaits : r'.status = .REQUESTED) :
    ∃ r, sys.db.refunds.lookup id = some r ∧ r.status = .REQUESTED ∧ r.orderId = r'.orderId := by
  by_cases hprocess : ∃ wid now, a = .processWebhook wid now
  · obtain ⟨wid, now, rfl⟩ := hprocess
    rcases hs.processed_cases h with ⟨hsame, -⟩ |
      ⟨w, incoming, rid, r, outcome, hdelivers, -, houtcome, hrefunds, -⟩
    · exact ⟨r', hsame ▸ hr', hwaits, rfl⟩
    · rw [hrefunds, RefundSettlementOutcome.refunds] at hr'
      cases hupdate : outcome.update now with
      | none =>
          rw [hupdate] at hr'
          exact ⟨r', hr', hwaits, rfl⟩
      | some u =>
          rw [hupdate] at hr'
          rcases Table.wrote_insert.cases hr' with ⟨-, rfl⟩ | ⟨-, hold⟩
          · rw [RefundUpdate.status_apply] at hwaits
            have hnormalized := isNormalized_iff.mp
              (hs.stored.normalized wid w incoming hdelivers.record hdelivers.opened
                hdelivers.status)
            cases outcome with
            | REVIEW code =>
                cases hupdate
                cases hwaits
            | APPLIED status =>
                obtain ⟨rfl, -⟩ := applied_of_outcomeFor houtcome.symm
                cases status <;> cases hupdate <;> simp_all [RefundUpdate.status]
            | _ => cases hupdate
          · exact ⟨r', hold, hwaits, rfl⟩
  · have hother : ∀ wid now, a ≠ .processWebhook wid now :=
      fun wid now heq => hprocess ⟨wid, now, heq⟩
    obtain ⟨r, hr⟩ := refund_existed hrequest h hr'
    obtain ⟨r₁, hr₁, -, hstatus⟩ := refund_after h hr
    obtain ⟨r₂, hr₂, hevolves⟩ := refund_evolves (db_steps h) hr
    cases Option.some.inj (hr'.symm.trans hr₁)
    cases Option.some.inj (hr'.symm.trans hr₂)
    refine ⟨r, hr, ?_, hevolves.identity.2.1.symm⟩
    rcases hstatus with hsame | ⟨u, hu, hupdated⟩
    · rw [← hsame, hwaits]
    · exact absurd (hupdated.symm.trans hwaits) (allowed_waiting hother hu)

end RefundSystem

/-! ## §3 Runs -/

namespace FinancialSystem

variable {sys₀ sys sys' : FinancialSystem}

/-- The condition on a step: normalised events, and an event that is processed flags
no order that has a refund waiting for its claim, unless its transaction is rolled
back. -/
def Undisturbed (sys : FinancialSystem) : FinancialAction → Prop
  | .refund (.processWebhook webhookId now) =>
      ((processVerifiedRefundRecord webhookId now).run sys.refunds.db).isOk = true →
        ∀ orderId ∈ sys.refunds.db.refundFlags webhookId, sys.refunds.db.NoneWaiting orderId
  | .refund a => sys.refunds.NormalizedEvents a
  | .storeDispute _ _ _ _ => True
  | .processDispute webhookId fresh now =>
      ((processVerifiedDisputeRecord webhookId fresh now).run sys.refunds.db).isOk = true →
        ∀ orderId ∈ sys.refunds.db.recordFlags webhookId, sys.refunds.db.NoneWaiting orderId

instance (sys : FinancialSystem) : (a : FinancialAction) → Decidable (sys.Undisturbed a)
  | .refund (.processWebhook webhookId now) => inferInstanceAs (Decidable
      (((processVerifiedRefundRecord webhookId now).run sys.refunds.db).isOk = true →
        ∀ orderId ∈ sys.refunds.db.refundFlags webhookId, sys.refunds.db.NoneWaiting orderId))
  | .refund (.storeWebhook _ event _ _) => inferInstanceAs (Decidable (IsNormalized event.status))
  | .refund (.requestRefund ..) | .refund (.claim ..) | .refund (.createRefund ..)
  | .refund (.completeAttempt ..) | .refund (.finish ..) | .refund (.selectAmbiguous ..)
  | .refund (.inspect ..) | .refund (.adopt ..) | .storeDispute .. => instDecidableTrue
  | .processDispute webhookId fresh now => inferInstanceAs (Decidable
      (((processVerifiedDisputeRecord webhookId fresh now).run sys.refunds.db).isOk = true →
        ∀ orderId ∈ sys.refunds.db.recordFlags webhookId, sys.refunds.db.NoneWaiting orderId))

theorem Undisturbed.normalized {a : FinancialAction} (h : sys.Undisturbed a) :
    sys.NormalizedEvents a := by
  cases a with
  | refund a =>
      cases a with
      | processWebhook webhookId now => trivial
      | _ => exact h
  | _ => trivial

/-- What an undisturbed run keeps: no refund waits under review, and every submission
and every call is of a refund that was claimed under no review. -/
structure Gated (sys : FinancialSystem) : Prop where
  reachable : sys.refunds.Reachable
  clear : sys.refunds.db.Clear
  claims : ∀ claim ∈ sys.claims, claim.2 = some .NONE
  submitted : ∀ sid submission, sys.refunds.submissions.lookup sid = some submission →
    ∃ claim ∈ sys.claims, claim.1 = submission.claimed.id
  called : ∀ call ∈ sys.refunds.calls, ∃ claim ∈ sys.claims, claim.1 = call.claimed.id

/-- Refund actions keep the gate. -/
theorem Gated.clear_refund {a : RefundAction} {refunds : RefundSystem} (hs : sys.Gated)
    (hquiet : sys.Undisturbed (.refund a)) (h : sys.refunds.step a = some refunds) :
    refunds.db.Clear := by
  by_cases hrequest : ∃ actor input fresh now, a = .requestRefund actor input fresh now
  · obtain ⟨actor, input, fresh, now, rfl⟩ := hrequest
    cases h
    have hframed := framed_requestRefund orders_frame (fun _ _ => rfl) actor input fresh now
    refine Ensures.commit ((ensures_requestRefund_gate.and (hframed.framed _)).mono ?_) hs.clear
    rintro - s' ⟨hrefunds, horders⟩
    rcases hrefunds with hsame | ⟨r, hwrote, order, horder, hnone⟩
    · exact hs.clear.kept (fun id r' hr' hwaits => ⟨r', hsame ▸ hr', hwaits, rfl⟩)
        fun _ _ _ _ => by rw [horders]
    · intro id r' hr' hwaits
      rcases hwrote.cases hr' with ⟨-, rfl⟩ | ⟨-, hold⟩
      · exact ⟨order, by rw [horders, horder], hnone⟩
      · obtain ⟨order', horder', hnone'⟩ := hs.clear id r' hold hwaits
        exact ⟨order', by rw [horders, horder'], hnone'⟩
  · have hwaited : ∀ id r', refunds.db.refunds.lookup id = some r' → r'.status = .REQUESTED →
        ∃ r, sys.refunds.db.refunds.lookup id = some r ∧ r.status = .REQUESTED ∧
          r.orderId = r'.orderId := fun id r' =>
      hs.reachable.waited
        (fun actor input fresh now heq => hrequest ⟨actor, input, fresh, now, heq⟩) h
    by_cases hprocess : ∃ wid now, a = .processWebhook wid now
    · obtain ⟨wid, now, rfl⟩ := hprocess
      cases h
      exact hs.clear.event hquiet hwaited ensures_processed_orders
    · have horders := RefundSystem.framed_of_step orders_frame h (fun _ _ _ _ _ _ _ => rfl)
        (fun _ _ _ _ _ _ _ => rfl) fun wid now heq => hprocess ⟨wid, now, heq⟩
      exact hs.clear.kept hwaited fun _ _ _ _ => by rw [horders]

/-- A claim is taken from a refund that waits. -/
theorem Gated.claim_unreviewed {a : RefundAction} {refunds : RefundSystem} (hs : sys.Gated)
    (h : sys.refunds.step a = some refunds) {claim : RefundId × Option FinancialReviewState}
    (hclaim : claim ∈ refunds.committedClaim a) : claim.2 = some .NONE := by
  cases a with
  | claim sid provider refundId now =>
      have horders := RefundSystem.framed_of_step orders_frame h (fun _ _ _ _ _ _ _ => rfl)
        (fun _ _ _ _ _ _ _ => rfl) (by simp)
      rcases RefundSystem.step_claim h with ⟨db, hrun, rfl⟩ | ⟨claimed, db, hrun, -, rfl⟩
      · rw [RefundSystem.committedClaim, if_neg] at hclaim
        · cases hclaim
        · simp [RefundSystem.absent_of_claim h]
      · obtain ⟨r, t, hr, hwaits, -, -, hrefunds⟩ :=
          ensures_claimRefundForSubmission _ _ hrun claimed rfl
        obtain ⟨order, horder, hnone⟩ := hs.clear refundId r hr hwaits
        rw [RefundSystem.committedClaim, if_pos (by simp), List.mem_singleton] at hclaim
        subst hclaim
        have hrow : db.refunds.lookup refundId = some (RefundUpdate.apply r (.submit t)) := by
          rw [hrefunds]
          exact AList.lookup_insert _
        replace horders : db.orders = sys.refunds.db.orders := horders
        simp only [Db.reviewState, hrow, Option.bind_some, RefundUpdate.apply, horders, horder,
          Option.map_some, hnone]
  | _ => cases hclaim

/-- Refund actions keep what submissions and calls stand on. -/
theorem Gated.step_refund {a : RefundAction} {refunds : RefundSystem} (hs : sys.Gated)
    (hquiet : sys.Undisturbed (.refund a)) (h : sys.refunds.step a = some refunds) :
    Gated { refunds := refunds, claims := sys.claims ++ refunds.committedClaim a } where
  reachable := hs.reachable.step (show sys.refunds.NormalizedEvents a from hquiet.normalized) h
  clear := hs.clear_refund hquiet h
  claims := by
    intro claim hclaim
    rcases List.mem_append.mp hclaim with hold | hnew
    · exact hs.claims claim hold
    · exact hs.claim_unreviewed h hnew
  submitted := by
    intro sid submission hlook
    have hkept : (∃ claim ∈ sys.claims, claim.1 = submission.claimed.id) →
        ∃ claim ∈ sys.claims ++ refunds.committedClaim a, claim.1 = submission.claimed.id := by
      rintro ⟨claim, hclaim, hid⟩
      exact ⟨claim, List.mem_append_left _ hclaim, hid⟩
    rcases RefundSystem.submission_cases h hlook with hold |
      ⟨claimed, provider, refundId, now, rfl, hrun, rfl⟩ |
      ⟨claimed, provider, now, answer, outcome, -, hold, rfl, -⟩ |
      ⟨claimed, provider, now, answer, -, hold, rfl⟩
    · exact hkept (hs.submitted sid _ hold)
    · obtain ⟨_, _, -, -, hid, -⟩ := ensures_claimRefundForSubmission _ _ hrun claimed rfl
      refine ⟨(refundId, refunds.db.reviewState refundId), List.mem_append_right _ ?_, hid.symm⟩
      rw [RefundSystem.committedClaim, if_pos (by rw [hlook]; rfl), List.mem_singleton]
    · exact hkept (hs.submitted sid (Submission.mk claimed provider now .claimed) hold)
    · exact hkept (hs.submitted sid (Submission.mk claimed provider now (.answered answer)) hold)
  called := by
    intro call hcall
    have hkept : (∃ claim ∈ sys.claims, claim.1 = call.claimed.id) →
        ∃ claim ∈ sys.claims ++ refunds.committedClaim a, claim.1 = call.claimed.id := by
      rintro ⟨claim, hclaim, hid⟩
      exact ⟨claim, List.mem_append_left _ hclaim, hid⟩
    rcases RefundSystem.calls_cases h with heq | ⟨sid, submission, hlook, heq⟩
    · exact hkept (hs.called call (heq ▸ hcall))
    · replace hcall : call ∈ refunds.calls := hcall
      rw [heq, List.mem_append, List.mem_singleton] at hcall
      rcases hcall with hold | rfl
      · exact hkept (hs.called call hold)
      · exact hkept (hs.submitted sid submission hlook)

/-- A dispute's transaction that keeps the refund system and its gate. -/
theorem Gated.kept_db (hs : sys.Gated) {db : Db}
    (hreachable : RefundSystem.Reachable { sys.refunds with db := db }) (hclear : db.Clear) :
    Gated { sys with refunds := { sys.refunds with db := db } } where
  reachable := hreachable
  clear := hclear
  claims := hs.claims
  submitted := hs.submitted
  called := hs.called

theorem Gated.step {a : FinancialAction} (hs : sys.Gated) (hquiet : sys.Undisturbed a)
    (h : sys.step a = some sys') : sys'.Gated := by
  have hreachable := reachable_step hs.reachable hquiet.normalized h
  cases a with
  | refund a =>
      obtain ⟨refunds, hstep, rfl⟩ := FinancialSystem.step_refund h
      exact hs.step_refund hquiet hstep
  | storeDispute provider event fresh now =>
      cases h
      refine hs.kept_db hreachable (Ensures.commit ?_ hs.clear)
      have hframed : (storeVerifiedDisputeWebhook provider event fresh now).Steps
          (Framing fun db : Db => (db.refunds, db.orders)) := by
        refine steps_findMany.bind fun attempts => steps_findMany.bind fun existing => ?_
        split
        · exact steps_pure
        · exact Steps.bind (steps_insert fun _ _ _ => rfl) fun _ => steps_pure
      refine (hframed.framed sys.refunds.db).mono fun _ s' hsame => ?_
      obtain ⟨hrefunds, horders⟩ := Prod.mk.inj hsame
      exact hs.clear.kept (fun id r' hr' hwaits => ⟨r', hrefunds ▸ hr', hwaits, rfl⟩)
        fun _ _ _ _ => by rw [horders]
  | processDispute webhookId fresh now =>
      cases h
      have hrefunds : ((processVerifiedDisputeRecord webhookId fresh now).commit
          sys.refunds.db).refunds = sys.refunds.db.refunds :=
        Ensures.commit (Q := fun s' : Db => s'.refunds = sys.refunds.db.refunds)
          (ensures_processedDispute_refundTables.mono fun _ _ hsame => congrArg Prod.fst hsame) rfl
      refine hs.kept_db hreachable (hs.clear.event hquiet (fun id r' hr' hwaits => ?_)
        ensures_processedDispute_orders)
      exact ⟨r', hrefunds ▸ hr', hwaits, rfl⟩

/-- Before any refund. -/
theorem Gated.fresh (hfresh : sys.refunds.Fresh) (hclaims : sys.claims = []) : sys.Gated where
  reachable := hfresh.reachable
  clear := fun id r hr => by simp [hfresh.start.refunds id] at hr
  claims := by simp [hclaims]
  submitted := fun sid submission hlook => by simp [hfresh.start.submissions sid] at hlook
  called := by simp [hfresh.start.calls]

end FinancialSystem

end SeatFlow
