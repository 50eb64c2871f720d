import SeatFlow.Refunds.EventProcessing

/-!
# What refund events leave alone

A refund event that is processed settles its refund and closes its record. Its
order's flag is raised only when the refund is escalated. Together with the frames of
the other transactions this says what a whole step of the system leaves alone.
-/

namespace SeatFlow

open Relational Program Entity

variable {s s' : Db} {wid : WebhookId} {w : PaymentWebhookEvent} {incoming : RefundStatus}
  {id : RefundId} {r : Refund} {now : Time}

/-! ## §1 Events -/

/-- The order that a refund event flags, if any: that of a refund which it escalates. -/
def Db.refundFlags (db : Db) (webhookId : WebhookId) : Option OrderId :=
  match db.webhooks.lookup webhookId with
  | none => none
  | some w =>
      if w.processingStatus.isFinal then none
      else
        match w.normalizedRefundStatus, w.providerRefundId.bind db.refundNamed with
        | some incoming, some (_, r) =>
            match w.outcomeFor incoming r with
            | .REVIEW _ => some r.orderId
            | _ => none
        | _, _ => none

theorem Db.Delivers.refundFlags (h : s.Delivers wid w incoming id r) :
    s.refundFlags wid = match w.outcomeFor incoming r with
      | .REVIEW _ => some r.orderId
      | _ => none := by
  obtain ⟨ref, href, hnamed⟩ := h.named
  simp only [Db.refundFlags, h.record, h.opened, h.status, href, Option.bind_some, hnamed,
    Bool.false_eq_true, if_false]

section Part

variable {γ : Type} {part : Db → γ} (hpart : RefundFrame part)
  (hcrediting : Crediting (Framing part))
  (hrevoking : Revoking (Framing part)) (hbooking : Prisma.booking.Free (Framing part))

include hpart hcrediting hrevoking hbooking

/-- What settling a refund leaves alone, where the part does not look at its order's
flag or the refund is not escalated. -/
theorem framed_settleFound {ref : ProviderRef}
    (hflag : ∀ code, w.outcomeFor incoming r = .REVIEW code → Flagging (Framing part) r.orderId) :
    (settleFound (w.settleInput wid ref incoming now) id r).Steps (Framing part) := by
  rw [settleFound_eq]
  split
  · rename_i code hreview
    exact (hpart.writes.escalated (hflag code hreview) _ _ _ trivial).bind fun _ => steps_pure
  · exact ((hpart.settlementWrites hcrediting hrevoking hbooking).settledSucceeded _ _ _ trivial
      trivial).bind fun _ => steps_pure
  · exact (hpart.writes.settledFailed _ _ _ trivial).bind fun _ => steps_pure
  · exact (hpart.writes.settledAdvanced _ _ _ trivial).bind fun _ => steps_pure
  · exact steps_pure

/-- Processing a refund event leaves a part of the database alone that lies outside the
event records too. -/
theorem framed_processed (hwebhook : Prisma.paymentWebhookEvent.Free (Framing part))
    (hflag : ∀ orderId, s.refundFlags wid = some orderId → Flagging (Framing part) orderId) :
    Ensures (processVerifiedRefundRecord wid now) s fun _ s' => part s' = part s := by
  refine ensures_runInTransaction (ensures_bind.mpr (ensures_lock.mpr ?_))
  refine ensures_bind.mpr (ensures_findOrThrow.mpr fun w hw => ?_)
  split
  · exact ensures_pure.mpr fun _ => hpart.queue s _
  · rename_i hopened
    refine ensures_bind.mpr (ensures_require.mpr fun _ => ?_)
    split
    · rename_i ref incoming href hincoming
      have hclose : ∀ {s₁ : Db} {outcome : RefundSettlementOutcome}, part s₁ = part s →
          Ensures (Prisma.paymentWebhookEvent.update wid (fun w => w.closedBy outcome now)
            (.notFound "PaymentWebhookEvent")) s₁ fun _ s₂ =>
            part { s₂ with deferred := [] } = part s := by
        intro s₁ outcome hsame
        refine (hwebhook.update.framed s₁).mono fun _ s₂ hclosed => ?_
        rw [hpart.queue, hclosed, hsame]
      refine ensures_bind.mpr ?_
      refine Ensures.mono (Q := fun _ s₁ => part s₁ = part s) ?_ fun outcome s₁ hsame =>
        ensures_bind.mpr ((hclose hsame).mono fun _ _ hclosed => ensures_pure.mpr fun _ => hclosed)
      refine ensures_bind.mpr (ensures_lockMany.mpr ?_)
      split
      · exact ensures_pure.mpr rfl
      · rename_i id r hnamed
        have hdelivers : s.Delivers wid w incoming id r :=
          ⟨hw, by simpa using hopened, hincoming, ref, href, hnamed⟩
        have hescalates : ∀ code, w.outcomeFor incoming r = .REVIEW code →
            Flagging (Framing part) r.orderId := by
          intro code hreview
          refine hflag r.orderId ?_
          rw [hdelivers.refundFlags, hreview]
        refine ensures_bind.mpr (ensures_findOrThrow.mpr fun r' hr' => ?_)
        cases Option.some.inj (hdelivers.refund.1.symm.trans hr')
        refine Steps.framed (hwebhook.update.bind fun _ => ?_) s
        exact framed_settleFound hpart hcrediting hrevoking hbooking hescalates
    · exact ensures_abort.mpr trivial

end Part

/-! ## §2 Steps -/

/-- What no step of the refund system touches. -/
theorem RefundSystem.framed_step {γ : Type} {part : Db → γ} (hpart : RefundFrame part)
    (hrefund : Prisma.refund.Free (Framing part))
    (hwebhook : Prisma.paymentWebhookEvent.Free (Framing part))
    (hcrediting : Crediting (Framing part)) (hrevoking : Revoking (Framing part))
    (hbooking : Prisma.booking.Free (Framing part))
    (hflag : ∀ orderId, Flagging (Framing part) orderId) {sys sys' : RefundSystem}
    {a : RefundAction} (h : sys.step a = some sys') : part sys'.db = part sys.db := by
  by_cases hprocess : ∃ wid now, a = .processWebhook wid now
  · obtain ⟨wid, now, rfl⟩ := hprocess
    cases h
    refine Ensures.commit (Q := fun db => part db = part sys.db) ?_ rfl
    exact framed_processed hpart hcrediting hrevoking hbooking hwebhook fun orderId _ =>
      hflag orderId
  · exact framed_of_step hpart h (fun _ _ _ _ _ => hrefund) (fun _ _ _ _ _ => hwebhook)
      fun wid now heq => hprocess ⟨wid, now, heq⟩

/-- A refund that an action leaves was there before, unless the action requested it. -/
theorem RefundSystem.refund_existed {sys sys' : RefundSystem} {a : RefundAction}
    (hrequest : ∀ actor input fresh now, a ≠ .requestRefund actor input fresh now)
    (h : sys.step a = some sys') {r' : Refund} (hr' : sys'.db.refunds.lookup id = some r') :
    ∃ r, sys.db.refunds.lookup id = some r := by
  have hids : sys'.db.refundIds = sys.db.refundIds := by
    by_cases hprocess : ∃ wid now, a = .processWebhook wid now
    · obtain ⟨wid, now, rfl⟩ := hprocess
      cases h
      refine Ensures.commit (Q := fun db : Db => db.refundIds = sys.db.refundIds) ?_ rfl
      exact framed_processed refundIds_frame (crediting_of_free fun _ _ => rfl)
        (revoking_of_free (fun _ _ => rfl) fun _ _ => rfl) (fun _ _ => rfl) (fun _ _ => rfl)
        fun _ _ _ => steps_update fun _ _ _ _ => rfl
    · exact framed_of_step refundIds_frame h
        (fun actor input fresh now heq => absurd heq (hrequest actor input fresh now))
        (fun _ _ _ _ _ _ _ => rfl) fun wid now heq => hprocess ⟨wid, now, heq⟩
  have hstored := congrFun hids id
  rw [Db.refundIds, Db.refundIds, hr', Option.isSome_some] at hstored
  exact Option.isSome_iff_exists.mp hstored.symm

end SeatFlow
