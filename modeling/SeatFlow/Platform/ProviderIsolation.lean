import SeatFlow.Disputes.DisputeCommits
import SeatFlow.Disputes.LostDisputes
import SeatFlow.Platform.RowOrder

/-!
# Events of several providers

External identities are unique for one provider only. The records of payment events are
bound to a payment of their provider when they are stored; a refund event finds its
refund, and a dispute event its payment, by the bare identity. This module says when the
processing of an event stays with the rows of the event's provider.
-/

namespace SeatFlow

open Relational Program Entity

variable {s s' s'' : Db} {provider : PaymentProviderName}

/-! ## §1 Rows of one provider -/

/-- Of refunds, disputes, payments and ledger entries only rows of one provider change. -/
structure Db.Confined (provider : PaymentProviderName) (s s' : Db) : Prop where
  refunds : s.refunds.ChangesOnly (·.provider = provider) s'.refunds
  disputes : s.disputes.ChangesOnly (·.provider = provider) s'.disputes
  attempts : s.attempts.ChangesOnly (·.provider = provider) s'.attempts
  ledger : s.ledger.ChangesOnly (·.provider = provider) s'.ledger

theorem Db.Confined.of_eq (hrefunds : s'.refunds = s.refunds) (hdisputes : s'.disputes = s.disputes)
    (hattempts : s'.attempts = s.attempts) (hledger : s'.ledger = s.ledger) :
    s.Confined provider s' where
  refunds := hrefunds ▸ Table.changesOnly_refl _
  disputes := hdisputes ▸ Table.changesOnly_refl _
  attempts := hattempts ▸ Table.changesOnly_refl _
  ledger := hledger ▸ Table.changesOnly_refl _

theorem Db.Confined.trans (h : s.Confined provider s') (h' : s'.Confined provider s'') :
    s.Confined provider s'' where
  refunds := h.refunds.trans h'.refunds
  disputes := h.disputes.trans h'.disputes
  attempts := h.attempts.trans h'.attempts
  ledger := h.ledger.trans h'.ledger

/-- Steps that stay with a provider's rows do so together. -/
theorem ensures_confined {α : Type} {p : Sql α} (h : p.Steps (Db.Confined provider)) (s : Db) :
    Ensures p s fun _ s' => s.Confined provider s' :=
  h.ensures (I := fun s' => s.Confined provider s') (.of_eq rfl rfl rfl rfl)
    fun _ _ hstep hs => hs.trans hstep

theorem confined_defer (trigger : DeferredTrigger) :
    (defer trigger).Steps (Db.Confined provider) := by
  refine fun s => ensures_perform.mpr ?_
  rintro eff ⟨⟩
  exact .single (.of_eq rfl rfl rfl rfl)

theorem confined_enqueueFinancialEvent (key : FinancialEventKey) (event : FinancialEvent) :
    (enqueueFinancialEvent key event).Steps (Db.Confined provider) :=
  steps_insertNew fun _ _ _ => .of_eq rfl rfl rfl rfl

/-- An entry of the provider. -/
theorem confined_appendLedgerEntry {input : AppendLedgerEntryInput}
    (hprovider : input.provider = provider) :
    (appendLedgerEntry input).Steps (Db.Confined provider) := by
  refine steps_require.bind fun _ => steps_insertNew fun s habsent _ => ?_
  refine { Db.Confined.of_eq rfl rfl rfl rfl with ledger := Table.changesOnly_insert ?_ hprovider }
  intro row hrow
  rw [show s.ledger.lookup _ = none from habsent] at hrow
  cases hrow

theorem confined_revokeAdmission : Revoking (Db.Confined provider) :=
  revoking_of_free (fun _ _ => .of_eq rfl rfl rfl rfl) fun _ _ => .of_eq rfl rfl rfl rfl

/-! ## §2 Payment events -/

/-- Of these tables only payments in a set change. -/
structure Db.PaysOnly (A : AttemptId → Prop) (s s' : Db) : Prop where
  refunds : s'.refunds = s.refunds
  disputes : s'.disputes = s.disputes
  ledger : s'.ledger = s.ledger
  attempts : ∀ p, ¬A p → s'.attempts.lookup p = s.attempts.lookup p

theorem Db.PaysOnly.of_eq {A : AttemptId → Prop} (hrefunds : s'.refunds = s.refunds)
    (hdisputes : s'.disputes = s.disputes) (hledger : s'.ledger = s.ledger)
    (hattempts : s'.attempts = s.attempts) : s.PaysOnly A s' :=
  ⟨hrefunds, hdisputes, hledger, fun _ _ => by rw [hattempts]⟩

theorem paysOnly_updateWebhook (A : AttemptId → Prop) (id : WebhookId)
    (f : PaymentWebhookEvent → PaymentWebhookEvent) (missing : Failure) :
    (Prisma.paymentWebhookEvent.update id f missing).Steps (Db.PaysOnly A) :=
  steps_update fun _ _ _ _ => .of_eq rfl rfl rfl rfl

/-- A payment event writes no payment but its own. -/
theorem paymentWrites_paysOnly (A : AttemptId → Prop) : PaymentWrites A (Db.PaysOnly A) where
  hold := fun _ _ _ _ => .of_eq rfl rfl rfl rfl
  holds := fun _ _ _ _ => .of_eq rfl rfl rfl rfl
  inventory := fun _ _ _ _ => .of_eq rfl rfl rfl rfl
  order := fun _ _ _ _ => steps_update fun _ _ _ _ => .of_eq rfl rfl rfl rfl
  attempt := fun id f _ hA _ => steps_update fun s a _ _ => by
    refine ⟨rfl, rfl, rfl, fun p hp => Table.wrote_insert.lookup_ne ?_⟩
    rintro rfl
    exact hp hA
  webhook := fun id f missing _ => paysOnly_updateWebhook A id f missing
  booking := fun _ _ _ => steps_insert fun _ _ _ => .of_eq rfl rfl rfl rfl
  bookingSeats := fun _ _ _ => steps_update fun _ _ _ _ => .of_eq rfl rfl rfl rfl
  issuance := fun _ _ _ _ => .of_eq rfl rfl rfl rfl
  outbox := fun _ _ _ _ => .of_eq rfl rfl rfl rfl
  queue := fun trigger s => by
    refine ensures_perform.mpr ?_
    rintro eff ⟨⟩
    exact .single (.of_eq rfl rfl rfl rfl)

theorem paysOnly_of_steps {A : AttemptId → Prop} (h : Relation.ReflTransGen (Db.PaysOnly A) s s') :
    s.PaysOnly A s' := by
  induction h with
  | refl => exact .of_eq rfl rfl rfl rfl
  | tail _ hlast ih =>
      exact ⟨hlast.refunds.trans ih.refunds, hlast.disputes.trans ih.disputes,
        hlast.ledger.trans ih.ledger, fun p hp => (hlast.attempts p hp).trans (ih.attempts p hp)⟩

/-- **Payment events** are processed with the payment their record is bound to. -/
theorem paysOnly_processVerifiedWebhookRecord (s : Db) (wid : WebhookId) (fresh : FreshBooking)
    (now : Time) :
    s.PaysOnly (fun p => ∃ w, s.webhooks.lookup wid = some w ∧ w.paymentAttemptId = some p)
      (processVerifiedWebhookRecord wid fresh now s) := by
  refine paysOnly_of_steps ?_
  have hprocess := (paymentWrites_paysOnly
    fun p => ∃ w, s.webhooks.lookup wid = some w ∧
      w.paymentAttemptId = some p).ensures_processInTransaction
      (committing_of_queue fun _ => .of_eq rfl rfl rfl rfl) wid fresh now
      fun w p hw hp => ⟨w, hw, hp⟩
  unfold processVerifiedWebhookRecord
  split
  · rename_i db' hrun
    exact hprocess _ _ hrun
  · exact .refl
  · refine ((?_ : Steps (Db.PaysOnly _) _).bind fun _ => steps_pure).commit s
    exact steps_updateMany fun _ _ => .of_eq rfl rfl rfl rfl

/-- A payment keeps its provider. -/
theorem provider_of_writes {p : AttemptId} {a : PaymentAttempt}
    (h : Relation.ReflTransGen Db.Writes s s') (ha : s.attempts.lookup p = some a) :
    ∃ a', s'.attempts.lookup p = some a' ∧ a'.provider = a.provider := by
  induction h with
  | refl => exact ⟨a, ha, rfl⟩
  | tail _ hlast ih =>
      obtain ⟨a₁, ha₁, hprovider₁⟩ := ih
      obtain ⟨a₂, ha₂, hterms⟩ := hlast.1.keeps.attempts p a₁ ha₁
      exact ⟨a₂, ha₂, hterms.identity.2.1.trans hprovider₁⟩

/-! ## §3 Dispute events -/

/-- An entry of the provider, in the books. -/
theorem changesOnly_append {books : DisputeBooks} {input : AppendLedgerEntryInput}
    (hprovider : input.provider = provider) :
    books.ledger.ChangesOnly (·.provider = provider) (books.append input).ledger := by
  unfold DisputeBooks.append
  split
  · exact Table.changesOnly_refl _
  · rename_i habsent
    refine Table.changesOnly_insert (fun row hrow => ?_) hprovider
    rw [hrow] at habsent
    exact absurd rfl habsent

/-- The consequences of a dispute's status are entries of its provider. -/
theorem changesOnly_books {books : DisputeBooks} {input : DisputeConsequenceInput}
    (hprovider : input.provider = provider) :
    books.ledger.ChangesOnly (·.provider = provider) (input.books books).ledger := by
  have hstatus : books.ledger.ChangesOnly (·.provider = provider)
    (input.recordStatus books).ledger := by
    unfold DisputeConsequenceInput.recordStatus
    split
    · exact changesOnly_append hprovider
    · exact Table.changesOnly_refl _
  have hoverlap : (input.recordOverlap (input.recordStatus books)).ledger
      = (input.recordStatus books).ledger := by
    unfold DisputeConsequenceInput.recordOverlap
    split <;> rfl
  unfold DisputeConsequenceInput.books DisputeConsequenceInput.recordLoss
  split
  · refine hstatus.trans ?_
    rw [← hoverlap]
    exact changesOnly_append hprovider
  · rw [hoverlap]
    exact hstatus

/-- Books that keep to a provider's rows. -/
theorem Db.Confined.of_books {books : DisputeBooks} (hbooks : s'.books = books)
    (htables : s'.refundTables = s.refundTables)
    (hdisputes : s.disputes.ChangesOnly (·.provider = provider) books.disputes)
    (hledger : s.ledger.ChangesOnly (·.provider = provider) books.ledger) :
    s.Confined provider s' where
  refunds := by
    rw [show s'.refunds = s.refunds from congrArg Prod.fst htables]
    exact Table.changesOnly_refl _
  attempts := by
    rw [show s'.attempts = s.attempts from congrArg Prod.snd htables]
    exact Table.changesOnly_refl _
  disputes := by rwa [show s'.disputes = books.disputes from congrArg DisputeBooks.disputes hbooks]
  ledger := by rwa [show s'.ledger = books.ledger from congrArg DisputeBooks.ledger hbooks]

/-- Processing the record writes to a dispute of another provider: it opens or moves one
of a payment that the event's bare intent names. -/
def Db.DisputesOther (db : Db) (wid : WebhookId) (w : PaymentWebhookEvent) (fresh : FreshDispute)
    (now : Time) : Prop :=
  ∃ ref incoming p a, db.Hears wid w ref incoming p a ∧ a.provider ≠ w.provider ∧
    w.Processable wid db fresh now ∧
    ∀ id d reason, db.disputeNamed a.provider ref = some (id, d) →
      decideDisputeTransition d.status incoming ≠ .ignore reason

section Dispute

variable {wid : WebhookId} {w : PaymentWebhookEvent} {fresh : FreshDispute} {now : Time}

theorem PaymentWebhookEvent.category_of_dispute {ref : ProviderRef} (h : w.categoryCheck = true)
    (href : w.providerDisputeId = some ref) : w.eventCategory = .DISPUTE := by
  unfold categoryCheck at h
  cases hcase : w.eventCategory <;> simp_all

/-- What an event does to the dispute it writes. -/
theorem DisputeEffect.written (heffect : DisputeEffect s s' wid fresh now)
    {ref : ProviderRef} {incoming : DisputeStatus} {p : AttemptId} {a : PaymentAttempt}
    (hheard : s.Hears wid w ref incoming p a)
    (hmoved : ∀ id d reason, s.disputeNamed a.provider ref = some (id, d) →
      decideDisputeTransition d.status incoming ≠ .ignore reason) :
    ∃ id row, s'.disputes.lookup id = some row ∧ s.disputes.lookup id ≠ some row ∧
      row.provider = a.provider := by
  have hsame : ∀ {w' ref' incoming' p' a'}, s.Hears wid w' ref' incoming' p' a' →
      ref' = ref ∧ a' = a := by
    intro w' ref' incoming' p' a' hheard'
    cases Option.some.inj (hheard.record.symm.trans hheard'.record)
    cases Option.some.inj (hheard.reference.symm.trans hheard'.reference)
    cases Option.some.inj (hheard.payment.symm.trans hheard'.payment)
    exact ⟨rfl, rfl⟩
  have hmark : ∀ {id : DisputeId} {row : PaymentDispute} {books : DisputeBooks},
      s'.books = books → books.disputes = s.disputes.insert id row →
      s'.disputes.lookup id = some row := by
    intro id row books hbooks hdisputes
    rw [show s'.disputes = _ from congrArg DisputeBooks.disputes hbooks, hdisputes]
    exact AList.lookup_insert _
  cases heffect with
  | quiet _ hignored =>
      obtain ⟨id, d, reason, hnamed, hdecision⟩ := hignored w ref incoming p a hheard
      exact absurd hdecision (hmoved id d reason hnamed)
  | opened w' ref' incoming' p' a' bookingId hheard' hclosed hunnamed hbooking habsent hbooks =>
      obtain ⟨rfl, rfl⟩ := hsame hheard'
      refine ⟨fresh.disputeId, _, hmark hbooks DisputeConsequenceInput.disputes_books, ?_, rfl⟩
      simp [habsent]
  | escalated w' ref' incoming' p' a' id d code hheard' hclosed hnamed hdecision hbooks =>
      obtain ⟨rfl, rfl⟩ := hsame hheard'
      obtain ⟨hd, hprovider, -⟩ := Db.lookup_of_disputeNamed hnamed
      refine ⟨id, d.escalated, hmark hbooks rfl, ?_, hprovider⟩
      rw [hd]
      intro heq
      have hversion := congrArg PaymentDispute.version (Option.some.inj heq)
      exact absurd hversion (by simp [PaymentDispute.escalated])
  | advanced w' ref' incoming' p' a' id d outcome hheard' hclosed hnamed hdecision hbooks =>
      obtain ⟨rfl, rfl⟩ := hsame hheard'
      obtain ⟨hd, hprovider, -⟩ := Db.lookup_of_disputeNamed hnamed
      refine ⟨id, _, hmark hbooks DisputeConsequenceInput.disputes_books, ?_, hprovider⟩
      rw [hd]
      intro heq
      have hversion := congrArg PaymentDispute.version (Option.some.inj heq)
      exact absurd hversion (by simp [PaymentDispute.advanced])

/-- An event about a payment of the provider keeps to the provider's rows. -/
theorem DisputeEffect.confined (heffect : DisputeEffect s s' wid fresh now)
    (htables : s'.refundTables = s.refundTables)
    (hown : ∀ w ref incoming p a, s.Hears wid w ref incoming p a → a.provider = provider ∨
      ∃ id d reason, s.disputeNamed a.provider ref = some (id, d) ∧
        decideDisputeTransition d.status incoming = .ignore reason) :
    s.Confined provider s' := by
  have hknown :
      ∀ {a : PaymentAttempt} {id : DisputeId} {d row : PaymentDispute} {ref : ProviderRef},
      s.disputeNamed a.provider ref = some (id, d) → row.provider = d.provider →
      a.provider = provider →
      s.disputes.ChangesOnly (·.provider = provider) (s.disputes.insert id row) := by
    intro a id d row ref hnamed hrow hprovider
    obtain ⟨hd, hdispute, -⟩ := Db.lookup_of_disputeNamed hnamed
    refine Table.changesOnly_insert (fun r hr => ?_) (hrow.trans (hdispute.trans hprovider))
    cases Option.some.inj (hd.symm.trans hr)
    exact hdispute.trans hprovider
  cases heffect with
  | quiet hbooks _ =>
      exact .of_books hbooks htables (Table.changesOnly_refl _) (Table.changesOnly_refl _)
  | opened w ref incoming p a bookingId hheard hclosed hunnamed hbooking habsent hbooks =>
      rcases hown w ref incoming p a hheard with hprovider | ⟨id, d, reason, hnamed, -⟩
      · refine .of_books hbooks htables ?_ (changesOnly_books hprovider)
        rw [DisputeConsequenceInput.disputes_books]
        refine Table.changesOnly_insert (fun r hr => ?_) hprovider
        cases habsent.symm.trans hr
      · cases hunnamed.symm.trans hnamed
  | escalated w ref incoming p a id d code hheard hclosed hnamed hdecision hbooks =>
      rcases hown w ref incoming p a hheard with hprovider | ⟨id', d', reason, hnamed', hignored⟩
      · exact .of_books hbooks htables (hknown hnamed rfl hprovider) (Table.changesOnly_refl _)
      · cases hnamed.symm.trans hnamed'
        cases hdecision.symm.trans hignored
  | advanced w ref incoming p a id d outcome hheard hclosed hnamed hdecision hbooks =>
      rcases hown w ref incoming p a hheard with hprovider | ⟨id', d', reason, hnamed', hignored⟩
      · refine .of_books hbooks htables ?_ (changesOnly_books hprovider)
        rw [DisputeConsequenceInput.disputes_books]
        exact hknown hnamed rfl hprovider
      · cases hnamed.symm.trans hnamed'
        cases hdecision.symm.trans hignored

/-- **One dispute event** keeps to its provider's rows unless it disputes a payment of
another one. -/
theorem confined_processVerifiedDisputeRecord_iff (hs : s.Consistent)
    (hexact : ∀ p, paymentAggregate.Faithful s p) (hunlinked : s.OpenUnlinked)
    (hw : s.webhooks.lookup wid = some w) :
    s.Confined w.provider ((processVerifiedDisputeRecord wid fresh now).commit s) ↔
      ¬s.DisputesOther wid w fresh now := by
  -- an event that is heard is processed exactly when it is processable
  have hclosed : ∀ {ref incoming p a}, s.Hears wid w ref incoming p a →
      (((processVerifiedDisputeRecord wid fresh now).commit s).Closed wid ↔
        w.Processable wid s fresh now) := by
    intro ref incoming p a hheard
    exact closed_processVerifiedDisputeRecord_iff hs hexact hw hheard.opened
      (hunlinked wid w hw hheard.opened)
      (PaymentWebhookEvent.category_of_dispute (hs.sound.webhooks.row wid w hw).category
        hheard.reference)
  cases hrun : (processVerifiedDisputeRecord wid fresh now).run s with
  | error e =>
      have hkept : (processVerifiedDisputeRecord wid fresh now).commit s = s := by
        simp [Program.commit, hrun]
      rw [hkept] at hclosed ⊢
      refine iff_of_true (.of_eq rfl rfl rfl rfl) ?_
      rintro ⟨ref, incoming, p, a, hheard, -, hprocessable, -⟩
      obtain ⟨w', hw', hfinal⟩ := (hclosed hheard).mpr hprocessable
      cases Option.some.inj (hw.symm.trans hw')
      rw [hheard.opened] at hfinal
      cases hfinal
  | ok result =>
      obtain ⟨applied, s'⟩ := result
      rw [commit_of_run hrun] at hclosed ⊢
      have heffect := ensures_processedDispute_effect _ _ hrun
      have htables := ensures_processedDispute_refundTables _ _ hrun
      constructor
      · rintro hconfined ⟨ref, incoming, p, a, hheard, hother, -, hmoved⟩
        obtain ⟨id, row, hrow, hchanged, hprovider⟩ := heffect.written hheard hmoved
        rcases hconfined.disputes id with hsame | ⟨-, hnew⟩
        · exact hchanged (hsame ▸ hrow)
        · exact hother (hprovider ▸ hnew row hrow)
      · intro hown
        refine heffect.confined htables fun w' ref incoming p a hheard => ?_
        cases Option.some.inj (hw.symm.trans hheard.record)
        by_contra hother
        rw [not_or] at hother
        obtain ⟨hother, hmoved⟩ := hother
        have hstill : ∀ id d reason, s.disputeNamed a.provider ref = some (id, d) →
            decideDisputeTransition d.status incoming ≠ .ignore reason :=
          fun id d reason hnamed hignored => hmoved ⟨id, d, reason, hnamed, hignored⟩
        refine hown ⟨ref, incoming, p, a, hheard, hother, (hclosed hheard).mp ?_, hstill⟩
        cases heffect with
        | quiet _ hignored => exact absurd (hignored w ref incoming p a hheard) hmoved
        | opened _ _ _ _ _ _ _ hdone => exact hdone
        | escalated _ _ _ _ _ _ _ _ _ hdone => exact hdone
        | advanced _ _ _ _ _ _ _ _ _ hdone => exact hdone

end Dispute

/-! ## §4 Refund events -/

section Refund

variable {wid : WebhookId} {w : PaymentWebhookEvent} {incoming : RefundStatus} {id : RefundId}
  {r : Refund} {now : Time}

theorem RefundUpdate.provider_apply (u : RefundUpdate) (r : Refund) :
    (u.apply r).provider = r.provider := by
  cases u <;> rfl

/-- An update of a refund keeps to the rows of its provider: its payment is one too. -/
theorem ensures_confined_update (hs : s.Sound) (hr : s.refunds.lookup id = some r)
    (hprovider : r.provider = provider) (u : RefundUpdate) :
    Ensures (updateRefundById id u.apply) s fun _ s' => s.Confined provider s' := by
  obtain ⟨a, ha, hcaptured, -, -, hpayment⟩ := payment_of_refund hs hr
  refine ensures_of_commits fun hcommits => ?_
  rw [commits_updateRefundById hs hr ha hcaptured] at hcommits ⊢
  obtain ⟨hvalid, hfit, -⟩ := hcommits
  refine ⟨hvalid, hfit, ?_, Table.changesOnly_refl _, ?_, Table.changesOnly_refl _⟩
  · refine Table.changesOnly_insert (fun r' hr' => ?_) ((u.provider_apply r).trans hprovider)
    cases Option.some.inj (hr.symm.trans hr')
    exact hprovider
  · have hkey : (u.apply r).paymentAttemptId = r.paymentAttemptId := by cases u <;> rfl
    refine Table.changesOnly_insert (fun a' ha' => ?_) (hpayment.trans hprovider)
    rw [hkey] at ha'
    cases Option.some.inj (ha.symm.trans ha')
    exact hpayment.trans hprovider

/-- What follows an update, where its steps keep to the provider's rows. -/
theorem ensures_confined_updated (hs : s.Sound) (hr : s.refunds.lookup id = some r)
    (hprovider : r.provider = provider) (u : RefundUpdate) {α : Type} {rest : Refund → Sql α}
    (hrest : ∀ row, (rest row).Steps (Db.Confined provider)) :
    Ensures (updateRefundById id u.apply >>= rest) s fun _ s' => s.Confined provider s' :=
  ensures_bind.mpr ((ensures_confined_update hs hr hprovider u).mono fun row s₁ hupdated =>
    (ensures_confined (hrest row) s₁).mono fun _ _ hconfined => hupdated.trans hconfined)

theorem confined_flagOrderForReview (code : Code) :
    (flagOrderForReview id r code now).Steps (Db.Confined provider) := by
  refine Steps.bind ?_ fun _ => (confined_defer _).bind fun _ =>
    (confined_enqueueFinancialEvent _ _).bind fun _ => steps_pure
  exact steps_update fun _ _ _ _ => .of_eq rfl rfl rfl rfl

theorem confined_maybeMarkBookingFullyRefunded (bookingId : BookingId) (p : AttemptId) :
    (maybeMarkBookingFullyRefunded bookingId p now).Steps (Db.Confined provider) := by
  refine steps_findOrThrow.bind fun attempt => ?_
  split
  · exact steps_pure
  · refine steps_findOrThrow.bind fun booking => ?_
    split
    · exact steps_pure
    · refine Steps.bind ?_ fun _ => (confined_defer _).bind fun _ => steps_pure
      exact steps_update fun _ _ _ _ => .of_eq rfl rfl rfl rfl

/-- What follows a success keeps to the rows of the refund's provider. -/
theorem confined_applySuccessConsequences (input : SettleInput)
    (hprovider : r.provider = provider) :
    (applySuccessConsequences input id r).Steps (Db.Confined provider) := by
  refine (confined_appendLedgerEntry hprovider).bind fun _ => ?_
  refine (steps_applyTicketConsequences confined_revokeAdmission _ _ _ _).bind fun _ => ?_
  refine (confined_maybeMarkBookingFullyRefunded _ _).bind fun _ => ?_
  refine (confined_enqueueFinancialEvent _ _).bind fun _ => ?_
  split
  · exact (confined_enqueueFinancialEvent _ _).bind fun _ => steps_pure
  · exact steps_pure

/-- **Settling a refund** keeps to the rows of its provider, and changes nothing where the
event is ignored. -/
theorem ensures_confined_settleFound {ref : ProviderRef} (hs : s.Sound)
    (hr : s.refunds.lookup id = some r)
    (hcond : r.provider = provider ∨ (w.outcomeFor incoming r).update now = none) :
    Ensures (settleFound (w.settleInput wid ref incoming now) id r) s
      fun _ s' => s.Confined provider s' := by
  rw [settleFound_eq]
  cases houtcome : w.outcomeFor incoming r with
  | IGNORED reason => exact ensures_pure.mpr (.of_eq rfl rfl rfl rfl)
  | UNKNOWN_REFUND => exact ensures_pure.mpr (.of_eq rfl rfl rfl rfl)
  | REVIEW code =>
      rw [houtcome] at hcond
      have hprovider := hcond.resolve_right (by simp [RefundSettlementOutcome.update])
      refine ensures_bind.mpr (Ensures.mono ?_ fun _ _ hconfined => ensures_pure.mpr hconfined)
      exact ensures_confined_updated hs hr hprovider (.review code now)
        fun _ => confined_flagOrderForReview code
  | APPLIED status =>
      rw [houtcome] at hcond
      have hprovider :=
        hcond.resolve_right (by cases status <;> simp [RefundSettlementOutcome.update])
      have hadvanced : Ensures (do
          settleAdvanced (w.settleInput wid ref incoming now) id status
          pure (RefundSettlementOutcome.APPLIED status)) s fun _ s' => s.Confined provider s' :=
        ensures_bind.mpr ((ensures_confined_updated hs hr hprovider (.advance status now)
          fun _ => steps_pure).mono fun _ _ hconfined => ensures_pure.mpr hconfined)
      cases status with
      | SUCCEEDED =>
          refine ensures_bind.mpr (Ensures.mono ?_ fun _ _ hconfined => ensures_pure.mpr hconfined)
          exact ensures_confined_updated hs hr hprovider (.succeed now)
            fun _ => confined_applySuccessConsequences _ hprovider
      | FAILED =>
          refine ensures_bind.mpr (Ensures.mono ?_ fun _ _ hconfined => ensures_pure.mpr hconfined)
          refine ensures_confined_updated hs hr hprovider (.fail "PROVIDER_REPORTED_FAILURE" now)
            fun _ => ?_
          exact (confined_appendLedgerEntry hprovider).bind fun _ =>
            (confined_enqueueFinancialEvent _ _).bind fun _ => steps_pure
      | _ => exact hadvanced

/-- Processing a record, where its refund is one of the provider or the event is ignored. -/
theorem ensures_confined_processVerifiedRefundRecord (hs : s.Sound)
    (hcond : ∀ w incoming id r, s.Delivers wid w incoming id r →
      r.provider = provider ∨ (w.outcomeFor incoming r).update now = none) :
    Ensures (processVerifiedRefundRecord wid now) s fun _ s' => s.Confined provider s' := by
  have hrecord : ∀ (f : PaymentWebhookEvent → PaymentWebhookEvent),
      (Prisma.paymentWebhookEvent.update wid f (.notFound "PaymentWebhookEvent")).Steps
        (Db.Confined provider) :=
    fun f => steps_update fun _ _ _ _ => .of_eq rfl rfl rfl rfl
  refine ensures_runInTransaction (ensures_bind.mpr (ensures_lock.mpr ?_))
  refine ensures_bind.mpr (ensures_findOrThrow.mpr fun w hw => ?_)
  split
  · exact ensures_pure.mpr fun _ => .of_eq rfl rfl rfl rfl
  · rename_i hopened
    refine ensures_bind.mpr (ensures_require.mpr fun _ => ?_)
    split
    · rename_i ref incoming href hincoming
      refine ensures_bind.mpr ?_
      refine Ensures.mono (Q := fun _ s₁ => s.Confined provider s₁) ?_ fun outcome s₁ hsettled => ?_
      · refine ensures_bind.mpr (ensures_lockMany.mpr ?_)
        split
        · exact ensures_pure.mpr (.of_eq rfl rfl rfl rfl)
        · rename_i id r hnamed
          have hdelivers : s.Delivers wid w incoming id r :=
            ⟨hw, by simpa using hopened, hincoming, ref, href, hnamed⟩
          refine ensures_bind.mpr (ensures_findOrThrow.mpr fun r' hr' => ?_)
          cases Option.some.inj (hdelivers.refund.1.symm.trans hr')
          refine ensures_bind.mpr (ensures_update.mpr fun w' hw' hvalid => ?_)
          let linked := s.linked wid w' id
          have hsound : linked.Sound := hs.step (.updatedWebhook hw' hvalid)
          have hlinked : s.Confined provider linked := .of_eq rfl rfl rfl rfl
          have hsettled : Ensures (settleFound (w.settleInput wid ref incoming now) id r) linked
              fun _ s₁ => linked.Confined provider s₁ :=
            ensures_confined_settleFound hsound hdelivers.refund.1 (hcond w incoming id r hdelivers)
          exact hsettled.mono fun _ _ hconfined => hlinked.trans hconfined
      · refine ensures_bind.mpr ((ensures_confined (hrecord _) s₁).mono fun _ s₂ hclosed => ?_)
        exact ensures_pure.mpr fun _ => (hsettled.trans hclosed).trans (.of_eq rfl rfl rfl rfl)
    · exact ensures_abort.mpr trivial

/-- The row that an event's outcome makes of its refund can be stored. -/
def Db.Settles (db : Db) (w : PaymentWebhookEvent) (incoming : RefundStatus) (r : Refund)
    (now : Time) : Prop :=
  match w.outcomeFor incoming r with
  | .REVIEW _ => r.requestedAt ≤ now ∧ (r.coversSeats = true ∨ db.RoomFor r)
  | .APPLIED .SUCCEEDED => r.requestedAt ≤ now ∧ db.BookingMarkable r now
  | .APPLIED .FAILED => r.requestedAt ≤ now
  | _ => False

/-- Processing the record settles a refund of another provider: one that has the event's
bare external identity. -/
def Db.SettlesOther (db : Db) (wid : WebhookId) (w : PaymentWebhookEvent) (now : Time) : Prop :=
  ∃ incoming id r, db.Delivers wid w incoming id r ∧ r.provider ≠ w.provider ∧
    db.Settles w incoming r now

namespace RefundSystem

variable {sys : RefundSystem}

/-- An event settles its refund exactly when it changes it and its transaction commits. -/
theorem Reachable.settles_iff (hs : sys.Reachable) (h : sys.db.Delivers wid w incoming id r) :
    sys.db.Settles w incoming r now ↔ (w.outcomeFor incoming r).update now ≠ none ∧
      Commits (processVerifiedRefundRecord wid now) sys.db fun _ _ => True := by
  have hunlinked := hs.stored.unlinked wid w h.record h.opened
  unfold Db.Settles
  cases houtcome : w.outcomeFor incoming r with
  | IGNORED reason => simp [RefundSettlementOutcome.update]
  | UNKNOWN_REFUND => simp [RefundSettlementOutcome.update]
  | REVIEW code =>
      rw [commits_escalated hs.kept.consistent hs.kept.exact h hunlinked
        (isSafeCode_of_outcomeFor houtcome) houtcome fun _ _ _ => trivial]
      simp [RefundSettlementOutcome.update]
  | APPLIED status =>
      obtain ⟨rfl, hunfinished, hreview, happly⟩ := applied_of_outcomeFor houtcome
      have hprocessing := hs.processing h hunfinished hreview
      cases status with
      | SUCCEEDED =>
          rw [commits_succeeded hs.kept.consistent hs.kept.exact h hunlinked hprocessing houtcome
            fun _ _ _ => trivial]
          simp [RefundSettlementOutcome.update]
      | FAILED =>
          rw [commits_failed hs.kept.consistent hs.kept.exact h hunlinked hprocessing houtcome
            fun _ _ _ => trivial]
          simp [RefundSettlementOutcome.update]
      | CANCELLED =>
          refine iff_of_false (fun hnever => hnever) fun hcommits => ?_
          exact not_commits_cancelled hs.kept.consistent hs.kept.exact h hunlinked hprocessing
            houtcome hcommits.2
      | _ =>
          -- no other status is applied to a refund in processing
          have hnormalized := hs.stored.normalized wid w _ h.record h.opened h.status
          rw [hprocessing] at happly
          simp_all [isNormalized_iff, decideRefundTransition, isContradictoryRefundOutcome,
            isTerminalRefundStatus]

/-- **One refund event** keeps to its provider's rows unless it settles a refund of another
one. -/
theorem Reachable.confined_processed_iff (hs : sys.Reachable)
    (hw : sys.db.webhooks.lookup wid = some w) :
    sys.db.Confined w.provider ((processVerifiedRefundRecord wid now).commit sys.db) ↔
      ¬sys.db.SettlesOther wid w now := by
  cases hrun : (processVerifiedRefundRecord wid now).run sys.db with
  | error e =>
      have hrejected : ¬Commits (processVerifiedRefundRecord wid now) sys.db fun _ _ => True := by
        rintro ⟨outcome, s', hrun', -⟩
        cases hrun.symm.trans hrun'
      rw [show (processVerifiedRefundRecord wid now).commit sys.db = sys.db by
        simp [Program.commit, hrun]]
      refine iff_of_true (.of_eq rfl rfl rfl rfl) ?_
      rintro ⟨incoming, id, r, hdelivers, -, hsettles⟩
      exact hrejected ((hs.settles_iff hdelivers).mp hsettles).2
  | ok result =>
      obtain ⟨outcome, s'⟩ := result
      rw [commit_of_run hrun]
      constructor
      · rintro hconfined ⟨incoming, id, r, hdelivers, hother, hsettles⟩
        obtain ⟨rfl, hrefunds, -⟩ := hs.ensures_processed hdelivers _ _ hrun
        obtain ⟨u, hu⟩ := Option.ne_none_iff_exists'.mp ((hs.settles_iff hdelivers).mp hsettles).1
        have hrow : s'.refunds.lookup id = some (u.apply r) := by
          rw [hrefunds, RefundSettlementOutcome.refunds, hu]
          exact AList.lookup_insert _
        rcases hconfined.refunds id with hsame | ⟨hold, -⟩
        · rw [hrow, hdelivers.refund.1] at hsame
          have hversion := congrArg Refund.version (Option.some.inj hsame)
          cases u <;> simp [RefundUpdate.apply] at hversion
        · exact hother (hold r hdelivers.refund.1)
      · intro hown
        refine ensures_confined_processVerifiedRefundRecord hs.kept.consistent.sound ?_ _ _ hrun
        intro w' incoming id r hdelivers
        cases Option.some.inj (hw.symm.trans hdelivers.record)
        by_contra hchanged
        rw [not_or] at hchanged
        refine hown ⟨incoming, id, r, hdelivers, hchanged.1, (hs.settles_iff hdelivers).mpr ?_⟩
        exact ⟨hchanged.2, outcome, s', hrun, trivial⟩

end RefundSystem

end Refund

/-! ## §5 Reachable states -/

namespace Platform

variable {start sys sys' : FinancialSystem}

/-- Processing the verified record of an event. -/
inductive ProcessesRecord (wid : WebhookId) : PlatformAction → Prop
  | payment (fresh : FreshBooking) (now : Time) :
      ProcessesRecord wid (.commerce (.processVerifiedWebhookRecord wid fresh now))
  | refund (now : Time) : ProcessesRecord wid (.financial (.refund (.processWebhook wid now)))
  | dispute (fresh : FreshDispute) (now : Time) :
      ProcessesRecord wid (.financial (.processDispute wid fresh now))

/-- The action writes to rows of another provider than the event's. -/
def ReachesOver (db : Db) (w : PaymentWebhookEvent) : PlatformAction → Prop
  | .financial (.refund (.processWebhook wid now)) => db.SettlesOther wid w now
  | .financial (.processDispute wid fresh now) => db.DisputesOther wid w fresh now
  | _ => False

/-- **Provider isolation.** In every state that a run reaches, with the rows in whatever
order, processing the record of a verified event changes only rows of the event's provider,
unless the refund that the event's bare identity finds is one of another provider and is
settled, or the payment that its bare intent finds is one of another provider and is
disputed. -/
theorem processedRecord_confined_iff (hs : Reachable start) (hrun : Runs start sys)
    {wid : WebhookId} {w : PaymentWebhookEvent} {a : PlatformAction}
    (hprocess : ProcessesRecord wid a) (hw : sys.db.webhooks.lookup wid = some w)
    (h : Platform.step sys a = some sys') :
    sys.db.Confined w.provider sys'.db ↔ ¬ReachesOver sys.db w a := by
  replace hs := hrun.reachable hs
  cases hprocess with
  | payment fresh now =>
      refine iff_of_true ?_ fun hother => hother
      have hwrites := step_writes h
      cases h
      have hpays := paysOnly_processVerifiedWebhookRecord sys.db wid fresh now
      refine ⟨hpays.refunds ▸ Table.changesOnly_refl _, hpays.disputes ▸ Table.changesOnly_refl _,
        fun p => ?_, hpays.ledger ▸ Table.changesOnly_refl _⟩
      by_cases hown : w.paymentAttemptId = some p
      · obtain ⟨a, ha, hprovider⟩ := hs.addressed wid w p hw hown
        obtain ⟨a', ha', hsame⟩ := provider_of_writes hwrites ha
        refine .inr ⟨fun r hr => ?_, fun r hr => ?_⟩
        · cases Option.some.inj (ha.symm.trans hr)
          exact hprovider
        · cases Option.some.inj (ha'.symm.trans hr)
          exact hsame.trans hprovider
      · refine .inl (hpays.attempts p ?_)
        rintro ⟨w', hw', hp⟩
        cases Option.some.inj (hw.symm.trans hw')
        exact hown hp
  | refund now =>
      cases h
      exact hs.refunds.confined_processed_iff hw
  | dispute fresh now =>
      cases h
      exact confined_processVerifiedDisputeRecord_iff hs.consistent hs.refunds.kept.exact
        hs.unlinked hw

/-- The captured payment beside a third seat that is still for sale. -/
def openSale : Db :=
  { capturedPayment with
    inventory := capturedPayment.inventory.insert 3
      { sessionId := 1, seatId := 3, sectionId := 1, priceTierId := 1, priceMinor := 500
        currency := .USD } }

theorem openSale_sound : openSale.Sound :=
  { capturedPayment_sound with
    inventory := capturedPayment_sound.inventory.insert sessionSeatInventoryConstraints.symm
      ⟨by decide, by decide⟩ fun k r hr _ => by
        have hseat := Table.forall_lookup (t := capturedPayment.inventory)
          (p := fun _ row => row.seatId ≠ 3) (by decide) k r hr
        rintro ⟨-, hsame⟩
        exact hseat hsame }

def openSaleFinances : FinancialSystem :=
  FinancialSystem.capturedFinances.withDb openSale

theorem openSaleFinances_reachable : Reachable openSaleFinances := by
  have hfresh := RefundSystem.capturedStart_fresh
  have hconsistent : openSaleFinances.db.Consistent :=
    { sound := openSale_sound
      idle := rfl
      seatTotals := capturedPayment_consistent.seatTotals
      orderTotals := capturedPayment_consistent.orderTotals }
  refine reachable_of_fresh ⟨?_, hconsistent, hfresh.untouched, hfresh.noEvents⟩ fun _ => rfl
  exact ⟨hfresh.start.refunds, rfl, hfresh.start.submissions, rfl, rfl⟩

/-- The third seat is bought through another provider, whose intent 8 is the only one with
this number, and then a provider reports a dispute about its own intent 8. -/
def soldElsewhere (provider : PaymentProviderName) : List PlatformAction :=
  [.commerce (.acquireSeatHold 1 { sessionId := 1, seatIds := [3], idempotencyKey := 2 }
      { holdDurationMs := 500, maxSeatsPerHold := 4 }
      { holdId := 2, publicToken := 2, createdAt := 200 } 200),
    .commerce (.createCheckoutOrder 1 { holdToken := 2, idempotencyKey := 2 } .LOCAL_SIGNED
      { orderId := 2, publicReference := 2, attemptId := 2, providerIdempotencyKey := 2 } 210),
    .commerce (.recordPaymentIntent 2 8 220),
    .commerce (.storeVerifiedWebhook .LOCAL_SIGNED
      { providerEventId := 60, providerIntentId := 8, status := .SUCCEEDED, amountMinor := 500
        currency := .USD, occurredAt := some 230 } 80 230),
    .commerce (.processVerifiedWebhookRecord 80
      { bookingId := 2, publicReference := 2, seatId := fun id => id } 240),
    .financial (.storeDispute provider
      { providerEventId := 83, providerIntentId := 8, providerDisputeId := 50, status := .OPEN
        amountMinor := 500, currency := .USD, occurredAt := some 250 } 92 250)]

/-- The dispute of that event is processed. -/
def disputeProcessed : PlatformAction :=
  .financial (.processDispute 92 { disputeId := 1, publicReference := 1 } 260)

theorem soldElsewhere_normalized (provider : PaymentProviderName) (sys : FinancialSystem) :
    ∀ a ∈ soldElsewhere provider, NormalizedEvents sys a := by
  intro a ha
  simp only [soldElsewhere, List.mem_cons, List.not_mem_nil, or_false] at ha
  rcases ha with rfl | rfl | rfl | rfl | rfl | rfl <;> trivial

/-- The dispute of the payment's own provider stays with it. -/
theorem processedRecord_confined_own :
    ∃ sys sys' w, execute Platform.step (soldElsewhere .LOCAL_SIGNED) openSaleFinances = some sys ∧
      sys.db.webhooks.lookup 92 = some w ∧ Platform.step sys disputeProcessed = some sys' ∧
      sys'.db.disputes.lookup 1 ≠ none ∧ sys.db.Confined w.provider sys'.db := by
  have hrun : (execute Platform.step (soldElsewhere .LOCAL_SIGNED) openSaleFinances).any (fun sys =>
      (sys.db.webhooks.lookup 92).any (fun w =>
        (sys.db.paymentNamed w.providerIntentId).all fun e => e.2.provider == w.provider) &&
      (Platform.step sys disputeProcessed).any fun sys' =>
        (sys'.db.disputes.lookup 1).isSome) = true := by decide +kernel
  obtain ⟨sys, hsys, hcheck⟩ := (Option.any_eq_true _ _).mp hrun
  rw [Bool.and_eq_true] at hcheck
  obtain ⟨w, hw, hown⟩ := (Option.any_eq_true _ _).mp hcheck.1
  obtain ⟨sys', hstep, hopened⟩ := (Option.any_eq_true _ _).mp hcheck.2
  have hrun := Runs.of_reaches
    (reaches_of_execute hsys fun sys => soldElsewhere_normalized .LOCAL_SIGNED sys)
  refine ⟨sys, sys', w, hsys, hw, hstep, Option.isSome_iff_ne_none.mp hopened, ?_⟩
  refine (processedRecord_confined_iff openSaleFinances_reachable hrun (.dispute _ 260) hw
    hstep).mpr ?_
  rintro ⟨ref, incoming, p, a, hheard, hother, -⟩
  rw [hheard.payment, Option.all_some] at hown
  exact hother (eq_of_beq hown)

/-- A dispute that STRIPE reports about its own intent is opened on a payment of
LOCAL_SIGNED: no payment of STRIPE has that intent, so that no order of the rows helps. -/
theorem processedRecord_not_confined :
    ∃ sys sys' w, Reachable openSaleFinances ∧ Runs openSaleFinances sys ∧
      ProcessesRecord 92 disputeProcessed ∧ sys.db.webhooks.lookup 92 = some w ∧
      w.provider = .STRIPE ∧
      (∀ p a, sys.db.attempts.lookup p = some a → a.providerIntentId = some w.providerIntentId →
        a.provider = .LOCAL_SIGNED) ∧
      Platform.step sys disputeProcessed = some sys' ∧ ¬sys.db.Confined w.provider sys'.db := by
  have hrun : (execute Platform.step (soldElsewhere .STRIPE) openSaleFinances).any (fun sys =>
      (sys.db.webhooks.lookup 92).any (fun w => w.provider == .STRIPE &&
        !sys.db.attempts.any fun _ a =>
          a.providerIntentId == some w.providerIntentId && a.provider != .LOCAL_SIGNED) &&
      (sys.db.disputes.lookup 1).isNone &&
      (Platform.step sys disputeProcessed).any fun sys' =>
        (sys'.db.disputes.lookup 1).any fun d => d.provider == .LOCAL_SIGNED) = true := by
    decide +kernel
  obtain ⟨sys, hsys, hcheck⟩ := (Option.any_eq_true _ _).mp hrun
  simp only [Bool.and_eq_true, Option.isNone_iff_eq_none] at hcheck
  obtain ⟨w, hw, hrecord⟩ := (Option.any_eq_true _ _).mp hcheck.1.1
  obtain ⟨sys', hstep, hopened⟩ := (Option.any_eq_true _ _).mp hcheck.2
  obtain ⟨d, hd, hforeign⟩ := (Option.any_eq_true _ _).mp hopened
  rw [Bool.and_eq_true, beq_iff_eq, Bool.not_eq_true', Table.any_eq_false] at hrecord
  obtain ⟨hprovider, helsewhere⟩ := hrecord
  rw [beq_iff_eq] at hforeign
  have hreaches := reaches_of_execute hsys fun sys => soldElsewhere_normalized .STRIPE sys
  refine ⟨sys, sys', w, openSaleFinances_reachable, .of_reaches hreaches, .dispute _ 260, hw,
    hprovider, fun p a ha hintent => ?_, hstep, fun hconfined => ?_⟩
  · simpa [hintent] using helsewhere p a ha
  · rcases hconfined.disputes 1 with hsame | ⟨-, hnew⟩
    · rw [hd, hcheck.1.2] at hsame
      cases hsame
    · have hclaimed := hnew d hd
      rw [hprovider, hforeign] at hclaimed
      cases hclaimed

end Platform

end SeatFlow
