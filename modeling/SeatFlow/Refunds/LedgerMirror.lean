import SeatFlow.Refunds.SeatCoverage

/-!
# The ledger of settled refunds

A refund that succeeds appends one entry, keyed by the event that settled it. Two
events of one success have two keys, so nothing in the key keeps a refund from a
second entry: the first event ends the refund, and an ended refund is not settled
again. A record is closed with its settlement, so its key is used once.
-/

namespace SeatFlow

open Relational Program Entity

variable {s s' : Db} {wid : WebhookId} {w : PaymentWebhookEvent} {incoming : RefundStatus}
  {id : RefundId} {r : Refund} {now : Time}

/-! ## §1 What a settlement appends -/

/-- The `REFUND_SUCCEEDED` entry of a cause. -/
def Db.successEntry (db : Db) (cause : LedgerCause) : Option FinancialLedgerEntry :=
  db.ledger.lookup { entryType := .REFUND_SUCCEEDED, cause := cause }

/-- The row that an append inserts. -/
def AppendLedgerEntryInput.row (input : AppendLedgerEntryInput) : FinancialLedgerEntry where
  direction := directionForEntryType input.entryType
  amountMinor := input.amountMinor
  currency := input.currency
  orderId := input.orderId
  paymentAttemptId := input.paymentAttemptId
  bookingId := input.bookingId
  refundId := input.refundId
  disputeId := input.disputeId
  provider := input.provider
  providerReference := input.providerReference
  effectiveAt := input.effectiveAt

theorem Db.successEntry_congr (h : s'.settledRecords = s.settledRecords) :
    s'.successEntry = s.successEntry := by
  funext cause
  exact congrFun (congrArg Prod.snd h) { entryType := .REFUND_SUCCEEDED, cause := cause }

/-- A success under a new key is appended. -/
theorem ensures_appendSuccess {input : AppendLedgerEntryInput}
    (htype : input.entryType = .REFUND_SUCCEEDED) (hnew : s.successEntry input.causeKey = none) :
    Ensures (appendLedgerEntry input) s fun _ s' =>
      s'.successEntry = Function.update s.successEntry input.causeKey (some input.row) := by
  refine ensures_bind.mpr (ensures_require.mpr fun _ => ensures_insertNew.mpr ⟨?_, ?_⟩)
  · intro hpresent
    replace hpresent : (s.ledger.lookup ⟨input.entryType, input.causeKey⟩).isSome = true := hpresent
    rw [htype, show s.ledger.lookup _ = none from hnew] at hpresent
    cases hpresent
  · intro _ _
    funext cause
    show AList.lookup _ (s.ledger.insert ⟨input.entryType, input.causeKey⟩ input.row) = _
    rw [Table.lookup_insert_ite, htype]
    by_cases hcause : cause = input.causeKey
    · subst hcause
      simp
    · rw [Function.update_of_ne hcause, if_neg (by simpa using hcause)]
      rfl

theorem framed_updatedRefund {f : Refund → Refund} {s : Db} :
    Ensures (updateRefundById id f) s fun _ s' => s'.successEntry = s.successEntry :=
  ((framed_updateRefundById settledRecords_frame id f).framed s).mono fun _ _ h =>
    Db.successEntry_congr h

/-- The entry that a success of refund `id`, reported by `w`, appends. -/
def PaymentWebhookEvent.successRow (w : PaymentWebhookEvent) (webhookId : WebhookId)
    (ref : ProviderRef) (now : Time) (id : RefundId) (r : Refund) : FinancialLedgerEntry :=
  (r.ledgerEntry id .REFUND_SUCCEEDED (.webhook webhookId) (w.providerOccurredAt.getD now)
    (some ref)).row

theorem ensures_settleSucceeded_entry {ref : ProviderRef}
    (hnew : s.successEntry (.webhook wid) = none) :
    Ensures (settleSucceeded (w.settleInput wid ref incoming now) id r) s fun _ s' =>
      s'.successEntry
        = Function.update s.successEntry (.webhook wid) (some (w.successRow wid ref now id r)) := by
  refine ensures_bind.mpr (framed_updatedRefund.mono fun _ s₁ hsame => ?_)
  rw [← hsame] at hnew ⊢
  refine ensures_bind.mpr ((ensures_appendSuccess rfl hnew).mono fun _ s₂ happended => ?_)
  rw [← show s₂.successEntry = Function.update s₁.successEntry (.webhook wid)
    (some (w.successRow wid ref now id r)) from happended]
  -- the other consequences append nothing
  refine ((show Steps (Framing Db.settledRecords) _ from ?_).framed s₂).mono
    fun _ _ h => Db.successEntry_congr h
  refine (steps_applyTicketConsequences (revoking_of_free (fun _ _ => rfl) fun _ _ => rfl) _ _ _
    _).bind fun consequences => ?_
  refine Steps.bind ?_ fun _ => ?_
  · exact settledRecords_frame.writes.markedRefunded
      (fun _ _ => steps_update fun _ _ _ _ => rfl) _ _
  refine (framed_enqueueFinancialEvent settledRecords_frame.1 _ _).bind fun _ => ?_
  split
  · exact (framed_enqueueFinancialEvent settledRecords_frame.1 _ _).bind fun _ => steps_pure
  · exact steps_pure

/-- Settling a refund that was found appends an entry when it succeeds, and no entry
otherwise. -/
theorem ensures_settleFound_entry {ref : ProviderRef}
    (hnew : s.successEntry (.webhook wid) = none) :
    Ensures (settleFound (w.settleInput wid ref incoming now) id r) s fun outcome s' =>
      s'.successEntry = if outcome = .APPLIED .SUCCEEDED then
        Function.update s.successEntry (.webhook wid) (some (w.successRow wid ref now id r))
      else s.successEntry := by
  have hother : ∀ {α : Type} {prog : Sql α} {outcome : RefundSettlementOutcome},
      prog.Steps (Framing Db.settledRecords) → outcome ≠ .APPLIED .SUCCEEDED →
      Ensures (do let _ ← prog; pure outcome) s fun outcome s' =>
        s'.successEntry = if outcome = .APPLIED .SUCCEEDED then
          Function.update s.successEntry (.webhook wid) (some (w.successRow wid ref now id r))
        else s.successEntry := by
    intro α prog outcome hprog hne
    refine ensures_bind.mpr ((hprog.framed s).mono fun _ s' h => ensures_pure.mpr ?_)
    rw [if_neg hne]
    exact Db.successEntry_congr h
  rw [settleFound_eq]
  split
  · refine hother (settledRecords_frame.writes.escalated (fun _ => ?_) _ _ _ trivial) (by simp)
    exact steps_update fun _ _ _ _ => rfl
  · refine ensures_bind.mpr ((ensures_settleSucceeded_entry hnew).mono fun _ s' h => ?_)
    exact ensures_pure.mpr (by rw [if_pos rfl]; exact h)
  · exact hother (settledRecords_frame.writes.settledFailed _ _ _ trivial) (by simp)
  · rename_i status hsucceeded hfailed houtcome
    refine hother (settledRecords_frame.writes.settledAdvanced _ _ _ trivial) ?_
    rintro ⟨⟩
    exact hsucceeded rfl
  · rename_i hreview happlied
    refine ensures_pure.mpr ?_
    rw [if_neg fun heq => happlied _ heq]

/-- Processing an open record appends the entry of a success, under the record's
own key. -/
theorem ensures_processed_entry (h : s.Delivers wid w incoming id r)
    (hnew : s.successEntry (.webhook wid) = none) :
    Ensures (processVerifiedRefundRecord wid now) s fun outcome s' =>
      ∃ ref, s'.successEntry = if outcome = .APPLIED .SUCCEEDED then
        Function.update s.successEntry (.webhook wid) (some (w.successRow wid ref now id r))
      else s.successEntry := by
  obtain ⟨ref, href, hnamed⟩ := h.named
  refine ensures_runInTransaction (ensures_bind.mpr (ensures_lock.mpr ?_))
  refine ensures_bind.mpr (ensures_findOrThrow.mpr fun w' hw' => ?_)
  cases Option.some.inj (h.record.symm.trans hw')
  split
  · exact ensures_pure.mpr fun _ => ⟨ref, rfl⟩
  · refine ensures_bind.mpr (ensures_require.mpr fun _ => ?_)
    split
    · rename_i ref' incoming' href' _
      cases Option.some.inj (href.symm.trans href')
      refine ensures_bind.mpr (ensures_bind.mpr (ensures_lockMany.mpr ?_))
      rw [show ((Prisma.refund.get s).select fun _ r => r.providerRefundId == some ref).head? =
        some (id, r) from hnamed]
      refine ensures_bind.mpr (ensures_findOrThrow.mpr fun r' hr' => ?_)
      cases Option.some.inj (h.refund.1.symm.trans hr')
      refine ensures_bind.mpr (ensures_update.mpr fun _ _ _ => ?_)
      show Ensures (settleFound (w.settleInput wid ref incoming' now) id r) _ _
      have hlinked : ∀ webhooks,
          Db.successEntry (Prisma.paymentWebhookEvent.set webhooks s) (.webhook wid) = none :=
        fun _ => hnew
      refine (ensures_settleFound_entry (hlinked _)).mono fun outcome s₁ hsettled => ?_
      exact ensures_bind.mpr (ensures_update.mpr fun _ _ _ => ensures_pure.mpr fun _ =>
        ⟨ref, hsettled⟩)
    · exact ensures_abort.mpr trivial

/-! ## §2 Settled refunds -/

/-- When a refund succeeded. -/
def Db.settledAt (db : Db) (id : RefundId) : Option Time :=
  (db.refunds.lookup id).bind (·.succeededAt)

/-- Steps without a success settle nothing. -/
theorem RefundStep.settledAt {U : RefundId → RefundUpdate → Prop} {B : BookingId → Prop}
    {W : WebhookId → Prop} (h : RefundStep U B W s s')
    (hU : ∀ id u, U id u → u.status ≠ .SUCCEEDED) : s'.settledAt = s.settledAt := by
  funext rid
  have hwritten : ∀ {k : RefundId} {row : Refund}, row.succeededAt = s.settledAt k →
      ((s.refunds.insert k row).lookup rid).bind (·.succeededAt) = s.settledAt rid := by
    intro k row hrow
    rw [Table.lookup_insert_ite]
    split
    · rename_i hkey
      rw [hkey]
      exact hrow
    · rfl
  cases h with
  | plain hrefunds hattempts hbookings hwebhooks => rw [Db.settledAt, hrefunds, Db.settledAt]
  | insert id row habsent hvalid hfresh =>
      have hlifecycle := (Refund.admitted_of_validate hvalid).lifecycle
      rw [Refund.lifecycleCheck, hfresh.status] at hlifecycle
      refine hwritten ?_
      rw [Db.settledAt, habsent]
      cases hrow : row.succeededAt <;> simp_all
  | seats id r added hlook hvalid =>
      exact hwritten (by rw [Db.settledAt, hlook]; rfl)
  | update id r u hu hlook hvalid =>
      refine hwritten ?_
      rw [Db.settledAt, hlook, RefundUpdate.succeededAt_apply (hU id u hu)]
      rfl
  | _ => rfl

/-- Only a success settles the refund that an event is about. -/
theorem settledAt_of_outcome {outcome : RefundSettlementOutcome} {id : RefundId} {r : Refund}
    {now : Time} (hunsuccessful : outcome ≠ .APPLIED .SUCCEEDED) (hr : s.refunds.lookup id = some r)
    (hrefunds : s'.refunds = outcome.refunds now id r s.refunds) : s'.settledAt = s.settledAt := by
  have hkept : ∀ {u : RefundUpdate}, u.status ≠ .SUCCEEDED →
      s'.refunds = s.refunds.insert id (u.apply r) → s'.settledAt = s.settledAt := by
    intro u hu hinsert
    funext id'
    rw [Db.settledAt, hinsert, Table.lookup_insert_ite, Db.settledAt]
    split
    · rename_i hsame
      rw [hsame, hr]
      exact RefundUpdate.succeededAt_apply hu r
    · rfl
  cases outcome with
  | REVIEW code => exact hkept (u := .review code now) (by simp [RefundUpdate.status]) hrefunds
  | APPLIED status =>
      cases status with
      | SUCCEEDED => exact absurd rfl hunsuccessful
      | FAILED =>
          exact hkept (u := .fail "PROVIDER_REPORTED_FAILURE" now) (by simp [RefundUpdate.status])
            hrefunds
      | _ => exact hkept (u := .advance _ now) (by simp [RefundUpdate.status]) hrefunds
  | _ =>
      funext id'
      exact congrArg (fun refunds => (AList.lookup id' refunds).bind (·.succeededAt)) hrefunds

theorem Refund.Evolves.terms {r r' : Refund} (h : Refund.Evolves r r') :
    r'.paymentAttemptId = r.paymentAttemptId ∧ r'.requestedAmountMinor = r.requestedAmountMinor ∧
      r'.currency = r.currency := by
  obtain ⟨-, -, hpayment, -, -, -, -, hamount, hcurrency, -⟩ := h.identity
  exact ⟨hpayment, hamount, hcurrency⟩

/-- Refunds that keep their amounts and outcomes keep the refunded totals. -/
theorem refundedSum_of_settledAt (hsettled : s'.settledAt = s.settledAt)
    (hevolves : ∀ id r, s.refunds.lookup id = some r →
      ∃ r', s'.refunds.lookup id = some r' ∧ Refund.Evolves r r') (p : AttemptId) :
    s'.refundedSum p = s.refundedSum p := by
  refine Table.sum_congr fun id => ?_
  have hsame := congrFun hsettled id
  unfold Db.settledAt at hsame
  cases hr : s.refunds.lookup id with
  | none =>
      rw [Table.contribution_none hr]
      cases hr' : s'.refunds.lookup id with
      | none => exact Table.contribution_none hr'
      | some r' =>
          have hnone : r'.succeededAt = none := by simpa [hr, hr'] using hsame
          rw [Table.contribution_some hr', Refund.refundedOf, if_neg (by simp [hnone])]
  | some r =>
      obtain ⟨r', hr', hevolved⟩ := hevolves id r hr
      have hkept : r'.succeededAt = r.succeededAt := by simpa [hr, hr'] using hsame
      obtain ⟨hpayment, hamount, -⟩ := hevolved.terms
      rw [Table.contribution_some hr, Table.contribution_some hr', Refund.refundedOf,
        Refund.refundedOf, hkept, hpayment, hamount]

/-! ## §3 The mirror -/

/-- The sum of a payment's `REFUND_SUCCEEDED` entries. -/
def Db.succeededMinor (db : Db) (attempt : AttemptId) : Money :=
  db.ledger.sum fun key entry =>
    if key.entryType = .REFUND_SUCCEEDED ∧ entry.paymentAttemptId = attempt then entry.amountMinor
    else 0

/-- What a step does to outcomes and their entries: nothing, or one open record's
event settles one refund that had not succeeded, appends the entry under the
record's key and closes the record. -/
inductive SuccessStep (s s' : Db) : Prop
  | quiet (settled : s'.settledAt = s.settledAt) (entries : s'.successEntry = s.successEntry)
  | success (wid : WebhookId) (w : PaymentWebhookEvent) (ref : ProviderRef) (id : RefundId)
      (r : Refund) (now : Time) (opened : ¬s.Closed wid) (closed : s'.Closed wid)
      (found : s.refunds.lookup id = some r) (unsettled : r.succeededAt = none)
      (refunds : s'.refunds = s.refunds.insert id (RefundUpdate.apply r (.succeed now)))
      (entries : s'.successEntry
        = Function.update s.successEntry (.webhook wid) (some (w.successRow wid ref now id r)))

/-- The ledger's successes are those of the refunds. -/
structure Mirrored (db : Db) : Prop where
  recorded : ∀ id, (db.settledAt id).isSome = true →
    ∃ cause entry, db.successEntry cause = some entry ∧ entry.refundId = some id
  closed : ∀ cause entry, db.successEntry cause = some entry →
    ∃ wid, cause = .webhook wid ∧ db.Closed wid
  faithful : ∀ cause entry, db.successEntry cause = some entry →
    ∃ id r, entry.refundId = some id ∧ db.refunds.lookup id = some r ∧ r.succeededAt.isSome = true ∧
      entry.amountMinor = r.requestedAmountMinor ∧ entry.currency = r.currency ∧
      entry.paymentAttemptId = r.paymentAttemptId
  once : ∀ cause entry cause' entry', db.successEntry cause = some entry →
    db.successEntry cause' = some entry' → entry.refundId = entry'.refundId → cause = cause'
  total : ∀ p, db.succeededMinor p = db.refundedSum p

/-- An open record has appended no entry. -/
theorem Mirrored.unused (hm : Mirrored s) (hopened : ¬s.Closed wid) :
    s.successEntry (.webhook wid) = none := by
  cases hentry : s.successEntry (.webhook wid) with
  | none => rfl
  | some entry =>
      obtain ⟨wid', hcause, hclosed⟩ := hm.closed _ entry hentry
      cases hcause
      exact absurd hclosed hopened

/-- The entries of an appended ledger. -/
theorem succeededMinor_of_entries {t : Table LedgerKey FinancialLedgerEntry}
    (h : ∀ cause, s.successEntry cause = t.lookup ⟨.REFUND_SUCCEEDED, cause⟩) (p : AttemptId) :
    s.succeededMinor p = t.sum fun key entry =>
      if key.entryType = .REFUND_SUCCEEDED ∧ entry.paymentAttemptId = p then entry.amountMinor
      else 0 := by
  refine Table.sum_congr fun key => ?_
  obtain ⟨entryType, cause⟩ := key
  by_cases htype : entryType = .REFUND_SUCCEEDED
  · subst htype
    rw [Table.contribution, Table.contribution, ← h cause]
    rfl
  · have hzero : ∀ t : Table LedgerKey FinancialLedgerEntry, t.contribution (fun key entry =>
        if key.entryType = .REFUND_SUCCEEDED ∧ entry.paymentAttemptId = p then entry.amountMinor
        else 0) ⟨entryType, cause⟩ = 0 := by
      intro t
      rw [Table.contribution]
      cases t.lookup ⟨entryType, cause⟩ <;> simp [htype]
    rw [hzero, hzero]

section Step

variable (hevolves : ∀ id r, s.refunds.lookup id = some r →
    ∃ r', s'.refunds.lookup id = some r' ∧ Refund.Evolves r r')
  (hclosed : ∀ wid, s.Closed wid → s'.Closed wid)

include hevolves

/-- An entry stays faithful to its refund. -/
theorem faithful_evolves {entry : FinancialLedgerEntry}
    (h : ∃ id r, entry.refundId = some id ∧ s.refunds.lookup id = some r ∧
      r.succeededAt.isSome = true ∧ entry.amountMinor = r.requestedAmountMinor ∧
      entry.currency = r.currency ∧ entry.paymentAttemptId = r.paymentAttemptId) :
    ∃ id r, entry.refundId = some id ∧ s'.refunds.lookup id = some r ∧
      r.succeededAt.isSome = true ∧ entry.amountMinor = r.requestedAmountMinor ∧
      entry.currency = r.currency ∧ entry.paymentAttemptId = r.paymentAttemptId := by
  obtain ⟨id, r, hid, hr, hsettled, hamount, hcurrency, hpayment⟩ := h
  obtain ⟨r', hr', hevolved⟩ := hevolves id r hr
  obtain ⟨hpayment', hamount', hcurrency'⟩ := hevolved.terms
  refine ⟨id, r', hid, hr', ?_, ?_, ?_, ?_⟩
  · rw [hevolved.succeeded hsettled]
    exact hsettled
  · rw [hamount, hamount']
  · rw [hcurrency, hcurrency']
  · rw [hpayment, hpayment']

include hclosed

/-- A step that settles nothing keeps the mirror. -/
theorem Mirrored.quiet (hm : Mirrored s) (hsettled : s'.settledAt = s.settledAt)
    (hentries : s'.successEntry = s.successEntry) : Mirrored s' where
  recorded := by
    rw [hsettled, hentries]
    exact hm.recorded
  closed := by
    intro cause entry hentry
    rw [hentries] at hentry
    obtain ⟨wid, hcause, hwas⟩ := hm.closed cause entry hentry
    exact ⟨wid, hcause, hclosed wid hwas⟩
  faithful := by
    intro cause entry hentry
    rw [hentries] at hentry
    exact faithful_evolves hevolves (hm.faithful cause entry hentry)
  once := by
    rw [hentries]
    exact hm.once
  total := by
    intro p
    rw [refundedSum_of_settledAt hsettled hevolves, ← hm.total p]
    exact succeededMinor_of_entries (fun cause => congrFun hentries cause) p

/-- A step that settles a refund mirrors it once: the record's key is new, and no
entry was the refund's. -/
theorem Mirrored.success (hm : Mirrored s) {ref : ProviderRef} (hopened : ¬s.Closed wid)
    (hnow : s'.Closed wid) (hr : s.refunds.lookup id = some r) (hunsettled : r.succeededAt = none)
    (hrefunds : s'.refunds = s.refunds.insert id (RefundUpdate.apply r (.succeed now)))
    (hentries : s'.successEntry
      = Function.update s.successEntry (.webhook wid) (some (w.successRow wid ref now id r))) :
    Mirrored s' := by
  have hunused := hm.unused hopened
  have hself : s'.successEntry (.webhook wid) = some (w.successRow wid ref now id r) := by
    rw [hentries, Function.update_self]
  have hother : ∀ cause, cause ≠ .webhook wid → s'.successEntry cause = s.successEntry cause := by
    intro cause hne
    rw [hentries, Function.update_of_ne hne]
  -- an entry is the new one, or was there and is another refund's
  have hcases : ∀ cause entry, s'.successEntry cause = some entry →
      (cause = .webhook wid ∧ entry = w.successRow wid ref now id r) ∨
        (s.successEntry cause = some entry ∧ entry.refundId ≠ some id) := by
    intro cause entry hentry
    by_cases hcause : cause = .webhook wid
    · subst hcause
      exact .inl ⟨rfl, Option.some.inj (hentry.symm.trans hself)⟩
    · rw [hother cause hcause] at hentry
      refine .inr ⟨hentry, fun hsame => ?_⟩
      obtain ⟨id', r', hid', hr', hsettled, -⟩ := hm.faithful cause entry hentry
      cases Option.some.inj (hid'.symm.trans hsame)
      cases Option.some.inj (hr'.symm.trans hr)
      rw [hunsettled] at hsettled
      cases hsettled
  constructor
  case recorded =>
    intro id' hsettled
    by_cases hsame : id' = id
    · exact ⟨_, _, hself, by rw [hsame]; rfl⟩
    · have hwas : (s.settledAt id').isSome = true := by
        rw [Db.settledAt, hrefunds, AList.lookup_insert_ne hsame] at hsettled
        exact hsettled
      obtain ⟨cause, entry, hentry, hid'⟩ := hm.recorded id' hwas
      refine ⟨cause, entry, ?_, hid'⟩
      rw [hother cause ?_, hentry]
      rintro rfl
      rw [hunused] at hentry
      cases hentry
  case closed =>
    intro cause entry hentry
    rcases hcases cause entry hentry with ⟨rfl, -⟩ | ⟨hwas, -⟩
    · exact ⟨wid, rfl, hnow⟩
    · obtain ⟨wid', hcause, hwas'⟩ := hm.closed cause entry hwas
      exact ⟨wid', hcause, hclosed wid' hwas'⟩
  case faithful =>
    intro cause entry hentry
    rcases hcases cause entry hentry with ⟨-, rfl⟩ | ⟨hwas, -⟩
    · refine ⟨id, RefundUpdate.apply r (.succeed now), rfl, ?_, rfl, rfl, rfl, rfl⟩
      rw [hrefunds]
      exact AList.lookup_insert _
    · exact faithful_evolves hevolves (hm.faithful cause entry hwas)
  case once =>
    intro cause entry cause' entry' hentry hentry' hsame
    rcases hcases cause entry hentry with ⟨rfl, rfl⟩ | ⟨hwas, hne⟩ <;>
      rcases hcases cause' entry' hentry' with ⟨rfl, rfl⟩ | ⟨hwas', hne'⟩
    · rfl
    · exact absurd hsame.symm hne'
    · exact absurd hsame hne
    · exact hm.once cause entry cause' entry' hwas hwas' hsame
  case total =>
    intro p
    have hledger := succeededMinor_of_entries (s := s')
      (t := s.ledger.insert ⟨.REFUND_SUCCEEDED, .webhook wid⟩ (w.successRow wid ref now id r))
      (fun cause => by
        rw [hentries, Function.update_apply, Table.lookup_insert_ite]
        simp only [LedgerKey.mk.injEq, true_and]
        rfl) p
    have hsum := Table.sum_insert (fun (key : LedgerKey) (entry : FinancialLedgerEntry) =>
      if key.entryType = .REFUND_SUCCEEDED ∧ entry.paymentAttemptId = p then entry.amountMinor
      else 0) s.ledger ⟨.REFUND_SUCCEEDED, .webhook wid⟩ (w.successRow wid ref now id r)
    rw [Table.contribution_none hunused, add_zero] at hsum
    rw [hledger, hsum, Db.refundedSum, hrefunds, refundedSum_written hr, ← hm.total p]
    simp [Db.succeededMinor, Refund.refundedOf, RefundUpdate.apply, hunsettled,
      PaymentWebhookEvent.successRow, AppendLedgerEntryInput.row, Refund.ledgerEntry]

theorem Mirrored.step (hm : Mirrored s) (hstep : SuccessStep s s') : Mirrored s' := by
  cases hstep with
  | quiet settled entries => exact hm.quiet hevolves hclosed settled entries
  | success wid w ref id r now opened closed found unsettled refunds entries =>
      exact hm.success hevolves hclosed opened closed found unsettled refunds entries

end Step

/-- The entries of a refund's success. -/
def Db.successEntries (db : Db) (id : RefundId) : List (LedgerKey × FinancialLedgerEntry) :=
  db.ledger.select fun key entry => key.entryType == .REFUND_SUCCEEDED && entry.refundId == some id

/-- The ledger holds one success for every refund that succeeded, with its terms, none
for any other, and per payment the successes add up to the refunded amount. -/
structure LedgerMirrors (db : Db) : Prop where
  succeeded : ∀ id r, db.refunds.lookup id = some r → r.succeededAt.isSome = true →
    ∃ key entry, db.successEntries id = [(key, entry)] ∧
      entry.amountMinor = r.requestedAmountMinor ∧ entry.currency = r.currency ∧
      entry.paymentAttemptId = r.paymentAttemptId
  others : ∀ id r, db.refunds.lookup id = some r → r.succeededAt = none → db.successEntries id = []
  totals : ∀ p a, db.attempts.lookup p = some a → db.succeededMinor p = a.refundedMinor

theorem Mirrored.ledgerMirrors (hm : Mirrored s) (hexact : ∀ p, paymentAggregate.Faithful s p) :
    LedgerMirrors s where
  succeeded := by
    intro id r hr hsettled
    obtain ⟨cause, entry, hentry, hid⟩ :=
      hm.recorded id (by simpa [Db.settledAt, hr] using hsettled)
    obtain ⟨id', r', hid', hr', -, hterms⟩ := hm.faithful cause entry hentry
    cases Option.some.inj (hid.symm.trans hid')
    cases Option.some.inj (hr.symm.trans hr')
    refine ⟨_, entry, Table.select_eq_singleton hentry (by simp [hid]) ?_, hterms⟩
    rintro ⟨entryType, cause'⟩ entry' hentry' hmatch
    simp only [Bool.and_eq_true, beq_iff_eq] at hmatch
    obtain ⟨rfl, hid'⟩ := hmatch
    rw [hm.once cause' entry' cause entry hentry' hentry (by rw [hid', hid])]
  others := by
    intro id r hr hunsettled
    refine Table.select_eq_nil.mpr ?_
    rintro ⟨entryType, cause⟩ entry hentry
    by_contra hmatch
    simp only [Bool.not_eq_false, Bool.and_eq_true, beq_iff_eq] at hmatch
    obtain ⟨rfl, hid⟩ := hmatch
    obtain ⟨id', r', hid', hr', hsettled, -⟩ := hm.faithful cause entry hentry
    cases Option.some.inj (hid.symm.trans hid')
    cases Option.some.inj (hr.symm.trans hr')
    rw [hunsettled] at hsettled
    cases hsettled
  totals := by
    intro p a ha
    rw [hm.total p, (paymentAggregate_faithful.mp (hexact p) a ha).1]

/-! ## §4 Runs -/

namespace RefundSystem

variable {sys₀ sys sys' : RefundSystem}

/-- A closed record stays closed. -/
theorem closed_step {a : RefundAction} (h : sys.step a = some sys') {wid : WebhookId}
    (hclosed : sys.db.Closed wid) : sys'.db.Closed wid := by
  obtain ⟨w, hw, hfinal⟩ := hclosed
  rcases webhooks_cases h with hsame | ⟨_, _, fresh, _, w', -, habsent, hinsert, -⟩ |
    ⟨webhookId, _, w', -, hfinal', hwrote⟩
  · exact ⟨w, hsame ▸ hw, hfinal⟩
  · refine ⟨w, ?_, hfinal⟩
    rw [hinsert, AList.lookup_insert_ne, hw]
    rintro rfl
    rw [habsent] at hw
    cases hw
  · by_cases hsame : wid = webhookId
    · subst hsame
      exact ⟨w', hwrote.lookup_self, hfinal'⟩
    · exact ⟨w, (hwrote.lookup_ne hsame).trans hw, hfinal⟩

/-- An action other than processing settles nothing. -/
theorem settledAt_of_step {a : RefundAction} (hprocess : ∀ wid now, a ≠ .processWebhook wid now)
    (h : sys.step a = some sys') : sys'.db.settledAt = sys.db.settledAt := by
  have hsteps := db_steps h
  generalize sys'.db = db at hsteps
  induction hsteps with
  | refl => rfl
  | tail _ hstep ih =>
      exact (hstep.settledAt fun id u hu => (allowed_unsettling hprocess hu).1).trans ih

/-- An action other than processing appends no success. -/
theorem successEntry_of_step {a : RefundAction} (hprocess : ∀ wid now, a ≠ .processWebhook wid now)
    (h : sys.step a = some sys') : sys'.db.successEntry = sys.db.successEntry := by
  have hentries : RefundFrame Db.successEntry :=
    { refunds := fun _ _ _ _ _ => rfl
      submissions := fun _ _ => rfl
      outbox := fun _ _ => rfl
      totals := fun _ _ => rfl
      queue := fun _ _ => rfl
      ledger := fun s key row hkey =>
        Db.successEntry_congr (settledRecords_frame.ledger s key row hkey) }
  exact framed_of_step hentries h (fun _ _ _ _ _ _ _ => rfl) (fun _ _ _ _ _ _ _ => rfl) hprocess

/-- What a step does to the outcomes of refunds and to their entries. -/
theorem success_cases {a : RefundAction} (hs : sys.Reachable) (hm : Mirrored sys.db)
    (h : sys.step a = some sys') : SuccessStep sys.db sys'.db := by
  by_cases hprocess : ∃ wid now, a = .processWebhook wid now
  · obtain ⟨wid, now, rfl⟩ := hprocess
    rcases hs.processed_cases h with ⟨hrefunds, hledger⟩ |
      ⟨w, incoming, id, r, outcome, hdelivers, hrun, houtcome, hrefunds, hclosed⟩
    · refine .quiet ?_ ?_
      · funext id
        rw [Db.settledAt, hrefunds, Db.settledAt]
      · funext cause
        rw [Db.successEntry, hledger, Db.successEntry]
    · have hr := hdelivers.refund.1
      obtain ⟨ref, hentries⟩ :=
        ensures_processed_entry hdelivers (hm.unused hdelivers.not_closed) _ _ hrun
      by_cases hsuccess : outcome = .APPLIED .SUCCEEDED
      · rw [if_pos hsuccess] at hentries
        obtain ⟨-, hunfinished, hreview, -⟩ := applied_of_outcomeFor (houtcome.symm.trans hsuccess)
        have hprocessing := hs.processing hdelivers hunfinished hreview
        have hunsettled := (outcome_of_processing hs.kept.consistent.sound hr hprocessing).1
        rw [hsuccess] at hrefunds
        exact .success wid w ref id r now hdelivers.not_closed (Db.closed_of_lookup hclosed) hr
          hunsettled hrefunds hentries
      · rw [if_neg hsuccess] at hentries
        exact .quiet (settledAt_of_outcome hsuccess hr hrefunds) hentries
  · have hother : ∀ wid now, a ≠ .processWebhook wid now :=
      fun wid now heq => hprocess ⟨wid, now, heq⟩
    exact .quiet (settledAt_of_step hother h) (successEntry_of_step hother h)

/-- Before any refund there is nothing to mirror. -/
theorem Fresh.mirrored (hfresh : sys.Fresh)
    (hledger : ∀ key entry, sys.db.ledger.lookup key = some entry →
      key.entryType ≠ .REFUND_SUCCEEDED) : Mirrored sys.db := by
  have hnone : ∀ cause entry, sys.db.successEntry cause ≠ some entry :=
    fun cause entry hentry => hledger _ entry hentry rfl
  constructor
  case recorded =>
    intro id hsettled
    rw [Db.settledAt, hfresh.start.refunds id] at hsettled
    cases hsettled
  case closed => exact fun cause entry hentry => absurd hentry (hnone cause entry)
  case faithful => exact fun cause entry hentry => absurd hentry (hnone cause entry)
  case once => exact fun cause entry _ _ hentry => absurd hentry (hnone cause entry)
  case total =>
    intro p
    have hsum : sys.db.refundedSum p = 0 := Table.sum_eq_zero hfresh.start.refunds
    rw [hsum, succeededMinor_of_entries (t := ∅) (fun cause => ?_) p]
    · rfl
    · cases hentry : sys.db.successEntry cause with
      | none => rfl
      | some entry => exact absurd hentry (hnone cause entry)

/-- **The ledger mirrors the refunds.** In every state that a run of refund operations
reaches, whatever events are delivered and however often, each refund that succeeded
has one `REFUND_SUCCEEDED` entry. -/
theorem ledger_mirrors_refunds (hfresh : sys₀.Fresh)
    (hledger : ∀ key entry, sys₀.db.ledger.lookup key = some entry →
      key.entryType ≠ .REFUND_SUCCEEDED)
    (hreach : Reaches RefundSystem.step NormalizedEvents sys₀ sys) : LedgerMirrors sys.db := by
  have hinv : sys.Reachable ∧ Mirrored sys.db := by
    refine hreach.invariant (I := fun s => s.Reachable ∧ Mirrored s.db)
      ⟨hfresh.reachable, hfresh.mirrored hledger⟩ fun s a t hok hstep hs => ?_
    refine ⟨hs.1.step hok hstep, hs.2.step (fun id r hr => ?_) (fun wid => closed_step hstep)
      (success_cases hs.1 hs.2 hstep)⟩
    exact refund_evolves (db_steps hstep) hr
  exact hinv.2.ledgerMirrors hinv.1.kept.exact

/-- The first seat's refund succeeds, and the provider reports it twice. -/
theorem ledger_mirrors_refunds_reportedTwice :
    ∃ sys, Reaches RefundSystem.step NormalizedEvents capturedStart sys ∧
      (∃ r, sys.db.refunds.lookup 1 = some r ∧ r.succeededAt.isSome = true) ∧
      (∃ w, sys.db.webhooks.lookup 92 = some w ∧ w.processingStatus = .PROCESSED) ∧
      LedgerMirrors sys.db := by
  have hrun : (execute (guarded RefundSystem.step fun s a => decide (s.NormalizedEvents a))
      (submittedAndReported .SUCCEEDED ++
        [.processWebhook 91 230, secondReport .SUCCEEDED 235, .processWebhook 92 245])
      capturedStart).any (fun sys =>
        ((sys.db.refunds.lookup 1).any fun r => r.succeededAt.isSome) &&
          (sys.db.webhooks.lookup 92).any fun w => w.processingStatus == .PROCESSED) = true := by
    decide +kernel
  obtain ⟨sys, hsys, hcheck⟩ := (Option.any_eq_true _ _).mp hrun
  rw [Bool.and_eq_true] at hcheck
  obtain ⟨r, hr, hsettled⟩ := (Option.any_eq_true _ _).mp hcheck.1
  obtain ⟨w, hw, hprocessed⟩ := (Option.any_eq_true _ _).mp hcheck.2
  have hreach := reaches_of_normalized hsys
  refine ⟨sys, hreach, ⟨r, hr, hsettled⟩, ⟨w, hw, eq_of_beq hprocessed⟩, ?_⟩
  exact ledger_mirrors_refunds capturedStart_fresh
    (Table.forall_lookup (t := capturedPayment.ledger) (by decide)) hreach

end RefundSystem

end SeatFlow
