import SeatFlow.Refunds.Adoption

/-!
# Success events and submissions

A refund's external identity is attached when `createRefund` has returned, and
events find their refund by that identity alone. An event that is processed before
finds nobody, and its record is closed; so is that of an event older than the
refund's failure. No other interleaving of submissions and events loses a success.
-/

namespace SeatFlow

open Relational Program Entity

/-! ## §1 What one event does -/

/-- What a success event of the right amount makes of its refund. -/
def Refund.SettledBy (occurredAt : Option Time) (r r' : Refund) : Prop :=
  r'.status = .SUCCEEDED ∨ r'.status = .REQUIRES_REVIEW ∨
    r' = r ∧ isStaleProviderEvent (r.succeededAt.or r.failedAt) occurredAt = true

theorem ensures_markRefundUnderReview {s : Db} {refundId : RefundId} {refund : Refund}
    {safeCode : Code} {now : Time} :
    Ensures (markRefundUnderReview refundId refund safeCode now) s fun _ s' =>
      ∃ r', s'.refunds.lookup refundId = some r' ∧ r'.status = .REQUIRES_REVIEW := by
  refine ensures_bind.mpr (ensures_updateRefundById fun r s₁ _ _ hwritten => ?_)
  have hrest := (refundStep_writes (U := fun _ _ => False) (B := fun _ => False)
    (W := fun _ => False)).flaggedForReview (flagging_refundStep refund.orderId) refundId
    safeCode now
  refine (steps_iff_ensures.mp hrest s₁).mono fun _ s' hsteps => ?_
  obtain ⟨r', hr', hstatus | ⟨u, hu, -⟩⟩ := refund_status hsteps
    (by rw [hwritten.refunds, AList.lookup_insert])
  · exact ⟨r', hr', hstatus⟩
  · exact hu.elim

theorem ensures_settleSucceeded_status {s : Db} {input : SettleInput} {refundId : RefundId}
    {refund : Refund} :
    Ensures (settleSucceeded input refundId refund) s fun _ s' =>
      ∃ r', s'.refunds.lookup refundId = some r' ∧ r'.status = .SUCCEEDED := by
  refine ensures_bind.mpr (ensures_updateRefundById fun r s₁ _ _ hwritten => ?_)
  have hrest := (refundStep_writes (U := fun _ _ => False) (B := fun _ => True)
    (W := fun _ => False)).consequences input refundId refund trivial
  refine (steps_iff_ensures.mp hrest s₁).mono fun _ s' hsteps => ?_
  obtain ⟨r', hr', hstatus | ⟨u, hu, -⟩⟩ := refund_status hsteps
    (by rw [hwritten.refunds, AList.lookup_insert])
  · exact ⟨r', hr', hstatus⟩
  · exact hu.elim

/-- A success is applied, contradicts the outcome, or changes nothing. -/
theorem decideRefundTransition_succeeded (current : RefundStatus) :
    decideRefundTransition current .SUCCEEDED = .apply .SUCCEEDED ∨
    (∃ code, decideRefundTransition current .SUCCEEDED = .review code) ∨
    (∃ reason, decideRefundTransition current .SUCCEEDED = .ignore reason) ∧
      (current = .SUCCEEDED ∨ current = .REQUIRES_REVIEW) := by
  cases current <;>
    simp [decideRefundTransition, isContradictoryRefundOutcome, isTerminalRefundStatus]

/-- Settlement finds the refund by its external identity, and a success of the
right amount settles it. -/
theorem ensures_settlement {s : Db} {input : SettleInput} :
    Ensures (settleRefundFromVerifiedEvent input) s fun outcome s' =>
      outcome = .UNKNOWN_REFUND ∧
        (∀ id r, s.refunds.lookup id = some r → r.providerRefundId ≠ some input.providerRefundId) ∨
      ∃ id r, s.refunds.lookup id = some r ∧ r.providerRefundId = some input.providerRefundId ∧
        (input.incomingStatus = .SUCCEEDED → input.amountMinor = r.requestedAmountMinor →
          input.currency = r.currency →
          ∃ r', s'.refunds.lookup id = some r' ∧ Refund.SettledBy input.occurredAt r r') := by
  refine ensures_bind.mpr (ensures_lockMany.mpr ?_)
  split
  · rename_i hnone
    refine ensures_pure.mpr (.inl ⟨rfl, fun id r hr href => ?_⟩)
    have hmem : (id, r) ∈ (Prisma.refund.get s).select fun _ r =>
        r.providerRefundId == some input.providerRefundId :=
      Table.mem_select.mpr ⟨hr, by simp [href]⟩
    rw [List.head?_eq_none_iff.mp hnone] at hmem
    cases hmem
  · rename_i id r₀ hhead
    obtain ⟨hr₀, href⟩ := Table.mem_select.mp (List.mem_of_mem_head? hhead)
    refine ensures_bind.mpr (ensures_findOrThrow.mpr fun r hr => ?_)
    obtain rfl : r₀ = r := Option.some.inj (hr₀.symm.trans hr)
    rename' r₀ => r
    refine ensures_bind.mpr (ensures_update.mpr fun w hw hvalid => ?_)
    -- it remains to settle `r`; the record's link does not touch the refunds
    have hfound : ∀ {α : Type} {prog : Sql α} {outcome : α → RefundSettlementOutcome} {s₁ : Db},
        prog.Ensures s₁ (fun _ s' => input.incomingStatus = .SUCCEEDED →
          input.amountMinor = r.requestedAmountMinor → input.currency = r.currency →
          ∃ r', s'.refunds.lookup id = some r' ∧ Refund.SettledBy input.occurredAt r r') →
        Ensures (prog >>= fun a => pure (outcome a)) s₁ fun outcome s' =>
          outcome = .UNKNOWN_REFUND ∧ (∀ id r, s.refunds.lookup id = some r →
            r.providerRefundId ≠ some input.providerRefundId) ∨
          ∃ id r, s.refunds.lookup id = some r ∧
            r.providerRefundId = some input.providerRefundId ∧
            (input.incomingStatus = .SUCCEEDED → input.amountMinor = r.requestedAmountMinor →
              input.currency = r.currency →
              ∃ r', s'.refunds.lookup id = some r' ∧ Refund.SettledBy input.occurredAt r r') :=
      fun h => ensures_bind.mpr (h.mono fun _ _ hset =>
        ensures_pure.mpr (.inr ⟨id, r, hr, by simpa using href, hset⟩))
    split
    · rename_i hmismatch
      refine hfound (ensures_markRefundUnderReview.mono fun _ s' h _ hamount hcurrency => ?_)
      rcases hmismatch with hne | hne
      · exact absurd hamount hne
      · exact absurd hcurrency hne
    · split
      · rename_i hstale
        refine ensures_pure.mpr (.inr ⟨id, r, hr, by simpa using href, fun _ _ _ => ?_⟩)
        exact ⟨r, hr, .inr (.inr ⟨rfl, hstale⟩)⟩
      · have hdecision := decideRefundTransition_succeeded r.status
        split
        · rename_i reason hignored
          refine ensures_pure.mpr (.inr ⟨id, r, hr, by simpa using href, fun hsuccess _ _ => ?_⟩)
          rw [hsuccess] at hignored
          simp only [hignored, reduceCtorEq, false_or, exists_false,
            RefundTransitionDecision.ignore.injEq,
            exists_eq', true_and] at hdecision
          exact ⟨r, hr, hdecision.imp_right .inl⟩
        · refine hfound (ensures_markRefundUnderReview.mono fun _ s' h _ _ _ => ?_)
          obtain ⟨r', hr', hreview⟩ := h
          exact ⟨r', hr', .inr (.inl hreview)⟩
        · refine hfound (ensures_settleSucceeded_status.mono fun _ s' h _ _ _ => ?_)
          obtain ⟨r', hr', hsucceeded⟩ := h
          exact ⟨r', hr', .inl hsucceeded⟩
        · rename_i happly
          have hincoming := (decideRefundTransition_apply happly).1
          refine hfound fun _ s' _ hsuccess _ _ => ?_
          rw [hsuccess] at hincoming
          cases hincoming
        · rename_i status hne _ happly
          have hincoming := (decideRefundTransition_apply happly).1
          refine hfound fun _ s' _ hsuccess _ _ => ?_
          exact absurd (hincoming.trans hsuccess) hne

/-- Processing a record that is not closed yet closes it by the settlement. -/
theorem ensures_processedRecord {s : Db} {webhookId : WebhookId} {now : Time} :
    Ensures (processVerifiedRefundRecord webhookId now) s fun _ s' =>
      ∃ w w', s.webhooks.lookup webhookId = some w ∧ s'.webhooks.lookup webhookId = some w' ∧
        (w' = w ∨ w.processingStatus.isFinal = false ∧ ∃ ref, w.providerRefundId = some ref ∧
          ((∀ id r, s.refunds.lookup id = some r → r.providerRefundId ≠ some ref) ∨
            ∃ id r, s.refunds.lookup id = some r ∧ r.providerRefundId = some ref ∧
              (w.normalizedRefundStatus = some .SUCCEEDED →
                w.amountMinor = r.requestedAmountMinor → w.currency = r.currency →
                ∃ r', s'.refunds.lookup id = some r' ∧
                  Refund.SettledBy w.providerOccurredAt r r'))) := by
  refine ensures_runInTransaction (ensures_bind.mpr (ensures_lock.mpr ?_))
  refine ensures_bind.mpr (ensures_findOrThrow.mpr fun w hw => ?_)
  split
  · exact ensures_pure.mpr fun _ => ⟨w, w, hw, hw, .inl rfl⟩
  · rename_i hopen
    refine ensures_bind.mpr (ensures_require.mpr fun _ => ?_)
    split
    · rename_i ref incoming href hincoming
      refine ensures_bind.mpr (ensures_settlement.mono fun outcome s₁ hset => ?_)
      refine ensures_bind.mpr (ensures_update.mpr fun w₁ _ _ => ensures_pure.mpr fun _ => ?_)
      refine ⟨w, _, hw, AList.lookup_insert _, .inr ⟨by simpa using hopen, ref, href, ?_⟩⟩
      rcases hset with ⟨-, hunattached⟩ | ⟨id, r, hr, hrref, hsettled⟩
      · exact .inl hunattached
      · refine .inr ⟨id, r, hr, hrref, fun hsuccess hamount hcurrency => ?_⟩
        exact hsettled (Option.some.inj (hincoming.symm.trans hsuccess)) hamount hcurrency
    · exact ensures_abort.mpr trivial

/-! ## §2 Every interleaving -/

/-- Where a success event and its refund are to stand: the record is open, or the
refund succeeded or is under review. -/
def Resolved (w : PaymentWebhookEvent) (r : Refund) : Prop :=
  w.processingStatus.isFinal = false ∨ r.status = .SUCCEEDED ∨ r.status = .REQUIRES_REVIEW

theorem Resolved.evolves {w : PaymentWebhookEvent} {r r' : Refund} (h : Resolved w r)
    (hevolves : Refund.Evolves r r') : Resolved w r' := by
  rcases h with hopen | hsucceeded | hreview
  · exact .inl hopen
  · rcases hevolves.terminal (by simp [hsucceeded, isTerminalRefundStatus]) with hsame | hreview
    · exact .inr (.inl (hsame.trans hsucceeded))
    · exact .inr (.inr hreview)
  · exact .inr (.inr (hevolves.review hreview))

/-- A settled refund resolves the event, unless the event is older than its failure. -/
theorem Resolved.of_settledBy {w : PaymentWebhookEvent} {r r' : Refund}
    (hlifecycle : r.lifecycleCheck = true)
    (hfresh : isStaleProviderEvent r.failedAt w.providerOccurredAt = false)
    (h : Refund.SettledBy w.providerOccurredAt r r') : Resolved w r' := by
  rcases h with hsucceeded | hreview | ⟨rfl, hstale⟩
  · exact .inr (.inl hsucceeded)
  · exact .inr (.inr hreview)
  · cases hsucceededAt : r'.succeededAt with
    | none =>
        rw [hsucceededAt, Option.none_or, hfresh] at hstale
        cases hstale
    | some succeededAt =>
        unfold Resolved
        cases hstatus : r'.status <;> simp_all [Refund.lifecycleCheck]

namespace RefundSystem

variable {sys sys' : RefundSystem}

/-- Runs of requests, submissions and events. -/
def withoutReconciliation (_ : RefundSystem) : RefundAction → Bool
  | .selectAmbiguous _ _ | .inspect _ _ | .adopt _ _ => false
  | _ => true

/-- `w` reports the success of the external refund created under the refund's own
key, with its amount and currency. -/
def SuccessOf (sys : RefundSystem) (w : PaymentWebhookEvent) (r : Refund) : Prop :=
  w.normalizedRefundStatus = some .SUCCEEDED ∧ w.amountMinor = r.requestedAmountMinor ∧
    w.currency = r.currency ∧
    ∃ e ∈ sys.external, w.providerRefundId = some e.providerRefundId ∧
      e.idempotencyKey = r.providerIdempotencyKey

instance (sys : RefundSystem) (w : PaymentWebhookEvent) (r : Refund) :
    Decidable (sys.SuccessOf w r) :=
  inferInstanceAs (Decidable (_ ∧ _))

/-- A success event is processed in time: its external identity is recorded at a
refund by then, and no refund that it is recorded at failed after the event occurred. -/
def HeardInTime (sys : RefundSystem) : RefundAction → Prop
  | .processWebhook wid _ => ∀ w ∈ sys.db.webhooks.lookup wid, w.processingStatus.isFinal = false →
      w.normalizedRefundStatus = some .SUCCEEDED → ∀ ref ∈ w.providerRefundId,
        let named := sys.db.refunds.select fun _ r => r.providerRefundId == some ref
        named ≠ [] ∧ ∀ e ∈ named, isStaleProviderEvent e.2.failedAt w.providerOccurredAt = false
  | _ => True

instance (sys : RefundSystem) : (a : RefundAction) → Decidable (sys.HeardInTime a)
  | .processWebhook wid _ =>
      inferInstanceAs (Decidable (∀ w ∈ sys.db.webhooks.lookup wid,
        w.processingStatus.isFinal = false → w.normalizedRefundStatus = some .SUCCEEDED →
          ∀ ref ∈ w.providerRefundId, _ ∧ ∀ e ∈ sys.db.refunds.select _, _))
  | .requestRefund .. | .claim .. | .createRefund .. | .completeAttempt .. | .finish ..
  | .selectAmbiguous .. | .inspect .. | .adopt .. | .storeWebhook .. => instDecidableTrue

/-- What the steps keep about closed success events. -/
structure Events (sys : RefundSystem) : Prop where
  resolved : ∀ wid w id r, sys.db.webhooks.lookup wid = some w →
    sys.db.refunds.lookup id = some r → sys.SuccessOf w r → Resolved w r
  known : ∀ wid w ref, sys.db.webhooks.lookup wid = some w →
    w.normalizedRefundStatus = some .SUCCEEDED → w.providerRefundId = some ref →
    w.processingStatus.isFinal = true → ref ∈ sys.external.map (·.providerRefundId)

/-- A record that was there before the step, unchanged, stays resolved. -/
theorem Events.resolved_of_unchanged {a : RefundAction} (hs : sys.Events)
    (hgrounded : sys.Grounded) (h : sys.step a = some sys') {wid : WebhookId}
    {w : PaymentWebhookEvent} {id : RefundId} {r' : Refund}
    (hw : sys.db.webhooks.lookup wid = some w) (hr' : sys'.db.refunds.lookup id = some r')
    (hsuccess : sys'.SuccessOf w r') : Resolved w r' := by
  obtain ⟨hstatus, hamount, hcurrency, e, he, href, hkey⟩ := hsuccess
  by_cases hold : e ∈ sys.external
  · obtain ⟨id₀, r₀, hr₀, hkey₀⟩ := hgrounded.owned e hold
    obtain ⟨r₁, hr₁, hevolves⟩ := refund_evolves (db_steps h) hr₀
    have hid := (hgrounded.step h).rows.keys id r' id₀ r₁ hr' hr₁
      (by rw [hevolves.key, hkey₀, hkey])
    subst hid
    cases Option.some.inj (hr'.symm.trans hr₁)
    obtain ⟨-, -, -, -, -, -, -, hamount₀, hcurrency₀, -⟩ := hevolves.identity
    exact (hs.resolved wid w id r₀ hw hr₀ ⟨hstatus, hamount.trans hamount₀,
      hcurrency.trans hcurrency₀, e, hold, href, hkey₀.symm⟩).evolves hevolves
  · by_cases hfinal : w.processingStatus.isFinal = true
    · obtain ⟨e₁, he₁, hsame⟩ := List.mem_map.mp (hs.known wid w _ hw hstatus href hfinal)
      have heq := List.inj_on_of_nodup_map (hgrounded.step h).externalIds (external_mono h he₁) he
        hsame
      exact absurd (heq ▸ he₁) hold
    · exact .inl (by simpa using hfinal)

theorem Events.known_of_unchanged {a : RefundAction} (hs : sys.Events)
    (h : sys.step a = some sys') {wid : WebhookId} {w : PaymentWebhookEvent} {ref : ProviderRef}
    (hw : sys.db.webhooks.lookup wid = some w)
    (hstatus : w.normalizedRefundStatus = some .SUCCEEDED)
    (href : w.providerRefundId = some ref) (hfinal : w.processingStatus.isFinal = true) :
    ref ∈ sys'.external.map (·.providerRefundId) := by
  obtain ⟨e, he, rfl⟩ := List.mem_map.mp (hs.known wid w ref hw hstatus href hfinal)
  exact List.mem_map.mpr ⟨e, external_mono h he, rfl⟩

/-- What processing the record of a success in time leaves of it. -/
theorem processed_cases (hgrounded : sys.Grounded) (hown : sys.OwnAttached)
    {wid : WebhookId} {now : Time} (hheard : sys.HeardInTime (.processWebhook wid now))
    (h : sys.step (.processWebhook wid now) = some sys')
    {w' : PaymentWebhookEvent} (hw' : sys'.db.webhooks.lookup wid = some w')
    (hsuccess : w'.normalizedRefundStatus = some .SUCCEEDED) :
    sys.db.webhooks.lookup wid = some w' ∨
    (∃ ref, w'.providerRefundId = some ref ∧ ref ∈ sys'.external.map (·.providerRefundId)) ∧
      ∀ id r', sys'.db.refunds.lookup id = some r' → sys'.SuccessOf w' r' → Resolved w' r' := by
  have hsteps := db_steps h
  have hgrounded' := hgrounded.step h
  cases h
  simp only [Program.commit] at hw' hsteps hgrounded' ⊢
  cases hrun : (processVerifiedRefundRecord wid now).run sys.db with
  | error e =>
      simp only [hrun] at hw'
      exact .inl hw'
  | ok result =>
      obtain ⟨outcome, db⟩ := result
      simp only [hrun] at hw' hsteps hgrounded' ⊢
      obtain ⟨w, w₁, hw, hw₁, hsame | ⟨hopen, ref, href, hfound⟩⟩ :=
        ensures_processedRecord _ _ hrun
      · cases Option.some.inj (hw'.symm.trans hw₁)
        exact .inl (hsame ▸ hw)
      · cases Option.some.inj (hw'.symm.trans hw₁)
        obtain ⟨w₂, hw₂, henvelope⟩ := webhook_envelope hsteps hw
        cases Option.some.inj (hw₁.symm.trans hw₂)
        obtain ⟨-, -, -, -, -, -, hstatus, -, hwref, -, hamount, hcurrency, -, -, hoccurred⟩ :=
          henvelope
        obtain ⟨hrecorded, hfresh⟩ := hheard w hw hopen (hstatus.symm.trans hsuccess) ref href
        rcases hfound with hunattached | ⟨id₀, r₀, hr₀, hattached, hsettled⟩
        · obtain ⟨⟨id₁, r₁⟩, hmem⟩ := List.exists_mem_of_ne_nil _ hrecorded
          obtain ⟨hr₁, hattached₁⟩ := Table.mem_select.mp hmem
          exact absurd (by simpa using hattached₁) (hunattached id₁ r₁ hr₁)
        have hfresh₀ := hfresh (id₀, r₀) (Table.mem_select.mpr ⟨hr₀, by simp [hattached]⟩)
        obtain ⟨e₀, he₀, hid₀, hkey₀⟩ := hown.attached id₀ r₀ ref hr₀ hattached
        refine .inr ⟨⟨ref, hwref.trans href, List.mem_map.mpr ⟨e₀, he₀, hid₀⟩⟩, ?_⟩
        rintro id r' hr' ⟨-, hramount, hrcurrency, e, he, heref, hkey⟩
        -- the attached refund is the one whose key the external refund has
        have he₀e : e₀ = e := by
          refine List.inj_on_of_nodup_map hgrounded.externalIds he₀ he ?_
          exact hid₀.trans (Option.some.inj ((hwref.trans href).symm.trans heref))
        subst he₀e
        obtain ⟨r₁, hr₁, hevolves⟩ := refund_evolves hsteps hr₀
        have hid := hgrounded'.rows.keys id r' id₀ r₁ hr' hr₁
          (by rw [hevolves.key, ← hkey₀, hkey])
        subst hid
        cases Option.some.inj (hr'.symm.trans hr₁)
        obtain ⟨-, -, -, -, -, -, -, hamount₀, hcurrency₀, -⟩ := hevolves.identity
        obtain ⟨r₂, hr₂, hsettledBy⟩ := hsettled (hstatus.symm.trans hsuccess)
          (by rw [← hamount, hramount, hamount₀]) (by rw [← hcurrency, hrcurrency, hcurrency₀])
        cases Option.some.inj (hr'.symm.trans hr₂)
        exact Resolved.of_settledBy (hgrounded.rows.lifecycle id r₀ hr₀) (hoccurred ▸ hfresh₀)
          (hoccurred ▸ hsettledBy)

theorem Events.step {a : RefundAction} (hs : sys.Events) (hgrounded : sys.Grounded)
    (hown : sys.OwnAttached) (hheard : sys.HeardInTime a) (h : sys.step a = some sys') :
    sys'.Events where
  resolved := by
    intro wid w' id r' hw' hr' hsuccess
    by_cases hprocessed : a.processes wid
    · cases a with
      | processWebhook webhookId now =>
          cases hprocessed
          rcases processed_cases hgrounded hown hheard h hw' hsuccess.1 with hw | ⟨-, hresolved⟩
          · exact hs.resolved_of_unchanged hgrounded h hw hr' hsuccess
          · exact hresolved id r' hr' hsuccess
      | _ => exact hprocessed.elim
    · rcases webhook_unprocessed (db_steps h) hw' hprocessed with hw | hreceived
      · exact hs.resolved_of_unchanged hgrounded h hw hr' hsuccess
      · exact .inl (by rw [hreceived]; rfl)
  known := by
    intro wid w' ref hw' hstatus href hfinal
    by_cases hprocessed : a.processes wid
    · cases a with
      | processWebhook webhookId now =>
          cases hprocessed
          rcases processed_cases hgrounded hown hheard h hw' hstatus with
            hw | ⟨⟨ref', href', hmem⟩, -⟩
          · exact hs.known_of_unchanged h hw hstatus href hfinal
          · cases href.symm.trans href'
            exact hmem
      | _ => exact hprocessed.elim
    · rcases webhook_unprocessed (db_steps h) hw' hprocessed with hw | hreceived
      · exact hs.known_of_unchanged h hw hstatus href hfinal
      · rw [hreceived] at hfinal
        cases hfinal

/-- **No success is lost that is heard in time.** In every interleaving of submissions
and events in which each success event is processed after its external identity was
recorded, and did not occur before a failure of the refund, a success event of the right
amount for the refund's own external refund is still open for a replay, or its refund
succeeded or is under review. -/
theorem success_kept (hstart : sys.Start)
    (hevents : ∀ wid w, sys.db.webhooks.lookup wid = some w → w.normalizedRefundStatus = none)
    (hreach : Reaches RefundSystem.step
      (fun s a => s.withoutReconciliation a = true ∧ s.HeardInTime a) sys sys') :
    ∀ wid w id r, sys'.db.webhooks.lookup wid = some w → sys'.db.refunds.lookup id = some r →
      sys'.SuccessOf w r →
      w.processingStatus = .RECEIVED ∨ w.processingStatus = .FAILED ∨
      r.status = .SUCCEEDED ∨ r.status = .REQUIRES_REVIEW := by
  have hstart' : sys.Events :=
    { resolved := fun wid w id r _ hr => by simp [hstart.refunds id] at hr
      known := fun wid w ref hw hstatus => by simp [hevents wid w hw] at hstatus }
  have hinv : sys'.Grounded ∧ sys'.OwnAttached ∧ sys'.Events := by
    have htriple := hreach.invariant (I := fun s => s.Grounded ∧ s.OwnAttached ∧ s.Events)
      ⟨hstart.grounded, hstart.ownAttached, hstart'⟩
    refine htriple fun s a t hok hstep hs => ?_
    have hown : s.OwnListedFirst a := by
      cases a with
      | inspect refundId listed => cases hok.1
      | _ => trivial
    exact ⟨hs.1.step hstep, hs.2.1.step hs.1 hown hstep, hs.2.2.step hs.1 hs.2.1 hok.2 hstep⟩
  intro wid w id r hw hr hsuccess
  rcases hinv.2.2.resolved wid w id r hw hr hsuccess with hopen | hrest
  · cases hstatus : w.processingStatus with
    | RECEIVED => exact .inl rfl
    | FAILED => exact .inr (.inl rfl)
    | PROCESSED => simp [hstatus, PaymentWebhookProcessingStatus.isFinal] at hopen
    | REQUIRES_REVIEW => simp [hstatus, PaymentWebhookProcessingStatus.isFinal] at hopen
  · exact .inr (.inr hrest)

/-- The provider's success event of the first seat's refund. -/
def firstSeatSucceeded : NormalizedRefundWebhookEvent :=
  { providerEventId := 81, providerIntentId := 7, providerRefundId := 71, status := .SUCCEEDED,
    amountMinor := 600, currency := .USD, occurredAt := some 215 }

theorem success_kept_afterRecording :
    ∃ sys, execute (guarded RefundSystem.step fun s a =>
          decide (s.withoutReconciliation a = true ∧ s.HeardInTime a))
        (requestAndSubmit { userId := 1, role := .CUSTOMER } 1 1 1 (.accepts 71 none) ++
          [.storeWebhook .STRIPE firstSeatSucceeded 91 220, .processWebhook 91 230])
        capturedStart = some sys ∧
      ∃ w r, sys.db.webhooks.lookup 91 = some w ∧ sys.db.refunds.lookup 1 = some r ∧
        sys.SuccessOf w r ∧ w.processingStatus = .PROCESSED ∧
        (w.processingStatus = .RECEIVED ∨ w.processingStatus = .FAILED ∨
          r.status = .SUCCEEDED ∨ r.status = .REQUIRES_REVIEW) := by
  have hrun : (execute (guarded RefundSystem.step fun s a =>
        decide (s.withoutReconciliation a = true ∧ s.HeardInTime a))
      (requestAndSubmit { userId := 1, role := .CUSTOMER } 1 1 1 (.accepts 71 none) ++
        [.storeWebhook .STRIPE firstSeatSucceeded 91 220, .processWebhook 91 230])
      capturedStart).any (fun sys => (sys.db.webhooks.lookup 91).any fun w =>
        (sys.db.refunds.lookup 1).any fun r =>
          decide (sys.SuccessOf w r ∧ w.processingStatus = .PROCESSED)) = true := by
    decide +kernel
  obtain ⟨sys, hsys, hcheck⟩ := (Option.any_eq_true _ _).mp hrun
  obtain ⟨w, hw, hcheck⟩ := (Option.any_eq_true _ _).mp hcheck
  obtain ⟨r, hr, hends⟩ := (Option.any_eq_true _ _).mp hcheck
  obtain ⟨hsuccess, hprocessed⟩ := of_decide_eq_true hends
  have hreach := (reaches_of_guarded hsys).mono fun _ _ hok => of_decide_eq_true hok
  exact ⟨sys, hsys, w, r, hw, hr, hsuccess, hprocessed, success_kept capturedStart_start
    (fun wid w hw => by simp [capturedStart, capturedPayment, paidBooking] at hw)
    hreach 91 w 1 r hw hr hsuccess⟩

/-- A run in which every submission has finished ends with a success event of
refund 1 in this status, and the refund in that. -/
def EndsWith (refund : RefundStatus) (event : PaymentWebhookProcessingStatus) : Prop :=
  ∃ sys, Reaches RefundSystem.step (fun s a => s.withoutReconciliation a = true) capturedStart sys ∧
    (∀ sid, sys.submissions.lookup sid = none) ∧
    ∃ w r, sys.db.webhooks.lookup 91 = some w ∧ sys.db.refunds.lookup 1 = some r ∧
      sys.SuccessOf w r ∧ r.status = refund ∧ w.processingStatus = event

theorem endsWith_of_execute {refund : RefundStatus} {event : PaymentWebhookProcessingStatus}
    {l : List RefundAction}
    (hrun : (execute (guarded RefundSystem.step withoutReconciliation) l capturedStart).any
      (fun sys => decide (sys.submissions.keys = []) &&
        (sys.db.webhooks.lookup 91).any fun w => (sys.db.refunds.lookup 1).any fun r =>
          decide (sys.SuccessOf w r ∧ r.status = refund ∧ w.processingStatus = event)) = true) :
    EndsWith refund event := by
  obtain ⟨sys, hsys, hcheck⟩ := (Option.any_eq_true _ _).mp hrun
  rw [Bool.and_eq_true] at hcheck
  obtain ⟨w, hw, hrefund⟩ := (Option.any_eq_true _ _).mp hcheck.2
  obtain ⟨r, hr, hends⟩ := (Option.any_eq_true _ _).mp hrefund
  refine ⟨sys, reaches_of_guarded hsys, fun sid => ?_, w, r, hw, hr, of_decide_eq_true hends⟩
  rw [AList.lookup_eq_none, AList.mem_keys, of_decide_eq_true hcheck.1]
  exact List.not_mem_nil

/-- **Success events that change nothing.** One is processed between the
provider's acceptance and the recording transaction and finds nobody; another
follows a failure event that was processed after it had occurred. -/
theorem success_lost :
    EndsWith .PROCESSING .REQUIRES_REVIEW ∧ EndsWith .FAILED .PROCESSED := by
  constructor
  · refine endsWith_of_execute (l :=
      [.requestRefund { userId := 1, role := .CUSTOMER }
          { bookingReference := 1, scope := .SELECTED_SEATS, bookingSeatIds := [1]
            reasonCode := .CUSTOMER_REQUEST, idempotencyKey := 1 }
          { refundId := 1, publicReference := 1 } 200,
        .claim 1 .STRIPE 1 210, .createRefund 1 (.accepts 71 none),
        .storeWebhook .STRIPE firstSeatSucceeded 91 220, .processWebhook 91 230,
        .completeAttempt 1, .finish 1]) ?_
    decide +kernel
  · refine endsWith_of_execute (l :=
      requestAndSubmit { userId := 1, role := .CUSTOMER } 1 1 1 (.accepts 71 none) ++
        [.storeWebhook .STRIPE { firstSeatSucceeded with providerEventId := 82, status := .FAILED }
            92 220,
          .processWebhook 92 225, .storeWebhook .STRIPE firstSeatSucceeded 91 226,
          .processWebhook 91 230]) ?_
    decide +kernel

end RefundSystem

end SeatFlow
