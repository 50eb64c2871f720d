import SeatFlow.Commerce.Fulfilment
import SeatFlow.Disputes.LostDisputes
import SeatFlow.Ledger.DivergenceProbe
import SeatFlow.Platform.Reachability

/-!
# The settled balance of healthy payments

Nothing appends the entry of a captured payment. While no dispute is lost, all that
settles is what refunds returned, so the settled balance of a payment is minus its
refunded amount, in every state that the platform reaches.
-/

namespace SeatFlow

open Relational Program Entity

variable {s s' : Db} {wid : WebhookId}

/-! ## §1 Settling entries -/

/-- The entries that record money moving. -/
def Db.settlingEntries (db : Db) (key : LedgerKey) : Option FinancialLedgerEntry :=
  if isSettlingEntryType key.entryType then db.ledger.lookup key else none

/-- All that settles is refunds. -/
def Db.SettledByRefunds (db : Db) : Prop :=
  ∀ key entry, db.settlingEntries key = some entry →
    key.entryType = .REFUND_SUCCEEDED ∧ entry.direction = .DEBIT

theorem Db.settlingEntries_congr (h : s'.ledger = s.ledger) :
    s'.settlingEntries = s.settlingEntries := by
  funext key
  rw [Db.settlingEntries, h, Db.settlingEntries]

theorem successEntry_of_settling (h : s'.settlingEntries = s.settlingEntries) :
    s'.successEntry = s.successEntry :=
  funext fun cause => congrFun h ⟨.REFUND_SUCCEEDED, cause⟩

theorem settlingEntries_frame : RefundFrame Db.settlingEntries where
  refunds := fun _ _ _ _ _ => rfl
  submissions := fun _ _ => rfl
  outbox := fun _ _ => rfl
  totals := fun _ _ => rfl
  queue := fun _ _ => rfl
  ledger := fun s key row hkey => congrArg Prod.snd (settledRecords_frame.ledger s key row hkey)

/-- **The settled balance** of a payment is minus what its refunds returned. -/
theorem Db.SettledByRefunds.balance (hs : s.SettledByRefunds) (p : AttemptId) :
    calculateSettledBalanceMinor (s.ledgerForPayment p) = -s.succeededMinor p := by
  have hentry : ∀ key entry, s.ledger.lookup key = some entry →
      (if entry.paymentAttemptId = p then settledMinor key entry else 0) +
        (if key.entryType = .REFUND_SUCCEEDED ∧ entry.paymentAttemptId = p then entry.amountMinor
          else 0) = 0 := by
    intro key entry hlook
    by_cases hp : entry.paymentAttemptId = p
    · by_cases hsettling : isSettlingEntryType key.entryType = true
      · obtain ⟨htype, hdebit⟩ := hs key entry (by rw [Db.settlingEntries, if_pos hsettling, hlook])
        simp [hp, htype, settledMinor, isSettlingEntryType, hdebit]
      · have htype : key.entryType ≠ .REFUND_SUCCEEDED := by
          intro htype
          rw [htype] at hsettling
          exact hsettling rfl
        simp [htype, settledMinor, hsettling]
    · simp [hp]
  rw [calculateSettledBalanceMinor_ledgerForPayment, Db.succeededMinor, eq_neg_iff_add_eq_zero,
    ← Table.sum_add]
  exact Table.sum_eq_zero_of_rows hentry

/-! ## §2 Disputes -/

/-- The settling entries of the books. -/
def DisputeBooks.settling (books : DisputeBooks) (key : LedgerKey) : Option FinancialLedgerEntry :=
  if isSettlingEntryType key.entryType then books.ledger.lookup key else none

/-- An entry of money that does not move settles nothing. -/
theorem DisputeBooks.settling_append {books : DisputeBooks} {input : AppendLedgerEntryInput}
    (htype : isSettlingEntryType input.entryType = false) :
    (books.append input).settling = books.settling := by
  unfold DisputeBooks.append
  split
  · rfl
  · funext key
    unfold DisputeBooks.settling
    split
    · rename_i hsettling
      refine AList.lookup_insert_ne ?_
      rintro rfl
      cases hsettling.symm.trans htype
    · rfl

/-- **Only a loss settles.** -/
theorem DisputeConsequenceInput.settling_books {input : DisputeConsequenceInput}
    {books : DisputeBooks} (hstatus : input.status ≠ .LOST) :
    (input.books books).settling = books.settling := by
  have hoverlap :
      ∀ books : DisputeBooks, (input.recordOverlap books).settling = books.settling := by
    intro books
    unfold DisputeConsequenceInput.recordOverlap
    split <;> rfl
  rw [DisputeConsequenceInput.books, DisputeConsequenceInput.recordLoss, if_neg hstatus, hoverlap]
  unfold DisputeConsequenceInput.recordStatus
  split
  · rename_i entryType htype
    exact DisputeBooks.settling_append (nonsettling_of_ledgerTypeByStatus htype hstatus)
  · rfl

/-- A dispute that is opened, or advanced, by an event that loses none is not lost. -/
theorem Db.Hears.not_lost {w : PaymentWebhookEvent} {ref : ProviderRef}
    {incoming : DisputeStatus} {p : AttemptId} {a : PaymentAttempt}
    (h : s.Hears wid w ref incoming p a) (hkept : s.losesDispute wid = false)
    (hopen : ∀ id d, s.disputeNamed a.provider ref = some (id, d) →
      ∃ outcome, decideDisputeTransition d.status incoming = .apply incoming outcome) :
    incoming ≠ .LOST := by
  rintro rfl
  rw [h.losesDispute] at hkept
  cases hnamed : s.disputeNamed a.provider ref with
  | none => simp [hnamed] at hkept
  | some found =>
      obtain ⟨id, d⟩ := found
      obtain ⟨outcome, hdecision⟩ := hopen id d hnamed
      have houtcome : outcome = some .LOST := by
        unfold decideDisputeTransition at hdecision
        split_ifs at hdecision
        cases hdecision
        rfl
      simp [hnamed, hdecision, houtcome] at hkept

/-- **A dispute event that loses no dispute** settles nothing. -/
theorem DisputeEffect.settling {fresh : FreshDispute} {now : Time}
    (h : DisputeEffect s s' wid fresh now) (hkept : s.losesDispute wid = false) :
    s'.settlingEntries = s.settlingEntries := by
  have hsame : s'.books.settling = s.books.settling → s'.settlingEntries = s.settlingEntries :=
    fun h => h
  apply hsame
  cases h with
  | quiet books => rw [books]
  | opened w ref incoming p a bookingId heard closed unnamed booking absent books =>
      rw [books, DisputeConsequenceInput.settling_books]
      · rfl
      · refine heard.not_lost hkept fun id d hnamed => ?_
        rw [unnamed] at hnamed
        cases hnamed
  | escalated w ref incoming p a id d code heard closed named decision books =>
      rw [books]
      rfl
  | advanced w ref incoming p a id d outcome heard closed named decision books =>
      rw [books, DisputeConsequenceInput.settling_books]
      · rfl
      · refine heard.not_lost hkept fun id' d' hnamed => ⟨outcome, ?_⟩
        cases Option.some.inj (hnamed.symm.trans named)
        exact decision

/-! ## §3 Refunds -/

theorem settled_of_entries (h : Framing Db.settlingEntries s s') :
    Keeping Db.SettledByRefunds s s' := by
  intro hs
  rw [Db.SettledByRefunds, show s'.settlingEntries = s.settlingEntries from h]
  exact hs

/-- The entry of a refund that succeeded is the one that settles. -/
theorem settled_credit : Crediting (Keeping Db.SettledByRefunds) := by
  intro input htype _
  refine steps_require.bind fun _ => steps_insertNew fun s _ _ hs key entry hentry => ?_
  by_cases hkey : key = ⟨input.entryType, input.causeKey⟩
  · subst hkey
    refine ⟨htype, ?_⟩
    rw [Db.settlingEntries, if_pos (by rw [htype]; rfl)] at hentry
    cases (AList.lookup_insert _).symm.trans hentry
    show directionForEntryType input.entryType = .DEBIT
    rw [htype]
    rfl
  · refine hs key entry ?_
    rw [Db.settlingEntries] at hentry ⊢
    split at hentry
    · rename_i hsettling
      rw [if_pos hsettling]
      exact (AList.lookup_insert_ne hkey).symm.trans hentry
    · cases hentry

theorem settled_refunds : RefundTransactionWrites (Keeping Db.SettledByRefunds) where
  toSettlementWrites :=
    { toRefundWrites := settlingEntries_frame.writes.mono fun _ _ => settled_of_entries
      credit := settled_credit
      revoke := revoking_of_free (fun _ _ => settled_of_entries rfl)
        fun _ _ => settled_of_entries rfl
      booking := fun _ _ _ _ => steps_update fun _ _ _ _ => settled_of_entries rfl }
  inserted := fun id row _ =>
    (framed_insertRefund settlingEntries_frame.1 (fun _ _ => rfl) id row).mono
      fun _ _ => settled_of_entries
  flagged := fun _ _ => steps_update fun _ _ _ _ => settled_of_entries rfl
  record := fun _ _ _ _ => steps_update fun _ _ _ _ => settled_of_entries rfl

theorem settled_commits : PlatformCommits (Keeping Db.SettledByRefunds)
    (Keeping Db.SettledByRefunds) where
  commit := committing_of_queue fun _ => settled_of_entries rfl
  stored := fun _ _ _ _ _ _ _ _ => settled_of_entries rfl
  retried := fun _ => steps_updateMany fun _ _ => settled_of_entries rfl
  completed := fun _ _ _ => steps_updateWhen fun _ _ _ _ _ => settled_of_entries rfl
  recorded := fun _ _ _ _ => settled_of_entries rfl
  reissued := fun _ _ _ _ => settled_of_entries rfl

/-- A record that is closed stays closed. -/
theorem DbStep.closed (h : DbStep s s') (hclosed : s.Closed wid) : s'.Closed wid := by
  obtain ⟨w, hw, hfinal⟩ := hclosed
  have hkept : ∀ {id : WebhookId} {old new : PaymentWebhookEvent},
      PaymentWebhookEvent.validate s id (some old) new = .ok () →
      old.processingStatus.isFinal = true → new.processingStatus.isFinal = true := by
    intro id old new hvalid hold
    have hkeep := paymentWebhookEventConstraints.keep_of_validate hvalid
    simp only [paymentWebhookEventConstraints, PaymentWebhookEvent.protectEnvelope,
      Except.bind_unit_eq_ok, check_eq_ok] at hkeep
    rw [hkeep.2.2.2 hold]
    exact hold
  cases h with
  | other _ _ _ _ _ _ hwebhooks => exact ⟨w, hwebhooks ▸ hw, hfinal⟩
  | webhook id new _ hvalid =>
      by_cases hid : wid = id
      · subst hid
        rw [hw] at hvalid
        exact ⟨new, AList.lookup_insert _, hkept hvalid hfinal⟩
      · exact ⟨w, (AList.lookup_insert_ne hid).trans hw, hfinal⟩
  | webhooks p f hvalid =>
      refine ⟨_, (Table.mapped_updates p f s.webhooks).lookup hw, ?_⟩
      split
      · exact hkept (hvalid wid w hw ‹_›) hfinal
      · exact hfinal
  | _ => exact ⟨w, hw, hfinal⟩

/-! ## §4 The platform -/

namespace Platform

variable {sys₀ sys sys' : FinancialSystem}

/-- The condition on a step: a dispute event that is processed loses no dispute. -/
def Undefeated (sys : FinancialSystem) : PlatformAction → Prop
  | .financial a => sys.Undefeated a
  | _ => True

instance (sys : FinancialSystem) : (a : PlatformAction) → Decidable (Undefeated sys a)
  | .financial a => inferInstanceAs (Decidable (sys.Undefeated a))
  | .commerce _ | .ticket _ => instDecidableTrue

theorem Undefeated.normalized {a : PlatformAction} (h : Undefeated sys a) :
    NormalizedEvents sys a := by
  cases a with
  | financial a => exact FinancialSystem.Undefeated.normalized h
  | _ => trivial

theorem closed_step {a : PlatformAction} (h : Platform.step sys a = some sys')
    (hclosed : sys.db.Closed wid) : sys'.db.Closed wid := by
  have hwrites := step_writes h
  generalize sys'.db = db' at hwrites
  induction hwrites with
  | refl => exact hclosed
  | tail _ hlast ih => exact hlast.1.closed ih

/-- Outside refunds, no action that loses no dispute settles anything. -/
theorem settling_step {a : PlatformAction} (hok : Undefeated sys a)
    (h : Platform.step sys a = some sys') (hother : ∀ r, a ≠ .financial (.refund r)) :
    sys'.db.settlingEntries = sys.db.settlingEntries ∧ sys'.db.refunds = sys.db.refunds := by
  cases a with
  | commerce t =>
      cases h
      have houtside := t.outside sys.db
      simp only [Db.outsideCommerce, Prod.mk.injEq] at houtside
      obtain ⟨-, -, -, hrefunds, -, -, -, hledger, -⟩ := houtside
      exact ⟨Db.settlingEntries_congr hledger, hrefunds⟩
  | ticket t =>
      cases h
      have houtside := t.outside sys.db
      simp only [Db.outsideTickets, Prod.mk.injEq] at houtside
      obtain ⟨-, -, -, -, -, -, hrefunds, -, -, -, hledger, -⟩ := houtside
      exact ⟨Db.settlingEntries_congr hledger, hrefunds⟩
  | financial a =>
      cases a with
      | refund r => exact absurd rfl (hother r)
      | storeDispute provider event fresh now =>
          cases h
          refine ⟨?_, (ensures_storedDispute_aside.commit (Db.refundsAside_refl _)).refunds⟩
          exact Ensures.commit
            (Q := fun s' : Db => s'.settlingEntries = sys.refunds.db.settlingEntries)
            ((framed_storeVerifiedDisputeWebhook (fun _ _ => rfl) _ _ _ _).framed _) rfl
      | processDispute wid fresh now =>
          cases h
          refine ⟨?_, (ensures_processedDispute_aside.commit (Db.refundsAside_refl _)).refunds⟩
          show ((processVerifiedDisputeRecord wid fresh now).commit sys.db).settlingEntries = _
          cases hrun : (processVerifiedDisputeRecord wid fresh now).run sys.db with
          | error e => simp [Program.commit, hrun]
          | ok result =>
              rw [commit_of_run hrun]
              refine (ensures_processedDispute_effect _ _ hrun).settling (hok ?_)
              rw [show sys.refunds.db = sys.db from rfl, hrun]
              rfl

/-- What a run without a lost dispute keeps. -/
structure Healthy (sys : FinancialSystem) : Prop where
  reachable : Reachable sys
  mirrored : Mirrored sys.db
  settled : sys.db.SettledByRefunds

/-- **One step** that loses no dispute. -/
theorem Healthy.step {a : PlatformAction} (hs : Healthy sys) (hok : Undefeated sys a)
    (h : Platform.step sys a = some sys') : Healthy sys' := by
  have hreachable := hs.reachable.step hok.normalized h
  by_cases hrefund : ∃ r, a = .financial (.refund r)
  · obtain ⟨r, rfl⟩ := hrefund
    obtain ⟨refunds, hstep, rfl⟩ := FinancialSystem.step_refund h
    refine ⟨hreachable, ?_, ?_⟩
    · exact hs.mirrored.step (fun id r hr => refund_evolves (RefundSystem.db_steps hstep) hr)
        (fun wid => closed_step h)
        (RefundSystem.success_cases hs.reachable.refunds hs.mirrored hstep)
    · exact Keeping.steps (RefundSystem.db_whole settled_refunds settled_commits hstep) hs.settled
  · obtain ⟨hentries, hrefunds⟩ := settling_step hok h fun r heq => hrefund ⟨r, heq⟩
    refine ⟨hreachable, ?_, settled_of_entries hentries hs.settled⟩
    refine hs.mirrored.quiet (fun id r hr => ⟨r, hrefunds ▸ hr, .refl r⟩) (fun wid => closed_step h)
      ?_ (successEntry_of_settling hentries)
    funext id
    rw [Db.settledAt, hrefunds, Db.settledAt]

theorem healthy_of_fresh (hfresh : sys.refunds.Fresh)
    (hquiet : ∀ id, sys.db.webhooks.lookup id = none)
    (hledger : ∀ key, sys.db.ledger.lookup key = none) : Healthy sys where
  reachable := reachable_of_fresh hfresh hquiet
  mirrored := hfresh.mirrored fun key entry hentry => (by cases (hledger key).symm.trans hentry)
  settled := by
    intro key entry hentry
    rw [Db.settlingEntries] at hentry
    split at hentry
    · cases (hledger key).symm.trans hentry
    · cases hentry

/-- The settled balance is minus what was refunded. -/
theorem Healthy.balance (hs : Healthy sys) {p : AttemptId} {a : PaymentAttempt}
    (hlook : sys.db.attempts.lookup p = some a) :
    calculateSettledBalanceMinor (sys.db.ledgerForPayment p) = -a.refundedMinor := by
  rw [hs.settled.balance, hs.mirrored.total p,
    (paymentAggregate_faithful.mp (hs.reachable.refunds.kept.exact p) a hlook).1]
  rfl

/-- Whether the reconciler finds that the ledger disagrees with a payment. -/
def ledgerDisagrees (db : Db) (p : AttemptId) (a : PaymentAttempt) : Bool :=
  reconcilerReports a (db.refunds.select fun _ r => r.paymentAttemptId == p).length
    (db.disputes.select fun _ d => d.paymentAttemptId == p).length (db.ledgerForPayment p)

/-- The ledger of a payment agrees with its totals, and nothing is reported. -/
structure Agrees (db : Db) (p : AttemptId) (a : PaymentAttempt) : Prop where
  balance : calculateSettledBalanceMinor (db.ledgerForPayment p) = a.amountMinor - a.refundedMinor
  silent : ledgerDisagrees db p a = false

/-- **The alarm.** In every state of every run that loses no dispute, the ledger of a
payment agrees with its totals exactly when the payment is of no money. -/
theorem agrees_iff (hfresh : sys₀.refunds.Fresh) (hquiet : ∀ id, sys₀.db.webhooks.lookup id = none)
    (hledger : ∀ key, sys₀.db.ledger.lookup key = none)
    (hreach : Reaches Platform.step Undefeated sys₀ sys) {p : AttemptId} {a : PaymentAttempt}
    (hlook : sys.db.attempts.lookup p = some a) : Agrees sys.db p a ↔ a.amountMinor = 0 := by
  have hs : Healthy sys := hreach.invariant (healthy_of_fresh hfresh hquiet hledger)
    fun _ _ _ hok hstep hs => hs.step hok hstep
  have hbalance := hs.balance hlook
  constructor
  · intro hagrees
    have hboth := hagrees.balance.symm.trans hbalance
    linarith
  · intro hzero
    have hequal : calculateSettledBalanceMinor (sys.db.ledgerForPayment p)
        = a.amountMinor - a.refundedMinor := by
      rw [hbalance, hzero, zero_sub]
    refine ⟨hequal, ?_⟩
    simp [ledgerDisagrees, reconcilerReports, detectLedgerDivergence, hequal]

/-- A dispute of the captured payment is opened: the alarm is raised. -/
theorem agrees_iff_disputed :
    ∃ sys, Reaches Platform.step Undefeated FinancialSystem.capturedFinances sys ∧
      ∃ a, sys.db.attempts.lookup 1 = some a ∧ a.amountMinor = 1000 ∧ ¬Agrees sys.db 1 a := by
  have hrun : (execute (guarded Platform.step fun s a => decide (Undefeated s a))
      ((FinancialSystem.capturedDispute 81 91 .OPEN 203).map .financial)
      FinancialSystem.capturedFinances).any (fun sys =>
        (sys.db.attempts.lookup 1).any fun a => a.amountMinor == 1000) = true := by
    decide +kernel
  obtain ⟨sys, hsys, hcheck⟩ := (Option.any_eq_true _ _).mp hrun
  obtain ⟨a, hlook, hamount⟩ := (Option.any_eq_true _ _).mp hcheck
  rw [beq_iff_eq] at hamount
  have hreach := (reaches_of_guarded hsys).mono fun _ _ => of_decide_eq_true
  refine ⟨sys, hreach, a, hlook, hamount, fun hagrees => ?_⟩
  have hzero := (agrees_iff RefundSystem.capturedStart_fresh (fun _ => rfl) (fun _ => rfl) hreach
    hlook).mp hagrees
  cases hamount.symm.trans hzero

/-- Two seats are sold, and the payment is disputed. -/
def disputedSale : List PlatformAction :=
  (Commerce.sale.filterMap fun a => match a with
    | .transaction t => some (.commerce t)
    | _ => none) ++
  [.financial (.storeDispute .STRIPE
      { providerEventId := 81, providerIntentId := 91, providerDisputeId := 61
        status := .OPEN, amountMinor := 1000, currency := .USD, occurredAt := some 320 } 2 330),
    .financial (.processDispute 2 { disputeId := 1, publicReference := 51 } 340)]

/-- A payment of 1000 that was never refunded settles at nothing, and is reported. -/
theorem disputedSale_disagrees :
    ∃ sys, Reaches Platform.step Undefeated { refunds := { db := openSession } } sys ∧
      ∃ a, sys.db.attempts.lookup 1 = some a ∧ a.status = .SUCCEEDED ∧ a.amountMinor = 1000 ∧
        a.refundedMinor = 0 ∧ calculateSettledBalanceMinor (sys.db.ledgerForPayment 1) = 0 ∧
          ledgerDisagrees sys.db 1 a = true := by
  have hrun : (execute (guarded Platform.step fun s a => decide (Undefeated s a)) disputedSale
      { refunds := { db := openSession } }).any (fun sys =>
        (sys.db.attempts.lookup 1).any fun a =>
          a.status == .SUCCEEDED && a.amountMinor == 1000 && a.refundedMinor == 0 &&
            calculateSettledBalanceMinor (sys.db.ledgerForPayment 1) == 0 &&
            ledgerDisagrees sys.db 1 a) = true := by
    decide +kernel
  obtain ⟨sys, hsys, hcheck⟩ := (Option.any_eq_true _ _).mp hrun
  obtain ⟨a, hlook, hcheck⟩ := (Option.any_eq_true _ _).mp hcheck
  simp only [Bool.and_eq_true, beq_iff_eq] at hcheck
  obtain ⟨⟨⟨⟨hstatus, hamount⟩, hrefunded⟩, hbalance⟩, hreported⟩ := hcheck
  exact ⟨sys, (reaches_of_guarded hsys).mono fun _ _ => of_decide_eq_true, a, hlook, hstatus,
    hamount, hrefunded, hbalance, hreported⟩

end Platform

end SeatFlow
