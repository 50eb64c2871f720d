import Mathlib.Tactic.Linarith
import SeatFlow.Ledger.Entries

/-!
# The divergence probe and the reconciler

`probeFinancialDivergence` adds up a payment's entries in SQL, with a
classification of the entry types of its own; `detectFinancialDivergence` adds
them up with `calculateSettledBalanceMinor`. Both then apply
`detectLedgerDivergence`. The two classifications differ at `DISPUTE_WON`, which
the query counts as money returned to the organizer, and the query's total is an
`int`.
-/

namespace SeatFlow

/-- The entries that the row constraints of `FinancialLedgerEntry` admit. -/
def FinancialLedgerEntry.checks (entryType : LedgerEntryType) (e : FinancialLedgerEntry) : Bool :=
  decide (0 ≤ e.amountMinor) && e.directionCheck entryType && e.refundLinkCheck entryType &&
    e.disputeLinkCheck entryType

/-- The values of PostgreSQL's `integer`. -/
def IsInt4 (n : Int) : Prop := -2147483648 ≤ n ∧ n ≤ 2147483647

instance (n : Int) : Decidable (IsInt4 n) :=
  inferInstanceAs (Decidable (_ ∧ _))

/-- `::int`; `none` is the error "integer out of range". -/
def castInt4 (n : Int) : Option Int := if IsInt4 n then some n else none

/-! ## §1 The query -/

/-- The `CASE` of the query: the sign is the type's, not the direction's. -/
def probedMinor (key : LedgerKey) (entry : FinancialLedgerEntry) : Money :=
  match key.entryType with
  | .PAYMENT_CAPTURED | .DISPUTE_WON => entry.amountMinor
  | .REFUND_SUCCEEDED | .DISPUTE_LOST | .CHARGEBACK_RECORDED => -entry.amountMinor
  | _ => 0

def probedSettledMinor (entries : List (LedgerKey × FinancialLedgerEntry)) : Option Money :=
  castInt4 (entries.map fun e => probedMinor e.1 e.2).sum

/-- The query's total as the single settled credit that the shared rule is given.
The rule reads the type, the direction and the amount. -/
def settledCredit (attempt : AttemptId) (payment : PaymentAttempt) (settled : Money) :
    LedgerKey × FinancialLedgerEntry :=
  ({ entryType := .PAYMENT_CAPTURED, cause := .webhook 0 },
   { direction := .CREDIT
     amountMinor := settled
     currency := payment.currency
     orderId := payment.orderId
     paymentAttemptId := attempt
     bookingId := none
     refundId := none
     provider := payment.provider
     providerReference := none
     effectiveAt := payment.createdAt })

/-- Whether the probe counts a payment; `none` when its query fails. -/
def probeReports (attempt : AttemptId) (payment : PaymentAttempt) (activityCount : Nat)
    (entries : List (LedgerKey × FinancialLedgerEntry)) : Option Bool :=
  (probedSettledMinor entries).map fun settled =>
    let ledgerCoversPayment := decide (entries.length > 0) || decide (activityCount > 0)
    ledgerCoversPayment &&
      (detectLedgerDivergence payment.amountMinor payment.refundedMinor
        [settledCredit attempt payment settled]).diverged

/-- Whether `detectFinancialDivergence` finds `LEDGER_DISAGREES_WITH_AGGREGATE`. -/
def reconcilerReports (payment : PaymentAttempt) (refundCount disputeCount : Nat)
    (entries : List (LedgerKey × FinancialLedgerEntry)) : Bool :=
  let ledgerCoversPayment :=
    decide (entries.length > 0) || decide (refundCount > 0) || decide (disputeCount > 0)
  ledgerCoversPayment &&
    (detectLedgerDivergence payment.amountMinor payment.refundedMinor entries).diverged

/-! ## §2 The two totals -/

/-- The amounts of one entry type. -/
def typeTotal (entryType : LedgerEntryType) (entries : List (LedgerKey × FinancialLedgerEntry)) :
    Money :=
  (entries.map fun e => if e.1.entryType = entryType then e.2.amountMinor else 0).sum

theorem typeTotal_cons (entryType : LedgerEntryType) (e : LedgerKey × FinancialLedgerEntry)
    (entries : List (LedgerKey × FinancialLedgerEntry)) :
    typeTotal entryType (e :: entries)
      = (if e.1.entryType = entryType then e.2.amountMinor else 0) +
        typeTotal entryType entries := by
  simp [typeTotal]

theorem amount_nonneg_of_checks {entryType : LedgerEntryType} {e : FinancialLedgerEntry}
    (h : e.checks entryType = true) : 0 ≤ e.amountMinor := by
  simp only [FinancialLedgerEntry.checks, Bool.and_eq_true, decide_eq_true_eq] at h
  exact h.1.1.1

/-- The direction check ties the sign of a settling entry to its type. -/
theorem settledMinor_of_checks {key : LedgerKey} {e : FinancialLedgerEntry}
    (h : e.checks key.entryType = true) :
    settledMinor key e = match key.entryType with
      | .PAYMENT_CAPTURED => e.amountMinor
      | .REFUND_SUCCEEDED | .DISPUTE_LOST | .CHARGEBACK_RECORDED => -e.amountMinor
      | _ => 0 := by
  have hdirection : e.directionCheck key.entryType = true := by
    simp only [FinancialLedgerEntry.checks, Bool.and_eq_true] at h
    exact h.1.1.2
  unfold settledMinor
  cases htype : key.entryType <;> rw [htype] at hdirection <;>
    simp_all [FinancialLedgerEntry.directionCheck, isSettlingEntryType]

/-- The query counts an admitted entry as the reconciler does, and a won dispute
besides. -/
theorem probedMinor_eq {key : LedgerKey} {e : FinancialLedgerEntry}
    (h : e.checks key.entryType = true) :
    probedMinor key e
      = settledMinor key e + if key.entryType = .DISPUTE_WON then e.amountMinor else 0 := by
  rw [settledMinor_of_checks h]
  unfold probedMinor
  cases key.entryType <;> simp

/-- What was captured less what was returned. -/
def capturedLessReturned (entries : List (LedgerKey × FinancialLedgerEntry)) : Money :=
  typeTotal .PAYMENT_CAPTURED entries
    - (typeTotal .REFUND_SUCCEEDED entries + typeTotal .DISPUTE_LOST entries
        + typeTotal .CHARGEBACK_RECORDED entries)

theorem calculateSettledBalanceMinor_cons (e : LedgerKey × FinancialLedgerEntry)
    (entries : List (LedgerKey × FinancialLedgerEntry)) :
    calculateSettledBalanceMinor (e :: entries)
      = settledMinor e.1 e.2 + calculateSettledBalanceMinor entries := by
  simp only [calculateSettledBalanceMinor, foldl_settledMinor, List.map_cons, List.sum_cons]
  abel

theorem calculateSettledBalanceMinor_eq {entries : List (LedgerKey × FinancialLedgerEntry)}
    (hentries : ∀ e ∈ entries, e.2.checks e.1.entryType = true) :
    calculateSettledBalanceMinor entries = capturedLessReturned entries := by
  induction entries with
  | nil => rfl
  | cons e entries ih =>
      have htail := ih fun e' he' => hentries e' (List.mem_cons_of_mem _ he')
      have hhead := settledMinor_of_checks (hentries e List.mem_cons_self)
      rw [calculateSettledBalanceMinor_cons, htail, hhead]
      simp only [capturedLessReturned, typeTotal_cons]
      cases e.1.entryType <;> simp <;> abel

theorem sum_probedMinor_eq {entries : List (LedgerKey × FinancialLedgerEntry)}
    (hentries : ∀ e ∈ entries, e.2.checks e.1.entryType = true) :
    (entries.map fun e => probedMinor e.1 e.2).sum
      = calculateSettledBalanceMinor entries + typeTotal .DISPUTE_WON entries := by
  induction entries with
  | nil => rfl
  | cons e entries ih =>
      have htail := ih fun e' he' => hentries e' (List.mem_cons_of_mem _ he')
      have hhead := probedMinor_eq (hentries e List.mem_cons_self)
      rw [List.map_cons, List.sum_cons, htail, hhead, calculateSettledBalanceMinor_cons,
        typeTotal_cons]
      abel

theorem typeTotal_nonneg (entryType : LedgerEntryType)
    {entries : List (LedgerKey × FinancialLedgerEntry)}
    (hentries : ∀ e ∈ entries, e.2.checks e.1.entryType = true) :
    0 ≤ typeTotal entryType entries := by
  refine List.sum_nonneg fun amount hamount => ?_
  obtain ⟨e, he, rfl⟩ := List.mem_map.mp hamount
  have hnonneg := amount_nonneg_of_checks (hentries e he)
  by_cases htype : e.1.entryType = entryType
  · simpa [htype] using hnonneg
  · simp [htype]

/-- No amount is negative, so a type adds nothing only if each amount is zero. -/
theorem typeTotal_eq_zero_iff {entryType : LedgerEntryType}
    {entries : List (LedgerKey × FinancialLedgerEntry)}
    (hentries : ∀ e ∈ entries, e.2.checks e.1.entryType = true) :
    typeTotal entryType entries = 0
      ↔ ∀ e ∈ entries, e.1.entryType = entryType → e.2.amountMinor = 0 := by
  induction entries with
  | nil => simp [typeTotal]
  | cons e entries ih =>
      have hrest : ∀ e' ∈ entries, e'.2.checks e'.1.entryType = true :=
        fun e' he' => hentries e' (List.mem_cons_of_mem _ he')
      have hhead := amount_nonneg_of_checks (hentries e List.mem_cons_self)
      have htail := typeTotal_nonneg entryType hrest
      rw [typeTotal_cons, List.forall_mem_cons, ← ih hrest]
      by_cases htype : e.1.entryType = entryType
      · simp only [htype, if_true, forall_const]
        constructor
        · intro hsum
          exact ⟨by linarith, by linarith⟩
        · rintro ⟨hamount, htotal⟩
          linarith
      · simp [htype]

/-! ## §3 Where the two agree -/

theorem castInt4_eq_some {n m : Int} : castInt4 n = some m ↔ n = m ∧ IsInt4 m := by
  unfold castInt4
  by_cases h : IsInt4 n
  · rw [if_pos h, Option.some_inj]
    constructor
    · intro heq
      exact ⟨heq, heq ▸ h⟩
    · exact And.left
  · rw [if_neg h]
    constructor
    · intro heq
      cases heq
    · rintro ⟨heq, hm⟩
      exact absurd (heq ▸ hm) h

theorem calculateSettledBalanceMinor_settledCredit (attempt : AttemptId) (payment : PaymentAttempt)
    (settled : Money) :
    calculateSettledBalanceMinor [settledCredit attempt payment settled] = settled := by
  simp [calculateSettledBalanceMinor, settledMinor, settledCredit, isSettlingEntryType]

/-- With equal totals the two reports are the same question. -/
theorem probeReports_of_settled {attempt : AttemptId} {payment : PaymentAttempt}
    {refundCount disputeCount : Nat} {entries : List (LedgerKey × FinancialLedgerEntry)}
    (h : probedSettledMinor entries = some (calculateSettledBalanceMinor entries)) :
    probeReports attempt payment (refundCount + disputeCount) entries
      = some (reconcilerReports payment refundCount disputeCount entries) := by
  have hactivity : decide (refundCount + disputeCount > 0)
      = (decide (refundCount > 0) || decide (disputeCount > 0)) := by
    rw [← Bool.decide_or, decide_eq_decide]
    omega
  simp only [probeReports, h, Option.map_some, reconcilerReports, detectLedgerDivergence,
    calculateSettledBalanceMinor_settledCredit, hactivity, Bool.or_assoc]

/-- The two totals of the entries are the same, and so are the two reports for any
payment that has the entries. -/
def ProbeAgrees (entries : List (LedgerKey × FinancialLedgerEntry)) : Prop :=
  probedSettledMinor entries = some (calculateSettledBalanceMinor entries)
    ∧ ∀ (attempt : AttemptId) (payment : PaymentAttempt) (refundCount disputeCount : Nat),
        probeReports attempt payment (refundCount + disputeCount) entries
          = some (reconcilerReports payment refundCount disputeCount entries)

/-- Probe and reconciler agree exactly when no won dispute has an amount and what was
captured less what was returned is an `int`. -/
theorem probeAgrees_iff {entries : List (LedgerKey × FinancialLedgerEntry)}
    (hentries : ∀ e ∈ entries, e.2.checks e.1.entryType = true) :
    ProbeAgrees entries
      ↔ (∀ e ∈ entries, e.1.entryType = .DISPUTE_WON → e.2.amountMinor = 0)
        ∧ IsInt4 (capturedLessReturned entries) := by
  have hsettled : probedSettledMinor entries = some (calculateSettledBalanceMinor entries)
      ↔ typeTotal .DISPUTE_WON entries = 0 ∧ IsInt4 (capturedLessReturned entries) := by
    rw [probedSettledMinor, castInt4_eq_some, sum_probedMinor_eq hentries,
      calculateSettledBalanceMinor_eq hentries]
    refine and_congr_left fun _ => ?_
    constructor
    · intro h
      linarith
    · intro h
      linarith
  rw [← typeTotal_eq_zero_iff hentries, ← hsettled, ProbeAgrees]
  exact ⟨And.left, fun h => ⟨h, fun _ _ _ _ => probeReports_of_settled h⟩⟩

/-- A capture and a lost dispute: the totals agree at zero. -/
theorem probeAgrees_iff_captured_lost :
    let entry : LedgerDirection → FinancialLedgerEntry := fun direction =>
      { direction, amountMinor := 500, currency := .USD, orderId := 1, paymentAttemptId := 1
        bookingId := none, refundId := none, disputeId := some 1, provider := .STRIPE
        providerReference := none, effectiveAt := 0 }
    let entries := [(({ entryType := .PAYMENT_CAPTURED, cause := .webhook 1 } : LedgerKey),
        entry .CREDIT), ({ entryType := .DISPUTE_LOST, cause := .webhook 2 }, entry .DEBIT)]
    ProbeAgrees entries
      ↔ (∀ e ∈ entries, e.1.entryType = .DISPUTE_WON → e.2.amountMinor = 0)
        ∧ IsInt4 (capturedLessReturned entries) :=
  probeAgrees_iff (by decide)

/-- One won dispute: the query finds the organizer 500 up, the reconciler at zero. -/
theorem won_dispute_probe_disagrees :
    ¬ ∀ entries : List (LedgerKey × FinancialLedgerEntry),
        (∀ e ∈ entries, e.2.checks e.1.entryType = true) → ProbeAgrees entries := by
  intro h
  have hagrees := (h
    [({ entryType := .DISPUTE_WON, cause := .webhook 1 },
      { direction := .CREDIT, amountMinor := 500, currency := .USD, orderId := 1
        paymentAttemptId := 1, bookingId := none, refundId := none, disputeId := some 1
        provider := .STRIPE, providerReference := none, effectiveAt := 0 })] (by decide)).1
  exact absurd hagrees (by decide)

end SeatFlow
