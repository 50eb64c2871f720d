import SeatFlow.Database.RefundConstraints

/-!
# Ledger balances

The pure part of `features/ledger`: which entry types record money that moved,
the settled balance of a payment's entries, and its comparison with the stored
aggregate. A ledger row's key carries the entry type and its cause.
-/

namespace SeatFlow

open Relational

/-- `SETTLING_ENTRY_TYPES`: the entries that record money moving. -/
def isSettlingEntryType : LedgerEntryType → Bool
  | .PAYMENT_CAPTURED | .REFUND_SUCCEEDED | .DISPUTE_LOST | .CHARGEBACK_RECORDED => true
  | _ => false

/-- `readLedgerForPayment`, without its order by creation time: the balance is a
sum. -/
def Db.ledgerForPayment (db : Db) (attempt : AttemptId) : List (LedgerKey × FinancialLedgerEntry) :=
  db.ledger.select fun _ entry => entry.paymentAttemptId == attempt

/-- What one entry adds to the balance. -/
def settledMinor (key : LedgerKey) (entry : FinancialLedgerEntry) : Money :=
  if isSettlingEntryType key.entryType then
    match entry.direction with
    | .CREDIT => entry.amountMinor
    | .DEBIT => -entry.amountMinor
  else 0

def calculateSettledBalanceMinor (entries : List (LedgerKey × FinancialLedgerEntry)) : Money :=
  entries.foldl (fun balance entry => balance + settledMinor entry.1 entry.2) 0

structure LedgerDivergence where
  diverged : Bool
  expectedMinor : Money
  actualMinor : Money
  deriving DecidableEq

def detectLedgerDivergence (capturedMinor refundedMinor : Money)
    (entries : List (LedgerKey × FinancialLedgerEntry)) : LedgerDivergence :=
  let expected := capturedMinor - refundedMinor
  let actual := calculateSettledBalanceMinor entries
  { diverged := expected != actual, expectedMinor := expected, actualMinor := actual }

theorem foldl_settledMinor (entries : List (LedgerKey × FinancialLedgerEntry)) :
    ∀ balance : Money,
      entries.foldl (fun balance entry => balance + settledMinor entry.1 entry.2) balance
        = balance + (entries.map fun e => settledMinor e.1 e.2).sum := by
  induction entries with
  | nil => intro balance; simp
  | cons e entries ih =>
      intro balance
      rw [List.foldl_cons, ih, List.map_cons, List.sum_cons, add_assoc]

/-- The balance of selected entries is a sum over the ledger. -/
theorem calculateSettledBalanceMinor_select (p : LedgerKey → FinancialLedgerEntry → Bool)
    (ledger : Table LedgerKey FinancialLedgerEntry) :
    calculateSettledBalanceMinor (ledger.select p)
      = ledger.sum fun key entry => if p key entry = true then settledMinor key entry else 0 := by
  have hfilter : ∀ entries : List (LedgerKey × FinancialLedgerEntry),
      ((entries.filter fun e => p e.1 e.2).map fun e => settledMinor e.1 e.2).sum
        = (entries.map fun e => if p e.1 e.2 = true then settledMinor e.1 e.2 else 0).sum := by
    intro entries
    induction entries with
    | nil => rfl
    | cons e entries ih =>
        by_cases hselected : p e.1 e.2 = true
        · rw [List.filter_cons, if_pos hselected, List.map_cons, List.map_cons, List.sum_cons,
            List.sum_cons, ih, if_pos hselected]
        · rw [List.filter_cons, if_neg hselected, ih, List.map_cons, List.sum_cons,
            if_neg hselected, zero_add]
  rw [calculateSettledBalanceMinor, Table.select, foldl_settledMinor, zero_add, Table.sum]
  exact hfilter _

/-- The balance of a payment is a sum over the ledger. -/
theorem calculateSettledBalanceMinor_ledgerForPayment (db : Db) (attempt : AttemptId) :
    calculateSettledBalanceMinor (db.ledgerForPayment attempt)
      = db.ledger.sum fun key entry =>
          if entry.paymentAttemptId = attempt then settledMinor key entry else 0 := by
  rw [Db.ledgerForPayment, calculateSettledBalanceMinor_select]
  simp only [beq_iff_eq]

end SeatFlow
