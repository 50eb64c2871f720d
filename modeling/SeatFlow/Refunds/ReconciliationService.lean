import Mathlib.Data.List.Sort
import SeatFlow.Refunds.RefundService

/-!
# Reconciling ambiguous refunds

`reconciliation-service`: find the refunds whose external outcome is unknown, ask
the provider what refunds the payment has, and adopt the identity of one of
them. The reads and the adopting transaction are separate steps with no lock
held between them.
-/

namespace SeatFlow

open Relational Program

/-- A refund at the provider. `idempotencyKey` is the key it was created under;
the provider keeps it, its listings do not show it. -/
structure ExternalRefund where
  providerRefundId : ProviderRef
  idempotencyKey : AttemptId × RequestKey
  providerIntentId : ProviderRef
  amountMinor : Money
  currency : Currency
  deriving DecidableEq

/-- The refunds that `reconcileAmbiguousRefunds` inspects: those in flight
without an external identity, oldest first, up to the batch size. -/
def ambiguousRefunds (provider : PaymentProviderName) (batchSize : Nat) (db : Db) :
    List RefundId :=
  let candidates := db.refunds.select fun _ r =>
    r.provider == provider && (r.status == .SUBMITTING || r.status == .PROCESSING) &&
      r.providerRefundId.isNone
  ((candidates.insertionSort fun a b => a.2.requestedAt ≤ b.2.requestedAt).take batchSize).map
    Prod.fst

/-- `alreadyAdopted`: the external identities attached to any refund. -/
def Db.adoptedRefs (db : Db) : List ProviderRef :=
  db.refunds.rows.filterMap fun e => e.2.providerRefundId

/-- The first listed refund of the right amount that is not adopted yet. -/
def adoptionCandidate (listed : List ExternalRefund) (requestedAmountMinor : Money)
    (alreadyAdopted : List ProviderRef) : Option ExternalRefund :=
  listed.find? fun entry =>
    entry.amountMinor == requestedAmountMinor && decide (entry.providerRefundId ∉ alreadyAdopted)

/-- Adopt the external identity only; settlement still requires a webhook. -/
def adoptExternalRefund (refundId : RefundId) (providerRefundId : ProviderRef) : Sql Unit :=
  runInTransaction do
    let _ ← updateRefund refundId (fun r => r.providerRefundId.isNone) fun r =>
      { r with
        providerRefundId := some providerRefundId
        status := .PROCESSING
        version := r.version + 1 }

end SeatFlow
