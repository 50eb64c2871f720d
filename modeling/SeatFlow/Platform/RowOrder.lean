import SeatFlow.Platform.Reachability

/-!
# Rows in any order

Payments are looked up by their intent, and refunds by their external identity, in
queries without an order, and neither identity is unique across providers: of several
rows that match, the database may return any. The rows of a table lie in some order in
the model and a lookup finds the first that matches, so what the database may do is to
let them lie in any order before each transaction.
-/

namespace SeatFlow

open Relational

variable {s s' : Db}

/-- Databases that differ in the order of their payments and refunds. -/
inductive Db.Reordered (s : Db) : Db → Prop
  | rows {attempts : Table AttemptId PaymentAttempt} {refunds : Table RefundId Refund}
      (hattempts : ∀ p, attempts.lookup p = s.attempts.lookup p)
      (hrefunds : ∀ id, refunds.lookup id = s.refunds.lookup id) :
      Db.Reordered s { s with attempts := attempts, refunds := refunds }

/-! ## §1 What a lookup may find -/

/-- **Every payment with an intent** can be the one that the intent finds. -/
theorem Db.exists_paymentNamed {p : AttemptId} {a : PaymentAttempt} {intent : ProviderRef}
    (ha : s.attempts.lookup p = some a) (hintent : a.providerIntentId = some intent) :
    ∃ s', s.Reordered s' ∧ s'.paymentNamed intent = some (p, a) := by
  refine ⟨_, .rows (Table.lookup_insert_self ha) fun _ => rfl, ?_⟩
  exact Table.head?_select_insert (by simp [hintent])

/-- **Every refund with an external identity** can be the one that the identity finds. -/
theorem Db.exists_refundNamed {id : RefundId} {r : Refund} {ref : ProviderRef}
    (hr : s.refunds.lookup id = some r) (href : r.providerRefundId = some ref) :
    ∃ s', s.Reordered s' ∧ s'.refundNamed ref = some (id, r) := by
  refine ⟨_, .rows (fun _ => rfl) (Table.lookup_insert_self hr), ?_⟩
  exact Table.head?_select_insert (by simp [href])

/-! ## §2 What the order does not matter for -/

theorem Db.Sound.reordered (hs : s.Sound) (h : s.Reordered s') : s'.Sound := by
  cases h with
  | rows hattempts hrefunds =>
      exact
        { inventory := hs.inventory
          holds := hs.holds
          orders := hs.orders
          attempts := Table.coherent_of_lookup hs.attempts hattempts
          webhooks := hs.webhooks
          bookings := hs.bookings
          refunds := Table.coherent_of_lookup hs.refunds hrefunds
          tickets := hs.tickets
          credentials := hs.credentials
          disputes := hs.disputes
          orderAncestry := hs.orderAncestry
          attemptOrder := fun id a ha => hs.attemptOrder id a (hattempts id ▸ ha)
          bookingOrder := hs.bookingOrder
          refundAncestry := by
            intro id r hr
            have hadmitted := hs.refundAncestry id r (hrefunds id ▸ hr)
            simpa only [Refund.enforceAncestry, hattempts] using hadmitted
          disputeAncestry := by
            intro id d hd
            have hadmitted := hs.disputeAncestry id d hd
            simpa only [PaymentDispute.enforceAncestry, hattempts] using hadmitted }

theorem Db.Consistent.reordered (hs : s.Consistent) (h : s.Reordered s') : s'.Consistent := by
  have hsound := hs.sound.reordered h
  cases h with
  | rows hattempts hrefunds =>
      exact
        { sound := hsound
          idle := hs.idle
          seatTotals := fun id =>
            (verifySeatTotal_congr (congrArg _ (hrefunds id))).trans (hs.seatTotals id)
          orderTotals := hs.orderTotals }

namespace Platform

variable {sys sys' start : FinancialSystem}

/-- **Reachable in any order.** -/
theorem Reachable.reordered (hs : Reachable sys) {db : Db} (h : sys.db.Reordered db) :
    Reachable (sys.withDb db) := by
  have hconsistent := hs.consistent.reordered h
  cases h with
  | rows hattempts hrefunds =>
      refine ⟨hs.refunds.kept_rows hconsistent hrefunds (fun p => ?_) (.of_open fun _ _ hw _ => hw),
        hs.unlinked, fun id w p hw hp => ?_⟩
      · exact congrArg (fun found : Option PaymentAttempt =>
          found.elim (0, 0) PaymentAttempt.totals) (hattempts p)
      · obtain ⟨a, ha, hprovider⟩ := hs.addressed id w p hw hp
        exact ⟨a, (hattempts p).trans ha, hprovider⟩

/-! ## §3 Runs -/

/-- The states that runs reach from `start` when the rows may come to lie in another order
between any two actions. -/
inductive Runs (start : FinancialSystem) : FinancialSystem → Prop
  | start : Runs start start
  | act {sys sys' : FinancialSystem} {a : PlatformAction} (hrun : Runs start sys)
      (hok : NormalizedEvents sys a) (h : Platform.step sys a = some sys') : Runs start sys'
  | reorder {sys : FinancialSystem} {db : Db} (hrun : Runs start sys) (h : sys.db.Reordered db) :
      Runs start (sys.withDb db)

theorem Runs.of_reaches (h : Reaches Platform.step NormalizedEvents start sys) : Runs start sys :=
  h.invariant .start fun _ _ _ hok hstep hrun => hrun.act hok hstep

theorem Runs.reachable (h : Runs start sys) (hs : Reachable start) : Reachable sys := by
  induction h with
  | start => exact hs
  | act _ hok hstep ih => exact ih.step hok hstep
  | reorder _ hreordered ih => exact ih.reordered hreordered

end Platform

end SeatFlow
