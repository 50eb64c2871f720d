import SeatFlow.Refunds.OverRefund

/-!
# Refund transactions under READ COMMITTED

The aggregate trigger's `UPDATE` waits for the payment's row lock and then
continues on the new row version, but its sub-`SELECT`s still read the snapshot
it began with. When another refund of the payment settled in between, it writes
that refund's old contribution over the new one. The totals survive exactly the
interleavings in which this does not happen: `CountsFresh` is the condition on
one move and `aggregates_exact_of_countsFresh` the guarantee it buys.
-/

namespace SeatFlow

open Relational DerivedTotal System

variable {ι : Type} [Fintype ι] [DecidableEq ι]

/-- The condition on a move: when the trigger's `UPDATE` of a payment finishes,
each refund counts towards that payment in the `UPDATE`'s snapshot as it counts
in the rows its transaction can see now. -/
def CountsFresh (sys : System ι Db RowKey Write Failure Unit) : Move ι → Bool
  | .finish i =>
      match (sys.sessions i).program, (sys.sessions i).began with
      | .step stmt _, some snapshot =>
          match stmt (sys.view i snapshot) with
          | .ok eff => eff.writes.all fun w => w.attemptPut.all fun payment =>
              (snapshot.refunds.keys ++ (sys.current i).refunds.keys).all fun refund =>
                paymentAggregate.share payment.1 snapshot refund
                  == paymentAggregate.share payment.1 (sys.current i) refund
          | .error _ => true
      | _, _ => true
  | _ => true

/-- Equal counts add up to equal totals. -/
theorem CountsFresh.freshTotals {sys : System ι Db RowKey Write Failure Unit} {m : Move ι}
    (h : CountsFresh sys m = true) : paymentAggregate.FreshTotals sys m := by
  intro i β stmt next snapshot eff hm hprogram hbegan heff w hw p row hput
  subst hm
  simp only [CountsFresh, hprogram, hbegan, heff, List.all_eq_true] at h
  replace hput : w.attemptPut = some (p, row) := hput
  have hcounts := h w hw
  rw [hput, Option.all_some, List.all_eq_true] at hcounts
  apply total_congr
  intro k
  by_cases hk : k ∈ snapshot.refunds.keys ++ (sys.current i).refunds.keys
  · simpa using hcounts k hk
  · rw [List.mem_append, not_or] at hk
    rw [share_of_absent (AList.lookup_eq_none.mpr hk.1),
      share_of_absent (AList.lookup_eq_none.mpr hk.2)]

/-- **Aggregates under READ COMMITTED.** In every interleaving of refund
transactions whose aggregate updates all count fresh rows, every committed state
has exact totals, in particular the last. -/
theorem aggregates_exact_of_countsFresh {db : Db} (transactions : ι → RefundTransaction)
    (h : AggregatesExact db) {sys : System ι Db RowKey Write Failure Unit}
    (hreach : Reaches System.step (fun sys m => CountsFresh sys m = true)
      (System.start db fun i => (transactions i).program) sys) :
    AggregatesExact sys.committed := by
  rw [aggregatesExact_iff]
  have hsound := paymentAggregate.sound_start (ε := Failure) (α := Unit) (aggregatesExact_iff.mp h)
    fun i => (transactions i).refreshing
  exact reaches_faithful hsound (hreach.mono fun _ _ hok => CountsFresh.freshTotals hok)

/-! ### Two settlements of one payment -/

/-- Both seats of the booking are submitted for refund, and both success events
are stored. -/
def twoSubmitted : Db :=
  (submitSeatRefund 1 200 ++ submitSeatRefund 2 210 ++ (settleSeatRefund 1 220).take 1 ++
    (settleSeatRefund 2 220).take 1).foldl (fun db t => t.program.commit db) capturedPayment

theorem twoSubmitted_exact : AggregatesExact twoSubmitted where
  refunded := Table.forall_lookup (by decide +kernel)
  inFlight := Table.forall_lookup (by decide +kernel)

/-- The two sessions that process the two events. -/
def twoSettlements (i : Fin 2) : RefundTransaction :=
  .processVerifiedRefundRecord (91 + i) 300

/-- `n` statements of session `i`, with nothing in between. -/
def statements (i : Fin 2) (n : Nat) : List (Move (Fin 2)) :=
  (List.replicate n [Move.begin i, Move.finish i]).flatten

/-- Session 1 begins its aggregate update after session 0 has committed. -/
def freshSchedule : List (Move (Fin 2)) :=
  statements firstSession 7 ++ statements secondSession 6 ++ statements firstSession 8 ++
  [.commit firstSession] ++
    statements secondSession 12 ++ [.commit secondSession]

/-- Session 1 begins its aggregate update while session 0 holds the payment row,
and finishes it after session 0 has committed. -/
def staleSchedule : List (Move (Fin 2)) :=
  statements firstSession 7 ++ statements secondSession 6 ++
  [.begin secondSession] ++ statements firstSession 8 ++
    [.commit firstSession, .finish secondSession] ++ statements secondSession 8 ++
    [.commit secondSession]

theorem aggregates_exact_freshSchedule :
    ∃ sys, execute (guarded System.step CountsFresh) freshSchedule
        (System.start twoSubmitted fun i => (twoSettlements i).program) = some sys ∧
      (∀ i, (sys.sessions i).status = .committed) ∧ AggregatesExact sys.committed := by
  have hrun : (execute (guarded System.step CountsFresh) freshSchedule
      (System.start twoSubmitted fun i => (twoSettlements i).program)).any
      (fun sys => decide (∀ i, (sys.sessions i).status = .committed)) = true := by
    decide +kernel
  obtain ⟨sys, hsys, hcommitted⟩ := (Option.any_eq_true _ _).mp hrun
  exact ⟨sys, hsys, of_decide_eq_true hcommitted,
    aggregates_exact_of_countsFresh twoSettlements twoSubmitted_exact (reaches_of_guarded hsys)⟩

/-- **A lost recomputation.** Both settlements commit, and the payment records
400 refunded and 600 in flight where all 1000 has gone back. -/
theorem aggregates_not_exact_staleSchedule :
    AggregatesExact twoSubmitted ∧
    ∃ sys, Reaches System.step (fun _ _ => True)
        (System.start twoSubmitted fun i => (twoSettlements i).program) sys ∧
      (∀ i, (sys.sessions i).status = .committed) ∧
      (∃ a, sys.committed.attempts.lookup 1 = some a ∧
        a.refundedMinor = 400 ∧ sys.committed.refundedSum 1 = 1000 ∧
        a.inFlightRefundMinor = 600 ∧ sys.committed.inFlightSum 1 = 0) := by
  have hrun : (execute System.step staleSchedule
      (System.start twoSubmitted fun i => (twoSettlements i).program)).any
      (fun sys => decide (∀ i, (sys.sessions i).status = .committed) &&
        (sys.committed.attempts.lookup 1).any fun a =>
          decide (a.refundedMinor = 400 ∧ sys.committed.refundedSum 1 = 1000 ∧
            a.inFlightRefundMinor = 600 ∧ sys.committed.inFlightSum 1 = 0)) = true := by
    decide +kernel
  obtain ⟨sys, hsys, hcheck⟩ := (Option.any_eq_true _ _).mp hrun
  rw [Bool.and_eq_true] at hcheck
  obtain ⟨a, ha, hamounts⟩ := (Option.any_eq_true _ _).mp hcheck.2
  exact ⟨twoSubmitted_exact, sys, reaches_of_execute hsys fun _ _ _ => trivial,
    of_decide_eq_true hcheck.1, a, ha, of_decide_eq_true hamounts⟩

end SeatFlow
