import SeatFlow.Refunds.FinishedRefunds

/-!
# Seats and their refunds

A booked seat should be covered by at most one refund that succeeded or is in
flight. The trigger on refund-seat rows checks this when a row is inserted, and a
refund that fails gives its seats up for another. Escalation brings a failed
refund back without any insertion, so it has to find its seats uncovered.
-/

namespace SeatFlow

open Relational Program Entity

/-- The refund-seat rows that name a booked seat and count: their refund succeeded
or is in flight. -/
def Db.liveNamings (db : Db) (seat : BookingSeatId) : List RefundSeat :=
  (db.refunds.rows.filter fun e => e.2.coversSeats).flatMap fun e =>
    e.2.seats.filter fun named => named.bookingSeatId == seat

/-- A refund names a seat once. -/
def SeatsDistinct (refunds : Table RefundId Refund) : Prop :=
  ∀ id r, refunds.lookup id = some r → (r.seats.map (·.bookingSeatId)).Nodup

theorem SeatsDistinct.insert {refunds : Table RefundId Refund} (hs : SeatsDistinct refunds)
    {rid : RefundId} {row : Refund} (hrow : (row.seats.map (·.bookingSeatId)).Nodup) :
    SeatsDistinct (refunds.insert rid row) := by
  intro id r hr
  rcases Table.wrote_insert.cases hr with ⟨rfl, rfl⟩ | ⟨-, hold⟩
  · exact hrow
  · exact hs id r hold

theorem SeatsDistinct.step {U : RefundId → RefundUpdate → Prop} {B : BookingId → Prop}
    {W : WebhookId → Prop} {s s' : Db} (hs : SeatsDistinct s.refunds) (h : RefundStep U B W s s') :
    SeatsDistinct s'.refunds := by
  cases h with
  | plain hrefunds hattempts hbookings hwebhooks => rwa [hrefunds]
  | insert rid row habsent hvalid hfresh => exact hs.insert (by simp [hfresh.seats])
  | seats rid r₀ added hlook hvalid =>
      simp only [RefundSeat.validate, Except.bind_unit_eq_ok, check_eq_ok] at hvalid
      exact hs.insert hvalid.1
  | update rid r₀ u hu hlook hvalid =>
      refine hs.insert ?_
      rw [RefundUpdate.seats_apply]
      exact hs rid r₀ hlook
  | aggregate aid a refunded inFlight hlook hvalid => exact hs
  | refunded bid b now hB hlook => exact hs
  | stored wid w habsent hreceived => exact hs
  | webhook wid w w' hW hlook hvalid => exact hs

/-- Seats that no two refunds share, and that no refund names twice, are named at
most once. -/
theorem liveNamings_le_one {db : Db} (hdisjoint : SeatsDisjoint db.refunds)
    (hdistinct : SeatsDistinct db.refunds) (seat : BookingSeatId) :
    (db.liveNamings seat).length ≤ 1 := by
  refine Table.length_flatMap_le_one (fun e he => ?_) ?_
  · have hlook := Table.mem_rows.mp (List.mem_filter.mp he).1
    have hcount := List.nodup_iff_count_le_one.mp (hdistinct e.1 e.2 hlook) seat
    rw [List.count, List.countP_map] at hcount
    rwa [← List.countP_eq_length_filter]
  · have hkeys : db.refunds.rows.Pairwise fun e e' => e.1 ≠ e'.1 :=
      List.pairwise_map.mp (Table.nodup_rows_fst db.refunds)
    refine (hkeys.filter _).imp_of_mem fun {e e'} he he' hne => ?_
    obtain ⟨hlook, hcovers⟩ := List.mem_filter.mp he
    obtain ⟨hlook', hcovers'⟩ := List.mem_filter.mp he'
    have hnamed : ∀ {r : Refund}, r.seats.filter (·.bookingSeatId == seat) ≠ [] →
        seat ∈ r.seats.map (·.bookingSeatId) := by
      intro r hr
      obtain ⟨named, hmem⟩ := List.exists_mem_of_ne_nil _ hr
      obtain ⟨hseat, hsame⟩ := List.mem_filter.mp hmem
      exact List.mem_map.mpr ⟨named, hseat, by simpa using hsame⟩
    by_contra hboth
    rw [not_or] at hboth
    exact hne (hdisjoint e.1 e.2 e'.1 e'.2 seat (Table.mem_rows.mp hlook) (Table.mem_rows.mp hlook')
      hcovers hcovers' (hnamed hboth.1) (hnamed hboth.2))

/-- Processing the event would bring a released refund back over a seat that another
refund covers by now: the event contradicts the refund's outcome or its amount, and
the escalation is admitted. -/
def Db.CoveredAnew (db : Db) (webhookId : WebhookId) (now : Time) : Prop :=
  ∃ w incoming id r, db.Delivers webhookId w incoming id r ∧ r.coversSeats = false ∧
    (¬w.Matching r ∨
      isStaleProviderEvent (r.succeededAt.or r.failedAt) w.providerOccurredAt = false ∧
        isContradictoryRefundOutcome r.status incoming = true) ∧
    r.requestedAt ≤ now ∧ db.RoomFor r ∧
    ∃ seat ∈ r.seats, db.coveringRefunds id seat.bookingSeatId ≠ []

theorem Db.coveredAnew_iff {db : Db} {webhookId : WebhookId} {now : Time} :
    db.CoveredAnew webhookId now ↔ ∃ w ∈ db.webhooks.lookup webhookId,
      ∃ incoming ∈ w.normalizedRefundStatus, ∃ e ∈ w.providerRefundId.bind db.refundNamed,
        w.processingStatus.isFinal = false ∧ e.2.coversSeats = false ∧
        (¬w.Matching e.2 ∨
          isStaleProviderEvent (e.2.succeededAt.or e.2.failedAt) w.providerOccurredAt = false ∧
            isContradictoryRefundOutcome e.2.status incoming = true) ∧
        e.2.requestedAt ≤ now ∧ db.RoomFor e.2 ∧
        ∃ seat ∈ e.2.seats, db.coveringRefunds e.1 seat.bookingSeatId ≠ [] := by
  constructor
  · rintro ⟨w, incoming, id, r, hdelivers, hrest⟩
    obtain ⟨hw, hopened, hstatus, hnamed⟩ := Db.delivers_iff.mp hdelivers
    exact ⟨w, hw, incoming, hstatus, (id, r), hnamed, hopened, hrest⟩
  · rintro ⟨w, hw, incoming, hstatus, ⟨id, r⟩, hnamed, hopened, hrest⟩
    exact ⟨w, incoming, id, r, Db.delivers_iff.mpr ⟨hw, hopened, hstatus, hnamed⟩, hrest⟩

instance (db : Db) (webhookId : WebhookId) (now : Time) :
    Decidable (db.CoveredAnew webhookId now) :=
  decidable_of_iff _ Db.coveredAnew_iff.symm

/-- A refund that is escalated though it was released contradicts its event. -/
theorem released_of_review {w : PaymentWebhookEvent} {incoming : RefundStatus} {r : Refund}
    {code : Code} (h : w.outcomeFor incoming r = .REVIEW code) (hreleased : r.coversSeats = false) :
    ¬w.Matching r ∨
      isStaleProviderEvent (r.succeededAt.or r.failedAt) w.providerOccurredAt = false ∧
        isContradictoryRefundOutcome r.status incoming = true := by
  by_cases hmatching : w.Matching r
  · right
    by_cases hstale : isStaleProviderEvent (r.succeededAt.or r.failedAt) w.providerOccurredAt = true
    · simp [PaymentWebhookEvent.outcomeFor, hmatching, hstale] at h
    · have hcurrent : isStaleProviderEvent (r.succeededAt.or r.failedAt) w.providerOccurredAt
          = false := by simpa using hstale
      rw [outcomeFor_current hmatching hcurrent] at h
      refine ⟨hcurrent, ?_⟩
      unfold Refund.coversSeats at hreleased
      revert h hreleased
      cases r.status <;> cases incoming <;>
        simp [decideRefundTransition, RefundTransitionDecision.outcome, isInFlightRefundStatus,
          isContradictoryRefundOutcome, isTerminalRefundStatus]
  · exact .inl hmatching

namespace RefundSystem

variable {sys₀ sys sys' : RefundSystem}

/-- The condition on a step: normalised events, and no processing that covers a seat
anew. -/
def SeatsKept (sys : RefundSystem) : RefundAction → Prop
  | .processWebhook webhookId now => ¬sys.db.CoveredAnew webhookId now
  | a => sys.NormalizedEvents a

instance (sys : RefundSystem) : (a : RefundAction) → Decidable (sys.SeatsKept a)
  | .processWebhook webhookId now => inferInstanceAs (Decidable ¬sys.db.CoveredAnew webhookId now)
  | .storeWebhook _ event _ _ => inferInstanceAs (Decidable (IsNormalized event.status))
  | .requestRefund .. | .claim .. | .createRefund .. | .completeAttempt .. | .finish ..
  | .selectAmbiguous .. | .inspect .. | .adopt .. => instDecidableTrue

/-- The updates of submissions and reconciliation neither settle nor escalate. -/
theorem allowed_unsettling {a : RefundAction} (hprocess : ∀ wid now, a ≠ .processWebhook wid now)
    {id : RefundId} {u : RefundUpdate} (hu : sys.Allowed a id u) :
    u.status ≠ .SUCCEEDED ∧ u.status ≠ .REQUIRES_REVIEW := by
  cases a with
  | claim sid provider refundId now =>
      obtain ⟨-, t, rfl⟩ := hu
      simp [RefundUpdate.status]
  | finish sid =>
      obtain ⟨claimed, provider, now, answer, -, -, rfl⟩ := hu
      cases answer with
      | returned ref => simp [answerUpdate, RefundUpdate.status]
      | threw message =>
          simp only [answerUpdate]
          split <;> simp [RefundUpdate.status]
  | adopt refundId ref =>
      obtain ⟨-, rfl⟩ := hu
      simp [RefundUpdate.status]
  | processWebhook wid now => exact absurd rfl (hprocess wid now)
  | _ => exact hu.elim

/-- A processed event covers no seat that another refund covers. -/
theorem disjoint_processed (hs : sys.Reachable) (hdisjoint : SeatsDisjoint sys.db.refunds)
    {wid : WebhookId} {now : Time} (hkept : ¬sys.db.CoveredAnew wid now)
    (h : sys.step (.processWebhook wid now) = some sys') : SeatsDisjoint sys'.db.refunds := by
  rcases hs.processed_cases h with ⟨hsame, -⟩ |
    ⟨w, incoming, id, r, outcome, hdelivers, hrun, rfl, hrefunds, -⟩
  · rwa [hsame]
  · have hr := hdelivers.refund.1
    -- a refund that counted before keeps its seats
    have hcounted : ∀ {u : RefundUpdate}, r.coversSeats = true →
        SeatsDisjoint (sys.db.refunds.insert id (u.apply r)) := by
      intro u hcovers
      refine hdisjoint.insert fun _ id' r' seat hr' hne hcovers' hseat hmem => ?_
      rw [RefundUpdate.seats_apply] at hmem
      exact hne (hdisjoint id' r' id r seat hr' hr hcovers' hcovers hseat hmem)
    rw [hrefunds]
    cases houtcome : w.outcomeFor incoming r with
    | IGNORED reason => exact hdisjoint
    | UNKNOWN_REFUND => exact hdisjoint
    | APPLIED status =>
        obtain ⟨-, hunfinished, hreview, -⟩ := applied_of_outcomeFor houtcome
        have hprocessing := hs.processing hdelivers hunfinished hreview
        have hcovers : r.coversSeats = true := by
          simp [Refund.coversSeats, hprocessing, isInFlightRefundStatus]
        cases status <;> exact hcounted hcovers
    | REVIEW code =>
        by_cases hcovers : r.coversSeats = true
        · exact hcounted hcovers
        · -- the escalation was admitted, so its seats are uncovered
          have hreleased : r.coversSeats = false := by simpa using hcovers
          have hadmitted : r.requestedAt ≤ now ∧ (r.coversSeats = true ∨ sys.db.RoomFor r) :=
            (commits_escalation_iff (Q := fun _ _ => True) hs hdelivers houtcome
              fun _ _ => trivial).mp ⟨_, _, hrun, trivial⟩
          have huncovered :
              ∀ seat ∈ r.seats, sys.db.coveringRefunds id seat.bookingSeatId = [] := by
            intro seat hseat
            by_contra hcovered
            exact hkept
              ⟨w, incoming, id, r, hdelivers, hreleased, released_of_review houtcome hreleased,
              hadmitted.1, hadmitted.2.resolve_left hcovers, seat, hseat, hcovered⟩
          refine hdisjoint.insert fun _ id' r' seat hr' hne hcovers' hseat hmem => ?_
          rw [RefundUpdate.seats_apply] at hmem
          obtain ⟨named, hnamed, rfl⟩ := List.mem_map.mp hmem
          obtain ⟨covered, hcovered, hsame⟩ := List.mem_map.mp hseat
          have hfound : (id', r') ∈ sys.db.coveringRefunds id named.bookingSeatId := by
            refine Table.mem_select.mpr ⟨hr', ?_⟩
            simp only [Bool.and_eq_true, bne_iff_ne, ne_eq, List.any_eq_true, beq_iff_eq]
            exact ⟨⟨hne, hcovers'⟩, covered, hcovered, hsame⟩
          rw [huncovered named hnamed] at hfound
          cases hfound

theorem disjoint_step {a : RefundAction} (hs : sys.Reachable)
    (hdisjoint : SeatsDisjoint sys.db.refunds) (hkept : sys.SeatsKept a)
    (h : sys.step a = some sys') : SeatsDisjoint sys'.db.refunds := by
  by_cases hprocess : ∃ wid now, a = .processWebhook wid now
  · obtain ⟨wid, now, rfl⟩ := hprocess
    exact disjoint_processed hs hdisjoint hkept h
  · have hother : ∀ wid now, a ≠ .processWebhook wid now :=
      fun wid now heq => hprocess ⟨wid, now, heq⟩
    have hsteps := db_steps h
    generalize sys'.db = db at hsteps
    induction hsteps with
    | refl => exact hdisjoint
    | tail _ hstep ih => exact ih.step hstep fun id u hu => allowed_unsettling hother hu

theorem distinct_step {a : RefundAction} (hdistinct : SeatsDistinct sys.db.refunds)
    (h : sys.step a = some sys') : SeatsDistinct sys'.db.refunds := by
  have hsteps := db_steps h
  generalize sys'.db = db at hsteps
  induction hsteps with
  | refl => exact hdistinct
  | tail _ hstep ih => exact ih.step hstep

/-- **No seat is refunded twice.** In every run in which no processed event brings a
released refund back over a seat that has been covered again, every booked seat is
named by at most one refund-seat row whose refund succeeded or is in flight. -/
theorem seat_named_once_of_seatsKept (hfresh : sys₀.Fresh)
    (hreach : Reaches RefundSystem.step SeatsKept sys₀ sys) (seat : BookingSeatId) :
    (sys.db.liveNamings seat).length ≤ 1 := by
  have hinv : sys.Reachable ∧ SeatsDisjoint sys.db.refunds ∧ SeatsDistinct sys.db.refunds := by
    have htriple := hreach.invariant (I := fun s => s.Reachable ∧ SeatsDisjoint s.db.refunds ∧
        SeatsDistinct s.db.refunds)
      ⟨hfresh.reachable, fun id r _ _ _ hr => by simp [hfresh.start.refunds id] at hr,
        fun id r hr => by simp [hfresh.start.refunds id] at hr⟩
    refine htriple fun s a t hok hstep hs =>
      ⟨hs.1.step ?_ hstep, disjoint_step hs.1 hs.2.1 hok hstep,
      distinct_step hs.2.2 hstep⟩
    cases a with
    | processWebhook wid now => trivial
    | _ => exact hok
  exact liveNamings_le_one hinv.2.1 hinv.2.2 seat

/-- A failed refund of the second seat, the seat requested anew, and the provider's
later report that the first refund succeeded. -/
def seatRequestedAnew : List RefundAction :=
  requestAndSubmit { userId := 2, role := .PLATFORM_ADMIN } 2 1 1 (.accepts 71 none) ++
    [.storeWebhook .STRIPE { firstSeatSucceeded with status := .FAILED, amountMinor := 400 } 91 220,
      .processWebhook 91 230] ++
    requestAndSubmit { userId := 2, role := .PLATFORM_ADMIN } 2 2 2 (.accepts 72 none) ++
    [.storeWebhook .STRIPE
      { firstSeatSucceeded with
        providerEventId := 82
        amountMinor := 400
        occurredAt := some 235 } 92 240]

theorem seat_named_once_requestedAnew :
    ∃ sys, execute (guarded RefundSystem.step fun s a => decide (s.SeatsKept a)) seatRequestedAnew
        capturedStart = some sys ∧
      sys.db.liveNamings 2 ≠ [] ∧ (sys.db.liveNamings 2).length ≤ 1 := by
  have hrun : (execute (guarded RefundSystem.step fun s a => decide (s.SeatsKept a))
      seatRequestedAnew capturedStart).any (fun sys => !(sys.db.liveNamings 2).isEmpty) = true := by
    decide +kernel
  obtain ⟨sys, hsys, hnamed⟩ := (Option.any_eq_true _ _).mp hrun
  have hreach := (reaches_of_guarded hsys).mono fun _ _ => of_decide_eq_true
  refine ⟨sys, hsys, ?_, seat_named_once_of_seatsKept capturedStart_fresh hreach 2⟩
  rintro hnone
  simp [hnone] at hnamed

/-- The late report is processed: both refunds of the seat count. -/
theorem seat_named_twice :
    ∃ sys, Reaches RefundSystem.step NormalizedEvents capturedStart sys ∧
      (sys.db.liveNamings 2).length = 2 := by
  have hrun : (execute (guarded RefundSystem.step fun s a => decide (s.NormalizedEvents a))
      (seatRequestedAnew ++ [.processWebhook 92 245]) capturedStart).any
      (fun sys => (sys.db.liveNamings 2).length == 2) = true := by
    decide +kernel
  obtain ⟨sys, hsys, hnamed⟩ := (Option.any_eq_true _ _).mp hrun
  exact ⟨sys, reaches_of_normalized hsys, by simpa using hnamed⟩

end RefundSystem

end SeatFlow
