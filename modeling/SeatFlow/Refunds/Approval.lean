import SeatFlow.Refunds.EventFrames

/-!
# Approval of submitted refunds

A customer's request is stored without an approver and nothing stores one later:
no selector, claim or submission looks at `approvedByUserId`. What the provider is
asked to refund is approved as long as no customer requests anything.
-/

namespace SeatFlow

open Relational Program Entity

/-! ## §1 Who requested -/

/-- The initiator of each refund. -/
def Db.initiators (db : Db) (id : RefundId) : Option RefundInitiator :=
  (db.refunds.lookup id).map (·.initiator)

/-- No customer requested any of the refunds. -/
def Db.Staffed (db : Db) : Prop :=
  ∀ id, db.initiators id ≠ some .CUSTOMER

theorem initiators_insert {db : Db} {id : RefundId} {r row : Refund}
    (hlook : db.refunds.lookup id = some r) (hsame : row.initiator = r.initiator) :
    Db.initiators { db with refunds := db.refunds.insert id row } = db.initiators := by
  funext id'
  show ((db.refunds.insert id row).lookup id').map (·.initiator)
    = (db.refunds.lookup id').map (·.initiator)
  rw [Table.lookup_insert_ite]
  split
  · rename_i hid
    rw [hid, hlook, Option.map_some, Option.map_some, hsame]
  · rfl

theorem RefundUpdate.initiator_apply (u : RefundUpdate) (r : Refund) :
    (u.apply r).initiator = r.initiator := by
  cases u <;> rfl

theorem initiators_frame : BookkeepingFrame Db.initiators :=
  ⟨fun _ _ => rfl, fun _ _ => rfl, fun _ _ => rfl, fun _ _ => rfl, fun _ _ _ _ => rfl⟩

/-- No write of the bookkeeping and no update of a refund changes an initiator. -/
theorem initiators_writes : RefundWrites (fun _ _ => True) (Framing Db.initiators) where
  updated := by
    intro id p u _
    refine (steps_updateWhen fun s r hlook _ _ =>
      initiators_insert hlook (u.initiator_apply r)).bind fun updated => ?_
    split
    · exact steps_pure
    · exact (framed_maintainPaymentAggregate initiators_frame _).bind fun _ =>
        (framed_defer initiators_frame.queue _).bind fun _ => steps_pure
  seats := by
    intro id seats
    refine (steps_update fun s r hlook _ => ?_).bind fun _ => framed_defer initiators_frame.queue _
    have hsame : ({ r with seats := r.seats ++ seats } : Refund).initiator = r.initiator := rfl
    exact initiators_insert hlook hsame
  submission := fun _ _ => steps_insert fun s _ _ => initiators_frame.submissions s _
  completion := fun _ _ _ => steps_updateWhen fun s _ _ _ _ => initiators_frame.submissions s _
  ledger := fun _ hentry => framed_appendLedgerEntry initiators_frame hentry
  outbox := framed_enqueueFinancialEvent initiators_frame
  queue := framed_defer initiators_frame.queue

theorem Db.Staffed.of_framing {s s' : Db} (h : Framing Db.initiators s s') :
    Keeping Db.Staffed s s' := by
  intro hs id
  rw [show s'.initiators = s.initiators from h]
  exact hs id

/-- A new refund of somebody else. -/
theorem keeping_insertRefund {id : RefundId} {row : Refund} (hrow : row.initiator ≠ .CUSTOMER) :
    (insertRefund id row).Steps (Keeping Db.Staffed) := by
  have hframed : ∀ {α : Type} {p : Sql α}, p.Steps (Framing Db.initiators) →
      p.Steps (Keeping Db.Staffed) :=
    fun hp => hp.mono fun _ _ h => .of_framing h
  refine Steps.bind (steps_insert fun s habsent _ hs id' => ?_) fun _ =>
    (hframed (framed_maintainPaymentAggregate initiators_frame _)).bind fun _ =>
      hframed (framed_defer initiators_frame.queue _)
  show ((s.refunds.insert id row).lookup id').map (·.initiator) ≠ some .CUSTOMER
  rw [Table.lookup_insert_ite]
  split
  · simpa using hrow
  · exact hs id'

/-- A request that no customer makes. -/
theorem keeping_requestRefund {actor : RefundActor} (hactor : actor.role ≠ .CUSTOMER)
    (input : RefundRequestInput) (fresh : FreshRefund) (now : Time) :
    (requestRefund actor input fresh now).Steps (Keeping Db.Staffed) := by
  have hwrites := initiators_writes.mono fun _ _ h => Db.Staffed.of_framing h
  refine (hwrites.requested actor input fresh now fun id row _ hinitiator => ?_).steps
    (committing_of_queue fun _ hs => hs)
  exact keeping_insertRefund fun hcustomer => hactor (hinitiator.mp hcustomer)

/-! ## §2 Runs -/

/-- A customer's request. -/
def RefundAction.byCustomer : RefundAction → Bool
  | .requestRefund actor _ _ _ => actor.role == .CUSTOMER
  | _ => false

namespace RefundSystem

variable {sys sys' : RefundSystem}

theorem staffed_step {a : RefundAction} (hs : sys.db.Staffed) (ha : a.byCustomer = false)
    (h : sys.step a = some sys') : sys'.db.Staffed := by
  by_cases hrequest : ∃ actor input fresh now, a = .requestRefund actor input fresh now
  · obtain ⟨actor, input, fresh, now, rfl⟩ := hrequest
    cases h
    have hactor : actor.role ≠ .CUSTOMER := by simpa [RefundAction.byCustomer] using ha
    exact Keeping.steps ((keeping_requestRefund hactor input fresh now).commit sys.db) hs
  · intro id hcustomer
    obtain ⟨r', hr', hinitiator⟩ := Option.map_eq_some_iff.mp hcustomer
    obtain ⟨r, hr⟩ := refund_existed (fun actor input fresh now heq =>
      hrequest ⟨actor, input, fresh, now, heq⟩) h hr'
    obtain ⟨r₁, hr₁, hevolves⟩ := refund_evolves (db_steps h) hr
    cases Option.some.inj (hr'.symm.trans hr₁)
    obtain ⟨-, -, -, -, -, hsame, -⟩ := hevolves.identity
    refine hs id ?_
    rw [Db.initiators, hr, Option.map_some, ← hsame, hinitiator]

/-- Where no customer requested, every stored refund is approved. -/
theorem approved_of_staffed (hgrounded : sys.Grounded) (hs : sys.db.Staffed) {id : RefundId}
    {r : Refund} (hr : sys.db.refunds.lookup id = some r) : r.approvedByUserId.isSome := by
  have hnobody : r.approvedByUserId ≠ none := by
    intro hnone
    refine hs id ?_
    rw [Db.initiators, hr, Option.map_some, (hgrounded.rows.approval id r hr).mp hnone]
  exact Option.ne_none_iff_isSome.mp hnobody

/-- Every call was for an approved refund. -/
def CallsApproved (sys : RefundSystem) : Prop :=
  ∀ call ∈ sys.calls, ∃ r, call.row = some r ∧ r.approvedByUserId.isSome

theorem CallsApproved.step {a : RefundAction} (hs : sys.CallsApproved) (hgrounded : sys.Grounded)
    (hstaffed : sys.db.Staffed) (h : sys.step a = some sys') : sys'.CallsApproved := by
  rcases calls_cases h with heq | ⟨sid, submission, hlook, heq⟩
  · rw [CallsApproved, heq]
    exact hs
  · intro call hcall
    rw [heq, List.mem_append, List.mem_singleton] at hcall
    rcases hcall with hcall | rfl
    · exact hs call hcall
    · obtain ⟨r, hr, -⟩ := hgrounded.linked sid submission hlook
      exact ⟨r, hr, approved_of_staffed hgrounded hstaffed hr⟩

/-- **Approval of provider calls.** In every run in which no customer requests a
refund, all `createRefund` calls were for approved refunds, and so are all the
submissions in progress. -/
theorem calls_approved (hstart : sys.Start)
    (hreach : Reaches RefundSystem.step (fun _ a => a.byCustomer = false) sys sys') :
    (∀ call ∈ sys'.calls, ∃ r, call.row = some r ∧ r.approvedByUserId.isSome) ∧
      ∀ sid submission, sys'.submissions.lookup sid = some submission →
        ∃ r, sys'.db.refunds.lookup submission.claimed.id = some r ∧
          r.approvedByUserId.isSome := by
  have hinv := hreach.invariant
    (I := fun s => s.Grounded ∧ s.db.Staffed ∧ s.CallsApproved)
    ⟨hstart.grounded, fun id => by simp [Db.initiators, hstart.refunds id],
      by simp [CallsApproved, hstart.calls]⟩
    fun s a t hok hstep hs =>
      ⟨hs.1.step hstep, staffed_step hs.2.1 hok hstep, hs.2.2.step hs.1 hs.2.1 hstep⟩
  obtain ⟨hgrounded, hstaffed, hcalls⟩ := hinv
  refine ⟨hcalls, fun sid submission hlook => ?_⟩
  obtain ⟨r, hr, -⟩ := hgrounded.linked sid submission hlook
  exact ⟨r, hr, approved_of_staffed hgrounded hstaffed hr⟩

theorem calls_approved_administrator :
    ∃ sys, execute (guarded RefundSystem.step fun _ a => !a.byCustomer)
        (requestAndSubmit { userId := 2, role := .PLATFORM_ADMIN } 1 1 1 (.accepts 71 none))
        capturedStart = some sys ∧
      sys.calls.length = 1 ∧
      ∀ call ∈ sys.calls, ∃ r, call.row = some r ∧ r.approvedByUserId.isSome := by
  have hrun : (execute (guarded RefundSystem.step fun _ a => !a.byCustomer)
      (requestAndSubmit { userId := 2, role := .PLATFORM_ADMIN } 1 1 1 (.accepts 71 none))
      capturedStart).any (fun sys => sys.calls.length == 1) = true := by
    decide +kernel
  obtain ⟨sys, hsys, hone⟩ := (Option.any_eq_true _ _).mp hrun
  have hreach := (reaches_of_guarded hsys).mono fun _ a hok => by simpa using hok
  exact ⟨sys, hsys, by simpa using hone, (calls_approved capturedStart_start hreach).1⟩

/-- A customer's own request is selected, claimed and sent to the provider with
nobody having approved it. -/
theorem calls_not_approved_customer :
    ∃ sys, Reaches RefundSystem.step (fun _ _ => True) capturedStart sys ∧
      ∃ call ∈ sys.calls, ∃ r, call.row = some r ∧ r.initiator = .CUSTOMER ∧
        r.approvedByUserId = none := by
  have hrun : (execute RefundSystem.step
      (requestAndSubmit { userId := 1, role := .CUSTOMER } 1 1 1 (.accepts 71 none))
      capturedStart).any (fun sys => sys.calls.any fun call => call.row.any fun r =>
        r.initiator == .CUSTOMER && r.approvedByUserId == none) = true := by
    decide +kernel
  obtain ⟨sys, hsys, hcheck⟩ := (Option.any_eq_true _ _).mp hrun
  obtain ⟨call, hcall, hrow⟩ := List.any_eq_true.mp hcheck
  obtain ⟨r, hr, hboth⟩ := (Option.any_eq_true _ _).mp hrow
  rw [Bool.and_eq_true] at hboth
  exact ⟨sys, reaches_of_execute hsys fun _ _ _ => trivial, call, hcall, r, hr,
    by simpa using hboth.1, by simpa using hboth.2⟩

end RefundSystem

end SeatFlow
